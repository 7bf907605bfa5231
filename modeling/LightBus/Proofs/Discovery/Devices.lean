import LightBus.Proofs.Addressing
import LightBus.Proofs.Discovery.Stack
import Mathlib.Data.Finset.Card

/-!
# What a search learns from the devices

The devices `P` of a bus are known to a search by their answers.  A relation `R source s M` says that `M` is the set
of muted devices when the link is in the state `s`, and that the devices answer to `source`.

* A `LossyBus` answers mute requests as it should; its answers to branch probes may be wrong, except that silence
  means that no device of the branch is awake.
* An `IdealBus` tells exactly how many devices of a branch are awake, and which one if there is one.

The lemmas after the definitions say what comes of the requests of a controller: `Controller.mute_of_acknowledged`,
`Controller.mute_of_not_acknowledged`, `Controller.unMute_run` and `Controller.probe_run`.
-/

namespace LightBus

/-! ### Requests and answers -/

namespace Request

/-- The request of the discovery class goes to the root devices. -/
structure Discovers (r : Request) (destination : Address) (pid : ParameterId) : Prop where
  commandClass : r.commandClass = .discovery
  parameterId : r.parameterId = pid
  destination : r.destination = destination
  subDevice : r.subDevice = 0

/-- Every device has to take part in discoveries again. -/
def IsUnMute (r : Request) : Prop := r.Discovers .broadcast .discUnMute ∧ r.data = .empty

/-- The device has to keep silent in discoveries. -/
def IsMute (r : Request) (uid : Uid) : Prop := r.Discovers (.device uid) .discMute ∧ r.data = .empty

/-- The request asks for the devices of the branch. -/
def IsProbe (r : Request) (b : Branch) : Prop :=
  r.Discovers .broadcast .discUniqueBranch ∧ Branch.ofBytes? r.data.bytes = some b

theorem IsProbe.isBranchProbe {r : Request} {b : Branch} (h : r.IsProbe b) : r.isBranchProbe = true := by
  simp [Request.isBranchProbe, h.1.commandClass, h.1.parameterId]

end Request

/-- The response acknowledges the mute request with the given parameter data. -/
def Response.Acknowledges (p : Response) (r : Request) (reply : MuteReply) : Prop :=
  p.destination = .device r.source ∧ p.commandClass = r.commandClass ∧ p.responseType = .ack ∧
    MuteReply.ofBytes? p.data.bytes = .ok reply

/-- The devices of a branch that are not muted. -/
def awake (P M : Finset Uid) (b : Branch) : Finset Uid := P.filter fun uid => uid ∉ M ∧ b.contains uid = true

theorem mem_awake {P M : Finset Uid} {b : Branch} {uid : Uid} :
    uid ∈ awake P M b ↔ uid ∈ P ∧ uid ∉ M ∧ b.contains uid = true := by
  rw [awake, Finset.mem_filter]

/-- The answer tells how many devices there are, and which one if there is one. -/
def ProbeResult.Describes (devices : Finset Uid) : ProbeResult → Prop
  | .nobody => devices = ∅
  | .found uid => devices = {uid}
  | .collision => 1 < devices.card

/-- Only silence describes a branch without devices. -/
theorem ProbeResult.describes_empty {answer : ProbeResult} (h : answer.Describes ∅) : answer = .nobody := by
  cases answer with
  | nobody => rfl
  | found uid => exact absurd h.symm (Finset.singleton_ne_empty uid)
  | collision => exact absurd h (by rw [Describes, Finset.card_empty]; omega)

variable {σ ε : Type}

/-- The devices `P` can be muted, and all are awake after an un-mute request. -/
structure MutingBus (link : ControllerLink σ ε) (P : Finset Uid) (R : Uid → σ → Finset Uid → Prop) : Prop where
  unMute : ∀ {r s M}, r.IsUnMute → R r.source s M → ∃ s',
    (link.request r).runFrom s = (.ok none, s') ∧ R r.source s' ∅
  mute_mem : ∀ {r s M uid}, r.IsMute uid → uid ∈ P → R r.source s M → ∃ p reply s',
    (link.request r).runFrom s = (.ok (some p), s') ∧ p.Acknowledges r reply ∧ reply.binding = none ∧
      R r.source s' (insert uid M)

/-- Requests to mute the device are in vain, and change nothing. -/
def Unanswered (link : ControllerLink σ ε) (R : Uid → σ → Finset Uid → Prop) (uid : Uid) : Prop :=
  ∀ {r s M}, r.IsMute uid → R r.source s M → ∃ outcome s',
    (link.request r).runFrom s = (outcome, s') ∧ (∀ e, outcome ≠ .error (.driver e)) ∧
      (∀ p reply, outcome = .ok (some p) → ¬p.Acknowledges r reply) ∧ R r.source s' M

/-- Nobody but the devices `P` acknowledges a mute request.  Answers to probes may be garbled, but a branch with a
device that is awake is not silent. -/
structure LossyBus (link : ControllerLink σ ε) (P : Finset Uid) (R : Uid → σ → Finset Uid → Prop) : Prop extends
    MutingBus link P R where
  mute_not_mem : ∀ uid ∉ P, Unanswered link R uid
  probe : ∀ {r s M b}, r.IsProbe b → R r.source s M → ∃ answer s',
    (link.probe r).runFrom s = (.ok answer, s') ∧ (answer = .nobody → awake P M b = ∅) ∧ R r.source s' M

/-- A mute request to nobody times out.  A probe tells how many devices of the branch are awake. -/
structure IdealBus (link : ControllerLink σ ε) (P : Finset Uid) (R : Uid → σ → Finset Uid → Prop) : Prop extends
    MutingBus link P R where
  mute_not_mem : ∀ {r s M uid}, r.IsMute uid → uid ∉ P → uid.Valid → R r.source s M → ∃ s',
    (link.request r).runFrom s = (.error .timeout, s') ∧ R r.source s' M
  probe : ∀ {r s M b}, r.IsProbe b → R r.source s M → ∃ answer s', (link.probe r).runFrom s = (.ok answer, s') ∧
    answer.Describes (awake P M b) ∧ R r.source s' M

variable {link : ControllerLink σ ε} {P M : Finset Uid} {R : Uid → σ → Finset Uid → Prop}

/-- A timeout is no answer. -/
theorem IdealBus.unanswered (h : IdealBus link P R) {uid : Uid} (hu : uid ∉ P) (hvalid : uid.Valid) :
    Unanswered link R uid := by
  intro r s M hr hR
  obtain ⟨s', hs', hR'⟩ := h.mute_not_mem hr hu hvalid hR
  exact ⟨_, s', hs', (fun e he => by cases he), (fun p reply he => by cases he), hR'⟩

/-! ### Requests of a controller -/

/-- The branch that was put into a probe is read from it. -/
private theorem Branch.ofBytes?_payload {b : Branch} (hle : b.lower ≤ b.upper) (hb : b.upper ≤ maxUidValue) :
    ofBytes? b.payload.bytes = some b := by
  obtain ⟨l0, l1, l2, l3, l4, l5, hl, hl'⟩ := bytes_sixBytes (Nat.le_trans hle hb)
  obtain ⟨u0, u1, u2, u3, u4, u5, hu, hu'⟩ := bytes_sixBytes hb
  have hp : b.payload.bytes = [l0, l1, l2, l3, l4, l5, u0, u1, u2, u3, u4, u5] := by
    simp only [payload, Payload.ofList, hl, hu, maxPayloadSize]
    rfl
  rw [hp, ofBytes?, hl', hu']

namespace Response

variable {ε : Type} {response : Response}

/-- What a controller keeps of the response. -/
def info (response : Response) : ReplyInfo := ⟨response.parameterId, response.messageCount, response.data⟩

/-- The other side asks for time, it refuses, or nobody knows what it means. -/
private theorem error_of_reply {error : ControllerError ε} (h : response.reply = .error error) :
    (∃ delay, error = .notReady delay) ∨ (∃ reason, error = .refused reason) ∨ error = .unreadableError := by
  unfold Response.reply at h
  split at h
  · cases h
  · cases h
  · exact .inl ⟨_, (Except.error.inj h).symm⟩
  · split at h
    · exact .inr (.inl ⟨_, (Except.error.inj h).symm⟩)
    · exact .inr (.inr (Except.error.inj h).symm)
  · exact .inr (.inr (Except.error.inj h).symm)

theorem reply_ne_link (error : LinkError ε) : response.reply ≠ .error (.link error) := by
  intro h
  rcases error_of_reply h with ⟨_, h⟩ | ⟨_, h⟩ | h <;> cases h

theorem reply_ne_notMatching : (response.reply : Except (ControllerError ε) Reply) ≠ .error .notMatching := by
  intro h
  rcases error_of_reply h with ⟨_, h⟩ | ⟨_, h⟩ | h <;> cases h

/-- Acknowledgements are the only responses with a reply. -/
theorem reply_eq_ok_iff {reply : Reply} : (response.reply : Except (ControllerError ε) Reply) = .ok reply ↔
    (response.responseType = .ack ∧ reply = .complete response.info) ∨
      (response.responseType = .ackOverflow ∧ reply = .incomplete response.info) := by
  constructor
  · intro h
    unfold Response.reply at h
    split at h
    · rename_i htype
      exact .inl ⟨htype, (Except.ok.inj h).symm⟩
    · rename_i htype
      exact .inr ⟨htype, (Except.ok.inj h).symm⟩
    · cases h
    · split at h <;> cases h
    · cases h
  · rintro (⟨htype, rfl⟩ | ⟨htype, rfl⟩)
    · simp only [Response.reply, htype, info]
    · simp only [Response.reply, htype, info]

end Response

namespace Controller

variable (c : Controller σ)

theorem isUnMute_requestOf : (c.requestOf .discovery .broadcast .discUnMute 0 .empty).IsUnMute :=
  ⟨⟨rfl, rfl, rfl, rfl⟩, rfl⟩

theorem isMute_requestOf (uid : Uid) : (c.requestOf .discovery (.device uid) .discMute 0 .empty).IsMute uid :=
  ⟨⟨rfl, rfl, rfl, rfl⟩, rfl⟩

theorem isProbe_requestOf {b : Branch} (hle : b.lower ≤ b.upper) (hb : b.upper ≤ maxUidValue) :
    (c.requestOf .discovery .broadcast .discUniqueBranch 0 b.payload).IsProbe b :=
  ⟨⟨rfl, rfl, rfl, rfl⟩, Branch.ofBytes?_payload hle hb⟩

theorem runFrom_onLink {α : Type} (a : Run σ (LinkError ε) α) :
    (onLink a).runFrom c = ((a.runFrom c.link).1.mapError .link, { c with link := (a.runFrom c.link).2 }) := by
  rw [onLink, Run.runFrom_within, Run.runFrom_mapError]

/-- A response that acknowledges the request is the result, and tells how many messages wait. -/
theorem mute_of_acknowledged {uid : Uid} {p : Response} {reply : MuteReply} {s : σ}
    (hs : (link.request (c.requestOf .discovery (.device uid) .discMute 0 .empty)).runFrom c.link =
      (.ok (some p), s))
    (hp : p.Acknowledges (c.requestOf .discovery (.device uid) .discMute 0 .empty) reply) :
    (mute link (.device uid)).runFrom c =
      (.ok (some reply), { c with link := s, messageCount := p.messageCount }) := by
  obtain ⟨hdest, hclass, htype, hdata⟩ := hp
  have hdest : p.destination = .device c.uid := hdest
  have hclass : p.commandClass = .discovery := hclass
  simp [mute, ask, runFrom_onLink, hs, Except.mapError, hdest, hclass, Response.reply, htype, muteReply, hdata]

theorem muteReply_ne_link (reply : Reply) (c : Controller σ) (e : LinkError ε) :
    ((muteReply reply).runFrom c).1 ≠ .error (.link e) := by
  cases reply with
  | broadcast => exact fun h => by cases h
  | incomplete info => exact fun h => by cases h
  | complete info =>
    cases hbytes : MuteReply.ofBytes? info.data.bytes <;> simp [muteReply, hbytes]

/-- Without an acknowledgement there is no mute reply, and no error of the link's own. -/
theorem mute_of_not_acknowledged {uid : Uid} {outcome : Except (LinkError ε) (Option Response)} {s : σ}
    (hs : (link.request (c.requestOf .discovery (.device uid) .discMute 0 .empty)).runFrom c.link = (outcome, s))
    (hdriver : ∀ e, outcome ≠ .error (.driver e))
    (hack : ∀ p reply, outcome = .ok (some p) →
      ¬p.Acknowledges (c.requestOf .discovery (.device uid) .discMute 0 .empty) reply) :
    ∃ r c', (mute link (.device uid)).runFrom c = (r, c') ∧ c'.uid = c.uid ∧ c'.link = s ∧
      (∀ reply, r ≠ .ok (some reply)) ∧ ∀ e, r ≠ .error (.link (.driver e)) := by
  cases outcome with
  | error e =>
    refine ⟨.error (.link e), { c with link := s }, ?_, rfl, rfl, (fun _ h => by cases h), fun d h => ?_⟩
    · simp [mute, ask, runFrom_onLink, hs, Except.mapError]
    · cases h; exact hdriver d rfl
  | ok response =>
    cases response with
    | none =>
      refine ⟨.ok none, { c with link := s }, ?_, rfl, rfl, (fun _ h => by cases h), fun _ h => by cases h⟩
      simp [mute, ask, runFrom_onLink, hs, Except.mapError, muteReply]
    | some p =>
      by_cases hmatch : p.destination ≠ .device c.uid ∨ p.commandClass ≠ .discovery
      · refine ⟨.error .notMatching, { c with link := s }, ?_, rfl, rfl, (fun _ h => by cases h),
          fun _ h => by cases h⟩
        simp [mute, ask, runFrom_onLink, hs, Except.mapError, hmatch]
      · rw [not_or, Decidable.not_not, Decidable.not_not] at hmatch
        obtain ⟨hdest, hclass⟩ := hmatch
        have hrun : (mute link (.device uid)).runFrom c =
            (Run.ofExcept p.reply >>= muteReply).runFrom { c with link := s, messageCount := p.messageCount } := by
          simp [mute, ask, runFrom_onLink, hs, Except.mapError, hdest, hclass]
        rw [hrun, Run.runFrom_bind, Run.runFrom_ofExcept]
        cases hreply : (p.reply : Except (ControllerError ε) Reply) with
        | error e =>
          refine ⟨_, _, rfl, rfl, rfl, (fun _ h => by cases h), fun d h => ?_⟩
          obtain rfl := Except.error.inj h
          exact Response.reply_ne_link _ hreply
        | ok answer =>
          cases answer with
          | broadcast => exact ⟨_, _, rfl, rfl, rfl, (fun _ h => by cases h), fun _ h => by cases h⟩
          | incomplete info => exact ⟨_, _, rfl, rfl, rfl, (fun _ h => by cases h), fun _ h => by cases h⟩
          | complete info =>
            obtain ⟨htype, rfl⟩ : p.responseType = .ack ∧ info = p.info := by
              simpa using Response.reply_eq_ok_iff.1 hreply
            cases hbytes : MuteReply.ofBytes? p.info.data.bytes with
            | ok reply => exact absurd ⟨hdest, hclass, htype, hbytes⟩ (hack p reply rfl)
            | error e =>
              refine ⟨.error .unreadableData, { c with link := s, messageCount := p.messageCount }, ?_, rfl, rfl,
                (fun _ h => by cases h), fun _ h => by cases h⟩
              simp [muteReply, hbytes]

/-- Nobody answers an un-mute request to all. -/
theorem unMute_run {s : σ}
    (hs : (link.request (c.requestOf .discovery .broadcast .discUnMute 0 .empty)).runFrom c.link = (.ok none, s)) :
    (unMute link .broadcast).runFrom c = (.ok none, { c with link := s }) := by
  simp [unMute, ask, runFrom_onLink, hs, Except.mapError, muteReply]

theorem probe_run {b : Branch} {answer : ProbeResult} {s : σ}
    (hs : (link.probe (c.requestOf .discovery .broadcast .discUniqueBranch 0 b.payload)).runFrom c.link =
      (.ok answer, s)) :
    (probe link b).runFrom c = (.ok answer, { c with link := s }) := by
  simp [probe, runFrom_onLink, hs, Except.mapError]

end Controller

end LightBus
