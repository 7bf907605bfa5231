import LightBus.Proofs.Port.Clock
import LightBus.Proofs.Session.Watching

/-!
# The spacing of packets

A controller keeps the bus idle for a while after each packet.  How long this takes depends on what was sent last and
on whether it was answered, which the task writes down when it receives something (`Session.answered`), and it is
counted from the last frame that went over the bus, in either direction.

From the notes about a run (`Departures`) it is told when each transmission has begun and ended.  Each of them keeps
its distance to all that were sent before it (`Departure.Spaced`), and to the frames that were received
(`Departure.AfterAnswer`), however calls and interrupts follow each other (`Port.packet_spacing`).
-/

namespace LightBus

variable {η ε : Type} {hw : Hardware η ε}

/-! ### Transmissions -/

/-- What a frame counts as does not depend on its number. -/
private theorem Frame.SameKind.transferOf {frame other : List UInt8} (h : SameKind frame other) (withBreak : Bool) :
    Session.transferOf other withBreak = Session.transferOf frame withBreak := by
  unfold Session.transferOf Session.isReply
  rw [h.isResponse, h.isRequest, h.expectsResponse, h.isBranchProbe]

/-- A transmission of a run. -/
structure Departure where
  begun : Nat
  kind : FrameKind
  frame : List UInt8
  /-- When its last slot had left. -/
  ended : Option Nat
  /-- A task has received something that is not empty, before anything else was sent. -/
  answered : Bool
  /-- When the last frame before it was received. -/
  heard : Option Nat
  /-- No frame was received since the task has begun the call that sends this one. -/
  calm : Bool
deriving DecidableEq

namespace Departure

/-- The frame that was sent before is over, and its spacing was kept. -/
def Spaced (later earlier : Departure) : Prop :=
  ∃ last, earlier.ended = some last ∧ last ≤ later.begun ∧
    (earlier.kind = .package → Frame.isRequest earlier.frame = true →
      (Frame.expectsResponse earlier.frame = false → last + 176 ≤ later.begun) ∧
      (Frame.isBranchProbe earlier.frame = true → earlier.answered = false → last + 5800 ≤ later.begun) ∧
      (Frame.expectsResponse earlier.frame = true → Frame.isBranchProbe earlier.frame = false →
        earlier.answered = false →
        last + 3000 ≤ later.begun))

/-- After an answer, the spacing is kept to the last frame that was received, if none comes in while the task
waits. -/
def AfterAnswer (later earlier : Departure) : Prop :=
  earlier.kind = .package → Frame.expectsResponse earlier.frame = true → earlier.answered = true → later.calm = true →
    ∀ heard, later.heard = some heard → heard + 176 ≤ later.begun

/-- What the transmission counts as for the spacing after it. -/
def transfer (d : Departure) : LastTransfer := Session.transferOf d.frame (d.kind != .discoveryReply)

/-- The transmission when the port is looked at again. -/
def goOn (clock : Nat) (sending taken : Bool) (d : Departure) : Departure :=
  { d with
    ended := if sending then d.ended else some (d.ended.getD clock)
    answered := d.answered || taken }

private theorem goOn_over {d : Departure} {last : Nat} (h : d.ended = some last) (clock : Nat) :
    d.goOn clock false false = d := by
  obtain ⟨begun, kind, frame, ended, answered, heard, calm⟩ := d
  obtain rfl : ended = some last := h
  simp [goOn]

private theorem Spaced.of_le {earlier later d : Departure} (h : Spaced later earlier) (hle : later.begun ≤ d.begun) :
    Spaced d earlier := by
  obtain ⟨last, hended, hlast, hspaced⟩ := h
  refine ⟨last, hended, Nat.le_trans hlast hle, fun hkind hrequest => ?_⟩
  obtain ⟨hbroadcast, hprobe, hother⟩ := hspaced hkind hrequest
  exact ⟨fun h => Nat.le_trans (hbroadcast h) hle, fun h h' => Nat.le_trans (hprobe h h') hle,
    fun h h' h'' => Nat.le_trans (hother h h' h'') hle⟩

private theorem transfer_of_request {d : Departure} (hkind : d.kind = .package)
    (hrequest : Frame.isRequest d.frame = true) :
    d.transfer = if Frame.expectsResponse d.frame = false then .broadcast
      else if Frame.isBranchProbe d.frame = true then .probe false else .request false := by
  unfold transfer Session.transferOf Session.isReply
  rw [hkind, hrequest, Frame.isResponse_of_isRequest hrequest]
  cases Frame.expectsResponse d.frame <;> rfl

/-- The port knows what it has sent, and whether it was answered. -/
def Known (d : Departure) (lastTransfer : LastTransfer) : Prop :=
  lastTransfer = d.transfer ∨ d.answered = true ∧ lastTransfer = Session.answered d.transfer

private theorem Known.spaced {earlier later : Departure} {lastTransfer : LastTransfer}
    (h : earlier.Known lastTransfer) {last : Nat} (hended : earlier.ended = some last)
    (hwaited : last + lastTransfer.spacing ≤ later.begun) : Spaced later earlier := by
  refine ⟨last, hended, by omega, fun hkind hrequest => ?_⟩
  have htransfer := transfer_of_request hkind hrequest
  refine ⟨fun hexpects => ?_, fun hprobe hunanswered => ?_, fun hexpects hprobe hunanswered => ?_⟩
  · rw [if_pos hexpects] at htransfer
    have hlast : lastTransfer = .broadcast := by
      rcases h with h | ⟨-, h⟩
      · rw [h, htransfer]
      · rw [h, htransfer]
        rfl
    rw [hlast] at hwaited
    exact hwaited
  · have hexpects : Frame.expectsResponse earlier.frame = true := by
      rw [Frame.expectsResponse, hrequest, hprobe, Bool.or_true]
      rfl
    rw [hexpects, if_neg (by decide), if_pos hprobe] at htransfer
    have hlast : lastTransfer = .probe false := by
      rcases h with h | ⟨hanswered, -⟩
      · rw [h, htransfer]
      · rw [hunanswered] at hanswered
        cases hanswered
    rw [hlast] at hwaited
    exact hwaited
  · rw [hexpects, hprobe, if_neg (by decide), if_neg (by decide)] at htransfer
    have hlast : lastTransfer = .request false := by
      rcases h with h | ⟨hanswered, -⟩
      · rw [h, htransfer]
      · rw [hunanswered] at hanswered
        cases hanswered
    rw [hlast] at hwaited
    exact hwaited

private theorem Known.afterAnswer {earlier later : Departure} {lastTransfer : LastTransfer}
    (h : earlier.Known lastTransfer) (hwaited : later.calm = true → ∀ heard, later.heard = some heard →
      heard + lastTransfer.spacing ≤ later.begun) :
    AfterAnswer later earlier := by
  intro hkind hexpects _ hcalm heard hheard
  have hrequest : Frame.isRequest earlier.frame = true := by
    unfold Frame.expectsResponse at hexpects
    exact (Bool.and_eq_true_iff.1 hexpects).1
  have htransfer := transfer_of_request hkind hrequest
  rw [hexpects, if_neg (by decide)] at htransfer
  -- Answered or not, the spacing after a request is at least that after a response.
  have hspacing : 176 ≤ lastTransfer.spacing := by
    rcases h with h | ⟨-, h⟩ <;> rw [h, htransfer] <;> split <;> decide
  exact Nat.le_trans (Nat.add_le_add_left hspacing heard) (hwaited hcalm heard hheard)

/-- The transmissions of a run up to the time `now` have kept the spacing.  The latest one comes first. -/
inductive Ordered (now : Nat) : List Departure → Prop
  | nil : Ordered now []
  | cons {d : Departure} {rest : List Departure} (begun : d.begun ≤ now)
      (ended : ∀ last, d.ended = some last → d.begun ≤ last ∧ last ≤ now)
      (spaced : ∀ earlier ∈ rest, d.Spaced earlier)
      (answered : ∀ earlier, rest.head? = some earlier → d.AfterAnswer earlier) (before : Ordered now rest) :
      Ordered now (d :: rest)

namespace Ordered

variable {now now' : Nat} {all : List Departure}

theorem mono (h : Ordered now all) (hle : now ≤ now') : Ordered now' all := by
  induction h with
  | nil => exact .nil
  | cons hbegun hended hspaced hanswered _ ih =>
    exact .cons (Nat.le_trans hbegun hle)
      (fun last hlast => ⟨(hended last hlast).1, Nat.le_trans (hended last hlast).2 hle⟩)
      hspaced hanswered ih

/-- The latest transmission goes on, or it ends. -/
private theorem goOn (h : Ordered now all) (sending taken : Bool) :
    Ordered now (all.modifyHead (Departure.goOn now sending taken)) := by
  cases h with
  | nil => exact .nil
  | @cons d rest hbegun hended hspaced hanswered hrest =>
    refine .cons hbegun (fun last hlast => ?_) hspaced hanswered hrest
    unfold Departure.goOn at hlast
    dsimp only at hlast
    split at hlast
    · exact hended last hlast
    · cases hbefore : d.ended with
      | none =>
        rw [hbefore] at hlast
        obtain rfl := Option.some.inj hlast
        exact ⟨hbegun, Nat.le_refl _⟩
      | some last' =>
        rw [hbefore] at hlast
        obtain rfl := Option.some.inj hlast
        exact hended _ hbefore

/-- Another transmission begins when the spacing after the latest one is over. -/
private theorem begin {d : Departure} {lastTransfer : LastTransfer} (h : Ordered now all) (hbegun : d.begun = now)
    (hended : d.ended = none) (hknown : ∀ latest, all.head? = some latest → latest.Known lastTransfer ∧
      ∃ last, latest.ended = some last ∧ last + lastTransfer.spacing ≤ now)
    (hwaited : d.calm = true → ∀ heard, d.heard = some heard → heard + lastTransfer.spacing ≤ now) :
    Ordered now (d :: all) := by
  refine .cons (Nat.le_of_eq hbegun) (fun last hlast => ?_) (fun earlier hearlier => ?_) (fun earlier hhead => ?_) h
  · rw [hended] at hlast
    cases hlast
  · cases h with
    | nil => cases hearlier
    | @cons latest rest hbefore hover hspaced _ _ =>
      obtain ⟨hlatest, last, hlast, htime⟩ := hknown latest rfl
      rcases List.mem_cons.1 hearlier with rfl | hearlier
      · exact hlatest.spaced hlast (by omega)
      · exact (hspaced earlier hearlier).of_le (by omega)
  · refine (hknown earlier hhead).1.afterAnswer fun hcalm heard hheard => ?_
    rw [hbegun]
    exact hwaited hcalm heard hheard

private theorem ended_le (h : Ordered now all) {d : Departure} (hd : all.head? = some d) {last : Nat}
    (hlast : d.ended = some last) :
    last ≤ now := by
  cases h with
  | nil => cases hd
  | cons _ hended _ _ _ =>
    obtain rfl := Option.some.inj hd
    exact (hended last hlast).2

private theorem pairwise (h : Ordered now all) : all.Pairwise Spaced := by
  induction h with
  | nil => exact .nil
  | cons _ _ hspaced _ _ ih => exact .cons hspaced ih

private theorem afterAnswer (h : Ordered now all) (i : Nat) {later earlier : Departure}
    (hlater : all[i]? = some later) (hearlier : all[i + 1]? = some earlier) : later.AfterAnswer earlier := by
  induction h generalizing i with
  | nil => cases hlater
  | @cons d rest _ _ _ hanswered _ ih =>
    cases i with
    | zero =>
      obtain rfl := Option.some.inj hlater
      exact hanswered earlier (List.head?_eq_getElem?.trans hearlier)
    | succ i => exact ih i hlater hearlier

end Ordered

end Departure

/-! ### Notes -/

/-- The notice tells of slots that were received. -/
def Notice.isAnswer (n : Notice) : Bool := n.origin == .receive && decide (0 < n.size)

/-- The transmissions of a port, and what it was like when it was looked at last. -/
structure Departures where
  /-- The time of the last look. -/
  clock : Nat
  sending : Bool
  rx : RxState
  notice : Option Notice
  /-- When the last frame was received. -/
  heard : Option Nat
  /-- None was received since a task has begun its call. -/
  calm : Bool
  /-- The latest one comes first. -/
  all : List Departure

namespace Departures

/-- The notes about a port that has sent nothing so far. -/
def first (hw : Hardware η ε) (p : Port η) : Departures where
  clock := p.now hw
  sending := p.bus.isSending
  rx := p.bus.rx
  notice := p.notice
  heard := none
  calm := true
  all := []

/-- The notes after a look at the port. -/
def next (now : Nat) (p : Port η) (notes : Departures) : Departures :=
  let received := p.bus.frameFinished && p.bus.rx != notes.rx
  let taken := p.notice.isNone && notes.notice.any Notice.isAnswer
  { clock := now
    sending := p.bus.isSending
    rx := p.bus.rx
    notice := p.notice
    heard := if received then some notes.clock else notes.heard
    calm := notes.calm && !received
    all :=
      if !notes.sending && p.bus.isSending then
        ⟨notes.clock, p.bus.txKind, p.bus.frame.take p.bus.txSize, none, false, notes.heard, notes.calm⟩ :: notes.all
      else notes.all.modifyHead (Departure.goOn notes.clock p.bus.isSending taken) }

/-- The latest transmission was answered. -/
def Answered (notes : Departures) : Prop := ∀ d, notes.all.head? = some d → d.answered = true

end Departures

/-- Writes down when a port sends. -/
def departing : Watcher η Departures where
  writes _ notes := notes
  stirs notes := notes
  begins notes := { notes with calm := true }
  looks := Departures.next

private theorem Departures.hears_eq (frame : List UInt8) (effects : List Effect) (notes : Departures) :
    effects.foldl (fun notes effect => (departing : Watcher η Departures).hears frame effect notes) notes = notes :=
  Watcher.hears_of_silent (fun _ _ => rfl) (fun _ => rfl) frame effects notes

/-! ### Ports -/

/-- A port in the mode of a controller that has kept the spacing up to the time `now`, at which it was looked at. -/
structure Timely (now : Nat) (p : Port (η × Departures)) : Prop where
  reachable : p.bus.Reachable
  controller : p.bus.mode = .controller
  clock : p.hardware.2.clock = now
  sending : p.hardware.2.sending = p.bus.isSending
  rx : p.hardware.2.rx = p.bus.rx
  notice : p.hardware.2.notice = p.notice
  heard : ∀ time, p.hardware.2.heard = some time → time ≤ p.bus.lastFrameAt ∧ time ≤ now
  ordered : Departure.Ordered now p.hardware.2.all
  known : ∀ d, p.hardware.2.all.head? = some d → d.Known p.lastTransfer
  running : p.bus.isSending = true → ∀ d, p.hardware.2.all.head? = some d → d.ended = none
  completed : p.bus.isSending = false → ∀ d, p.hardware.2.all.head? = some d →
    ∃ last, d.ended = some last ∧ last ≤ p.bus.lastFrameAt

/-- What others can have done to a port from `p` to `q`. -/
structure Since (p q : Port (η × Departures)) : Prop where
  lastTransfer : q.lastTransfer = p.lastTransfer
  answered : p.hardware.2.Answered → q.hardware.2.Answered
  idle : p.bus.isSending = false → q.bus.isSending = false ∧ q.hardware.2.all = p.hardware.2.all
  calm : q.hardware.2.calm = true → p.hardware.2.calm = true ∧ q.hardware.2.heard = p.hardware.2.heard

variable {p p' q r : Port (η × Departures)} {now now' : Nat}

theorem Since.refl (p : Port (η × Departures)) : Since p p := ⟨rfl, id, fun h => ⟨h, rfl⟩, fun h => ⟨h, rfl⟩⟩

theorem Since.trans (hpq : Since p q) (hqr : Since q r) : Since p r where
  lastTransfer := hqr.lastTransfer.trans hpq.lastTransfer
  answered h := hqr.answered (hpq.answered h)
  idle h := ⟨(hqr.idle (hpq.idle h).1).1, (hqr.idle (hpq.idle h).1).2.trans (hpq.idle h).2⟩
  calm h := ⟨(hpq.calm (hqr.calm h).1).1, (hqr.calm h).2.trans (hpq.calm (hqr.calm h).1).2⟩

namespace Timely

/-- The notice was taken that had waited when the port was looked at. -/
def Taken (p p' : Port (η × Departures)) : Bool := p'.notice.isNone && p.notice.any Notice.isAnswer

/-- No transmission has begun, and the latest one goes on. -/
private theorem all_seen (h : Timely now p) (now' : Nat) (hbus : Bus.Timed p.bus now p'.bus)
    (hnotes : p'.hardware.2 = p.hardware.2) :
    (p'.seen departing now').hardware.2.all =
      p.hardware.2.all.modifyHead (Departure.goOn now p'.bus.isSending (Taken p p')) := by
  have hnone : (!p.bus.isSending && p'.bus.isSending) = false := by
    cases hsends : p.bus.isSending with
    | true => rfl
    | false => rw [hbus.idle h.reachable.inStep hsends]; rfl
  show (if !p'.hardware.2.sending && p'.bus.isSending then _ else p'.hardware.2.all.modifyHead
    (Departure.goOn p'.hardware.2.clock p'.bus.isSending
      (p'.notice.isNone && p'.hardware.2.notice.any Notice.isAnswer))) = _
  rw [hnotes, h.sending, h.clock, h.notice, hnone, if_neg Bool.false_ne_true]
  rfl

private theorem seen_of (h : Timely now p) (hbus : Bus.Timed p.bus now p'.bus) (hreachable : p'.bus.Reachable)
    (hnotes : p'.hardware.2 = p.hardware.2) (hlast : p'.lastTransfer = p.lastTransfer ∨
      p.hardware.2.Answered ∧ p'.lastTransfer = Session.answered p.lastTransfer) (hnow : now ≤ now') :
    Timely now' (p'.seen departing now') := by
  have hall := h.all_seen now' hbus hnotes
  -- What has become of the latest transmission.
  have hhead {d : Departure} (hd : (p'.seen departing now').hardware.2.all.head? = some d) :
      ∃ latest, p.hardware.2.all.head? = some latest ∧ d = latest.goOn now p'.bus.isSending (Taken p p') := by
    rw [hall, List.head?_modifyHead] at hd
    obtain ⟨latest, hlatest, rfl⟩ := Option.map_eq_some_iff.1 hd
    exact ⟨latest, hlatest, rfl⟩
  refine ⟨hreachable, hbus.controller h.controller, rfl, rfl, rfl, rfl, fun time htime => ?_, ?_, fun d hd => ?_,
    fun hsends d hd => ?_, fun hidle d hd => ?_⟩
  · have hheard : (if (p'.bus.frameFinished && p'.bus.rx != p'.hardware.2.rx) = true then some p'.hardware.2.clock
        else p'.hardware.2.heard) = some time := htime
    rw [hnotes, h.rx, h.clock] at hheard
    show time ≤ p'.bus.lastFrameAt ∧ time ≤ now'
    split at hheard
    · rename_i hreceived
      obtain ⟨hfinished, hrx⟩ := Bool.and_eq_true_iff.1 hreceived
      obtain rfl := Option.some.inj hheard
      rcases hbus.heard hfinished with hsame | hlast
      · exact absurd hsame (bne_iff_ne.1 hrx)
      · exact ⟨Nat.le_of_eq hlast.symm, hnow⟩
    · have hbefore := h.heard time hheard
      rcases hbus.lastFrameAt with hlast | hlast <;> rw [hlast] <;> omega
  · rw [hall]
    exact (h.ordered.goOn _ _).mono hnow
  · obtain ⟨latest, hlatest, rfl⟩ := hhead hd
    have hanswered (hbefore : latest.answered = true) :
        (latest.goOn now p'.bus.isSending (Taken p p')).answered = true := by
      show (latest.answered || _) = true
      rw [hbefore, Bool.true_or]
    show p'.lastTransfer = latest.transfer ∨ _ ∧ p'.lastTransfer = Session.answered latest.transfer
    rcases hlast with hlast | ⟨hknown, hlast⟩ <;> rw [hlast]
    · rcases h.known latest hlatest with hsame | ⟨hbefore, hsame⟩
      · exact .inl hsame
      · exact .inr ⟨hanswered hbefore, hsame⟩
    · refine .inr ⟨hanswered (hknown latest hlatest), ?_⟩
      rcases h.known latest hlatest with hsame | ⟨-, hsame⟩ <;> rw [hsame]
      cases latest.transfer <;> rfl
  · obtain ⟨latest, hlatest, rfl⟩ := hhead hd
    have hsends : p'.bus.isSending = true := hsends
    have hbefore : p.bus.isSending = true := by
      refine eq_true_of_ne_false fun hidle => ?_
      rw [hbus.idle h.reachable.inStep hidle] at hsends
      cases hsends
    show (if p'.bus.isSending = true then latest.ended else _) = none
    rw [if_pos hsends]
    exact h.running hbefore latest hlatest
  · obtain ⟨latest, hlatest, rfl⟩ := hhead hd
    have hidle : p'.bus.isSending = false := hidle
    refine ⟨latest.ended.getD now, if_neg (ne_true_of_eq_false hidle), ?_⟩
    show latest.ended.getD now ≤ p'.bus.lastFrameAt
    cases hbefore : p.bus.isSending with
    | true =>
      rw [h.running hbefore latest hlatest, hbus.sent hbefore hidle]
      exact Nat.le_refl _
    | false =>
      obtain ⟨last, hended, hle⟩ := h.completed hbefore latest hlatest
      have hpast := h.ordered.ended_le hlatest hended
      rw [hended]
      show last ≤ p'.bus.lastFrameAt
      rcases hbus.lastFrameAt with hlast | hlast <;> rw [hlast]
      · exact hle
      · exact hpast

/-- Whatever others do, they do not take the notice. -/
private theorem since_seen (h : Timely now p) (hbus : Bus.Timed p.bus now p'.bus)
    (hnotes : p'.hardware.2 = p.hardware.2) (hlast : p'.lastTransfer = p.lastTransfer)
    (hnotice : p'.notice = none → p.notice = none) :
    Since p (p'.seen departing now') := by
  have hall := h.all_seen now' hbus hnotes
  have htaken : Taken p p' = false := by
    unfold Taken
    cases hp' : p'.notice with
    | none => rw [hnotice hp']; rfl
    | some n => rfl
  refine ⟨hlast, fun hanswered d hd => ?_, fun hidle => ⟨hbus.idle h.reachable.inStep hidle, ?_⟩, fun hcalm => ?_⟩
  · rw [hall, List.head?_modifyHead] at hd
    obtain ⟨latest, hlatest, rfl⟩ := Option.map_eq_some_iff.1 hd
    show (latest.answered || _) = true
    rw [hanswered latest hlatest, Bool.true_or]
  · rw [hall, hbus.idle h.reachable.inStep hidle, htaken]
    cases hbefore : p.hardware.2.all with
    | nil => rfl
    | cons d rest =>
      -- The latest transmission is over.
      obtain ⟨last, hended, -⟩ := h.completed hidle d (by rw [hbefore]; rfl)
      show d.goOn now false false :: rest = d :: rest
      rw [Departure.goOn_over hended]
  · have hcalm : (p'.hardware.2.calm && !(p'.bus.frameFinished && p'.bus.rx != p'.hardware.2.rx)) = true := hcalm
    obtain ⟨hbefore, hnone⟩ := Bool.and_eq_true_iff.1 hcalm
    refine ⟨hnotes ▸ hbefore, ?_⟩
    show (if (p'.bus.frameFinished && p'.bus.rx != p'.hardware.2.rx) = true then _ else p'.hardware.2.heard) = _
    rw [Bool.not_eq_true'] at hnone
    rw [if_neg (ne_true_of_eq_false hnone), hnotes]

/-- The books may be changed, but not what was noted about the port. -/
private theorem keep (h : Timely now p) (hbus : p'.bus = p.bus) (hnotes : p'.hardware.2 = p.hardware.2)
    (hnotice : p'.notice = p.notice) (hlast : p'.lastTransfer = p.lastTransfer) : Timely now p' where
  reachable := hbus ▸ h.reachable
  controller := hbus ▸ h.controller
  clock := by rw [hnotes, h.clock]
  sending := by rw [hnotes, hbus, h.sending]
  rx := by rw [hnotes, hbus, h.rx]
  notice := by rw [hnotes, hnotice, h.notice]
  heard := by
    rw [hnotes, hbus]
    exact h.heard
  ordered := hnotes ▸ h.ordered
  known := by
    rw [hnotes, hlast]
    exact h.known
  running := by
    rw [hnotes, hbus]
    exact h.running
  completed := by
    rw [hnotes, hbus]
    exact h.completed

/-- What others have done at the time `now`, and the look after it. -/
private theorem seen_since (h : Timely now p) (hbus : Bus.Timed p.bus now p'.bus) (hreachable : p'.bus.Reachable)
    (hnotes : p'.hardware.2 = p.hardware.2) (hlast : p'.lastTransfer = p.lastTransfer)
    (hnotice : p'.notice = none → p.notice = none) (hnow : now ≤ now') :
    Timely now' (p'.seen departing now') ∧ Since p (p'.seen departing now') :=
  ⟨h.seen_of hbus hreachable hnotes (.inl hlast) hnow, h.since_seen hbus hnotes hlast hnotice⟩

private theorem seen (h : Timely now p) (hnow : now ≤ now') :
    Timely now' (p.seen departing now') ∧ Since p (p.seen departing now') :=
  h.seen_since (.of_eq rfl id rfl fun _ => rfl) h.reachable rfl rfl id hnow

/-! ### What happens -/

/-- What an event does.  Slots may have been read before it. -/
private theorem raised (h : Timely now p) {event : BusEvent} (hevent : event.isStart = false) {frame : List UInt8}
    (hbus : q.bus = { p.bus with frame }) (hreachable : q.bus.Reachable) (hnotes : q.hardware.2 = p.hardware.2)
    (hlast : q.lastTransfer = p.lastTransfer) (hnotice : q.notice = p.notice) (hnow : now ≤ now') :
    Timely now' ((q.raise (hw.watched departing) event now).seen departing now') ∧
      Since p ((q.raise (hw.watched departing) event now).seen departing now') := by
  have hafter : (q.raise (hw.watched departing) event now).bus = (q.bus.handle event now).2 := Port.bus_raise _ _
  refine h.seen_since ?_ (hafter ▸ hreachable.handle event now) ?_ ?_ (fun hnone => ?_) hnow
  · have htimed := Bus.timed_handle q.bus hevent now
    rw [hbus] at htimed
    rw [hafter, hbus]
    exact ⟨htimed.controller, htimed.idle, htimed.lastFrameAt, htimed.sent, htimed.heard⟩
  · rw [Port.notes_raise, Departures.hears_eq, hnotes]
  · rw [Port.raise_eq_signal, Port.signal_frame, Port.dispatchAt_frame]
    exact hlast
  · rcases Port.notice_raise (hw.watched departing) q event now with hsame | ⟨m, timing, -, hsome⟩
    · rw [← hnotice, ← hsame, hnone]
    · rw [hsome] at hnone
      cases hnone

private theorem receiveSlots (h : Timely now p) (pending : Interrupts) :
    Timely now ((p.receiveSlots (hw.watched departing) pending now).seen departing now) ∧
      Since p ((p.receiveSlots (hw.watched departing) pending now).seen departing now) := by
  rcases Port.receiveSlots_cases (hw.watched departing) p pending now with hsame
    | ⟨-, hread | ⟨event, estimator, hevent, hread⟩⟩
  · rw [hsame]
    exact h.seen (Nat.le_refl _)
  · rw [hread]
    exact h.seen_since (.of_eq rfl id rfl fun _ => rfl) (h.reachable.fill _) rfl rfl id (Nat.le_refl _)
  · rw [hread]
    exact h.raised (BusEvent.not_alarm_of_isInterrupt hevent).2 rfl (h.reachable.fill _) rfl rfl rfl (Nat.le_refl _)

/-- Interrupts are served at one time, which is not before that of the last look. -/
private theorem attend (h : Timely (hw.clock p.hardware.1) p) (hlaw : hw.Onward) :
    ∃ now, now ≤ hw.clock (p.attend hw departing).hardware.1 ∧ Timely now (p.attend hw departing) ∧
      Since p (p.attend hw departing) := by
  cases hempty : (hw.interrupts p.hardware.1).isEmpty with
  | true =>
    have hsame : p.attend hw departing = p := if_pos hempty
    rw [hsame]
    exact ⟨_, Nat.le_refl _, h, .refl p⟩
  | false =>
    generalize hnow : hw.clock (hw.clear (hw.interrupts p.hardware.1) p.hardware.1) = now
    refine ⟨now, ?_⟩
    have hcleared : Timely (hw.clock p.hardware.1)
        { p with hardware := (hw.clear (hw.interrupts p.hardware.1) p.hardware.1, p.hardware.2) } :=
          h.keep rfl rfl rfl rfl
    have hafter {q r : Port (η × Departures)} (hq : Since p q) (hr : Timely now r ∧ Since q r)
        (hclock : now ≤ hw.clock r.hardware.1) : now ≤ hw.clock r.hardware.1 ∧ Timely now r ∧ Since p r :=
      ⟨hclock, hr.1, hq.trans hr.2⟩
    refine Port.attend_rule (I := fun q => now ≤ hw.clock q.hardware.1 ∧ Timely now q ∧ Since p q) rfl hnow
      (fun hnothing => ?_) ?_ (fun q hq => ?_) (fun q event estimator hevent hq => ?_) fun q hq => ?_
    · rw [hempty] at hnothing
      cases hnothing
    · refine hafter ?_ (hcleared.seen ?_) (Nat.le_of_eq hnow.symm)
      · exact ⟨rfl, id, fun h => ⟨h, rfl⟩, fun h => ⟨h, rfl⟩⟩
      · rw [← hnow]
        exact hlaw.clear _ _
    · refine hafter hq.2.2 (hq.2.1.receiveSlots _) ?_
      have hclock : now ≤ (q.bare.receiveSlots hw (hw.interrupts p.hardware.1) now).now hw :=
        (Port.keptByInterrupts_clock hlaw now).receiveSlots hq.1
      rw [← (Port.bare_receiveSlots _ now : (q.receiveSlots (hw.watched departing) _ now).bare = _)] at hclock
      exact hclock
    · have hstart : event.isStart = false := by cases event <;> first | rfl | cases hevent
      refine hafter hq.2.2 (hq.2.1.raised (q := { q with estimator }) hstart rfl hq.2.1.reachable rfl rfl rfl
        (Nat.le_refl _)) ?_
      have hclock := Port.clock_raise hlaw (p := Port.bare { q with estimator }) event now
      rw [← (Port.bare_raise event now : (Port.raise (hw.watched departing) event now _).bare = _)] at hclock
      exact Nat.le_trans hq.1 hclock
    · exact hafter hq.2.2 (hq.2.1.seen (Nat.le_refl _)) hq.1

end Timely

/-- Nothing sets the clock back, or switches the port, or makes a responder of it. -/
def Incident.Steady (hw : Hardware η ε) : Incident η → Prop
  | .goesOn change => ∀ h, hw.clock h ≤ hw.clock (change h)
  | .setMode mode => mode = .controller
  | .enable | .disable => False
  | _ => True

/-- While something happens, the clock goes on. -/
private theorem clock_occur (hlaw : hw.Onward) {i : Incident η} (hi : i.Steady hw) :
    hw.clock p.hardware.1 ≤ hw.clock (i.occur hw departing p).hardware.1 := by
  show p.bare.now hw ≤ (i.occur hw departing p).bare.now hw
  rw [Incident.bare_occur]
  cases i with
  | uart => exact (Port.keptByInterrupts_clock hlaw _).onUart (Nat.le_refl _)
  | alarm => exact Port.clock_raise hlaw _ _
  | edge level => exact (Port.keptByInterrupts_clock hlaw _).onEdge level (Nat.le_refl _)
  | goesOn change => exact hi _
  | enable | disable => exact hi.elim
  | setMode mode =>
    show p.bare.now hw ≤ ((Port.setMode mode : Run (Port η) (PortError ε) Unit).runFrom p.bare).2.now hw
    rcases Port.setMode_cases (ε := ε) mode p.bare with hset | hset
    · simp only [hset, Nat.le_refl]
    · simp only [hset]
      exact Nat.le_refl _
  | setBaud baud =>
    obtain ⟨rate, hset⟩ := Port.setBaud_frame hw baud p.bare
    show p.bare.now hw ≤ ((Port.setBaud hw baud).runFrom p.bare).2.now hw
    rw [hset]
    exact hlaw.setBaud _ _
  | setBreak | setMark => exact Nat.le_refl _

namespace Timely

private theorem occur (h : Timely (hw.clock p.hardware.1) p) (hlaw : hw.Onward) {i : Incident η} (hi : i.Steady hw) :
    Timely (hw.clock (i.occur hw departing p).hardware.1) (i.occur hw departing p) ∧
      Since p (i.occur hw departing p) := by
  unfold Incident.occur
  cases i with
  | uart =>
    obtain ⟨now, hnow, hattended, hsince⟩ := h.attend hlaw
    have hseen := hattended.seen hnow
    exact ⟨hseen.1, hsince.trans hseen.2⟩
  | alarm =>
    have hclock := Port.clock_raise hlaw (p := p.bare) (.alarm (hw.space p.hardware.1)) (hw.clock p.hardware.1)
    rw [← (Port.bare_raise _ _ : (p.raise (hw.watched departing) _ _).bare = _)] at hclock
    exact h.raised rfl rfl h.reachable rfl rfl rfl hclock
  | edge level =>
    dsimp only [Incident.beside, Incident.happen]
    obtain ⟨meter, hedge | ⟨hbreak, hedge⟩⟩ := Port.onEdge_cases (hw.watched departing) p level <;> rw [hedge]
    · exact h.seen_since (.of_eq rfl id rfl fun _ => rfl) h.reachable rfl rfl id (Nat.le_refl _)
    · have hreachable := h.reachable.handle .lineRising 0
      rw [show p.bus.handle .lineRising 0 = ([], { p.bus with rx := .inMark }) from congrArg (Prod.mk [])
        (if_pos hbreak)]
        at hreachable
      exact h.seen_since (.of_eq rfl id rfl fun hfinished => by cases hfinished) hreachable rfl rfl id (Nat.le_refl _)
  | goesOn change => exact h.seen_since (.of_eq rfl id rfl fun _ => rfl) h.reachable rfl rfl id (hi _)
  | enable | disable => exact hi.elim
  | setMode mode =>
    dsimp only [Incident.beside, Incident.happen]
    rcases Port.setMode_cases (ε := ε) mode p with hset | hset <;> rw [hset]
    · exact h.seen (Nat.le_refl _)
    · exact h.seen_since (.of_eq rfl (fun _ => hi) rfl fun _ => rfl) (h.reachable.setMode mode) rfl rfl id
        (Nat.le_refl _)
  | setBaud baud =>
    dsimp only [Incident.beside, Incident.happen]
    obtain ⟨rate, hset⟩ := Port.setBaud_frame (hw.watched departing) baud p
    rw [hset]
    exact h.seen_since (.of_eq rfl id rfl fun _ => rfl) h.reachable rfl rfl id (hlaw.setBaud _ _)
  | setBreak micros =>
    exact h.seen_since (.of_eq rfl id rfl fun _ => rfl) (h.reachable.setTiming _) rfl rfl id (Nat.le_refl _)
  | setMark micros =>
    exact h.seen_since (.of_eq rfl id rfl fun _ => rfl) (h.reachable.setTiming _) rfl rfl id (Nat.le_refl _)

/-! ### The start of a transmission -/

/-- The bus has begun to send, and the port knows what it sends. -/
structure Started (p p' : Port (η × Departures)) : Prop where
  reachable : p'.bus.Reachable
  mode : p'.bus.mode = p.bus.mode
  sending : p'.bus.isSending = true
  quiet : p'.bus.frameFinished = false
  lastFrameAt : p'.bus.lastFrameAt = p.bus.lastFrameAt
  notes : p'.hardware.2 = p.hardware.2
  lastTransfer : p'.lastTransfer = Session.transferOf (p'.bus.frame.take p'.bus.txSize)
    (p'.bus.txKind != .discoveryReply)

private theorem started (h : Timely now p) (hidle : p.bus.isSending = false) {size : Nat} (hsize : size ≠ 0)
    (hfits : size ≤ maxFrameSize) (withBreak : Bool) :
    Started p (Session.startFrame (hw.watched departing) size withBreak p).2 := by
  generalize hp' : (Session.startFrame (hw.watched departing) size withBreak p).2 = p'
  obtain ⟨frame, hstamped, hreachable⟩ := Session.bus_stamp p size withBreak
  have hbus : p'.bus = ((Session.stamp p size withBreak).bus.startTransmit size
      (Frame.expectsResponse (p.bus.frame.take size)) withBreak (hw.space p.hardware.1)).2 := by
    rw [← hp', Session.bus_startFrame]
    rfl
  have hafter : p'.bus.Reachable := by
    rw [hbus]
    exact (hreachable h.reachable).handle (.startTransmit size _ withBreak _) 0
  have hlast : p'.lastTransfer = Session.transferOf (p.bus.frame.take size) withBreak := by
    rw [← hp']
    unfold Session.startFrame Port.dispatch
    rw [Port.dispatchAt_frame]
  -- What is sent is what was in the buffer, but for the number.
  have hbuffer : (p.bus.frame.take size).length = size := by
    rw [List.length_take, h.reachable.bounded.frame]
    omega
  have hsent : Frame.SameKind (p.bus.frame.take size) (p'.bus.frame.take size) := by
    have hstart : (Session.startFrame (hw.watched departing) (p.bus.frame.take size).length withBreak
      p).2.bus.frame.take
        (p.bus.frame.take size).length = _ := Message.frame_startFrame (by rw [hbuffer]) withBreak
    rw [hbuffer, hp'] at hstart
    rw [hstart]
    split
    · exact Frame.sameKind_numbered _ _
    · exact .refl _
  rw [hstamped] at hbus
  obtain ⟨sequence, tx, txCursor, hstate⟩ := Bus.startTransmit_state (b := { p.bus with frame }) hidle hsize
    (Frame.expectsResponse (p.bus.frame.take size)) withBreak (hw.space p.hardware.1)
  have hsends : p'.bus.isSending = true := by
    rw [hbus]
    exact Bus.isSending_startTransmit hsize
  rw [hstate] at hbus
  have hkind : (p'.bus.txKind != .discoveryReply) = withBreak := by
    have hstart := Bus.kindByStart_ne_discoveryReply { p.bus with frame }
    rw [hbus]
    cases withBreak with
    | false => rfl
    | true => exact bne_iff_ne.2 hstart
  have hlength : p'.bus.txSize = size := by
    rw [hbus]
    exact Nat.min_eq_left hfits
  refine ⟨hafter, by rw [hbus]; rfl, hsends, by rw [hbus]; rfl, by rw [hbus]; rfl, ?_, ?_⟩
  · rw [← hp', Port.notes_startFrame, Departures.hears_eq]
  · rw [hlast, hkind, hlength, hsent.transferOf]

/-- A transmission begins when the bus has been idle for long enough. -/
private theorem seen_started (h : Timely now p) (hidle : p.bus.isSending = false) (hstarted : Started p p')
    (hspaced : ∀ d, p.hardware.2.all.head? = some d → ∃ last, d.ended = some last ∧
      last + p.lastTransfer.spacing ≤ now)
    (hwaited : p.hardware.2.calm = true → ∀ time, p.hardware.2.heard = some time →
      time + p.lastTransfer.spacing ≤ now)
    (hnow : now ≤ now') : Timely now' (p'.seen departing now') := by
  let d : Departure := ⟨now, p'.bus.txKind, p'.bus.frame.take p'.bus.txSize, none, false, p.hardware.2.heard,
    p.hardware.2.calm⟩
  have hall : (p'.seen departing now').hardware.2.all = d :: p.hardware.2.all := by
    show (if (!p'.hardware.2.sending && p'.bus.isSending) = true then
      Departure.mk p'.hardware.2.clock _ _ _ _ p'.hardware.2.heard p'.hardware.2.calm :: p'.hardware.2.all else _) = _
    have hbegins : (!p'.hardware.2.sending && p'.bus.isSending) = true := by
      rw [hstarted.notes, h.sending, hidle, hstarted.sending]
      rfl
    rw [if_pos hbegins, hstarted.notes, h.clock]
    rfl
  have hheard : (p'.seen departing now').hardware.2.heard = p.hardware.2.heard := by
    show (if (p'.bus.frameFinished && _) = true then _ else p'.hardware.2.heard) = _
    rw [hstarted.quiet, Bool.false_and, if_neg Bool.false_ne_true, hstarted.notes]
  have hlatest {d' : Departure} (hd' : (p'.seen departing now').hardware.2.all.head? = some d') : d' = d := by
    rw [hall] at hd'
    exact (Option.some.inj hd').symm
  refine ⟨hstarted.reachable, hstarted.mode.trans h.controller, rfl, rfl, rfl, rfl, fun time htime => ?_, ?_,
    fun d' hd' => ?_, fun _ d' hd' => ?_, fun hover => ?_⟩
  · rw [hheard] at htime
    have hbefore := h.heard time htime
    show time ≤ p'.bus.lastFrameAt ∧ time ≤ now'
    rw [hstarted.lastFrameAt]
    omega
  · rw [hall]
    exact (h.ordered.begin rfl rfl (fun latest hlatest => ⟨h.known latest hlatest, hspaced latest hlatest⟩)
      hwaited).mono hnow
  · rw [hlatest hd']
    exact .inl hstarted.lastTransfer
  · rw [hlatest hd']
  · rw [show (p'.seen departing now').bus.isSending = true from hstarted.sending] at hover
    cases hover

private theorem clock_startFrame (hlaw : hw.Onward) {p : Port η} (size : Nat) (withBreak : Bool) :
    p.now hw ≤ (Session.startFrame hw size withBreak p).2.now hw := by
  have hstamped : (Session.stamp p size withBreak).now hw = p.now hw :=
    congrArg hw.clock (Session.hardware_stamp p size withBreak)
  rw [← hstamped]
  unfold Session.startFrame Port.dispatch
  exact Port.clock_dispatchAt (p := { Session.stamp p size withBreak with lastTransfer := _, notice := none })
    hlaw _ _

/-! ### Calls -/

private theorem listen (h : Timely (hw.clock p.hardware.1) p) (hlaw : hw.Onward) :
    let q := (p.dispatch (hw.watched departing) .receiveRequested).2
    Timely (hw.clock q.hardware.1) (q.seen departing (hw.clock q.hardware.1)) := by
  have hclock := Port.clock_dispatchAt hlaw (p := p.bare) .receiveRequested (hw.clock p.hardware.1)
  rw [← (Port.bare_dispatchAt _ _ : (p.dispatchAt (hw.watched departing) _ _).1 = _ ∧ _).2] at hclock
  unfold Port.dispatch
  refine h.seen_of ?_ ?_ ?_ (.inl ?_) hclock
  · rw [Port.bus_dispatchAt]
    exact Bus.timed_handle _ rfl _
  · rw [Port.bus_dispatchAt]
    exact h.reachable.handle _ _
  · rw [Port.notes_dispatchAt, Departures.hears_eq]
  · rw [Port.dispatchAt_frame]

/-- When the notice was taken, the latest transmission is answered. -/
private theorem answered_seen (h : Timely now p) {n : Notice} (hn : p.notice = some n) (hanswer : n.isAnswer = true) :
    (({ p with notice := none } : Port (η × Departures)).seen departing now').hardware.2.Answered := by
  intro d hd
  have hall : (({ p with notice := none } : Port (η × Departures)).seen departing now').hardware.2.all = _ :=
    h.all_seen now' (.of_eq rfl id rfl fun _ => rfl) rfl
  rw [hall, List.head?_modifyHead] at hd
  obtain ⟨latest, -, rfl⟩ := Option.map_eq_some_iff.1 hd
  show (latest.answered || Taken p { p with notice := none }) = true
  have htaken : Taken p { p with notice := none } = true := by
    unfold Taken
    rw [hn]
    exact hanswer
  rw [htaken, Bool.or_true]

private theorem keptByCalls (hlaw : hw.Onward) {e : Environment η Departures} (he : e.Only (Incident.Steady hw)) :
    Session.KeptByCalls (e.world hw departing) fun p => Timely (hw.clock p.hardware.1) p := by
  let Fine (p : Port (η × Departures)) : Prop := Timely (hw.clock p.hardware.1) p
  have hoccur (i : Incident η) (p : Port (η × Departures)) (hi : i.Steady hw) (hp : Fine p) :
      Fine (i.occur hw departing p) :=
    (hp.occur hlaw hi).1
  have hsince (r : Port (η × Departures)) (i : Incident η) (p : Port (η × Departures)) (hi : i.Steady hw)
      (hp : Fine p ∧ Since r p) : Fine (i.occur hw departing p) ∧ Since r (i.occur hw departing p) :=
    ⟨hoccur i p hi hp.1, hp.2.trans (hp.1.occur hlaw hi).2⟩
  have hseen {p : Port (η × Departures)} (hp : Fine p) :
      Fine (p.seen departing (hw.clock p.hardware.1)) ∧ Since p (p.seen departing (hw.clock p.hardware.1)) :=
    Timely.seen hp (Nat.le_refl _)
  have hstep {p : Port (η × Departures)} (hp : Fine (p.seen departing (hw.clock p.hardware.1))) :
      Fine ((e.world hw departing).between p) := he.between_of hoccur hp
  have hothers : Session.KeptByOthers (e.world hw departing) Fine := he.keptByOthers hoccur fun _ hp => (hseen hp).1
  have hidle : Session.KeptByOthers (e.world hw departing) fun p => Fine p ∧ p.bus.isSending = false :=
    he.keptByOthers (fun i p hi hp => ⟨hoccur i p hi hp.1, ((hp.1.occur hlaw hi).2.idle hp.2).1⟩)
      fun _ hp => ⟨(hseen hp.1).1, hp.2⟩
  have hwaiting (r : Port (η × Departures)) :
      Session.KeptByOthers (e.world hw departing) fun p => Fine p ∧ Since r p :=
    he.keptByOthers (hsince r) fun _ hp => ⟨(hseen hp.1).1, hp.2.trans (hseen hp.1).2⟩
  have hlater (r : Port (η × Departures)) (time : Nat) : Session.KeptByOthers (e.world hw departing) fun p =>
      (Fine p ∧ Since r p) ∧ time ≤ hw.clock p.hardware.1 :=
    he.keptByOthers (fun i p hi hp => ⟨hsince r i p hi hp.1, Nat.le_trans hp.2 (clock_occur hlaw hi)⟩)
      fun _ hp => ⟨⟨(hseen hp.1.1).1, hp.1.2.trans (hseen hp.1.1).2⟩, hp.2⟩
  have htaken {p : Port (η × Departures)} (hp : Fine p) :
      Fine (({ p with notice := none } : Port (η × Departures)).seen departing (hw.clock p.hardware.1)) :=
    hp.seen_of (.of_eq rfl id rfl fun _ => rfl) hp.reachable rfl (.inl rfl) (Nat.le_refl _)
  have hbuffer {p : Port (η × Departures)} (hp : Fine p) (start : Nat) (bytes : List UInt8) :
      Fine ((e.world hw departing).between { p with bus := p.bus.write start bytes }) :=
    hstep (hp.seen_of (.of_eq rfl id rfl fun _ => rfl)
      (hp.reachable.write start bytes) rfl (.inl rfl) (Nat.le_refl _))
  exact {
    toKeptByOthers := hothers
    listen := fun hp _ => hstep ((hothers.between hp).listen hlaw)
    take := fun {p} hp => hstep (p := { p with notice := none }) (htaken (p := p) hp)
    answer := fun {p q n} hp hnotice horigin hsize hq => by
      have hanswer : n.isAnswer = true := by
        unfold Notice.isAnswer
        rw [horigin, decide_eq_true hsize]
        rfl
      have hq : Fine q ∧ q.hardware.2.Answered := by
        rw [hq]
        refine he.between_of (I := fun p => Fine p ∧ p.hardware.2.Answered)
          (fun i p hi hp => ⟨hoccur i p hi hp.1, (hp.1.occur hlaw hi).2.answered hp.2⟩) ?_
        exact ⟨htaken (p := p) hp, hp.answered_seen hnotice hanswer⟩
      exact hstep (hq.1.seen_of (.of_eq rfl id rfl fun _ => rfl) hq.1.reachable rfl (.inr ⟨hq.2, rfl⟩)
        (Nat.le_refl _))
    start := fun {p q size withBreak} hp hsize hready => by
      obtain ⟨r, time, ⟨hr, hquiet⟩, htime, hwait⟩ :=
        hothers.of_ready hidle (fun _ hp hquiet => ⟨hp, hquiet⟩) hp hready
      obtain ⟨⟨hq, hsince⟩, hcome⟩ := (hwaiting r).of_awaitTime (hlater r time) (fun _ hp hcome => ⟨hp, hcome⟩)
        ((hwaiting r).between ⟨hr, .refl r⟩) hwait
      have hspacing : time = r.bus.lastFrameAt + r.lastTransfer.spacing := by
        unfold Session.sendTime at htime
        rw [if_neg (fun hreply => hreply.2 hr.controller)] at htime
        exact (Except.ok.inj htime).symm
      obtain ⟨hquiet', hall⟩ := hsince.idle hquiet
      refine hstep (hq.seen_started hquiet' (hq.started hquiet' hsize (Message.size_le_of_ready hready) withBreak)
        (fun d hd => ?_) (fun hcalm heard hheard => ?_) ?_)
      · rw [hall] at hd
        obtain ⟨last, hended, hle⟩ := hr.completed hquiet d hd
        refine ⟨last, hended, ?_⟩
        rw [hsince.lastTransfer]
        omega
      · rw [(hsince.calm hcalm).2] at hheard
        have hle := (hr.heard heard hheard).1
        rw [hsince.lastTransfer]
        omega
      · show q.bare.now hw ≤ (Session.startFrame (hw.watched departing) size withBreak q).2.bare.now hw
        rw [Port.bare_startFrame]
        exact clock_startFrame hlaw size withBreak
    write := fun start bytes hp _ => hbuffer hp start bytes
    put := fun frame hp hsent => hbuffer ((hothers.waitSent _).of_runFrom hp hsent) 0 frame
    ticket := fun {p} hp => hstep (hseen (p := { p with tickets := p.tickets.take.2 }) (hp.keep rfl rfl rfl rfl)).1 }

/-! ### Runs -/

private theorem run (h : Timely (hw.clock p.hardware.1) p) (hlaw : hw.Onward) {acts : List (Act η Departures)}
    (hacts : ∀ act ∈ acts, act.Permitted (Incident.Steady hw) (Incident.Steady hw) fun _ => True) :
    Timely (hw.clock (Act.run hw departing acts p).hardware.1) (Act.run hw departing acts p) := by
  refine Act.keeps (I := fun p => Timely (hw.clock p.hardware.1) p) (fun i p hi hp => (hp.occur hlaw hi).1)
    (fun e c p he _ hp => ?_) hacts h
  have hbegun : Timely (hw.clock p.hardware.1)
      { p with hardware := (p.hardware.1, departing.begins (η := η) p.hardware.2) } :=
    ⟨hp.reachable, hp.controller, hp.clock, hp.sending, hp.rx, hp.notice, hp.heard, hp.ordered, hp.known, hp.running,
      hp.completed⟩
  refine (keptByCalls hlaw he).call c (fun _ q hq => ?_) hbegun
  exact he.between_of (I := fun p => Timely (hw.clock p.hardware.1) p) (fun i p hi hp => (hp.occur hlaw hi).1)
    (hq.listen hlaw)

end Timely

/-- In every run of a controller in which the clock goes on, each transmission begins when the spacing after all that
were sent before it is over: 5800 microseconds after the last slot of a branch probe that was not answered, 3000 after
another request that was not answered, and 176 after a broadcast.  After a request that was answered, it begins no
earlier than 176 microseconds after the last frame was received. -/
theorem Port.packet_spacing (hlaw : hw.Onward) {p : Port η} (hreachable : p.bus.Reachable)
    (hmode : p.bus.mode = .controller) {acts : List (Act η Departures)}
    (hacts : ∀ act ∈ acts, act.Permitted (Incident.Steady hw) (Incident.Steady hw) fun _ => True) :
    let all := (Act.run hw departing acts (p.watched (.first hw p))).hardware.2.all
    all.Pairwise (fun later earlier => later.Spaced earlier) ∧
      ∀ (i : Nat) (later earlier : Departure), all[i]? = some later → all[i + 1]? = some earlier →
      later.AfterAnswer earlier := by
  have hfirst : Timely (hw.clock p.hardware) (p.watched (Departures.first hw p)) :=
    ⟨hreachable, hmode, rfl, rfl, rfl, rfl, nofun, .nil, nofun, fun _ => nofun, fun _ => nofun⟩
  have hend := Timely.run (p := p.watched (Departures.first hw p)) hfirst hlaw hacts
  exact ⟨hend.ordered.pairwise, fun i _ _ hlater hearlier => hend.ordered.afterAnswer i hlater hearlier⟩

open Simulation

/-- Transmissions go out while the task pauses, and if somebody answers, a slot comes in after each of them. -/
def pausing (answers : Bool) : Environment Bench Departures :=
  let passing (pending : Interrupts) : Incident Bench :=
    .goesOn fun b => { b with time := b.time + 1000, rxFifo := [1], pending }
  ⟨fun _ => [], fun p =>
    if p.bus.isSending then [passing .allTx, .alarm, .uart]
    else [passing (if answers then .rxData else .none), .uart]⟩

private theorem only_pausing (answers : Bool) : (pausing answers).Only (Incident.Steady Bench.hardware) := by
  have hpassing (b : Bench) (pending : Interrupts) :
      Bench.hardware.clock b ≤ Bench.hardware.clock { b with time := b.time + 1000, rxFifo := [1], pending } :=
    Nat.le_add_right _ _
  constructor
  · simp [pausing]
  · intro p
    simp only [pausing]
    split <;> simp [Incident.Steady, hpassing]

/-- A request to get something from one device. -/
def oneRequest : Request := { Message.wholeProbe with destination := .device ⟨1, 2⟩, commandClass := .get }

/-- A branch probe is not answered, a request is answered, and then something else is sent. -/
def asking : List (Act Bench Departures) :=
  [.call (pausing false) (.load (.request Message.wholeProbe)), .call (pausing false) (.sendFrame 38 true),
    .call (pausing false) (.load (.request oneRequest)), .call (pausing false) (.sendFrame 38 true),
    .call (pausing true) (.receive 20000), .call (pausing false) (.sendSlots 0x55 [1, 2, 3])]

theorem Port.packet_spacing_asking : ∃ p, Port.install Bench.hardware .standard (.new 128 []) = .ok p ∧
    let on := ((enable Bench.hardware).runFrom p).2
    let all := (Act.run Bench.hardware departing asking (on.watched (.first Bench.hardware on))).hardware.2.all
    all.map (fun d => (d.begun, d.ended, d.answered, d.heard)) =
        [(14000, some 17000, false, some 13000), (9000, some 12000, true, none), (0, some 3000, false, none)] ∧
      all.Pairwise (fun later earlier => later.Spaced earlier) ∧
      ∀ (i : Nat) (later earlier : Departure),
        all[i]? = some later → all[i + 1]? = some earlier → later.AfterAnswer earlier := by
  have hpermitted : ∀ act ∈ asking,
      act.Permitted (Incident.Steady Bench.hardware) (Incident.Steady Bench.hardware) fun _ => True := by
    simp [asking, Act.Permitted, only_pausing]
  have hspaced {p : Port Bench} (hp : install Bench.hardware .standard (.new 128 []) = .ok p)
      (hmode : ((enable Bench.hardware).runFrom p).2.bus.mode = .controller) :=
    packet_spacing Bench.onward (reachable_enable (reachable_install hp)) hmode hpermitted
  exact ⟨_, rfl, by decide +kernel, hspaced rfl rfl⟩

end LightBus
