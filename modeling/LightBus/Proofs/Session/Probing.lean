import LightBus.Proofs.Session.Reception
import LightBus.Proofs.Session.Sending
import LightBus.Proofs.Session.Traces

/-!
# Whether a probe hears of devices

After a branch probe the task waits for an answer.  If slots come in that are no answer of one device, then several
devices have answered, and the task must not take them for silence.  It does so only if a break has come in, or a
fault after it has looked for a notice for the last time (`Session.silent_of_nobody`).  With a break, what came in
before it is forgotten (`Session.nobody_after_break`).
-/

namespace LightBus

variable {η ε α : Type} {hw : Hardware η ε} {s : Surroundings η} {t : Tally} {p : Port (η × Tally)}

namespace Session

open Run (Yields yields_pure yields_throw yields_ofExcept yields_rounds)

/-! ### Steps -/

section

variable {w : World η ε} {P : Port η → Prop} {Q : α → Port η → Prop} {R : Port η → Prop}

private theorem yields_step {f : Port η → α × Port η} (hf : ∀ p, P p → Q (f p).1 (w.between (f p).2)) :
    Yields P (step w f) Q R := by
  refine fun p hp => ⟨fun x p' hrun => ?_, fun e p' hrun => ?_⟩
  · cases hrun
    exact hf p hp
  · cases hrun

private theorem yields_look (hbetween : ∀ p, P p → P (w.between p)) (f : Port η → α) :
    Yields P (look w f) (fun _ => P) R :=
  yields_step hbetween

/-- The bus handles an event of which nothing is told. -/
private theorem yields_dispatch {P' : Port η → Prop} {f : Port η → Applied ε × Port η}
    (hf : ∀ p, P p → (f p).1.notice = none ∧ P' (w.between (f p).2)) (hR : ∀ p, P' p → R p) :
    Yields P (dispatch w f) (fun _ => P') R := by
  unfold dispatch
  refine (yields_step (Q := fun applied p => applied.notice = none ∧ P' p) hf).bind fun applied => ?_
  dsimp only
  split
  · rename_i htold
    refine fun p hp => absurd htold ?_
    rw [hp.1]
    exact Bool.false_ne_true
  · exact yields_ofExcept (fun _ _ _ hp => hp.2) fun _ hp => hR _ hp.2

end

/-! ### Waiting for an answer -/

/-- A task that gives up waiting has seen no notice, so that it looks at the cursor. -/
private theorem yields_awaitNotice (hw : Hardware η ε) (s : Surroundings η) (t : Tally) (deadline rounds : Nat) :
    Yields (Awake t) (awaitNotice (s.world hw) deadline rounds) (fun n p => n.status = .timeout → Overdue t p)
      fun _ => True := by
  induction rounds with
  | zero => exact yields_throw fun _ _ => trivial
  | succ rounds ih =>
    unfold awaitNotice
    have htake : Yields (Awake t) (step (s.world hw) fun p => (p.notice, { p with notice := none }))
        (fun taken p => ¬Noticed taken → Awake t p ∧ Overdue t p) fun _ => True :=
      yields_step fun p hp hnotice => ⟨(hp.take hnotice).1.between, (hp.take hnotice).2.between⟩
    refine htake.bind fun taken => ?_
    split
    · rename_i n
      split
      · rename_i htransmit
        refine ih.mono (fun p hp => (hp ?_).1) fun _ _ hn => hn
        rintro ⟨m, hm, hreceive, -⟩
        cases hm
        exact absurd (htransmit.symm.trans hreceive) nofun
      · have hnot (htimeout : n.status = .timeout) : ¬Noticed (some n) := by
          rintro ⟨m, hm, -, hstatus⟩
          cases hm
          exact hstatus htimeout
        dsimp only
        split
        · refine Yields.bind (Q := fun _ p => n.status = .timeout → Overdue t p) ?_ fun _ =>
            yields_pure fun _ hp => hp
          refine yields_step fun p hp htimeout => ?_
          have hkept : Overdue t { p with lastTransfer := answered p.lastTransfer } :=
            Traced.uncounted (hp (hnot htimeout)).2 rfl fun _ => id
          exact hkept.between
        · exact yields_pure fun p hp htimeout => (hp (hnot htimeout)).2
    · have hnot : ¬Noticed none := fun ⟨_, hn, _⟩ => nomatch hn
      have hlook : Yields (fun p => Awake t p ∧ Overdue t p) (now (s.world hw)) (fun _ p => Awake t p ∧ Overdue t p)
          fun _ => True := yields_look (fun _ hp => ⟨hp.1.between, hp.2.between⟩) _
      refine (hlook.mono (fun p hp => hp hnot) fun _ _ hp => hp).bind fun now => ?_
      split
      · exact yields_pure fun p hp _ => hp.2
      · refine Yields.bind (Q := fun _ => Awake t) (fun p hp => ⟨fun x p' hrun => ?_, fun _ _ _ => trivial⟩) fun _ =>
          ih
        cases hrun
        exact hp.1.pause

private theorem yields_receive (hw : Hardware η ε) (s : Surroundings η) (t : Tally) (timeout : Nat) :
    Yields (Awake t) (receive (s.world hw) timeout) (fun n p => n.status = .timeout → Overdue t p) fun _ => True := by
  have hlook {β : Type} (f : Port (η × Tally) → β) :
      Yields (Awake t) (look (s.world hw) f) (fun _ => Awake t) fun _ => True :=
        yields_look (fun _ hp => hp.between) f
  unfold receive
  refine (hlook _).bind fun enabled => ?_
  dsimp only
  split
  · exact yields_throw fun _ _ => trivial
  · refine (yields_dispatch (fun p hp => ⟨Port.notice_dispatch_receiveRequested, hp.listen.between⟩) fun _ _ =>
      trivial).bind
      fun _ => (hlook _).bind fun now => yields_rounds _ fun rounds => yields_awaitNotice hw s t _ rounds

private theorem awake_of_sending (hp : p.bus.Reachable) (hsending : p.bus.isSending = true) : Awake p.hardware.2 p :=
  ⟨Nat.le_refl _, Nat.le_refl _, .inr ⟨hp, .inl ⟨hsending, fun hheard => hheard rfl⟩⟩⟩

/-- When a transmission begins, nothing has been heard, and nothing is told. -/
private theorem awake_startTransmit (hw : Hardware η ε) {size : Nat} (hsize : size ≠ 0) (hp : p.bus.Reachable)
    (expectsReply : Bool) (space : Nat) :
    (p.dispatch hw.tallied (.startTransmit size expectsReply true space)).1.notice = none ∧
      Awake p.hardware.2 (p.dispatch hw.tallied (.startTransmit size expectsReply true space)).2 := by
  constructor
  · cases htold : (p.dispatch hw.tallied (.startTransmit size expectsReply true space)).1.notice with
    | none => rfl
    | some n =>
      obtain ⟨m, -, hm, -⟩ := Port.notice_applyAll htold
      exact absurd hm (Bus.not_notify_startTransmit m)
  · rw [← Port.tally_dispatch hw p (.startTransmit size expectsReply true space)]
    refine awake_of_sending ?_ ?_ <;> rw [Port.dispatch, Port.bus_dispatchAt]
    · exact hp.handle _ _
    · exact Bus.isSending_startTransmit hsize

private theorem awake_startFrame (hw : Hardware η ε) {size : Nat} (hsize : size ≠ 0) (hp : p.bus.Reachable) :
    (startFrame hw.tallied size true p).1.notice = none ∧
      Awake p.hardware.2 (startFrame hw.tallied size true p).2 := by
  have hstamped : (stamp p size true).bus.Reachable ∧ (stamp p size true).hardware = p.hardware := by
    unfold stamp
    dsimp only
    split
    · exact ⟨hp.write _ _, rfl⟩
    · exact ⟨hp, rfl⟩
  rw [← hstamped.2]
  exact awake_startTransmit hw (p := { stamp p size true with lastTransfer := _, notice := none }) hsize
    hstamped.1 _ _

/-! ### Probes -/

/-- The last step of the task was to look at a port `z`, and if no break and no fault had come in since the tally was
`t`, then nothing was heard. -/
def SilentSince (w : World (η × Tally) ε) (t : Tally) (final : Port (η × Tally)) : Prop :=
  ∃ z, final = w.between z ∧
    (z.hardware.2.breaks = t.breaks → z.hardware.2.faults = t.faults → z.hardware.2.heard = t.heard)

private theorem yields_probeAnswer (hw : Hardware η ε) (s : Surroundings η) (t : Tally) (n : Notice) :
    Yields (fun p => n.status = .timeout → Overdue t p) (probeAnswer (s.world hw) (some n))
      (fun result final => result = .nobody → SilentSince (s.world hw) t final) fun _ => True := by
  unfold probeAnswer read
  dsimp only
  split
  · rename_i htimeout
    have hlook : Yields (fun p => n.status = .timeout → Overdue t p)
      (onPort (look (s.world hw) fun p => p.bus.cursor))
        (fun cursor final => cursor = 0 → SilentSince (s.world hw) t final) fun _ => True :=
      Yields.mapError (yields_step fun p hp hcursor => ⟨p, rfl, (hp htimeout).heard hcursor⟩) _
    refine hlook.bind fun cursor => yields_pure fun final hfinal hnobody => hfinal ?_
    refine Decidable.byContradiction fun hcursor => ?_
    rw [if_pos (Nat.pos_of_ne_zero hcursor)] at hnobody
    cases hnobody
  · refine Yields.bind (Q := fun _ _ => True) (Yields.mapError (yields_step fun _ _ => trivial) _) fun slots => ?_
    split
    · exact yields_pure fun _ _ => nofun
    · exact yields_pure fun _ _ => nofun
  · exact yields_pure fun _ _ => nofun

/-- A frame that a device answers is sent, and the task waits for the answer. -/
private theorem yields_answer (hw : Hardware η ε) (s : Surroundings η) (t : Tally) {size : Nat} (hsize : size ≠ 0)
    (timeout : Nat) :
    Yields (fun p => p.bus.Reachable ∧ p.hardware.2 = t)
      (do
        onPort (dispatch (s.world hw) (startFrame hw.tallied size true))
        probeAnswer (s.world hw) (← onPort (reply (s.world hw) true timeout)))
      (fun result final => result = .nobody → SilentSince (s.world hw) t final) fun _ => True := by
  have hstart : Yields (fun p => p.bus.Reachable ∧ p.hardware.2 = t)
      (dispatch (s.world hw) (startFrame hw.tallied size true)) (fun _ => Awake t) fun _ => True := by
    refine yields_dispatch (fun p hp => ?_) fun _ _ => trivial
    obtain ⟨hnone, hawake⟩ := awake_startFrame hw hsize hp.1
    rw [hp.2] at hawake
    exact ⟨hnone, hawake.between⟩
  have hreply : Yields (Awake t) (reply (s.world hw) true timeout)
      (fun answer p => ∃ n, answer = some n ∧ (n.status = .timeout → Overdue t p)) fun _ => True :=
    (yields_receive hw s t timeout).bind fun n => yields_pure fun _ hp => ⟨n, rfl, hp⟩
  refine (hstart.mapError _).bind fun _ => (hreply.mapError _).bind fun answer => ?_
  cases answer with
  | none => exact fun p ⟨_, hn, _⟩ => nomatch hn
  | some n =>
    refine (yields_probeAnswer hw s t n).mono (fun p hp => ?_) fun _ _ hsilent => hsilent
    obtain ⟨_, hn, hoverdue⟩ := hp
    cases hn
    exact hoverdue

/-- What is in the buffer for a probe is a frame that a device answers. -/
private theorem expects_beforeLoad {w : World η ε} {r : Request} (hr : r.isBranchProbe = true)
    {x : UInt8 × List UInt8} {p l : Port η} (h : ((Message.probe r).beforeLoad w).runFrom p = (.ok x, l)) :
    Frame.expectsResponse x.2 = true ∧ x.2.length ≠ 0 := by
  obtain ⟨transaction, _, -, hrun⟩ := Run.exists_of_bind h
  obtain ⟨_, _, -, hpure⟩ := Run.exists_of_bind hrun
  cases hpure
  exact ⟨Package.expectsResponse_probe hr, Message.length_request _⟩

/-- The task sees its frame in the buffer, if no slots come in until it is sent. -/
private theorem expects_beforeStart {r : Request} {slots : List UInt8} {y : Nat × Bool} {l q : Port (η × Tally)}
    (hl : l.bus.Reachable) (hexpects : Frame.expectsResponse slots = true)
    (hstart : ((Message.probe r).beforeStart (s.world hw) slots).runFrom l = (.ok y, q))
    (hkept : q.hardware.2.slots = l.hardware.2.slots) : y.2 = true := by
  obtain ⟨hsize, i, _, hinspect, hloaded, hwaited⟩ := Message.elapsed_beforeStart hstart
  obtain ⟨expects, _, hlook, hseen⟩ := Run.exists_of_bind hinspect
  cases hlook
  cases hseen
  have hslots := hloaded.slots
  have hslots' := hwaited.slots
  show Frame.expectsResponse (i.bus.frame.take slots.length) = true
  rw [Message.frame_of_kept hl hsize hloaded]
  · exact hexpects
  · dsimp only at hslots
    omega

/-- If a branch probe brings nobody, and no slots came in before the probe was sent, then nothing was heard after it
until the task looked at the cursor, unless a break has come in, or a fault while the task did not pause. -/
theorem silent_of_nobody (hw : Hardware η ε) (s : Surroundings η) {r : Request} (hr : r.isBranchProbe = true)
    {p final : Port (η × Tally)} (hp : p.bus.Reachable)
    (hnobody : (probe (s.world hw) r).runFrom p = (.ok .nobody, final)) :
    ∃ x l y q, ((Message.probe r).beforeLoad (s.world hw)).runFrom p = (.ok x, l) ∧
      ((Message.probe r).beforeStart (s.world hw) x.2).runFrom l = (.ok y, q) ∧
      (q.hardware.2.slots = l.hardware.2.slots → ∃ z, final = (s.world hw).between z ∧
        (z.hardware.2.breaks = q.hardware.2.breaks → z.hardware.2.faults = q.hardware.2.faults →
          z.hardware.2.heard = q.hardware.2.heard)) := by
  rw [Message.probe_eq] at hnobody
  obtain ⟨x, l, hload, hrun⟩ := Run.exists_of_bind hnobody
  obtain ⟨y, q, hstart, hrun⟩ := Run.exists_of_bind hrun
  have hload := runFrom_of_onPort hload
  have hstart := runFrom_of_onPort hstart
  refine ⟨x, l, y, q, hload, hstart, fun hkept => ?_⟩
  have hbefore : Elapsed p l := (Message.keeps_beforeLoad (Elapsed.keptByOthers s hw p) _).of_runFrom (.refl p) hload
  obtain ⟨hanswered, hsize⟩ := expects_beforeLoad hr hload
  rw [expects_beforeStart (hbefore.reachable hp) hanswered hstart hkept] at hrun
  obtain ⟨-, i, _, -, hloaded, hwaited⟩ := Message.elapsed_beforeStart hstart
  have hq : q.bus.Reachable := hwaited.reachable (hloaded.reachable ((hbefore.reachable hp).write 0 x.2))
  exact (yields_answer hw s q.hardware.2 hsize requestTimeout q ⟨hq, rfl⟩).1 .nobody final hrun rfl

/-! ### Overlapping answers -/

open Simulation

/-- Bytes come in, and an interrupt is raised. -/
def comes (received : List UInt8) (raised : Interrupts) : List (Happening Bench) :=
  [.goesOn fun b => { b with rxFifo := b.rxFifo ++ received, pending := b.pending.union raised }, .uart]

/-- While the task pauses, a frame goes out, and then this comes in within the time for an answer. -/
def answering (answer : List (Happening Bench)) : World (Bench × Tally) Fault :=
  Surroundings.world ⟨fun _ => [], fun p =>
    if p.bus.tx = .sending then comes [] .txDone
    else if p.bus.isSending then [.alarm]
    else answer ++ [.goesOn fun b => { b with time := b.time + requestTimeout }, .alarm]⟩ Bench.hardware

def switchedOn (p : Port Bench) : Port (Bench × Tally) := ((Port.enable Bench.hardware).runFrom p).2.tallied

/-- Nobody answers, and no slots have come in. -/
theorem silent_of_nobody_quiet : ∃ p, Port.install Bench.hardware .standard (.new 128 []) = .ok p ∧
    let l := ((Message.probe Message.wholeProbe).beforeLoad (answering [])).after (switchedOn p)
    let q := ((Message.probe Message.wholeProbe).beforeStart (answering [])
      (Package.request Message.wholeProbe).frame).after l
    let final := (probe (answering []) Message.wholeProbe).after (switchedOn p)
    final.hardware.2.heard = q.hardware.2.heard := by
  have hsilent {p : Port Bench} {l q final : Port (Bench × Tally)}
      (hp : Port.install Bench.hardware .standard (.new 128 []) = .ok p)
      (hload : ((Message.probe Message.wholeProbe).beforeLoad (answering [])).runFrom (switchedOn p) =
        (.ok (0, (Package.request Message.wholeProbe).frame), l))
      (hstart : ((Message.probe Message.wholeProbe).beforeStart (answering [])
        (Package.request Message.wholeProbe).frame).runFrom l = (.ok (0, true), q))
      (hnobody : (probe (answering []) Message.wholeProbe).runFrom (switchedOn p) = (.ok .nobody, final))
      (hkept : q.hardware.2.slots = l.hardware.2.slots) (hbreaks : final.hardware.2.breaks = q.hardware.2.breaks)
      (hfaults : final.hardware.2.faults = q.hardware.2.faults) : final.hardware.2.heard = q.hardware.2.heard := by
    have hidle : (switchedOn p).bus.Reachable := Port.reachable_enable (Port.reachable_install hp)
    obtain ⟨x, l', y, q', hload', hstart', hz⟩ := silent_of_nobody Bench.hardware _ (by decide) hidle hnobody
    cases hload.symm.trans hload'
    cases hstart.symm.trans hstart'
    obtain ⟨z, rfl, hsilent⟩ := hz hkept
    exact hsilent hbreaks hfaults
  exact ⟨_, rfl, hsilent rfl (Run.runFrom_of_toOption (by decide +kernel))
    (Run.runFrom_of_toOption (by decide +kernel)) (Run.runFrom_of_toOption (by decide +kernel)) (by decide +kernel)
    (by decide +kernel) (by decide +kernel)⟩

/-- The answers of several devices overlap.  The task receives two slots of them, and then a break, and takes it for
silence. -/
theorem nobody_after_break : ∃ p, Port.install Bench.hardware .standard (.new 128 []) = .ok p ∧
    let w := answering (comes [0xFE, 0xFE] .rxData ++ comes [] .rxBreak)
    let l := ((Message.probe Message.wholeProbe).beforeLoad w).after (switchedOn p)
    let q := ((Message.probe Message.wholeProbe).beforeStart w (Package.request Message.wholeProbe).frame).after l
    q.hardware.2 = .zero ∧
      ((probe w Message.wholeProbe).runFrom (switchedOn p)).1.toOption = some .nobody ∧
      ((probe w Message.wholeProbe).after (switchedOn p)).hardware.2 = ⟨2, 2, 1, 0⟩ :=
  ⟨_, rfl, by decide +kernel, by decide +kernel, by decide +kernel⟩

end Session

end LightBus
