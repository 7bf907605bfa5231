import LightBus.Proofs.Port.Faults
import LightBus.Proofs.Session.Calls

/-!
# Transmissions that fail

To send a frame may fail while the task waits for the bus.  Then nothing is being sent, since only the start of a
transmission makes a bus send (`Quiet`), and the hardware is not to blame (`Session.faultless_ready`).

Or the hardware fails when the transmission is to begin.  The bus is sending by then, and stays so: what has been done
is not undone.  `Session.sendFrame_failed` tells the two apart.
-/

namespace LightBus

open Run (Fails fails_pure fails_throw)

/-! ### Nothing is being sent -/

/-- Nothing is being sent. -/
structure Quiet {η : Type} (p : Port η) : Prop where
  reachable : p.bus.Reachable
  idle : p.bus.isSending = false

namespace Quiet

variable {η ε : Type} {hw : Hardware η ε}

/-- Only a task can make a bus send. -/
private theorem handle {p p' : Port η} (h : Quiet p) {event : BusEvent} (hevent : event.isStart = false) {now : Nat}
    (hbus : p'.bus = (p.bus.handle event now).2) : Quiet p' := by
  constructor
  · rw [hbus]
    exact h.reachable.handle event now
  · rw [hbus]
    exact h.reachable.inStep.isSending_handle h.idle hevent now

theorem raise {p : Port η} (h : Quiet p) {event : BusEvent} (hevent : event.isStart = false) (now : Nat) :
    Quiet (p.raise hw event now) :=
  h.handle hevent (Port.bus_raise event now)

theorem keptByInterrupts : Port.KeptByInterrupts hw Quiet where
  raise hevent now hp := hp.raise (BusEvent.not_alarm_of_isInterrupt hevent).2 now
  clear _ hp := ⟨hp.reachable, hp.idle⟩
  drain hp := ⟨hp.reachable.fill _, hp.idle⟩
  estimate _ hp := ⟨hp.reachable, hp.idle⟩
  measure _ hp := ⟨hp.reachable, hp.idle⟩

private theorem occur {p : Port (η × Tally)} (h : Quiet p) (paused : Bool) (happening : Happening η) :
    Quiet (happening.occur hw paused p) := by
  cases happening with
  | uart =>
    have hserved : Quiet (p.onUart hw.tallied) := keptByInterrupts.onUart h
    exact ⟨hserved.reachable, hserved.idle⟩
  | alarm =>
    unfold Happening.occur Port.onAlarm
    exact h.raise rfl _
  | edge level => exact keptByInterrupts.onEdge level h
  | goesOn change => exact ⟨h.reachable, h.idle⟩

/-- Whatever a task waits for, others do not make the bus send. -/
theorem keptByOthers (s : Surroundings η) (hw : Hardware η ε) : Session.KeptByOthers (s.world hw) Quiet where
  between hq := Happening.keeps (fun _ happening hq => hq.occur false happening) _ hq
  pause hq := Happening.keeps (fun _ happening hq => hq.occur true happening) _ hq

end Quiet

namespace Session

variable {η ε α : Type} {w : World η ε} {size : Nat} {withBreak : Bool}

/-! ### While the task waits -/

/-- The hardware is not to blame if the task fails. -/
def Faultless (a : Session η ε α) : Prop := Fails (fun e => e.isFault = false) a

private theorem faultless_look (f : Port η → α) : Faultless (look w f : Session η ε α) := fun _ _ _ h => nomatch h

private theorem faultless_now : Faultless (now w) := fun _ _ _ h => nomatch h

private theorem faultless_isEnabled : Faultless (isEnabled w) := fun _ _ _ h => nomatch h

private theorem faultless_pause : Faultless (pause w : Session η ε Unit) := fun _ _ _ h => nomatch h

private theorem faultless_throw_bind {β : Type} {e : PortError ε} (h : e.isFault = false) (f : α → Session η ε β) :
    Faultless (throw e >>= f : Session η ε β) := by
  rw [Run.throw_bind]
  exact fails_throw h

private theorem faultless_untilDeadline {deadline : Nat} {f : Nat → Session η ε α}
    (hf : ∀ rounds, Faultless (f rounds)) :
    Faultless (untilDeadline w deadline f) :=
  fun p e q h => hf _ p e q h

private theorem faultless_awaitSent (deadline rounds : Nat) : Faultless (awaitSent w deadline rounds) := by
  induction rounds with
  | zero => exact fails_throw rfl
  | succ rounds ih =>
    unfold awaitSent
    refine (faultless_look _).bind fun seen => ?_
    dsimp only
    split
    · exact fails_pure _
    split
    · exact faultless_throw_bind rfl _
    · exact faultless_pause.bind fun _ => ih

private theorem faultless_waitSent (timeout : Nat) : Faultless (waitSent w timeout) := by
  unfold waitSent
  exact faultless_now.bind fun _ => faultless_untilDeadline fun _ => faultless_awaitSent _ _

private theorem faultless_awaitTime (time rounds : Nat) : Faultless (awaitTime w time rounds) := by
  induction rounds with
  | zero => exact fails_throw rfl
  | succ rounds ih =>
    unfold awaitTime
    refine faultless_now.bind fun now => ?_
    split
    · exact fails_pure _
    · exact faultless_pause.bind fun _ => ih

/-- The only reason not to send is that it is too late for an answer. -/
theorem sendTime_error {hw : Hardware η ε} {p : Port η} {frame : List UInt8} {withBreak : Bool} {error : PortError ε}
    (h : sendTime hw p frame withBreak = .error error) : error = .tooLateToRespond := by
  unfold sendTime at h
  split at h
  · split at h
    · exact (Except.error.inj h).symm
    · cases h
  · cases h

private theorem faultless_sendTime (size : Nat) (withBreak : Bool) :
    Faultless (attempt w fun p => (sendTime w.hardware p (p.bus.frame.take size) withBreak, p)) := by
  intro p e q h
  obtain rfl := sendTime_error (congrArg Prod.fst h)
  rfl

theorem faultless_ready (size : Nat) (withBreak : Bool) : Faultless (ready w size withBreak) := by
  unfold ready
  dsimp only
  split
  · exact faultless_throw_bind rfl _
  refine faultless_isEnabled.bind fun enabled => ?_
  split
  · exact faultless_throw_bind rfl _
  · refine (faultless_waitSent _).bind fun _ => (faultless_sendTime size withBreak).bind fun time => ?_
    exact faultless_untilDeadline fun rounds => faultless_awaitTime time rounds

/-! ### The start of a transmission -/

/-- The task is told what the hardware could not do. -/
theorem error_of_dispatch {f : Port η → Applied ε × Port η} {r q : Port η} {e : PortError ε}
    (hnone : (f r).1.notice = none) (h : (dispatch w f).runFrom r = (.error e, q)) :
    (f r).1.result = .error e ∧ q = w.between (f r).2 := by
  rw [runFrom_dispatch hnone] at h
  obtain ⟨hresult, hend⟩ := Prod.mk.inj h
  exact ⟨hresult, hend.symm⟩

theorem sendFrame_zero (p : Port η) : (sendFrame w 0 withBreak).runFrom p =
    if p.enabled then (.ok 0, w.between p) else (.error .disabled, w.between p) := by
  have hroom : ¬maxFrameSize < 0 := Nat.not_lt_zero _
  unfold sendFrame
  rw [if_neg hroom, Run.runFrom_bind]
  show ((if !p.enabled then _ else _ : Session η ε Nat).runFrom (w.between p)) = _
  cases p.enabled <;> rfl

/-- A frame can fail to be sent while the task waits for the bus.  Then nothing is being sent, and the hardware is not
to blame.  Otherwise the hardware fails when the transmission begins, and the bus is sending then. -/
theorem sendFrame_failed (hw : Hardware η ε) (s : Surroundings η) (size : Nat) (withBreak : Bool)
    {p q : Port (η × Tally)} {e : PortError ε} (hp : p.bus.Reachable) (hidle : p.bus.isSending = false)
    (h : (sendFrame (s.world hw) size withBreak).runFrom p = (.error e, q)) :
    (q.bus.isSending = false ∧ e.isFault = false) ∨
    ∃ r, (ready (s.world hw) size withBreak).runFrom p = (.ok (), r) ∧ r.bus.isSending = false ∧
      let started := startFrame hw.tallied size withBreak r
      started.1.result = .error e ∧ e.isFault = true ∧ started.2.bus.isSending = true ∧
        q = (s.world hw).between started.2 := by
  have hothers := Quiet.keptByOthers s hw
  have hquiet : Quiet p := ⟨hp, hidle⟩
  by_cases hsize : size = 0
  · -- Nothing is sent then, but a port that is disabled says so.
    rw [hsize, sendFrame_zero] at h
    split at h
    · cases h
    · cases h
      exact .inl ⟨(hothers.between hquiet).idle, rfl⟩
  rw [sendFrame_eq hsize] at h
  have hready := Message.keeps_ready hothers size withBreak
  rcases Run.cases_of_bind h with hwaits | ⟨⟨⟩, r, hwaits, hstarts⟩
  · exact .inl ⟨(hready.of_runFrom hquiet hwaits).idle, faultless_ready size withBreak _ _ _ hwaits⟩
  have hr : Quiet r := hready.of_runFrom hquiet hwaits
  obtain ⟨hsilent, hsending⟩ := isSending_startFrame hw.tallied r hsize withBreak
  rcases Run.cases_of_bind hstarts with hstart | ⟨_, _, -, hdone⟩
  · obtain ⟨hresult, hend⟩ := error_of_dispatch hsilent hstart
    exact .inr ⟨r, hwaits, hr.idle, hresult, Port.isFault_applyAll hresult, hsending, hend⟩
  · cases hdone

open Simulation

/-- Nothing happens on the bench. -/
def stillness : World (Bench × Tally) Fault := Surroundings.world ⟨fun _ => [], fun _ => []⟩ Bench.hardware

/-- A responder on the bench, long after a request has come in. -/
def late (p : Port Bench) :
    Port (Bench × Tally) := (Bench.wait 10000 ((Port.enable Bench.hardware).runFrom p).2).tallied

/-- A responder does not begin to answer when it is too late. -/
theorem sendFrame_failed_late :
    ∃ p, Port.install Bench.hardware { PortConfig.standard with mode := .responder ⟨0x05E0, 1⟩ } (.new 128 []) =
      .ok p ∧
      ((sendFrame stillness 3 false).runFrom (late p)).1 = .error .tooLateToRespond ∧
      ((sendFrame stillness 3 false).after (late p)).bus.isSending = false := by
  have hfails {p : Port Bench} {e : PortError Fault}
      (hp : Port.install Bench.hardware { PortConfig.standard with mode := .responder ⟨0x05E0, 1⟩ } (.new 128 []) =
        .ok p)
      (hidle : (late p).bus.isSending = false) (h : ((sendFrame stillness 3 false).runFrom (late p)).1 = .error e)
      (he : e.isFault = false) : ((sendFrame stillness 3 false).after (late p)).bus.isSending = false := by
    have hreachable : (late p).bus.Reachable := Port.reachable_enable (Port.reachable_install hp)
    rcases sendFrame_failed Bench.hardware _ 3 false hreachable hidle (Prod.ext h rfl) with ⟨hend, -⟩
      | ⟨_, -, -, -, hfault, -⟩
    · exact hend
    · rw [he] at hfault
      cases hfault
  exact ⟨_, rfl, rfl, hfails rfl rfl rfl rfl⟩

/-- The timer cannot be set when the break begins.  The task is told so, but the bus is sending, and it stays so when
all calls work again: it can neither send nor be switched off. -/
theorem sending_after_failed_alarm : ∃ p, Port.install Bench.hardware .standard (.new 128 []) = .ok p ∧
    let loaded := afterCall Bench.world (.write 0 [0, 1, 2]) ((Port.enable Bench.hardware).runFrom p).2
    let failing := Bench.occur (.fail ["alarm"]) loaded
    let failed := (sendFrame Bench.world 3 true).after failing
    let mended := Bench.onBench (fun b => { b with failing := [], pauseMicros := 2000000 }) failed
    loaded.enabled = true ∧ loaded.bus.isSending = false ∧
      complaint? ((sendFrame Bench.world 3 true).runFrom failing).1 = some "fault alarm" ∧
      failed.bus.isSending = true ∧
      complaint? ((Port.disable Bench.hardware).runFrom mended).1 = some "port is still sending" ∧
      complaint? ((sendFrame Bench.world 3 true).runFrom mended).1 = some "port is still sending" :=
  ⟨_, rfl, by decide +kernel, by decide +kernel, by decide +kernel, by decide +kernel, by decide +kernel,
    by decide +kernel⟩

end Session

end LightBus
