import LightBus.Proofs.Port.Effects
import LightBus.Proofs.Session.Keeps

/-!
# Port and lines

`Port.Reached` are the ports that a run leads to: one is installed, switched on and off, and set, tasks do their steps
with it, and interrupts come at any time.  In all of them the lines fit what the bus is doing
(`Port.Reached.coupled`).  What tasks can do with a port is made of such steps (`Port.keptBySteps_reached`).
-/

namespace LightBus.Port

variable {η ε : Type} {hw : Hardware η ε} {lines : η → Lines} {p p' : Port η}

/-! ### Runs -/

/-- The ports that a run leads to.  The hardware is at rest when the port is installed, an alarm rings only if it is
set, and a task sends only with a port that is switched on. -/
inductive Reached (hw : Hardware η ε) (lines : η → Lines) : Port η → Prop where
  | install {config : PortConfig} {hardware : η} {p : Port η} (hinverted : (lines hardware).inverted = false)
    (harmed : (lines hardware).armed = false) (hinstalled : install hw config hardware = .ok p) : Reached hw lines p
  | enable {p : Port η} (h : Reached hw lines p) : Reached hw lines ((enable hw).runFrom p).2
  | disable {p : Port η} (h : Reached hw lines p) : Reached hw lines ((disable hw).runFrom p).2
  | uart {p : Port η} (h : Reached hw lines p) : Reached hw lines (p.onUart hw)
  | alarm {p : Port η} {hardware : η} (h : Reached hw lines p) (harmed : (lines p.hardware).armed = true)
    (hrang : lines hardware = (lines p.hardware).ring) : Reached hw lines ({ p with hardware }.onAlarm hw)
  | edge {p : Port η} (h : Reached hw lines p) (level : LineLevel) : Reached hw lines (p.onEdge hw level)
  | setMode {p : Port η} (h : Reached hw lines p) (mode : Mode) :
    Reached hw lines ((setMode mode : Run (Port η) (PortError ε) Unit).runFrom p).2
  | setBaud {p : Port η} (h : Reached hw lines p) (baud : UInt32) : Reached hw lines ((setBaud hw baud).runFrom p).2
  | setBreak {p : Port η} (h : Reached hw lines p) (micros : UInt32) : Reached hw lines (p.setBreak micros).2
  | setMark {p : Port η} (h : Reached hw lines p) (micros : UInt32) : Reached hw lines (p.setMark micros).2
  | start {p : Port η} (h : Reached hw lines p) (henabled : p.enabled = true) (size : Nat) (withBreak : Bool) :
    Reached hw lines (Session.startFrame hw size withBreak p).2
  | listen {p : Port η} (h : Reached hw lines p) : Reached hw lines (p.dispatch hw .receiveRequested).2
  | write {p : Port η} (h : Reached hw lines p) (start : Nat) (bytes : List UInt8) :
    Reached hw lines { p with bus := p.bus.write start bytes }
  /-- Time goes on, slots come in, and tasks keep their books. -/
  | others {p p' : Port η} (h : Reached hw lines p) (hlines : lines p'.hardware = lines p.hardware)
    (hbus : p'.bus = p.bus) (henabled : p'.enabled = p.enabled) : Reached hw lines p'

/-- The lines of the port fit what its bus is doing. -/
structure Coupled (lines : η → Lines) (p : Port η) : Prop where
  bus : Bus.Coupled (lines p.hardware) p.bus
  /-- A port that is switched off sends nothing. -/
  quiet : p.enabled = false → p.bus.isSending = false

theorem Coupled.of_eq (h : Coupled lines p) (hlines : lines p'.hardware = lines p.hardware) (hbus : p'.bus = p.bus)
    (henabled : p'.enabled = p.enabled) : Coupled lines p' := by
  refine ⟨?_, ?_⟩
  · rw [hlines, hbus]
    exact h.bus
  · rw [hbus, henabled]
    exact h.quiet

/-! ### Events -/

private theorem Coupled.quiet_dispatchAt (h : Coupled lines p) {event : BusEvent}
    (hstart : event.isStart = true → p.enabled = true) (now : Nat)
    (hoff : (dispatchAt hw event now p).2.enabled = false) :
    (dispatchAt hw event now p).2.bus.isSending = false := by
  rw [enabled_dispatchAt] at hoff
  rw [bus_dispatchAt]
  have hevent : event.isStart = false := by
    cases hstarts : event.isStart with
    | true => exact absurd (hstart hstarts) (ne_true_of_eq_false hoff)
    | false => rfl
  exact h.bus.inStep.isSending_handle (h.quiet hoff) hevent now

private theorem Coupled.dispatchAt (h : Coupled lines p) (hlaw : hw.Lawful lines) {event : BusEvent}
    (halarm : event.isAlarm = false) (hstart : event.isStart = true → p.enabled = true) (now : Nat) :
    Coupled lines (dispatchAt hw event now p).2 := by
  have hbus := h.bus.handle event now
  rw [halarm] at hbus
  refine ⟨?_, h.quiet_dispatchAt hstart now⟩
  rw [lines_dispatchAt hlaw, bus_dispatchAt]
  exact hbus

private theorem Coupled.signal (h : Coupled lines p) (n : Option Notice) : Coupled lines (p.signal n) := by
  cases n with
  | none => exact h
  | some n => exact h.of_eq rfl rfl rfl

private theorem Coupled.raise (h : Coupled lines p) (hlaw : hw.Lawful lines) {event : BusEvent}
    (hevent : event.isInterrupt = true) (now : Nat) : Coupled lines (p.raise hw event now) := by
  obtain ⟨halarm, hstart⟩ := BusEvent.not_alarm_of_isInterrupt hevent
  rw [raise_eq_signal]
  exact (h.dispatchAt hlaw halarm (fun hstarts => absurd hstarts (ne_true_of_eq_false hstart)) now).signal _

private theorem Coupled.onAlarm (h : Coupled lines p) (hlaw : hw.Lawful lines) {hardware : η}
    (hrang : lines hardware = (lines p.hardware).ring) : Coupled lines ({ p with hardware }.onAlarm hw) := by
  have hdispatched (space now : Nat) :
      Coupled lines (Port.dispatchAt hw (.alarm space) now { p with hardware }).2 := by
    have hbus := h.bus.handle (.alarm space) now
    refine ⟨?_, fun hoff => ?_⟩
    · rw [lines_dispatchAt hlaw, bus_dispatchAt, hrang]
      exact hbus
    · rw [enabled_dispatchAt] at hoff
      rw [bus_dispatchAt]
      exact h.bus.inStep.isSending_handle (h.quiet hoff) rfl now
  rw [Port.onAlarm, raise_eq_signal]
  exact (hdispatched _ _).signal _

private theorem keptByInterrupts_coupled (hlaw : hw.Lawful lines) : KeptByInterrupts hw (Coupled lines) where
  raise hevent now hp := hp.raise hlaw hevent now
  clear set hp := hp.of_eq (hlaw.clear set _) rfl rfl
  drain {p} hp := by
    -- Reading the fifo changes no line, and filling the buffer changes nothing that the lines depend on.
    have hlines : lines (p.drain hw).2.hardware = lines p.hardware := by
      show lines (hw.discardFifo ((hw.readFifo p.bus.window).runFrom p.hardware).2).2 = _
      rw [hlaw.discardFifo, hlaw.readFifo]
    refine ⟨?_, hp.quiet⟩
    rw [hlines]
    exact hp.bus.of_eq rfl rfl rfl rfl rfl rfl
  estimate _ hp := hp.of_eq rfl rfl rfl
  measure _ hp := hp.of_eq rfl rfl rfl

/-! ### Switching -/

private theorem coupled_install (hlaw : hw.Lawful lines) {config : PortConfig} {hardware : η}
    (hinverted : (lines hardware).inverted = false) (harmed : (lines hardware).armed = false)
    (hinstalled : install hw config hardware = .ok p) : Coupled lines p := by
  unfold install at hinstalled
  split at hinstalled
  · cases hinstalled
  rename_i h₁ huart
  split at hinstalled
  · cases hinstalled
  rename_i h₂ hbaud
  split at hinstalled
  · cases hinstalled
  rename_i h₃ htimer
  have hlines :
      lines h₃ = { lines hardware with enabled := (lines hardware).enabled.without (.union .allRx .allTx) } := by
    have h₁eq := hlaw.attachUart hardware
    have h₂eq := hlaw.setBaud (clampBaud config.baud) h₁
    have h₃eq := hlaw.attachTimer (hw.disable (.union .allRx .allTx) h₂)
    rw [huart] at h₁eq
    rw [hbaud] at h₂eq
    rw [htimer, hlaw.disable] at h₃eq
    dsimp only at h₁eq h₂eq h₃eq
    rw [h₃eq, h₂eq, h₁eq]
  cases hinstalled
  refine ⟨?_, fun _ => rfl⟩
  dsimp only
  rw [hlines]
  exact Bus.coupled_new _ _ (Interrupts.inter_without_of_subset rfl) (Interrupts.inter_without_of_subset rfl)
    hinverted harmed

private theorem Coupled.applyAll (hlaw : hw.Lawful lines) {effects : List Effect} {bus : Bus}
    (hbus : Bus.Coupled ((lines p.hardware).afterAll effects) bus)
    (hquiet : p.enabled = false → bus.isSending = false) :
    Coupled lines (applyAll hw effects { p with bus }).2 := by
  have hlines := lines_applyAll (p := { p with bus }) hlaw effects
  rw [applyAll_frame] at hlines ⊢
  refine ⟨?_, hquiet⟩
  rw [hlines]
  exact hbus

private theorem Coupled.enable (h : Coupled lines p) (hlaw : hw.Lawful lines) :
    Coupled lines ((enable hw).runFrom p).2 := by
  have hon : Coupled lines ((switchOn hw).runFrom p).2 := by
    cases henabled : p.enabled with
    | true =>
      rw [runFrom_switchOn_of_enabled henabled]
      exact h
    | false =>
      rw [runFrom_switchOn_of_disabled henabled]
      have hreset := hlaw.resetTxFifo p.hardware
      rcases hresult : hw.resetTxFifo.runFrom p.hardware with ⟨_ | _, hardware⟩
      · rw [hresult] at hreset
        exact h.of_eq hreset rfl rfl
      · rw [hresult] at hreset
        have hstart := h.bus.start (h.quiet henabled)
        rw [← hreset] at hstart
        exact Coupled.applyAll (p := { p with hardware, enabled := true }) hlaw hstart (by simp)
  exact hon.of_eq rfl rfl rfl

private theorem Coupled.disable (h : Coupled lines p) (hlaw : hw.Lawful lines) :
    Coupled lines ((disable hw).runFrom p).2 := by
  have hstopped : Coupled lines (stopBus hw { p with enabled := false }).2 :=
    Coupled.applyAll (p := { p with enabled := false }) hlaw Bus.coupled_stop fun _ => rfl
  show Coupled lines (if !p.enabled then (.ok (), p) else if p.bus.isSending then (.error .stillSending, p)
    else stopBus hw { p with enabled := false }).2
  split
  · exact h
  split
  · exact h
  · exact hstopped

/-! ### Settings -/

private theorem Coupled.setMode (h : Coupled lines p) (mode : Mode) :
    Coupled lines ((setMode mode : Run (Port η) (PortError ε) Unit).runFrom p).2 := by
  show Coupled lines (if p.bus.isSending then ((.error .stillSending : Except (PortError ε) Unit), p)
    else (.ok (), { p with bus := { p.bus with mode } })).2
  split
  · exact h
  · exact ⟨h.bus.of_eq rfl rfl rfl rfl rfl rfl, h.quiet⟩

private theorem Coupled.setBaud (h : Coupled lines p) (hlaw : hw.Lawful lines) (baud : UInt32) :
    Coupled lines ((setBaud hw baud).runFrom p).2 := by
  have hset := hlaw.setBaud (clampBaud baud) p.hardware
  unfold Port.setBaud
  rw [Run.runFrom_bind, runFrom_onHardware]
  rcases hresult : (hw.setBaud (clampBaud baud)).runFrom p.hardware with ⟨_ | _, hardware⟩
  · rw [hresult] at hset
    exact h.of_eq hset rfl rfl
  · rw [hresult] at hset
    exact h.of_eq hset rfl rfl

/-! ### Tasks -/

private theorem Coupled.write (h : Coupled lines p) (start : Nat) (bytes : List UInt8) :
    Coupled lines { p with bus := p.bus.write start bytes } :=
  ⟨h.bus.of_eq rfl rfl rfl rfl rfl rfl, h.quiet⟩

private theorem Coupled.stamp (h : Coupled lines p) (size : Nat) (withBreak : Bool) :
    Coupled lines (Session.stamp p size withBreak) := by
  unfold Session.stamp
  dsimp only
  split
  · exact (h.write 0 _).of_eq rfl rfl rfl
  · exact h

private theorem enabled_stamp (size : Nat) (withBreak : Bool) :
    (Session.stamp p size withBreak).enabled = p.enabled := by
  unfold Session.stamp
  dsimp only
  split <;> rfl

private theorem Coupled.startFrame (h : Coupled lines p) (hlaw : hw.Lawful lines) (henabled : p.enabled = true)
    (size : Nat) (withBreak : Bool) : Coupled lines (Session.startFrame hw size withBreak p).2 := by
  have hnoted (lastTransfer : LastTransfer) :
      Coupled lines { Session.stamp p size withBreak with lastTransfer, notice := none } :=
    (h.stamp size withBreak).of_eq rfl rfl rfl
  exact (hnoted _).dispatchAt hlaw rfl (fun _ => (enabled_stamp size withBreak).trans henabled) _

theorem enabled_startFrame (size : Nat) (withBreak : Bool) :
    (Session.startFrame hw size withBreak p).2.enabled = p.enabled := by
  unfold Session.startFrame dispatch
  rw [enabled_dispatchAt]
  exact enabled_stamp size withBreak

/-! ### All runs -/

/-- In every run the lines fit what the bus is doing. -/
theorem Reached.coupled (hlaw : hw.Lawful lines) (h : Reached hw lines p) : Coupled lines p := by
  induction h with
  | install hinverted harmed hinstalled => exact coupled_install hlaw hinverted harmed hinstalled
  | enable _ ih => exact ih.enable hlaw
  | disable _ ih => exact ih.disable hlaw
  | uart _ ih => exact (keptByInterrupts_coupled hlaw).onUart ih
  | alarm _ _ hrang ih => exact ih.onAlarm hlaw hrang
  | edge _ level ih => exact (keptByInterrupts_coupled hlaw).onEdge level ih
  | setMode _ mode ih => exact ih.setMode mode
  | setBaud _ baud ih => exact ih.setBaud hlaw baud
  | setBreak _ micros ih => exact ⟨ih.bus.of_eq rfl rfl rfl rfl rfl rfl, ih.quiet⟩
  | setMark _ micros ih => exact ⟨ih.bus.of_eq rfl rfl rfl rfl rfl rfl, ih.quiet⟩
  | start _ henabled size withBreak ih => exact ih.startFrame hlaw henabled size withBreak
  | listen _ ih => exact ih.dispatchAt hlaw rfl (fun hstart => by cases hstart) _
  | write _ start bytes ih => exact ih.write start bytes
  | others _ hlines hbus henabled ih => exact ih.of_eq hlines hbus henabled

/-- The steps of a task lead from one port of a run to the next, as long as nobody switches the port meanwhile and
others do no more than they may in a run. -/
theorem keptBySteps_reached {w : World η ε} (enabled : Bool)
    (hbetween : ∀ p, Reached w.hardware lines p → Reached w.hardware lines (w.between p) ∧
      (w.between p).enabled = p.enabled)
    (hpause : ∀ p, Reached w.hardware lines p → Reached w.hardware lines (w.pause p) ∧
      (w.pause p).enabled = p.enabled) :
    Session.KeptBySteps w enabled fun p => Reached w.hardware lines p ∧ p.enabled = enabled where
  between hp := ⟨(hbetween _ hp.1).1, (hbetween _ hp.1).2.trans hp.2⟩
  pause hp := ⟨(hpause _ hp.1).1, (hpause _ hp.1).2.trans hp.2⟩
  isEnabled hp := hp.2
  start henabled size withBreak hp :=
    ⟨hp.1.start (hp.2.trans henabled) size withBreak, (enabled_startFrame size withBreak).trans hp.2⟩
  listen hp := ⟨hp.1.listen, (enabled_dispatchAt _ _).trans hp.2⟩
  write start bytes hp := ⟨hp.1.write start bytes, hp.2⟩
  notice _ hp := ⟨hp.1.others rfl rfl rfl, hp.2⟩
  lastTransfer _ hp := ⟨hp.1.others rfl rfl rfl, hp.2⟩
  tickets _ hp := ⟨hp.1.others rfl rfl rfl, hp.2⟩

end LightBus.Port
