import LightBus.Proofs.Port.Coupling
import LightBus.Simulation.Line

/-!
# The simulated line as hardware

The simulated line does what it is asked for, and a line that goes on by itself does not touch what the port has set,
but for an alarm that rings.
-/

namespace LightBus.Simulation.Line

variable {l : Line} {p : Port Line}

/-- What a port has set of the line. -/
def lines (l : Line) : Lines := ⟨l.enabled, if l.driving then .transmit else .receive, l.inverted, l.alarm.isSome⟩

/-! ### Calls -/

private theorem lines_updateTxData : l.updateTxData.lines = l.lines := by
  unfold updateTxData
  split <;> rfl

private theorem lines_shift : l.shift.lines = l.lines := by
  unfold shift
  split
  · rw [lines_updateTxData]
    dsimp only
    split <;> rfl
  · rfl

private theorem lines_writeFifo (bytes : List UInt8) : (writeFifo bytes l).2.lines = l.lines := by
  unfold writeFifo
  split
  · rfl
  · rw [lines_updateTxData, lines_shift]
    rfl

private theorem lines_clear (set : Interrupts) : (clear set l).lines = l.lines := by
  have hraised : (if l.rxFifo.isEmpty then { l with pending := l.pending.without set }
      else { l with pending := l.pending.without set }.raise .rxData : Line).lines = l.lines := by
    split <;> rfl
  unfold clear
  dsimp only
  split
  · rw [lines_updateTxData]
    exact hraised
  · exact hraised

private theorem lines_invert (inverted : Bool) : (invert inverted l).lines = { l.lines with inverted } := by
  unfold invert
  split
  · rename_i heq
    rw [← heq]
    rfl
  split <;> rfl

private theorem lines_turn (direction : Direction) :
    ({ l with driving := direction == .transmit } : Line).lines = { l.lines with direction } := by
  cases direction <;> rfl

/-- The line does what a port asks it for. -/
theorem lawful : hardware.Lawful lines where
  enable _ _ := rfl
  disable _ _ := rfl
  turn direction _ := lines_turn direction
  invert inverted _ := lines_invert inverted
  setAlarm _ _ := rfl
  cancelAlarm _ := rfl
  attachUart l := by
    show (attachUart l).2.lines = l.lines
    unfold attachUart
    split <;> rfl
  attachTimer l := by
    show (attachTimer l).2.lines = l.lines
    unfold attachTimer
    split <;> rfl
  setBaud _ _ := rfl
  readFifo _ _ := rfl
  discardFifo _ := rfl
  writeFifo bytes _ := lines_writeFifo bytes
  resetRxFifo _ := rfl
  resetTxFifo _ := rfl
  clear set _ := lines_clear set

/-! ### Time -/

private theorem lines_inject (reply : IncomingFrame) : (inject reply l).lines = l.lines := by
  unfold inject
  dsimp only
  split <;> rfl

private theorem lines_finishFrame : l.finishFrame.lines = l.lines := by
  unfold finishFrame
  dsimp only
  split
  · rw [lines_inject]
    rfl
  · rfl

private theorem lines_finishByte (byte : UInt8) : (finishByte byte l).lines = l.lines := by
  unfold finishByte
  dsimp only
  split
  · rw [lines_finishFrame]
    rfl
  · rw [lines_shift]
    rfl

private theorem lines_receive (item : Incoming) : (receive l item).lines = l.lines := by
  cases item with
  | edge level => rfl
  | byte b =>
    unfold receive
    dsimp only
    split
    · rfl
    split <;> rfl
  | «break» =>
    unfold receive
    dsimp only
    split <;> rfl

private theorem lines_foldl_receive (items : List Incoming) : (items.foldl receive l).lines = l.lines := by
  induction items generalizing l with
  | nil => rfl
  | cons item rest ih =>
    rw [List.foldl_cons, ih, lines_receive]

/-- The byte that is leaving has left, if its time has come. -/
def shifted (l : Line) : Line :=
  let l := { l with now := l.nextTime }
  match l.shifting with
  | some (byte, time) => if time ≤ l.now then l.finishByte byte else l
  | none => l

private theorem lines_shifted : l.shifted.lines = l.lines := by
  unfold shifted
  dsimp only
  split
  · split
    · rw [lines_finishByte]
      rfl
    · rfl
  · rfl

/-- Only an alarm that is set rings, and otherwise the line lets be what the port has set. -/
private theorem lines_advance :
    (l.advance.2.1 = true → l.lines.armed = true) ∧
      l.advance.2.2.lines = if l.advance.2.1 then l.lines.ring else l.lines := by
  have hrings : l.advance.2.1 = (l.shifted.timerAttached && l.shifted.alarm.any fun time =>
    decide (time ≤ l.shifted.now)) := rfl
  have hline :
      l.advance.2.2.lines = (if l.advance.2.1 then { l.shifted with alarm := none } else l.shifted).lines := by
    unfold advance
    dsimp only
    rw [lines_foldl_receive]
    rfl
  refine ⟨fun hring => ?_, ?_⟩
  · rw [hrings, Bool.and_eq_true] at hring
    rw [← lines_shifted]
    show l.shifted.alarm.isSome = true
    cases halarm : l.shifted.alarm with
    | none =>
      rw [halarm] at hring
      exact absurd hring.2 (by simp)
    | some time => rfl
  · rw [hline]
    split
    · rw [← lines_shifted (l := l)]
      rfl
    · exact lines_shifted

/-! ### The world of a task -/

/-- The edges that come due. -/
def onEdges (edges : List LineLevel) (p : Port Line) : Port Line :=
  edges.foldl (fun p level => p.onEdge hardware level) p

private theorem onEdges_of_hardware (edges : List LineLevel) {line : Line} (hclock : line.now = p.hardware.now) :
    onEdges edges { p with hardware := line } = { onEdges edges p with hardware := line } := by
  induction edges generalizing p with
  | nil => rfl
  | cons level rest ih =>
    have hstep :
        { p with hardware := line }.onEdge hardware level = { p.onEdge hardware level with hardware := line } :=
      Port.onEdge_of_hardware level hclock
    have hnext : line.now = (p.onEdge hardware level).hardware.now := by
      rw [Port.hardware_onEdge]
      exact hclock
    exact (congrArg (onEdges rest) hstep).trans (ih hnext)

private theorem hardware_onEdges (edges : List LineLevel) : (onEdges edges p).hardware = p.hardware := by
  induction edges generalizing p with
  | nil => rfl
  | cons level rest ih => exact ih.trans (Port.hardware_onEdge level)

private theorem reached_onEdges (edges : List LineLevel) (h : p.Reached hardware lines) :
    (onEdges edges p).Reached hardware lines := by
  induction edges generalizing p with
  | nil => exact h
  | cons level rest ih => exact ih (h.edge level)

/-- An alarm that rings may be told after the edges that come due with it, since edges have nothing to do with it. -/
private theorem reached_of_ring (h : p.Reached hardware lines) (edges : List LineLevel) {line : Line}
    (harmed : p.hardware.lines.armed = true) (hline : line.lines = p.hardware.lines.ring) :
    ((onEdges edges { p with hardware := line }).onAlarm hardware).Reached hardware lines := by
  let before : Port Line := { p with hardware := { line with alarm := p.hardware.alarm } }
  have hlines : before.hardware.lines = p.hardware.lines := by
    show { line.lines with armed := p.hardware.lines.armed } = p.hardware.lines
    rw [hline]
    rfl
  have hedges : (onEdges edges before).Reached hardware lines := reached_onEdges edges (h.others hlines rfl rfl)
  have hsame : lines (onEdges edges before).hardware = p.hardware.lines := by
    rw [hardware_onEdges]
    exact hlines
  have hring : line.lines = (lines (onEdges edges before).hardware).ring := by rw [hsame, hline]
  have hcommute : onEdges edges { p with hardware := line } = { onEdges edges before with hardware := line } :=
    onEdges_of_hardware (p := before) edges rfl
  rw [hcommute]
  exact hedges.alarm (hsame ▸ harmed) hring

private theorem step_eq : step p =
    let q := onEdges p.hardware.advance.1 { p with hardware := p.hardware.advance.2.2 }
    let q := if p.hardware.advance.2.1 then q.onAlarm hardware else q
    if (q.hardware.pending.inter q.hardware.enabled).isEmpty then q else q.onUart hardware := rfl

/-- The line goes on as it may in a run. -/
theorem reached_step (h : p.Reached hardware lines) : (step p).Reached hardware lines := by
  obtain ⟨harmed, hline⟩ := lines_advance (l := p.hardware)
  have hserved {q : Port Line} (hq : q.Reached hardware lines) :
      (if (q.hardware.pending.inter q.hardware.enabled).isEmpty then q else q.onUart hardware).Reached
        hardware lines := by
    split
    · exact hq
    · exact hq.uart
  rw [step_eq]
  refine hserved ?_
  cases hrings : p.hardware.advance.2.1 with
  | true =>
    rw [hrings] at harmed hline
    rw [if_pos rfl]
    exact reached_of_ring h _ (harmed rfl) hline
  | false =>
    rw [hrings] at hline
    rw [if_neg Bool.false_ne_true]
    exact reached_onEdges _ (h.others hline rfl rfl)

private theorem enabled_onEdges (edges : List LineLevel) : (onEdges edges p).enabled = p.enabled := by
  induction edges generalizing p with
  | nil => rfl
  | cons level rest ih => exact ih.trans ((Port.keptByInterrupts_enabled p.enabled).onEdge level rfl)

theorem enabled_step : (step p).enabled = p.enabled := by
  have hserved {q : Port Line} (hq : q.enabled = p.enabled) :
      (if (q.hardware.pending.inter q.hardware.enabled).isEmpty then q else q.onUart hardware).enabled =
        p.enabled := by
    split
    · exact hq
    · exact (Port.keptByInterrupts_enabled p.enabled).onUart hq
  rw [step_eq]
  refine hserved ?_
  split
  · exact (Port.enabled_raise _ _).trans (enabled_onEdges _)
  · exact enabled_onEdges _

end LightBus.Simulation.Line
