import LightBus.Proofs.Port.Effects
import LightBus.Simulation.Bench

/-!
# The clock of a port

No call of the hardware sets the clock back (`Hardware.Onward`), and so nothing that a port does.
-/

namespace LightBus

variable {η ε : Type} {hw : Hardware η ε}

/-- The clock goes on, or stands still, while the hardware is used. -/
structure Hardware.Onward (hw : Hardware η ε) : Prop where
  enable (set : Interrupts) (h : η) : hw.clock h ≤ hw.clock (hw.enable set h)
  disable (set : Interrupts) (h : η) : hw.clock h ≤ hw.clock (hw.disable set h)
  clear (set : Interrupts) (h : η) : hw.clock h ≤ hw.clock (hw.clear set h)
  turn (direction : Direction) (h : η) : hw.clock h ≤ hw.clock ((hw.turn direction).runFrom h).2
  invert (inverted : Bool) (h : η) : hw.clock h ≤ hw.clock ((hw.invert inverted).runFrom h).2
  setAlarm (micros : UInt32) (h : η) : hw.clock h ≤ hw.clock ((hw.setAlarm micros).runFrom h).2
  cancelAlarm (h : η) : hw.clock h ≤ hw.clock (hw.cancelAlarm.runFrom h).2
  setBaud (baud : UInt32) (h : η) : hw.clock h ≤ hw.clock ((hw.setBaud baud).runFrom h).2
  readFifo (size : Nat) (h : η) : hw.clock h ≤ hw.clock ((hw.readFifo size).runFrom h).2
  discardFifo (h : η) : hw.clock h ≤ hw.clock (hw.discardFifo h).2
  writeFifo (bytes : List UInt8) (h : η) : hw.clock h ≤ hw.clock ((hw.writeFifo bytes).runFrom h).2
  resetRxFifo (h : η) : hw.clock h ≤ hw.clock (hw.resetRxFifo.runFrom h).2

namespace Port

variable {p : Port η}

private theorem clock_apply (hlaw : hw.Onward) (effect : Effect) :
    p.now hw ≤ ((apply hw effect).runFrom p).2.now hw := by
  cases effect with
  | resetRxFifo =>
    rw [apply, runFrom_onHardware_none]
    exact hlaw.resetRxFifo _
  | turn direction =>
    rw [apply, runFrom_onHardware_none]
    exact hlaw.turn direction _
  | invert inverted =>
    rw [apply, runFrom_onHardware_none]
    exact hlaw.invert inverted _
  | setAlarm micros =>
    rw [apply, runFrom_onHardware_none]
    exact hlaw.setAlarm micros _
  | cancelAlarm =>
    rw [apply, runFrom_onHardware_none]
    exact hlaw.cancelAlarm _
  | writeFifo first last =>
    rw [runFrom_apply_writeFifo]
    exact hlaw.writeFifo _ _
  | enableRx | enableTx => exact Nat.le_trans (hlaw.clear _ _) (hlaw.enable _ _)
  | disableRx | disableTxData | disableTx => exact hlaw.disable _ _
  | notify => exact Nat.le_refl _

private theorem clock_applyAll (hlaw : hw.Onward) (effects : List Effect) :
    p.now hw ≤ (applyAll hw effects p).2.now hw := by
  induction effects generalizing p with
  | nil => exact Nat.le_refl _
  | cons effect rest ih =>
    rw [applyAll_cons]
    exact Nat.le_trans (clock_apply hlaw effect) ih

theorem clock_dispatchAt (hlaw : hw.Onward) (event : BusEvent) (now : Nat) :
    p.now hw ≤ (dispatchAt hw event now p).2.now hw :=
  clock_applyAll (p := { p with bus := (p.bus.handle event now).2 }) hlaw _

theorem clock_raise (hlaw : hw.Onward) (event : BusEvent) (now : Nat) : p.now hw ≤ (p.raise hw event now).now hw := by
  rw [raise_eq_signal, signal_frame]
  exact clock_dispatchAt hlaw event now

private theorem clock_drain (hlaw : hw.Onward) : p.now hw ≤ (p.drain hw).2.now hw :=
  Nat.le_trans (hlaw.readFifo _ _) (hlaw.discardFifo _)

/-- Interrupts are served no earlier than they come. -/
theorem keptByInterrupts_clock (hlaw : hw.Onward) (time : Nat) : KeptByInterrupts hw fun p => time ≤ p.now hw where
  raise _ now hp := Nat.le_trans hp (clock_raise hlaw _ now)
  clear set hp := Nat.le_trans hp (hlaw.clear set _)
  drain hp := Nat.le_trans hp (clock_drain hlaw)
  estimate _ hp := hp
  measure _ hp := hp

end Port

namespace Simulation.Bench

private theorem time_note (name details : String) (b : Bench) : (note name details b).2.time = b.time := by
  obtain ⟨log, hnote⟩ := note_frame name details b
  rw [hnote]

/-- The time of the bench stands still while it is used. -/
theorem onward : hardware.Onward where
  enable _ _ := Nat.le_refl _
  disable _ _ := Nat.le_refl _
  clear _ _ := Nat.le_refl _
  turn _ b := Nat.le_of_eq (time_note _ _ b).symm
  invert _ b := Nat.le_of_eq (time_note _ _ b).symm
  setAlarm _ b := Nat.le_of_eq (time_note _ _ b).symm
  cancelAlarm b := Nat.le_of_eq (time_note _ _ b).symm
  setBaud _ b := Nat.le_of_eq (time_note _ _ b).symm
  readFifo room b := by
    show b.time ≤ (readFifo room b).2.time
    unfold readFifo
    split <;> exact Nat.le_refl _
  discardFifo b := by
    show b.time ≤ (discardFifo b).2.time
    unfold discardFifo
    split <;> exact Nat.le_refl _
  writeFifo _ b := Nat.le_of_eq (time_note _ _ b).symm
  resetRxFifo b := Nat.le_of_eq (time_note _ _ { b with rxFifo := [] }).symm

end Simulation.Bench

end LightBus
