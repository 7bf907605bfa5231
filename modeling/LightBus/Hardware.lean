import LightBus.Bus.Notice
import LightBus.Hardware.Interrupts
import LightBus.Run

/-!
# Hardware

What a port needs of a uart, of the transceiver behind it and of a timer. `η` is the state of the hardware, and
`ε` are its errors.
-/

namespace LightBus

/-- The operations of a uart and a timer. -/
structure Hardware (η ε : Type) where
  attachUart : Run η ε Unit
  detachUart : Run η ε Unit
  setBaud : UInt32 → Run η ε Unit
  /-- Takes received bytes out of the fifo, at most so many. -/
  readFifo : Nat → Run η ε (List UInt8)
  /-- Throws away the received bytes that are left in the fifo, and counts them. -/
  discardFifo : η → Nat × η
  /-- The room in the transmit fifo. -/
  space : η → Nat
  /-- Puts bytes into the transmit fifo, never more than there is room for. -/
  writeFifo : List UInt8 → Run η ε Unit
  resetRxFifo : Run η ε Unit
  resetTxFifo : Run η ε Unit
  /-- The interrupts that are pending and enabled. -/
  interrupts : η → Interrupts
  enable : Interrupts → η → η
  disable : Interrupts → η → η
  clear : Interrupts → η → η
  /-- Turns the transceiver. -/
  turn : Direction → Run η ε Unit
  /-- Inverts the transmit line, so that it is low while nothing is sent. -/
  invert : Bool → Run η ε Unit
  attachTimer : Run η ε Unit
  detachTimer : Run η ε Unit
  /-- The time in microseconds. -/
  clock : η → Nat
  /-- The timer rings once after so many microseconds, and no longer at the time that was set before. -/
  setAlarm : UInt32 → Run η ε Unit
  cancelAlarm : Run η ε Unit

end LightBus
