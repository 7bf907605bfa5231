import LightBus.Bus

/-!
# Traces of the bus

States and effects as text, for a record of what a port does.
-/

namespace LightBus

def RxState.name : RxState → String
  | .idle => "Idle"
  | .inBreak => "InBreak"
  | .inMark => "InMarkAfterBreak"
  | .receiving => "ReceivingData"
  | .complete => "FrameComplete"
  | .failed => "FrameError"

def TxState.name : TxState → String
  | .idle => "Idle"
  | .inBreak => "Break"
  | .inMark => "MarkAfterBreak"
  | .sending => "Data"
  | .done => "Done"

/-- The text of an effect. A notice has none of its own. -/
def Effect.text : Effect → String
  | .resetRxFifo => "ResetRxFifo"
  | .enableRx => "EnableRx"
  | .disableRx => "DisableRx"
  | .enableTx => "EnableTx"
  | .disableTxData => "DisableTxData"
  | .disableTx => "DisableTx"
  | .turn direction => s!"Direction({direction.name})"
  | .invert inverted => s!"InvertTx({inverted})"
  | .setAlarm micros => s!"SetAlarm({micros.toNat})"
  | .cancelAlarm => "CancelAlarm"
  | .writeFifo first last => s!"WriteFifo({first},{last})"
  | .notify _ => "Notify"

end LightBus
