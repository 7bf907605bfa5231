import LightBus.Package.Frame
import LightBus.Run

/-!
# Links

A link is what a controller or a responder is connected to: a port of this library, or anything else that can
carry packages. `σ` is the state behind the link, and `ε` are the errors of its own.
-/

namespace LightBus

/-- Why a link could not carry a package. -/
inductive LinkError (ε : Type) where
  | uartOverflow
  /-- Nothing came in time. -/
  | timeout
  | framing
  /-- Several devices were sending at the same time. -/
  | collision
  | bufferTooSmall
  | frame (error : FrameError)
  /-- An error of the link's own. -/
  | driver (error : ε)

namespace LinkError

variable {ε : Type} [Failure ε]

def message : LinkError ε → String
  | .uartOverflow => "uart overflowed"
  | .timeout => "request timed out"
  | .framing => "framing error on the line"
  | .collision => "data collision"
  | .bufferTooSmall => "buffer too small for the frame"
  | .frame error => error.message
  | .driver error => Failure.message error

def kind : LinkError ε → String
  | .uartOverflow => "UartOverflow"
  | .timeout => "TimeoutError"
  | .framing => "FramingError"
  | .collision => "Collision"
  | .bufferTooSmall => "BufferTooSmall"
  | .frame error => "DeserializationError." ++ error.kind
  | .driver error => "DriverError." ++ Failure.kind error

instance : Failure (LinkError ε) := ⟨kind, message⟩

end LinkError

/-- What a branch probe brought. -/
inductive ProbeResult where
  | nobody
  /-- Several devices answered. -/
  | collision
  | found (uid : Uid)
deriving DecidableEq

/-- What a controller can do on a link. -/
structure ControllerLink (σ ε : Type) where
  /-- Sends a request with a transaction number of the link's own, and waits for the response. A broadcast has
  none. -/
  request : Request → Run σ (LinkError ε) (Option Response)
  /-- Sends a branch probe and listens for the devices of the branch. -/
  probe : Request → Run σ (LinkError ε) ProbeResult
  sendLevels : List UInt8 → Run σ (LinkError ε) Unit
  /-- Sends slots after the given start code. -/
  sendSlots : UInt8 → List UInt8 → Run σ (LinkError ε) Unit

/-- What a responder can do on a link. -/
structure ResponderLink (σ ε : Type) where
  /-- The next frame, with its start code. -/
  receive : Run σ (LinkError ε) (List UInt8)
  sendResponse : Response → Run σ (LinkError ε) Unit
  /-- Answers a branch probe. -/
  sendHere : Uid → Run σ (LinkError ε) Unit
  /-- There is nothing to send, so the link goes back to receiving. -/
  skip : Run σ (LinkError ε) Unit

end LightBus
