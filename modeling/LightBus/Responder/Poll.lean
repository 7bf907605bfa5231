import LightBus.Link
import LightBus.Package.Frame
import LightBus.Responder

/-!
# Polling

A responder takes one frame after the other from its link. Packages are answered, all other frames go to the
application.
-/

namespace LightBus

/-- A device on a link, and what its application remembers. -/
structure Responder (κ υ σ : Type) where
  device : Device κ
  memory : υ
  link : σ

/-- Why a frame could not be handled. -/
inductive PollError (δ ε : Type) where
  | uartOverflow
  | timeout
  | framing
  | collision
  | bufferTooSmall
  /-- A frame without a start code. -/
  | emptyFrame
  /-- The package is a response. -/
  | notMatching
  | driver (error : δ)
  | handler (error : ε)
  | frame (error : FrameError)

namespace PollError

variable {δ ε : Type}

def message [Failure δ] [Failure ε] : PollError δ ε → String
  | .uartOverflow => "Uart overflow."
  | .timeout => "Timeout error."
  | .framing => "Framing error."
  | .collision => "Data collision."
  | .bufferTooSmall => "The frame did not fit into the buffer."
  | .emptyFrame => "The package size is insufficient."
  | .notMatching => "Received response and not request."
  | .driver error => Failure.message error
  | .handler error => Failure.message error
  | .frame _ => "Deserialization error."

def kind [Failure δ] [Failure ε] : PollError δ ε → String
  | .uartOverflow => "UartOverflow"
  | .timeout => "TimeoutError"
  | .framing => "FramingError"
  | .collision => "Collision"
  | .bufferTooSmall => "BufferTooSmall"
  | .emptyFrame => "WrongPackageSize"
  | .notMatching => "NotMatching"
  | .driver error => "DriverError." ++ Failure.kind error
  | .handler error => "HandlerError." ++ Failure.kind error
  | .frame error => "DeserializationError." ++ error.kind

instance [Failure δ] [Failure ε] : Failure (PollError δ ε) := ⟨kind, message⟩

def ofLink : LinkError δ → PollError δ ε
  | .uartOverflow => .uartOverflow
  | .timeout => .timeout
  | .framing => .framing
  | .collision => .collision
  | .bufferTooSmall => .bufferTooSmall
  | .frame error => .frame error
  | .driver error => .driver error

end PollError

namespace Responder

variable {κ υ σ δ ε α : Type}

/-- Lets the link do something. -/
def onLink (a : Run σ (LinkError δ) α) : Run (Responder κ υ σ) (PollError δ ε) α :=
  (a.mapError PollError.ofLink).within Responder.link fun r link => { r with link }

/-- Lets the application do something. -/
def onDevice (f : Device κ → υ → Except ε α × Device κ × υ) : Run (Responder κ υ σ) (PollError δ ε) α :=
  .of fun r =>
    let (result, device, memory) := f r.device r.memory
    (result.mapError .handler, { r with device, memory })

/-- Answers a package. What is not a request is closed without an answer and is an error. -/
def answerPackage (app : Application κ υ ε) (link : ResponderLink σ δ) (frame : List UInt8) :
    Run (Responder κ υ σ) (PollError δ ε) Unit := do
  match Package.ofFrame? frame with
  | .error error => do
    onLink link.skip
    throw (.frame error)
  | .ok (.response _) => do
    onLink link.skip
    throw .notMatching
  | .ok (.request request) =>
    match ← onDevice (Device.handle app request) with
    | .response response => onLink (link.sendResponse response)
    | .here uid => onLink (link.sendHere uid)
    | .silent => onLink link.skip

/-- Takes one frame from the link and handles it. Tells whether there was one. -/
def poll (app : Application κ υ ε) (link : ResponderLink σ δ) : Run (Responder κ υ σ) (PollError δ ε) Bool := do
  match ← (onLink link.receive : Run (Responder κ υ σ) (PollError δ ε) (List UInt8)).attempt with
  | .error .timeout => return false
  | .error error => throw error
  | .ok [] => throw .emptyFrame
  | .ok (startCode :: slots) =>
    if startCode = rdmStart then answerPackage app link (startCode :: slots)
    else onDevice (app.levels (startCode :: slots))
    return true

end Responder

end LightBus
