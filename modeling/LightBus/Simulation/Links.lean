import LightBus.Link
import LightBus.Simulation.Fault

/-!
# Links to try controllers and responders with

Links that answer as they are told and record what is sent over them.
-/

namespace LightBus.Simulation

/-- The error with the given name. Names of no error stand for faults. -/
def namedError : String → LinkError Fault
  | "UartOverflow" => .uartOverflow
  | "TimeoutError" => .timeout
  | "FramingError" => .framing
  | "Collision" => .collision
  | "BufferTooSmall" => .bufferTooSmall
  | "WrongChecksum" => .frame .wrongChecksum
  | "WrongStartCode" => .frame .wrongStart
  | name => .driver ⟨name⟩

/-- What was sent over a link. -/
inductive Sent where
  | request (request : Request)
  | levels (levels : List UInt8)
  | slots (startCode : UInt8) (slots : List UInt8)
  | response (response : Response)
  | here (uid : Uid)
  /-- Nothing; the link went back to receiving. -/
  | skip
deriving DecidableEq

/-- The link of a controller: how it answers, and what was sent. -/
structure Outbox (ε : Type) where
  onRequest : Request → Except (LinkError ε) (Option Response)
  onProbe : Except (LinkError ε) ProbeResult
  onLevels : Except (LinkError ε) Unit
  sent : List Sent

/-- The link of a responder: what it receives next, how sending fails once, and what was sent. -/
structure Inbox (ε : Type) where
  incoming : Except (LinkError ε) (List UInt8)
  sendFailure : Option (LinkError ε)
  sent : List Sent

variable {ε : Type}

/-- What is sent is recorded, whatever comes of it. -/
def Outbox.link : ControllerLink (Outbox ε) ε where
  request := fun r box => (box.onRequest r, { box with sent := box.sent ++ [.request r] })
  probe := fun r box => (box.onProbe, { box with sent := box.sent ++ [.request r] })
  sendLevels := fun levels box => (box.onLevels, { box with sent := box.sent ++ [.levels levels] })
  sendSlots := fun startCode slots box => (box.onLevels, { box with sent := box.sent ++ [.slots startCode slots] })

private def Inbox.send (item : Sent) : Run (Inbox ε) (LinkError ε) Unit := fun box =>
  let after : Inbox ε := { box with sendFailure := none, sent := box.sent ++ [item] }
  match box.sendFailure with
  | some error => (.error error, after)
  | none => (.ok (), after)

/-- Only one frame is received. -/
def Inbox.link : ResponderLink (Inbox ε) ε where
  receive := fun box => (box.incoming, { box with incoming := .error .timeout })
  sendResponse := fun r => Inbox.send (.response r)
  sendHere := fun uid => Inbox.send (.here uid)
  skip := Inbox.send .skip

end LightBus.Simulation
