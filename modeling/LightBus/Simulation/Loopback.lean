import LightBus.Controller
import LightBus.Discovery.Reply
import LightBus.Responder

/-!
# A device without a line

A controller and a device that pass each other frames.  Nothing is lost on the way, and nothing takes time.
-/

namespace LightBus.Simulation

/-- The device at the other end, and what its application remembers. -/
structure Loopback (κ υ : Type) where
  device : Device κ
  memory : υ

namespace Loopback

variable {κ υ ε : Type}

/-- The device takes a frame. Only a request has an answer. -/
def deliver (app : Application κ υ ε) (frame : List UInt8) : Run (Loopback κ υ) (LinkError ε) Answer :=
  match Package.ofFrame? frame with
  | .error error => throw (.frame error)
  | .ok (.response _) => return .silent
  | .ok (.request request) => .of fun loop =>
    let (answer, device, memory) := loop.device.handle app request loop.memory
    (answer.mapError .driver, ⟨device, memory⟩)

/-- What the controller gets of the answer to its request. -/
def returned (request : Request) : Answer → Except (LinkError ε) (Option Response)
  | .response response =>
    match Package.ofFrame? (Package.response response).frame with
    | .error error => .error (.frame error)
    | .ok (.request _) => .error .timeout
    | .ok (.response received) => .ok (some received)
  | .here _ | .silent => if request.destination.isBroadcast then .ok none else .error .timeout

/-- What the controller gets of the answer to a branch probe. -/
def probed : Answer → ProbeResult
  | .here uid =>
    match Discovery.uidOfReply? (Discovery.replyFrame uid maxPreambleLength) with
    | .ok uid => .found uid
    | .error _ => .collision
  | .response _ => .collision
  | .silent => .nobody

private def play (app : Application κ υ ε) (frame : List UInt8) : Run (Loopback κ υ) (LinkError ε) Unit :=
  .of fun loop =>
    let (result, device, memory) := app.levels frame loop.device loop.memory
    (result.mapError .driver, ⟨device, memory⟩)

def link (app : Application κ υ ε) : ControllerLink (Loopback κ υ) ε where
  request := fun request => do Run.ofExcept (returned request (← deliver app (Package.request request).frame))
  probe := fun request => do return probed (← deliver app (Package.request request).frame)
  sendLevels := fun levels => play app (0 :: levels)
  sendSlots := fun startCode slots => play app (startCode :: slots)

end Loopback

end LightBus.Simulation
