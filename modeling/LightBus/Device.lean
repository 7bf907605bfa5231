import LightBus.Dictionary
import LightBus.Package
import LightBus.StartAddress

/-!
# Devices

A device is a dictionary of parameters with what the device knows about itself. A rule for a parameter turns a
request into an `Outcome` and may change the device.
-/

namespace LightBus

/-- What a device tells about itself, and the first values of its stored parameters. -/
structure Metadata where
  model : UInt16
  category : UInt16
  softwareVersion : UInt32
  softwareVersionLabel : String
  footprint : UInt16
  /-- The current personality above their count. -/
  personality : UInt16
  startAddress : StartAddress
  label : String
deriving DecidableEq

/-- How a device is set up. -/
structure DeviceConfig where
  uid : Uid
  /-- Parameters that are served outside of the dictionary. -/
  otherParameters : List ParameterId
  metadata : Metadata
deriving DecidableEq

/-- What a device knows about itself. -/
structure DeviceState where
  uid : Uid
  otherParameters : List ParameterId
  metadata : Metadata
  /-- The device keeps silent in discoveries. -/
  muted : Bool
deriving DecidableEq

/-- The parameters of a device and what it knows about itself. -/
structure Device (κ : Type) where
  parameters : Dictionary κ
  state : DeviceState

/-- What a rule makes of a request. -/
inductive Outcome where
  | acknowledged (data : Payload)
  /-- The data are only the first part of the result. -/
  | overflow (data : Payload)
  /-- Refused for the reason with the given code. -/
  | refused (reason : UInt16)
  /-- The result will be ready after this many tenths of a second. -/
  | later (delay : UInt16)
  | silent
  /-- The answer to a branch probe. -/
  | here (uid : Uid)
  | custom (response : Response)
deriving DecidableEq

namespace Outcome

def nack (reason : NackReason) : Outcome := .refused reason.code

/-- The response that carries the outcome. Requests to many devices have none, and neither have silence and the
answer to a branch probe. -/
def response? (outcome : Outcome) (request : Request) (responder : Uid) (messageCount : UInt8) :
    Option Response :=
  let reply (type : ResponseType) (data : Payload) : Option Response :=
    (request.reply? responder type data messageCount).toOption
  match outcome with
  | .acknowledged data => reply .ack data
  | .overflow data => reply .ackOverflow data
  | .refused reason => reply .nack (.ofList (word reason))
  | .later delay => reply .ackTimer (.ofList (word delay))
  | .custom response => some { response with messageCount }
  | .silent | .here _ => none

end Outcome

/-- What a device answers to a request. -/
inductive Answer where
  /-- Sent after a break. -/
  | response (r : Response)
  /-- Sent without a break. -/
  | here (uid : Uid)
  | silent
deriving DecidableEq

end LightBus
