import LightBus.Address
import LightBus.Command
import LightBus.ParameterId
import LightBus.Payload

/-!
# Packages

An RDM package is a request of a controller or the response of a device. Its parameter data stay bytes here.
-/

namespace LightBus

/-- What a controller asks of a device. -/
structure Request where
  destination : Address
  source : Uid
  transaction : UInt8
  port : UInt8
  messageCount : UInt8
  subDevice : UInt16
  commandClass : CommandClass
  parameterId : ParameterId
  data : Payload
deriving DecidableEq

/-- What a device answers. -/
structure Response where
  destination : Address
  source : Uid
  transaction : UInt8
  responseType : ResponseType
  messageCount : UInt8
  subDevice : UInt16
  commandClass : CommandClass
  parameterId : ParameterId
  data : Payload
deriving DecidableEq

/-- A request or a response. -/
inductive Package where
  | request (r : Request)
  | response (r : Response)
deriving DecidableEq

/-- A request to more than one device has no response of its own. -/
inductive BroadcastError where
  | isBroadcast
deriving DecidableEq

def BroadcastError.message : BroadcastError → String
  | .isBroadcast => "tried to convert broadcast request to response"

def BroadcastError.kind : BroadcastError → String
  | .isBroadcast => "IsBroadcastError"

instance : Failure BroadcastError := ⟨BroadcastError.kind, BroadcastError.message⟩

namespace Request

/-- The request looks for the devices of a branch. -/
def isBranchProbe (r : Request) : Bool :=
  r.commandClass == .discovery && r.parameterId == .discUniqueBranch

/-- A device answers the request: it goes to a single device, or it is a branch probe. -/
def expectsResponse (r : Request) : Bool := !r.destination.isBroadcast || r.isBranchProbe

/-- The response that `responder` gives to the request. -/
def reply (r : Request) (responder : Uid) (type : ResponseType) (data : Payload) (messageCount : UInt8) :
    Response where
  destination := .device r.source
  source := responder
  transaction := r.transaction
  responseType := type
  messageCount := messageCount
  subDevice := r.subDevice
  commandClass := r.commandClass
  parameterId := r.parameterId
  data := data

/-- The response to a request that goes to a single device. -/
def reply? (r : Request) (responder : Uid) (type : ResponseType) (data : Payload) (messageCount : UInt8) :
    Except BroadcastError Response :=
  if r.destination.isBroadcast then .error .isBroadcast
  else .ok (r.reply responder type data messageCount)

end Request

end LightBus
