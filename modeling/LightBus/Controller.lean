import LightBus.DeviceInfo
import LightBus.Discovery.Branch
import LightBus.Link
import LightBus.MuteReply
import LightBus.Schema.Codec

/-!
# Controllers

A controller sends requests over a link and looks whether the responses answer them. Every request can be sent
with `Controller.get` and `Controller.set`; the functions after them know the parameters that every device has.
-/

namespace LightBus

/-- A controller, with the state of its link. -/
structure Controller (σ : Type) where
  uid : Uid
  /-- The port that requests tell; devices refuse port 0. -/
  port : UInt8
  /-- How many messages were waiting at the device that answered last. -/
  messageCount : UInt8
  link : σ

/-- Why a controller has no result. -/
inductive ControllerError (ε : Type) where
  /-- The response answers something else. -/
  | notMatching
  | unreadableData
  /-- The response tells of an error, but not of which. -/
  | unreadableError
  /-- The result will be ready after this many tenths of a second. -/
  | notReady (delay : UInt16)
  | refused (reason : NackReason)
  /-- The value cannot be sent, and nothing was. -/
  | invalidParameter
  | link (error : LinkError ε)

namespace ControllerError

variable {ε : Type} [Failure ε]

def message : ControllerError ε → String
  | .notMatching => "response does not match the request"
  | .unreadableData => "parameter data is not deserializable"
  | .unreadableError => "error response is not deserializable"
  | .notReady delay => s!"response is ready in {delay.toNat * 100} ms"
  | .refused reason => "request not acknowledged: " ++ reason.name
  | .invalidParameter => "parameter out of range"
  | .link error => error.message

def kind : ControllerError ε → String
  | .notMatching => "NotMatching"
  | .unreadableData => "ParameterDataNotDeserializable"
  | .unreadableError => "ErrorNotDeserializable"
  | .notReady _ => "NotReady"
  | .refused _ => "NotAcknowledged"
  | .invalidParameter => "InvalidParameter"
  | .link error => "DmxError." ++ error.kind

instance : Failure (ControllerError ε) := ⟨kind, message⟩

end ControllerError

/-- The part of a response that a controller wants. -/
structure ReplyInfo where
  /-- Differs from the parameter of the request if queued messages were fetched. -/
  parameterId : ParameterId
  messageCount : UInt8
  data : Payload
deriving DecidableEq

/-- What came of a request. -/
inductive Reply where
  | complete (info : ReplyInfo)
  /-- The data are only the first part of the result. -/
  | incomplete (info : ReplyInfo)
  /-- Nobody answers a broadcast. -/
  | broadcast
deriving DecidableEq

/-- The reply that a response amounts to. -/
def Response.reply {ε : Type} (r : Response) : Except (ControllerError ε) Reply :=
  let info : ReplyInfo := ⟨r.parameterId, r.messageCount, r.data⟩
  match r.responseType, r.data.bytes with
  | .ack, _ => .ok (.complete info)
  | .ackOverflow, _ => .ok (.incomplete info)
  | .ackTimer, [hi, lo] => .error (.notReady (wordOf hi lo))
  | .nack, [hi, lo] =>
    match NackReason.ofCode? (wordOf hi lo) with
    | some reason => .error (.refused reason)
    | none => .error .unreadableError
  | _, _ => .error .unreadableError

namespace Controller

variable {σ ε α : Type}

/-- A controller that has not sent anything. -/
def new (uid : Uid) (port : UInt8) (link : σ) : Controller σ := ⟨uid, port, 0, link⟩

/-- Lets the link do something. -/
def onLink (a : Run σ (LinkError ε) α) : Run (Controller σ) (ControllerError ε) α :=
  (a.mapError .link).within Controller.link fun c link => { c with link }

/-- The request that the controller sends; its transaction number is up to the link. -/
def requestOf (c : Controller σ) (commandClass : CommandClass) (destination : Address) (pid : ParameterId)
    (subDevice : UInt16) (data : Payload) : Request where
  destination := destination
  source := c.uid
  transaction := 0
  port := c.port
  messageCount := 0
  subDevice := subDevice
  commandClass := commandClass
  parameterId := pid
  data := data

/-- Sends a request. The response has to go to the controller and to be of the class of the request. -/
def ask (link : ControllerLink σ ε) (commandClass : CommandClass) (destination : Address) (pid : ParameterId)
    (subDevice : UInt16) (data : Payload) : Run (Controller σ) (ControllerError ε) Reply := do
  let c ← MonadState.get
  match ← onLink (link.request (c.requestOf commandClass destination pid subDevice data)) with
  | none => return .broadcast
  | some response =>
    if response.destination ≠ .device c.uid ∨ response.commandClass ≠ commandClass then throw .notMatching
    modify fun c => { c with messageCount := response.messageCount }
    Run.ofExcept response.reply

def get (link : ControllerLink σ ε) (destination : Address) (pid : ParameterId) (subDevice : UInt16 := 0)
    (data : Payload := .empty) : Run (Controller σ) (ControllerError ε) Reply :=
  ask link .get destination pid subDevice data

def set (link : ControllerLink σ ε) (destination : Address) (pid : ParameterId) (subDevice : UInt16)
    (data : Payload) : Run (Controller σ) (ControllerError ε) Reply :=
  ask link .set destination pid subDevice data

/-- Only a complete reply has the value of a parameter. -/
def complete : Reply → Run (Controller σ) (ControllerError ε) ReplyInfo
  | .complete info => return info
  | _ => throw .unreadableData

/-- The value of a parameter of the root device. -/
def getData (link : ControllerLink σ ε) (uid : Uid) (pid : ParameterId) :
    Run (Controller σ) (ControllerError ε) (List UInt8) := do
  let info ← complete (← get link (.device uid) pid)
  return info.data.bytes

/-- Sets a parameter of the root device. -/
def setData (link : ControllerLink σ ε) (destination : Address) (pid : ParameterId) (data : List UInt8) :
    Run (Controller σ) (ControllerError ε) Unit := do
  let _ ← set link destination pid 0 (.ofList data)

/-! ### Parameters with a schema -/

/-- The value of a parameter in native form, for a buffer of `room` bytes. The bytes that could be converted are
told even if the others could not. -/
def getParameter (link : ControllerLink σ ε) (uid : Uid) (pid : ParameterId) (schema : Schema) (room : Nat)
    (c : Controller σ) : Except (ControllerError ε) Unit × List UInt8 × Controller σ :=
  match (getData link uid pid).runFrom c with
  | (.error e, c) => (.error e, [], c)
  | (.ok data, c) =>
    let conversion := schema.toNative data room
    (conversion.result.mapError fun _ => .unreadableData, conversion.written, c)

/-- Sets a parameter to a value in native form. -/
def setParameter (link : ControllerLink σ ε) (destination : Address) (pid : ParameterId) (schema : Schema)
    (native : List UInt8) : Run (Controller σ) (ControllerError ε) Unit :=
  match schema.toPayload? native with
  | .error _ => throw .invalidParameter
  | .ok data => do
    let _ ← set link destination pid 0 data

/-! ### Discovery -/

/-- Asks which devices of the branch are there. -/
def probe (link : ControllerLink σ ε) (branch : Branch) :
    Run (Controller σ) (ControllerError ε) ProbeResult := do
  let c ← MonadState.get
  onLink (link.probe (c.requestOf .discovery .broadcast .discUniqueBranch 0 branch.payload))

/-- The mute reply in what came of a mute request; nobody answers a broadcast. -/
def muteReply : Reply → Run (Controller σ) (ControllerError ε) (Option MuteReply)
  | .broadcast => return none
  | .incomplete _ => throw .unreadableData
  | .complete info =>
    match MuteReply.ofBytes? info.data.bytes with
    | .ok reply => return some reply
    | .error _ => throw .unreadableData

/-- The devices keep silent in discoveries from now on. -/
def mute (link : ControllerLink σ ε) (destination : Address) :
    Run (Controller σ) (ControllerError ε) (Option MuteReply) := do
  muteReply (← ask link .discovery destination .discMute 0 .empty)

/-- The devices take part in discoveries again. -/
def unMute (link : ControllerLink σ ε) (destination : Address) :
    Run (Controller σ) (ControllerError ε) (Option MuteReply) := do
  muteReply (← ask link .discovery destination .discUnMute 0 .empty)

/-! ### Parameters of every device -/

def getIdentify (link : ControllerLink σ ε) (uid : Uid) : Run (Controller σ) (ControllerError ε) Bool := do
  match ← getData link uid .identifyDevice with
  | [value] => return value != 0
  | _ => throw .unreadableData

def setIdentify (link : ControllerLink σ ε) (destination : Address) (on : Bool) :
    Run (Controller σ) (ControllerError ε) Unit :=
  setData link destination .identifyDevice [if on then 1 else 0]

/-- The text in front of the first zero, if it is UTF-8 and short enough for a label. -/
def labelOf? (data : List UInt8) : Option String :=
  let text := data.takeWhile (· != 0)
  if maxTextSize < text.length then none else String.fromUTF8? ⟨text.toArray⟩

private def getText (link : ControllerLink σ ε) (uid : Uid) (pid : ParameterId) :
    Run (Controller σ) (ControllerError ε) String := do
  match labelOf? (← getData link uid pid) with
  | some label => return label
  | none => throw .unreadableData

def getVersionLabel (link : ControllerLink σ ε) (uid : Uid) : Run (Controller σ) (ControllerError ε) String :=
  getText link uid .softwareVersionLabel

def getLabel (link : ControllerLink σ ε) (uid : Uid) : Run (Controller σ) (ControllerError ε) String :=
  getText link uid .deviceLabel

/-- A label of more than 32 bytes cannot be sent. -/
def setLabel (link : ControllerLink σ ε) (destination : Address) (label : String) :
    Run (Controller σ) (ControllerError ε) Unit :=
  if maxTextSize < (textBytes label).length then throw .invalidParameter
  else setData link destination .deviceLabel (textBytes label)

def getStartAddress (link : ControllerLink σ ε) (uid : Uid) :
    Run (Controller σ) (ControllerError ε) StartAddress := do
  match StartAddress.ofBytes? (← getData link uid .dmxStartAddress) with
  | .ok address => return address
  | .error _ => throw .unreadableData

/-- Only the slots 1 to 512 can be sent. -/
def setStartAddress (link : ControllerLink σ ε) (destination : Address) (slot : UInt16) :
    Run (Controller σ) (ControllerError ε) Unit :=
  if 1 ≤ slot ∧ slot ≤ 512 then setData link destination .dmxStartAddress (word slot)
  else throw .invalidParameter

/-- The oldest message that waits at the device, or the last one again. -/
def getQueued (link : ControllerLink σ ε) (uid : Uid) (status : StatusType) :
    Run (Controller σ) (ControllerError ε) ReplyInfo := do
  complete (← get link (.device uid) .queuedMessage 0 (.ofList [status.code]))

/-- The words in the given bytes; an odd byte at the end is dropped. -/
def wordsOf : List UInt8 → List UInt16
  | hi :: lo :: rest => wordOf hi lo :: wordsOf rest
  | _ => []

/-- The parameters that the device lists. -/
def getSupported (link : ControllerLink σ ε) (uid : Uid) :
    Run (Controller σ) (ControllerError ε) (List ParameterId) := do
  let data ← getData link uid .supportedParameters
  if data.length % 2 ≠ 0 then throw .unreadableData
  return wordsOf data

def getInfo (link : ControllerLink σ ε) (uid : Uid) : Run (Controller σ) (ControllerError ε) DeviceInfo := do
  match DeviceInfo.ofBytes? (← getData link uid .deviceInfo) with
  | .ok info => return info
  | .error _ => throw .unreadableData

/-! ### Levels -/

def sendLevels (link : ControllerLink σ ε) (levels : List UInt8) : Run (Controller σ) (ControllerError ε) Unit :=
  onLink (link.sendLevels levels)

def sendSlots (link : ControllerLink σ ε) (startCode : UInt8) (slots : List UInt8) :
    Run (Controller σ) (ControllerError ε) Unit :=
  onLink (link.sendSlots startCode slots)

end Controller

end LightBus
