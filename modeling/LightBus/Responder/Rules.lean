import LightBus.Device
import LightBus.DeviceInfo
import LightBus.Discovery.Branch
import LightBus.MuteReply
import LightBus.Schema.Codec

/-!
# Rules for parameters

The rules by which a device answers requests for the parameters that every device has, and for parameters whose
value is just stored. A rule of the device's own is a function of the same kind.
-/

namespace LightBus

/-- The rules of a device's own. -/
abbrev CustomRules (κ : Type) := κ → Device κ → Request → Outcome × Device κ

namespace Device

variable {κ : Type}

/-! ### Stored values -/

/-- GET tells the stored value and SET replaces it, on the root device. -/
def answerStored (device : Device κ) (request : Request) : Outcome × Device κ :=
  if request.subDevice ≠ 0 then (.nack .subDeviceOutOfRange, device)
  else
    match device.parameters.definition? request.parameterId with
    | none => (.nack .unknownPid, device)
    | some definition =>
      match request.commandClass with
      | .get =>
        match device.parameters.get? request.parameterId with
        | none => (.nack .hardwareFault, device)
        | some value =>
          match definition.schema.toPayload? value with
          | .ok data => (.acknowledged data, device)
          | .error _ => (.nack .hardwareFault, device)
      | .set =>
        let room := min ((device.parameters.get? request.parameterId).map List.length |>.getD 0) maxPayloadSize
        match (definition.schema.toNative request.data.bytes room).toExcept with
        | .error _ => (.nack .formatError, device)
        | .ok native =>
          let (count, parameters) := device.parameters.set request.parameterId native
          if count = 0 then (.nack .hardwareFault, { device with parameters })
          else (.acknowledged .empty, { device with parameters })
      | .discovery => (.nack .unsupportedCommandClass, device)

/-- The device can be told to make itself seen, or to stop that. -/
def answerIdentify (device : Device κ) (request : Request) : Outcome × Device κ :=
  match request.commandClass, request.data.bytes with
  | .set, [value] =>
    if value = 0 ∨ value = 1 then device.answerStored request else (.nack .dataOutOfRange, device)
  | .set, _ => (.nack .formatError, device)
  | _, _ => device.answerStored request

/-- Only an address that a device can have replaces the stored one. -/
def answerStartAddress (device : Device κ) (request : Request) : Outcome × Device κ :=
  if request.commandClass = .set then
    if request.data.bytes.length ≠ 2 then (.nack .formatError, device)
    else
      match StartAddress.ofBytes? request.data.bytes with
      | .error _ => (.nack .dataOutOfRange, device)
      | .ok _ => device.answerStored request
  else device.answerStored request

/-! ### Discovery -/

/-- A device that is not muted answers a probe of a branch that it lies in. -/
def answerBranchProbe (device : Device κ) (request : Request) : Outcome :=
  if device.state.muted ∨ request.subDevice ≠ 0 then .silent
  else
    match Branch.ofBytes? request.data.bytes with
    | none => .silent
    | some branch => if branch.contains device.state.uid then .here device.state.uid else .silent

/-- The device keeps silent in discoveries after DISC_MUTE, and no longer after DISC_UN_MUTE. -/
def answerMute (device : Device κ) (request : Request) : Outcome × Device κ :=
  if request.subDevice ≠ 0 ∨ request.data.bytes ≠ [] then (.silent, device)
  else
    (.acknowledged MuteReply.plain.payload,
      { device with state := { device.state with muted := request.parameterId == .discMute } })

/-! ### What the device tells about itself -/

/-- The start address in the dictionary, if a device can have it. -/
def storedStartAddress (device : Device κ) : StartAddress :=
  match device.parameters.get? .dmxStartAddress with
  | some (lo :: hi :: _) => (StartAddress.ofWord? (wordOf hi lo)).toOption.getD .none
  | _ => .none

def info (device : Device κ) : DeviceInfo where
  model := device.state.metadata.model
  category := device.state.metadata.category
  softwareVersion := device.state.metadata.softwareVersion
  footprint := device.state.metadata.footprint
  personality := device.state.metadata.personality
  startAddress := device.storedStartAddress
  subDevices := 0
  sensors := 0

/-- Parameters that every device has; they are not listed as supported. -/
def requiredParameters : List ParameterId :=
  [.discUniqueBranch, .discMute, .discUnMute, .supportedParameters, .parameterDescription, .deviceInfo,
    .softwareVersionLabel, .dmxStartAddress, .identifyDevice]

/-- The parameters that the device lists: those of the dictionary, then the others, without the required ones. -/
def listedParameters (device : Device κ) : List ParameterId :=
  (device.parameters.parameterIds ++ device.state.otherParameters).filter (· ∉ requiredParameters)

/-- As many of the listed parameters as fit into parameter data. -/
def listPayload (device : Device κ) : Payload :=
  Payload.empty.fill (device.listedParameters.map word)

def onRoot (request : Request) (outcome : Outcome) : Outcome :=
  if request.subDevice ≠ 0 then .nack .subDeviceOutOfRange else outcome

def describe (device : Device κ) (request : Request) : Outcome :=
  match request.data.bytes with
  | [hi, lo] =>
    match device.parameters.describe? (wordOf hi lo) with
    | none => .nack .dataOutOfRange
    | some native =>
      match Dictionary.descriptionSchema.toPayload? native with
      | .ok data => .acknowledged data
      | .error _ => .nack .hardwareFault
  | _ => .nack .formatError

def versionLabel (device : Device κ) : Payload :=
  .ofList ((textBytes device.state.metadata.softwareVersionLabel).take maxTextSize)

/-! ### Choice of the rule -/

/-- Answers a request for a parameter of the dictionary, except that queued messages are not fetched: without
data, that is a request of the wrong form. -/
def applyRule (rules : CustomRules κ) (device : Device κ) (request : Request) :
    Handler κ → Outcome × Device κ
  | .stored => device.answerStored request
  | .branchProbe => (device.answerBranchProbe request, device)
  | .mute => device.answerMute request
  | .deviceInfo => (onRoot request (.acknowledged device.info.payload), device)
  | .supportedParameters => (onRoot request (.acknowledged device.listPayload), device)
  | .parameterDescription => (onRoot request (device.describe request), device)
  | .softwareVersionLabel => (onRoot request (.acknowledged device.versionLabel), device)
  | .identifyDevice => device.answerIdentify request
  | .startAddress => device.answerStartAddress request
  | .queuedMessage => (.nack .formatError, device)
  | .custom rule => rules rule device request

/-- The request for the current value of a parameter that stands behind a request for queued messages. -/
def queuedRequest (request : Request) (pid : ParameterId) : Request :=
  { request with parameterId := pid, data := .empty, subDevice := 0 }

/-- Answers with the value of the given parameter as its own GET would. -/
def answerQueued (rules : CustomRules κ) (device : Device κ) (request : Request) (pid : ParameterId) :
    Outcome × Device κ :=
  let request := queuedRequest request pid
  let (outcome, device) : Outcome × Device κ :=
    match device.parameters.definition? pid with
    | none => (.nack .unknownPid, device)
    | some definition => device.applyRule rules request definition.handler
  match outcome.response? request device.state.uid 0 with
  | some response => (.custom response, device)
  | none => (.nack .hardwareFault, device)

/-- Nothing is queued: an empty answer about status messages. -/
def answerNothingQueued (device : Device κ) (request : Request) : Outcome :=
  match (Outcome.acknowledged .empty).response? { request with parameterId := .statusMessages }
      device.state.uid 0 with
  | some response => .custom response
  | none => .silent

/-- Fetches the oldest change, or the one fetched last once more. A broadcast fetches nothing, because its
answer would be lost. -/
def answerQueuedMessage (rules : CustomRules κ) (device : Device κ) (request : Request) :
    Outcome × Device κ :=
  let deliver (pid : Option ParameterId) (device : Device κ) : Outcome × Device κ :=
    match pid with
    | some pid => device.answerQueued rules request pid
    | none => (device.answerNothingQueued request, device)
  if request.destination.isBroadcast then (.silent, device)
  else
    match request.data.bytes with
    | [status] =>
      if status = StatusType.lastMessage.code then deliver device.parameters.lastQueued device
      else if StatusType.advisory.code ≤ status ∧ status ≤ StatusType.error.code then
        let (pid, parameters) := device.parameters.popQueued
        deliver pid { device with parameters }
      else (.nack .dataOutOfRange, device)
    | _ => (.nack .formatError, device)

/-- Answers a request by the rule of its parameter. -/
def dispatch (rules : CustomRules κ) (device : Device κ) (request : Request) : Outcome × Device κ :=
  match device.parameters.definition? request.parameterId with
  | none => (.nack .unknownPid, device)
  | some definition =>
    match definition.handler with
    | .queuedMessage => device.answerQueuedMessage rules request
    | handler => device.applyRule rules request handler

end Device

end LightBus
