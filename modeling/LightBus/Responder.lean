import LightBus.Responder.Rules

/-!
# Responders

A device takes part on the bus as a responder: it looks whether a request goes to it, refuses what the parameter
does not allow, lets the rule of the parameter answer, and decides whether the outcome may be sent.
-/

namespace LightBus

/-- Why a device cannot be set up. -/
inductive ResponderError where
  | arenaTooSmall
  | dictionary (error : DictionaryError)
deriving DecidableEq

/-- The storage of the parameters that every device has. -/
def minArenaSize : Nat := 1 + 2 + maxTextSize

def ResponderError.message : ResponderError → String
  | .arenaTooSmall => s!"parameter arena is smaller than {minArenaSize} bytes"
  | .dictionary error => error.message

def ResponderError.kind : ResponderError → String
  | .arenaTooSmall => "ArenaTooSmall"
  | .dictionary error => "Dictionary." ++ error.kind

instance : Failure ResponderError := ⟨ResponderError.kind, ResponderError.message⟩

/-- What a device does on its own account; `υ` is what it remembers, and `ε` are its errors. -/
structure Application (κ υ ε : Type) where
  /-- The rules of the device's own. -/
  rules : CustomRules κ
  /-- Answers requests for parameters that are not in the dictionary. -/
  others : Request → Device κ → υ → Except ε Outcome × Device κ × υ
  /-- Takes the levels of a frame that is not a package. -/
  levels : List UInt8 → Device κ → υ → Except ε Unit × Device κ × υ
  /-- Is told about answered requests for observed parameters. -/
  observe : Request → Answer → Device κ → υ → υ

namespace Device

variable {κ υ ε : Type}

/-! ### Set-up -/

def plainDefinition (pid : ParameterId) (schema : Schema) (access : Access) (dataType : DataType)
    (handler : Handler κ) : Definition κ :=
  ⟨pid, schema, access, .ofType dataType, handler⟩

/-- The parameters that every device has. -/
def standardParameters (m : Metadata) (d : Dictionary κ) : Except DictionaryError (Dictionary κ) := do
  let d ← d.defineComputed (plainDefinition .discUniqueBranch .empty .discovery .notDefined .branchProbe)
  let d ← d.defineComputed (plainDefinition .discMute .empty .discovery .notDefined .mute)
  let d ← d.defineComputed (plainDefinition .discUnMute .empty .discovery .notDefined .mute)
  let d ← d.defineComputed (plainDefinition .deviceInfo
    ⟨[.word, .word, .word, .dword, .word, .word, .word, .word, .byte], rfl⟩ .get .notDefined .deviceInfo)
  let d ← d.defineComputed (plainDefinition .supportedParameters ⟨[.word], rfl⟩ .get .unsignedWord
    .supportedParameters)
  let d ← d.defineComputed (plainDefinition .parameterDescription Dictionary.descriptionSchema .get .notDefined
    .parameterDescription)
  let d ← d.defineComputed (plainDefinition .softwareVersionLabel ⟨[.text], rfl⟩ .get .text
    .softwareVersionLabel)
  let d ← d.define (plainDefinition .identifyDevice ⟨[.byte], rfl⟩ .getSet .unsignedByte .identifyDevice) 1 []
  let d ← d.define (plainDefinition .dmxStartAddress ⟨[.word], rfl⟩ .getSet .unsignedWord .startAddress) 2
    (word m.startAddress.toWord).reverse
  let d ← d.define (plainDefinition .deviceLabel ⟨[.text], rfl⟩ .getSet .text .stored) maxTextSize
    (textBytes m.label)
  d.defineComputed (plainDefinition .queuedMessage ⟨[.byte], rfl⟩ .get .unsignedByte .queuedMessage)

/-- A device with the parameters that every device has, which keeps its values in `arena`. -/
def create? (config : DeviceConfig) (arena : List UInt8) : Except ResponderError (Device κ) :=
  if arena.length < minArenaSize then .error .arenaTooSmall
  else
    match standardParameters config.metadata (.empty arena) with
    | .error e => .error (.dictionary e)
    | .ok parameters => .ok ⟨parameters, ⟨config.uid, config.otherParameters, config.metadata, false⟩⟩

/-! ### Requests -/

/-- The reason to refuse a request before its parameter is looked at any closer. -/
def refusal? (device : Device κ) (request : Request) : Option NackReason :=
  if request.port = 0 ∧ request.commandClass ≠ .discovery then some .formatError
  else
    match device.parameters.definition? request.parameterId with
    | none => none
    | some definition =>
      if !definition.access.allows request.commandClass then some .unsupportedCommandClass
      else if request.subDevice = allSubDevices then
        if request.commandClass = .get then some .subDeviceOutOfRange else none
      else if maxSubDevice < request.subDevice then some .subDeviceOutOfRange
      else none

/-- What is sent: branch probes are answered with the identifier alone, requests to many devices get no
response, and discovery requests get none but an acknowledgement. -/
def answerOf (device : Device κ) (request : Request) (outcome : Outcome) : Answer :=
  match outcome with
  | .here uid => if request.isBranchProbe then .here uid else .silent
  | _ =>
    if request.destination.isBroadcast then .silent
    else
      match outcome.response? request device.state.uid device.parameters.messageCount with
      | none => .silent
      | some response =>
        if request.commandClass = .discovery ∧ response.responseType ≠ .ack then .silent
        else .response response

/-- Handles a request. Parameters that are not in the dictionary are left to the application, which may fail. -/
def handle (app : Application κ υ ε) (request : Request) (device : Device κ) (memory : υ) :
    Except ε Answer × Device κ × υ :=
  if !request.destination.addresses device.state.uid then (.ok .silent, device, memory)
  else
    let (outcome, device, memory) : Except ε Outcome × Device κ × υ :=
      match device.refusal? request with
      | some reason => (.ok (.nack reason), device, memory)
      | none =>
        if device.parameters.contains request.parameterId then
          let (outcome, device) := device.dispatch app.rules request
          (.ok outcome, device, memory)
        else app.others request device memory
    match outcome with
    | .error e => (.error e, device, memory)
    | .ok outcome =>
      let answer := device.answerOf request outcome
      if device.parameters.isObserved request.parameterId then
        (.ok answer, device, app.observe request answer device memory)
      else (.ok answer, device, memory)

end Device

end LightBus
