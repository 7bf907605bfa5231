import LightBus.Responder

/-!
# A device to try responders with

Rules of a device's own in all shapes that an outcome can have, and an application that follows a script and
records what it is asked.
-/

namespace LightBus.Simulation

/-- A rule of a device's own. -/
inductive SampleRule where
  /-- The stored value cannot be replaced. -/
  | readOnly
  /-- The data of the request come back as the first part of a result. -/
  | overflow
  /-- The sub-device of the request comes back as a delay. -/
  | later
  | silent
  /-- The device is found whenever it is asked. -/
  | here
  /-- A response that has little in common with the request. -/
  | foreign
  /-- The data of the request are stored and queued, and their count comes back. -/
  | queue
deriving DecidableEq

def SampleRule.ofName? : String → Option SampleRule
  | "read_only" => some .readOnly
  | "overflow" => some .overflow
  | "timer" => some .later
  | "none" => some .silent
  | "discovery" => some .here
  | "custom" => some .foreign
  | "enqueue" => some .queue
  | _ => none

def SampleRule.apply : CustomRules SampleRule
  | .readOnly, device, request =>
    if request.commandClass = .set then (.nack .writeProtect, device) else device.answerStored request
  | .overflow, device, request => (.overflow request.data, device)
  | .later, device, request => (.later request.subDevice, device)
  | .silent, device, _ => (.silent, device)
  | .here, device, _ => (.here device.state.uid, device)
  | .foreign, device, request =>
    (.custom {
      destination := .device request.source, source := device.state.uid, transaction := 0xAB,
      responseType := .nack, messageCount := 99, subDevice := 3, commandClass := request.commandClass,
      parameterId := 0x4321, data := .ofList [1, 2, 3] }, device)
  | .queue, device, request =>
    let (count, parameters) := device.parameters.setAndQueue request.parameterId request.data.bytes
    (.acknowledged (.ofList [UInt8.ofNat count]), { device with parameters })

/-- What the script says about a request. -/
inductive Reaction (ε : Type) where
  | outcome (outcome : Outcome)
  | fail (error : ε)
  /-- The data of the request are stored for another parameter and queued. -/
  | queue (pid : ParameterId)

/-- What the application was asked. -/
inductive Call where
  | request (pid : ParameterId) (muted : Bool) (parameters : Nat)
  /-- A frame with levels, and the start address that is stored at that time. -/
  | levels (frame : List UInt8) (startAddress : Option (List UInt8))
deriving DecidableEq

/-- An answered request for an observed parameter, and the device at that time. -/
structure Observation where
  parameterId : ParameterId
  answer : Answer
  value : Option (List UInt8)
  queued : Nat
deriving DecidableEq

/-- The script of an application and what it has recorded. An application without a script knows no parameters
and takes no levels. -/
structure Journal (ε : Type) where
  script : Option (ParameterId → Option (Reaction ε))
  levelsFailure : Option ε
  calls : List Call
  observations : List Observation

namespace Journal

variable {ε : Type}

def new (script : Option (ParameterId → Option (Reaction ε))) : Journal ε := ⟨script, none, [], []⟩

/-- Nothing has been recorded. -/
def clear (j : Journal ε) : Journal ε := { j with calls := [], observations := [] }

private def record (j : Journal ε) (call : Call) : Journal ε := { j with calls := j.calls ++ [call] }

private def react (device : Device SampleRule) (request : Request) :
    Reaction ε → Except ε Outcome × Device SampleRule
  | .outcome outcome => (.ok outcome, device)
  | .fail error => (.error error, device)
  | .queue pid =>
    (.ok (.acknowledged .empty),
      { device with parameters := (device.parameters.setAndQueue pid request.data.bytes).2 })

private def onRequest (request : Request) (device : Device SampleRule) (j : Journal ε) :
    Except ε Outcome × Device SampleRule × Journal ε :=
  match j.script with
  | none => (.ok (.nack .unknownPid), device, j)
  | some script =>
    let j := j.record (.request request.parameterId device.state.muted device.parameters.entries.length)
    match script request.parameterId with
    | none => (.ok (.nack .unknownPid), device, j)
    | some reaction =>
      let (outcome, device) := react device request reaction
      (outcome, device, j)

private def onLevels (frame : List UInt8) (device : Device SampleRule) (j : Journal ε) :
    Except ε Unit × Device SampleRule × Journal ε :=
  if j.script.isNone then (.ok (), device, j)
  else
    let j := j.record (.levels frame (device.parameters.get? .dmxStartAddress))
    match j.levelsFailure with
    | some error => (.error error, device, j)
    | none => (.ok (), device, j)

private def onAnswer (request : Request) (answer : Answer) (device : Device SampleRule) (j : Journal ε) :
    Journal ε :=
  let pid := request.parameterId
  { j with observations := j.observations ++
      [⟨pid, answer, device.parameters.get? pid, device.parameters.queue.length⟩] }

/-- The application that follows the script. -/
def application : Application SampleRule (Journal ε) ε where
  rules := SampleRule.apply
  others := onRequest
  levels := onLevels
  observe := onAnswer

end Journal

end LightBus.Simulation
