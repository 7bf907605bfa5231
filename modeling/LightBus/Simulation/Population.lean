import LightBus.Discovery.Search

/-!
# A population of devices

Devices that exist in memory only, and the link to them: what a search needs to be tried without a bus. Each
request is recorded, and a device can be told to behave badly.
-/

namespace LightBus.Simulation

/-- A device that takes part in discoveries. -/
structure Resident where
  uid : Uid
  /-- The identifier in its answers to branch probes. -/
  answersAs : Uid
  /-- The identifier that has to lie in a probed branch. -/
  liesAt : Uid
  muted : Bool
  /-- How many mute requests it loses. -/
  lostMutes : Nat
  /-- How many branch probes it loses. -/
  lostProbes : Nat
  /-- Mute requests are answered without effect. -/
  unmutable : Bool
  binding : Option Uid
  /-- Parameter data that it sends instead of a mute reply. -/
  wrongReply : Option (List UInt8)
  /-- Mute requests have their effect, but no answer. -/
  silent : Bool

/-- What a request of a search asks for. -/
inductive Inquiry where
  | unMute
  | mute (uid : Uid)
  | probe (branch : Branch)
deriving DecidableEq

/-- Devices in memory, with a record of the requests to them. -/
structure Population (ε : Type) where
  residents : List Resident
  /-- How many requests there were. -/
  count : Nat
  /-- The latest request first. -/
  log : List Inquiry
  /-- The number of the request that fails, and how. -/
  failure : Option (Nat × LinkError ε)

namespace Resident

/-- The parameter data of the answer to a mute request. -/
def muteData (r : Resident) : Payload :=
  match r.wrongReply with
  | some bytes => .ofList bytes
  | none => { MuteReply.plain with binding := r.binding }.payload

/-- Whether the device answers a branch probe, and what becomes of it. -/
def onProbe (branch : Branch) (r : Resident) : Bool × Resident :=
  if r.muted ∨ !branch.contains r.liesAt then (false, r)
  else if 0 < r.lostProbes then (false, { r with lostProbes := r.lostProbes - 1 })
  else (true, r)

end Resident

namespace Population

variable {ε : Type}

/-- Every request is recorded before it can fail. -/
def record (inquiry : Inquiry) : Run (Population ε) (LinkError ε) Unit := fun p =>
  let p := { p with count := p.count + 1, log := inquiry :: p.log }
  match p.failure with
  | some (number, error) => (if p.count = number then .error error else .ok (), p)
  | none => (.ok (), p)

/-- The first device with the identifier is muted and answers the request, unless it is not there or loses
the request. -/
def muteFirst (request : Request) (uid : Uid) :
    List Resident → Except (LinkError ε) (Option Response) × List Resident
  | [] => (.error .timeout, [])
  | r :: rest =>
    if r.uid ≠ uid then
      let (answer, rest) := muteFirst request uid rest
      (answer, r :: rest)
    else if 0 < r.lostMutes then (.error .timeout, { r with lostMutes := r.lostMutes - 1 } :: rest)
    else
      let answer : Option Response := if r.silent then none else some (request.reply uid .ack r.muteData 0)
      (.ok answer, { r with muted := !r.unmutable } :: rest)

/-- What a branch probe brings. -/
def probeAll (branch : Branch) (residents : List Resident) : ProbeResult × List Resident :=
  let answered := residents.map (Resident.onProbe branch)
  let result : ProbeResult :=
    match answered.filter Prod.fst with
    | [] => .nobody
    | [(_, r)] => .found r.answersAs
    | _ => .collision
  (result, answered.map Prod.snd)

/-- Lets the devices do something. -/
def onResidents {α : Type} (f : List Resident → Except (LinkError ε) α × List Resident) :
    Run (Population ε) (LinkError ε) α := fun p =>
  let (result, residents) := f p.residents
  (result, { p with residents })

/-- Devices answer mute requests only; everything else that is not un-mute counts as one. -/
def request (r : Request) : Run (Population ε) (LinkError ε) (Option Response) := do
  if r.parameterId = .discUnMute then
    record .unMute
    onResidents fun residents => (.ok none, residents.map fun d => { d with muted := false })
  else
    record (.mute r.destination.uid)
    onResidents (muteFirst r r.destination.uid)

/-- Devices of the branch answer; a request without a branch asks about all. -/
def probe (r : Request) : Run (Population ε) (LinkError ε) ProbeResult := do
  let branch := (Branch.ofBytes? r.data.bytes).getD .whole
  record (.probe branch)
  onResidents fun residents =>
    let (result, residents) := probeAll branch residents
    (.ok result, residents)

/-- The link to the devices; levels are lost on it. -/
def link : ControllerLink (Population ε) ε where
  request := request
  probe := probe
  sendLevels := fun _ => pure ()
  sendSlots := fun _ _ => pure ()

end Population

end LightBus.Simulation
