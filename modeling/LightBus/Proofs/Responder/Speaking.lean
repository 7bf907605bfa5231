import LightBus.Simulation.Application

/-!
# When a device may speak

Two devices that speak at once garble each other, so a device answers only what it alone was asked.  Rules,
application and refusals are free in what they make of a request.  What is sent passes one filter after all of them
(`Device.answerOf`), and the filter lets nothing through that is not permitted (`Device.permitted_handle`).
-/

namespace LightBus

/-- The device may give this answer.

* Only the device that a request goes to sends a response, and in discoveries only an acknowledgement.
* Only branch probes are answered without a break, by any device that they go to. -/
def Answer.Permitted (request : Request) (uid : Uid) : Answer → Prop
  | .response r => request.destination = .device uid ∧ (request.commandClass = .discovery → r.responseType = .ack)
  | .here _ => request.isBranchProbe = true ∧ request.destination.addresses uid = true
  | .silent => True

/-- An address that is not for many is that of the one device that it goes to. -/
private theorem Address.eq_device_of_addresses {address : Address} {uid : Uid} (hsingle : address.isBroadcast = false)
    (haddressed : address.addresses uid = true) : address = .device uid := by
  cases address with
  | broadcast | manufacturer => cases hsingle
  | device other => rw [eq_of_beq haddressed]

namespace Device

variable {κ υ ε : Type} {device : Device κ} {request : Request} {uid : Uid}

/-- Whatever the outcome is, and whatever the device has become meanwhile. -/
private theorem permitted_answerOf (outcome : Outcome) (haddressed : request.destination.addresses uid = true) :
    (device.answerOf request outcome).Permitted request uid := by
  unfold answerOf
  split
  · split
    · rename_i hprobe
      exact ⟨hprobe, haddressed⟩
    · trivial
  split
  · trivial
  rename_i hsingle
  split
  · trivial
  split
  · trivial
  · rename_i hsent
    refine ⟨Address.eq_device_of_addresses (eq_false_of_ne_true hsingle) haddressed, fun hdiscovery => ?_⟩
    exact Decidable.not_not.1 fun hack => hsent ⟨hdiscovery, hack⟩

/-- What refusal, rule or application make of a request, and the device and the memory after it. -/
def outcomeOf (app : Application κ υ ε) (request : Request) (device : Device κ) (memory : υ) :
    Except ε Outcome × Device κ × υ :=
  match device.refusal? request with
  | some reason => (.ok (.nack reason), device, memory)
  | none =>
    if device.parameters.contains request.parameterId then
      (.ok (device.dispatch app.rules request).1, (device.dispatch app.rules request).2, memory)
    else app.others request device memory

/-- The answer is what the filter leaves of the outcome. -/
theorem handle_of_addressed (app : Application κ υ ε) (memory : υ)
    (haddressed : request.destination.addresses device.state.uid = true) :
    (device.handle app request memory).1 =
      (outcomeOf app request device memory).1.map ((outcomeOf app request device memory).2.1.answerOf request) := by
  have hopened : (device.handle app request memory).1 =
      match outcomeOf app request device memory with
      | (.error e, _) => .error e
      | (.ok outcome, after, _) => .ok (after.answerOf request outcome) := by
    unfold handle outcomeOf
    rw [if_neg (by simp [haddressed])]
    -- Whether somebody observes the parameter makes no difference to the answer.
    cases device.refusal? request with
    | some reason =>
      dsimp only
      split <;> rfl
    | none =>
      cases device.parameters.contains request.parameterId with
      | true =>
        simp only [if_true]
        split <;> rfl
      | false =>
        rw [if_neg Bool.false_ne_true]
        rcases app.others request device memory with ⟨_ | outcome, after, memory⟩
        · rfl
        · dsimp only
          split <;> rfl
  rw [hopened]
  rcases outcomeOf app request device memory with ⟨_ | outcome, after, memory⟩ <;> rfl

/-- A device answers only what it may answer, whatever its rules and its application do. -/
theorem permitted_handle (app : Application κ υ ε) (request : Request) (device : Device κ) (memory : υ)
    {answer : Answer} (hanswer : (device.handle app request memory).1 = .ok answer) :
    answer.Permitted request device.state.uid := by
  cases haddressed : request.destination.addresses device.state.uid with
  | false =>
    have hsilent : (device.handle app request memory).1 = .ok .silent := by
      unfold handle
      rw [if_pos (by simp [haddressed])]
    obtain rfl := Except.ok.inj (hsilent.symm.trans hanswer)
    trivial
  | true =>
    rw [handle_of_addressed app memory haddressed] at hanswer
    cases houtcome : (outcomeOf app request device memory).1 with
    | error e =>
      rw [houtcome] at hanswer
      cases hanswer
    | ok outcome =>
      rw [houtcome] at hanswer
      obtain rfl := Except.ok.inj hanswer
      exact permitted_answerOf outcome haddressed

open Simulation

/-- A device that knows no parameters, so that its application answers everything. -/
def bareDevice : Device SampleRule := ⟨.empty [], ⟨⟨0x05E0, 1⟩, [], ⟨0, 0, 0, "", 0, 0, .none, ""⟩, false⟩⟩

/-- A request of the discovery class that only the bare device has to process. -/
def discoveryWish : Request := ⟨.device ⟨0x05E0, 1⟩, ⟨0x7FF0, 0⟩, 7, 1, 0, 0, .discovery, 0x8001, .empty⟩

/-- An application that makes up a response to everything, without regard to the request. -/
def inventive (response : Response) : Journal Empty := .new (some fun _ => some (.outcome (.custom response)))

def madeUp (responseType : ResponseType) : Response :=
  ⟨.broadcast, ⟨0x7FF0, 0⟩, 9, responseType, 0, 3, .set, 0x4321, .empty⟩

/-- Of the responses that an application makes up for a discovery request, an acknowledgement is sent and a refusal is
not. -/
theorem permitted_handle_madeUp :
    (bareDevice.handle Journal.application discoveryWish (inventive (madeUp .nack))).1 = .ok .silent ∧
    (bareDevice.handle Journal.application discoveryWish (inventive (madeUp .ack))).1 =
      .ok (.response (madeUp .ack)) ∧
      (Answer.response (madeUp .ack)).Permitted discoveryWish ⟨0x05E0, 1⟩ :=
  ⟨rfl, rfl, permitted_handle Journal.application discoveryWish bareDevice (inventive (madeUp .ack)) rfl⟩

end Device

end LightBus
