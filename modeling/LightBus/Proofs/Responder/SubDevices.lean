import LightBus.Proofs.Responder.Standard

/-!
# Sub-devices

A device has no sub-devices, so a request for one is not to be served.  Whether it is comes down to the single rules,
because only numbers out of range are refused before (`Device.refusal?`).  Each rule looks at the number and refuses
(`Device.applyRule_of_subDevice`), except the one that fetches queued messages: there it makes no difference which
sub-device is asked (`Device.answerQueuedMessage_of_subDevice`).  `Device.handle_of_subDevice` tells both.
-/

namespace LightBus

variable {κ υ ε : Type}

/-- The request was carried out, at least in part, or will be. -/
def Response.Serves (response : Response) : Prop := response.responseType ≠ .nack

def Answer.Serves : Answer → Prop
  | .response r => r.Serves
  | .here _ | .silent => False

def Outcome.Serves : Outcome → Prop
  | .acknowledged _ | .overflow _ | .later _ => True
  | .custom response => response.Serves
  | .refused _ | .silent | .here _ => False

/-- The same request for the device itself. -/
def Request.forRoot (request : Request) : Request := { request with subDevice := 0 }

namespace Device

variable {device : Device κ} {request : Request} {rules : CustomRules κ} {definition : Definition κ}

/-! ### What is sent -/

/-- A request to a single device is acknowledged if its outcome is, unless it belongs to discovery. -/
theorem serves_answerOf_iff (hsingle : request.destination.isBroadcast = false)
    (hclass : request.commandClass ≠ .discovery) (outcome : Outcome) :
    (device.answerOf request outcome).Serves ↔ outcome.Serves := by
  have hsent (type : ResponseType) (data : Payload) (count : UInt8) :
      (request.reply? device.state.uid type data count).toOption =
        some (request.reply device.state.uid type data count) := by
    rw [Request.reply?, if_neg (by simp [hsingle])]
    rfl
  have hother : request.isBranchProbe = false := by
    cases hcase : request.commandClass with
    | discovery => exact absurd hcase hclass
    | get | set => simp [Request.isBranchProbe, hcase]
  cases outcome <;>
    simp [answerOf, Outcome.response?, hsent, hsingle, hclass, hother, Answer.Serves, Outcome.Serves,
      Response.Serves, Request.reply]

private theorem answerOf_of_broadcast (hmany : request.destination.isBroadcast = true)
    (hclass : request.commandClass ≠ .discovery) (outcome : Outcome) : device.answerOf request outcome = .silent := by
  unfold answerOf
  split
  · split
    · rename_i hprobe
      exact absurd (by simpa [Request.isBranchProbe] using hprobe : _ ∧ _).1 hclass
    · rfl
  · rw [if_pos hmany]

private theorem not_serves_answerOf (hclass : request.commandClass ≠ .discovery) {outcome : Outcome}
    (h : ¬outcome.Serves) :
    ¬(device.answerOf request outcome).Serves := by
  cases hmany : request.destination.isBroadcast with
  | true =>
    rw [answerOf_of_broadcast hmany hclass]
    exact fun h => h
  | false => rwa [serves_answerOf_iff hmany hclass]

/-! ### Single rules -/

private theorem answerStored_of_subDevice (device : Device κ) (hsub : request.subDevice ≠ 0) :
    device.answerStored request = (.nack .subDeviceOutOfRange, device) := if_pos hsub

/-- No rule serves a sub-device. -/
theorem applyRule_of_subDevice (rules : CustomRules κ) (device : Device κ) {handler : Handler κ}
    (hstandard : handler.IsStandard) (hsub : request.subDevice ≠ 0) :
    (device.applyRule rules request handler).2 = device ∧ ¬(device.applyRule rules request handler).1.Serves := by
  have hstored := answerStored_of_subDevice device hsub
  have honRoot (outcome : Outcome) : onRoot request outcome = .nack .subDeviceOutOfRange := if_pos hsub
  cases handler with
  | stored => simp [applyRule, hstored, Outcome.nack, Outcome.Serves]
  | branchProbe => simp [applyRule, answerBranchProbe, hsub, Outcome.Serves]
  | mute => simp [applyRule, answerMute, hsub, Outcome.Serves]
  | deviceInfo | supportedParameters | parameterDescription | softwareVersionLabel =>
    simp [applyRule, honRoot, Outcome.nack, Outcome.Serves]
  | identifyDevice =>
    -- Wrong data are refused first.
    simp only [applyRule, answerIdentify, hstored]
    split
    · split <;> exact ⟨rfl, id⟩
    · exact ⟨rfl, id⟩
    · exact ⟨rfl, id⟩
  | startAddress =>
    simp only [applyRule, answerStartAddress, hstored]
    split
    · split
      · exact ⟨rfl, id⟩
      · split <;> exact ⟨rfl, id⟩
    · exact ⟨rfl, id⟩
  | queuedMessage => exact ⟨rfl, id⟩
  | custom rule => exact absurd hstandard id

/-- Which sub-device is asked makes no difference to what is fetched, and to whether anything is. -/
theorem answerQueuedMessage_of_subDevice (rules : CustomRules κ) (device : Device κ) (request : Request) :
    (device.answerQueuedMessage rules request).2 = (device.answerQueuedMessage rules request.forRoot).2 ∧
      ((device.answerQueuedMessage rules request).1.Serves ↔
        (device.answerQueuedMessage rules request.forRoot).1.Serves) := by
  cases hmany : request.destination.isBroadcast with
  | true =>
    have hroot : request.forRoot.destination.isBroadcast = true := hmany
    simp [answerQueuedMessage, hmany, hroot]
  | false =>
    have hroot : request.forRoot.destination.isBroadcast = false := hmany
    have hnothing (device : Device κ) : (device.answerNothingQueued request).Serves ↔
        (device.answerNothingQueued request.forRoot).Serves := by
      simp [answerNothingQueued, Outcome.response?, Request.reply?, hmany, hroot, Except.toOption, Outcome.Serves,
        Response.Serves, Request.reply]
    -- The request for the value of a parameter that waits goes to the root in any case.
    have hqueued (device : Device κ) (pid : ParameterId) :
        device.answerQueued rules request pid = device.answerQueued rules request.forRoot pid := rfl
    have hdata : request.forRoot.data = request.data := rfl
    unfold answerQueuedMessage
    rw [hmany, hroot, hdata]
    dsimp only
    rw [if_neg Bool.false_ne_true, if_neg Bool.false_ne_true]
    split
    · split
      · cases device.parameters.lastQueued with
        | none => exact ⟨rfl, hnothing device⟩
        | some pid => exact ⟨rfl, Iff.rfl⟩
      split
      · cases device.parameters.popQueued.1 with
        | none => exact ⟨rfl, hnothing _⟩
        | some pid => exact ⟨rfl, Iff.rfl⟩
      · exact ⟨rfl, Iff.rfl⟩
    · exact ⟨rfl, Iff.rfl⟩

/-! ### Requests -/

/-- What is refused because of its sub-device is not refused on the root device. -/
private theorem refusal?_forRoot (h : device.refusal? request = none) : device.refusal? request.forRoot = none := by
  unfold refusal? at h ⊢
  have hport : request.forRoot.port = request.port := rfl
  have hclass : request.forRoot.commandClass = request.commandClass := rfl
  have hpid : request.forRoot.parameterId = request.parameterId := rfl
  have hroot : request.forRoot.subDevice = 0 := rfl
  rw [hport, hclass, hpid, hroot]
  split at h
  · cases h
  rename_i hport
  rw [if_neg hport]
  cases hdefinition : device.parameters.definition? request.parameterId with
  | none => rfl
  | some definition =>
    rw [hdefinition] at h
    dsimp only at h ⊢
    split at h
    · cases h
    rename_i haccess
    rw [if_neg haccess]
    rfl

/-- A request for a sub-device is not acknowledged and changes nothing, unless it fetches queued messages.  Such a
request is served as one for the root device, although there is no sub-device that it could be for. -/
theorem handle_of_subDevice (app : Application κ υ ε) (hstandard : device.HasStandardRules)
    (hknown : device.parameters.definition? request.parameterId = some definition)
    (hclass : request.commandClass ≠ .discovery) (hsub : request.subDevice ≠ 0) (memory : υ) :
    (definition.handler ≠ .queuedMessage ∨ device.refusal? request ≠ none →
      ∃ answer, (device.handle app request memory).1 = .ok answer ∧ ¬answer.Serves ∧
        (device.handle app request memory).2.1 = device) ∧
    (definition.handler = .queuedMessage → device.refusal? request = none →
      ∃ answer root, (device.handle app request memory).1 = .ok answer ∧
        (device.handle app request.forRoot memory).1 = .ok root ∧ (answer.Serves ↔ root.Serves) ∧
        (device.handle app request memory).2.1 = (device.handle app request.forRoot memory).2.1) := by
  cases haddressed : request.destination.addresses device.state.uid with
  | false =>
    have hroot : request.forRoot.destination.addresses device.state.uid = false := haddressed
    rw [handle_of_not_addressed app memory haddressed, handle_of_not_addressed app memory hroot]
    exact ⟨fun _ => ⟨.silent, rfl, id, rfl⟩, fun _ _ => ⟨.silent, .silent, rfl, rfl, Iff.rfl, rfl⟩⟩
  | true =>
    constructor
    · intro hunserved
      cases hrefusal : device.refusal? request with
      | some reason =>
        obtain ⟨hanswer, hafter⟩ := handle_of_outcome haddressed (outcomeOf_of_refused app hrefusal memory)
        exact ⟨_, hanswer, not_serves_answerOf hclass id, hafter⟩
      | none =>
        have hother : definition.handler ≠ .queuedMessage := hunserved.resolve_right fun h => h hrefusal
        obtain ⟨hsame, hrefused⟩ := applyRule_of_subDevice app.rules device (hstandard.isStandard hknown) hsub
        have houtcome := outcomeOf_of_known app hknown hrefusal memory
        rw [dispatch_of_handler hknown rfl hother, hsame] at houtcome
        obtain ⟨hanswer, hafter⟩ := handle_of_outcome haddressed houtcome
        exact ⟨_, hanswer, not_serves_answerOf hclass hrefused, hafter⟩
    · intro hfetching hrefusal
      have hknownRoot : device.parameters.definition? request.forRoot.parameterId = some definition := hknown
      have houtcome := outcomeOf_of_known app hknown hrefusal memory
      have houtcomeRoot := outcomeOf_of_known app hknownRoot (refusal?_forRoot hrefusal) memory
      rw [dispatch_of_fetching hknown hfetching] at houtcome
      rw [dispatch_of_fetching hknownRoot hfetching] at houtcomeRoot
      obtain ⟨hanswer, hafter⟩ := handle_of_outcome haddressed houtcome
      have haddressedRoot : request.forRoot.destination.addresses device.state.uid = true := haddressed
      obtain ⟨hanswerRoot, hafterRoot⟩ := handle_of_outcome haddressedRoot houtcomeRoot
      obtain ⟨hsame, haccepted⟩ := answerQueuedMessage_of_subDevice app.rules device request
      refine ⟨_, _, hanswer, hanswerRoot, ?_, by rw [hafter, hafterRoot, hsame]⟩
      cases hmany : request.destination.isBroadcast with
      | true =>
        have hmanyRoot : request.forRoot.destination.isBroadcast = true := hmany
        rw [answerOf_of_broadcast hmany hclass, answerOf_of_broadcast hmanyRoot hclass]
      | false =>
        have hsingleRoot : request.forRoot.destination.isBroadcast = false := hmany
        rw [serves_answerOf_iff hmany hclass, serves_answerOf_iff hsingleRoot hclass]
        exact haccepted

/-- The lamp is asked for the label of its sub-device 5. -/
theorem handle_of_subDevice_label : ∃ answer,
    (lamp.handle .idle ⟨.device ⟨0x05E0, 1⟩, ⟨0x7FF0, 0⟩, 1, 1, 0, 5, .get, .deviceLabel, .empty⟩ ()).1 = .ok answer ∧
      ¬answer.Serves ∧
      (lamp.handle .idle ⟨.device ⟨0x05E0, 1⟩, ⟨0x7FF0, 0⟩, 1, 1, 0, 5, .get, .deviceLabel, .empty⟩ ()).2.1 = lamp :=
  (handle_of_subDevice .idle hasStandardRules_lamp
    (show lamp.parameters.definition? .deviceLabel = some labelDefinition from rfl) (by decide) (by decide) ()).1
    (.inl (by simp [labelDefinition, plainDefinition]))

/-- The sub-device 5 is asked for queued messages: the request is acknowledged, and the change is no longer queued. -/
theorem served_without_subDevice : ∃ (device after : Device Empty) (request : Request) (response : Response),
    device.Reachable ∧ device.HasStandardRules ∧ device.parameters.contains request.parameterId = true ∧
      request.commandClass = .get ∧ request.subDevice = 5 ∧
      device.handle .idle request () = (.ok (.response response), after, ()) ∧ response.responseType = .ack ∧
      device.parameters.queue = [.identifyDevice] ∧ after.parameters.queue = [] ∧
      device.parameters.lastQueued = none ∧
      after.parameters.lastQueued = some .identifyDevice := by
  refine ⟨identifiedLamp, { identifiedLamp with parameters := identifiedLamp.parameters.popQueued.2 },
    ⟨.device ⟨0x05E0, 1⟩, ⟨0x7FF0, 0⟩, 1, 1, 0, 5, .get, .queuedMessage, .ofList [2]⟩,
    ⟨.device ⟨0x7FF0, 0⟩, ⟨0x05E0, 1⟩, 1, .ack, 0, 0, .get, .identifyDevice, .ofList [1]⟩,
    reachable_identifiedLamp, hasStandardRules_identifiedLamp, ?_⟩
  exact ⟨rfl, rfl, rfl, rfl, rfl, rfl, rfl, rfl, rfl⟩

end Device

end LightBus
