import LightBus.Proofs.Dictionary.Reachable
import LightBus.Proofs.Responder.Speaking

/-!
# What rules do to a device

Handling a request changes a device by few means: a value is stored, a message is fetched, the device is muted, or a
rule of its own or its application does something.  An invariant that bears these is kept by every request
(`KeptByRules.handle`).

A fetched message is answered by the rule of the parameter that waits (`fetches_answerQueuedMessage`), after at most
one value was taken from the queue.
-/

namespace LightBus

/-- The outcome is not a response that somebody made up. -/
def Outcome.IsPlain : Outcome → Prop
  | .custom _ => False
  | _ => True

/-- The request gives the command for a parameter of the root device. -/
structure Request.Asks (request : Request) (commandClass : CommandClass) (pid : ParameterId) : Prop where
  subDevice : request.subDevice = 0
  commandClass : request.commandClass = commandClass
  parameterId : request.parameterId = pid

/-- Nothing waits and nothing changes, or the parameter that is taken is the one fetched last. -/
private theorem Dictionary.popQueued_cases {κ : Type} (d : Dictionary κ) :
    d.popQueued = (none, d) ∨ ∃ pid, d.popQueued.1 = some pid ∧ d.popQueued.2.lastQueued = some pid := by
  unfold popQueued
  split
  · exact .inl rfl
  · exact .inr ⟨_, rfl, rfl⟩

theorem Dictionary.entries_popQueued {κ : Type} (d : Dictionary κ) : d.popQueued.2.entries = d.entries := by
  unfold popQueued
  split
  · rfl
  · rfl

namespace Device

variable {κ υ ε : Type} {device : Device κ} {request : Request} {pid : ParameterId} {I : Device κ → Prop}
  {rules : CustomRules κ} {definition : Definition κ}

/-- The device after at most one value was stored. -/
inductive Stores (device : Device κ) : Device κ → Prop
  | nothing : Stores device device
  | value (pid : ParameterId) (native : List UInt8) :
    Stores device { device with parameters := (device.parameters.set pid native).2 }

/-! ### Single rules -/

private theorem answerStored_spec (device : Device κ) (request : Request) :
    (device.answerStored request).1.IsPlain ∧ device.Stores (device.answerStored request).2 := by
  unfold answerStored
  split
  · exact ⟨trivial, .nothing⟩
  split
  · exact ⟨trivial, .nothing⟩
  split
  · split
    · exact ⟨trivial, .nothing⟩
    split
    · exact ⟨trivial, .nothing⟩
    · exact ⟨trivial, .nothing⟩
  · dsimp only
    split
    · exact ⟨trivial, .nothing⟩
    · split
      · exact ⟨trivial, .value _ _⟩
      · exact ⟨trivial, .value _ _⟩
  · exact ⟨trivial, .nothing⟩

private theorem answerIdentify_spec (device : Device κ) (request : Request) :
    (device.answerIdentify request).1.IsPlain ∧ device.Stores (device.answerIdentify request).2 := by
  unfold answerIdentify
  split
  · split
    · exact device.answerStored_spec request
    · exact ⟨trivial, .nothing⟩
  · exact ⟨trivial, .nothing⟩
  · exact device.answerStored_spec request

private theorem answerStartAddress_spec (device : Device κ) (request : Request) :
    (device.answerStartAddress request).1.IsPlain ∧ device.Stores (device.answerStartAddress request).2 := by
  unfold answerStartAddress
  split
  · split
    · exact ⟨trivial, .nothing⟩
    split
    · exact ⟨trivial, .nothing⟩
    · exact device.answerStored_spec request
  · exact device.answerStored_spec request

private theorem isPlain_answerBranchProbe (device : Device κ) (request : Request) :
    (device.answerBranchProbe request).IsPlain := by
  unfold answerBranchProbe
  split
  · trivial
  split
  · trivial
  split
  · trivial
  · trivial

private theorem isPlain_answerMute (device : Device κ) (request : Request) :
    (device.answerMute request).1.IsPlain := by
  unfold answerMute
  split
  · trivial
  · trivial

private theorem isPlain_onRoot {outcome : Outcome} (h : outcome.IsPlain) (request : Request) :
    (onRoot request outcome).IsPlain := by
  unfold onRoot
  split
  · trivial
  · exact h

private theorem isPlain_describe (device : Device κ) (request : Request) : (device.describe request).IsPlain := by
  unfold describe
  split
  · split
    · trivial
    split
    · trivial
    · trivial
  · trivial

/-- A rule of the device's own does what it likes, one rule mutes, and all others store at most one value. -/
private theorem applyRule_cases (rules : CustomRules κ) (device : Device κ) (request : Request)
    (handler : Handler κ) :
    (∃ rule, handler = .custom rule ∧ device.applyRule rules request handler = rules rule device request) ∨
    (handler = .mute ∧ device.applyRule rules request handler = device.answerMute request) ∨
    ((device.applyRule rules request handler).1.IsPlain ∧
      device.Stores (device.applyRule rules request handler).2) := by
  have onRootOnly (outcome : Outcome) (h : outcome.IsPlain) :
      (onRoot request outcome).IsPlain ∧ device.Stores device := ⟨isPlain_onRoot h request, .nothing⟩
  cases handler with
  | custom rule => exact .inl ⟨rule, rfl, rfl⟩
  | mute => exact .inr (.inl ⟨rfl, rfl⟩)
  | stored => exact .inr (.inr (device.answerStored_spec request))
  | branchProbe => exact .inr (.inr ⟨device.isPlain_answerBranchProbe request, .nothing⟩)
  | deviceInfo => exact .inr (.inr (onRootOnly (.acknowledged device.info.payload) trivial))
  | supportedParameters => exact .inr (.inr (onRootOnly (.acknowledged device.listPayload) trivial))
  | softwareVersionLabel => exact .inr (.inr (onRootOnly (.acknowledged device.versionLabel) trivial))
  | parameterDescription => exact .inr (.inr (onRootOnly _ (device.isPlain_describe request)))
  | identifyDevice => exact .inr (.inr (device.answerIdentify_spec request))
  | startAddress => exact .inr (.inr (device.answerStartAddress_spec request))
  | queuedMessage => exact .inr (.inr ⟨trivial, .nothing⟩)

theorem isPlain_applyRule {handler : Handler κ}
    (hcustom : ∀ rule, handler = .custom rule → (rules rule device request).1.IsPlain) :
    (device.applyRule rules request handler).1.IsPlain := by
  rcases applyRule_cases rules device request handler with ⟨rule, hrule, happly⟩ | ⟨-, happly⟩ | ⟨hplain, -⟩
  · rw [happly]
    exact hcustom rule hrule
  · rw [happly]
    exact device.isPlain_answerMute request
  · exact hplain

/-! ### Queued messages -/

/-- What the rule of a parameter that waited makes of the request for its value. -/
def fetchedOutcome (rules : CustomRules κ) (device : Device κ) (request : Request) (pid : ParameterId) :
    Outcome × Device κ :=
  match device.parameters.definition? pid with
  | none => (.nack .unknownPid, device)
  | some definition => device.applyRule rules (queuedRequest request pid) definition.handler

/-- The response to that request is the answer, and without one the device is at fault. -/
theorem answerQueued_eq (rules : CustomRules κ) (device : Device κ) (request : Request) (pid : ParameterId) :
    device.answerQueued rules request pid =
      (match (device.fetchedOutcome rules request pid).1.response? (queuedRequest request pid)
          (device.fetchedOutcome rules request pid).2.state.uid 0 with
        | some response => .custom response
        | none => .nack .hardwareFault, (device.fetchedOutcome rules request pid).2) := by
  unfold answerQueued
  change (match (device.fetchedOutcome rules request pid).1.response? (queuedRequest request pid)
      (device.fetchedOutcome rules request pid).2.state.uid 0 with | some response => _ | none => _) = _
  cases (device.fetchedOutcome rules request pid).1.response? (queuedRequest request pid)
      (device.fetchedOutcome rules request pid).2.state.uid 0 with
  | some response => rfl
  | none => rfl

/-- What a request for queued messages comes to: it fetches nothing, nothing waits, or the rule of a parameter
answers, which is then the one that was fetched last. -/
inductive Fetches (rules : CustomRules κ) (device : Device κ) (request : Request) : Outcome × Device κ → Prop
  | refusal (outcome : Outcome) (h : outcome.IsPlain) : Fetches rules device request (outcome, device)
  | nothing : Fetches rules device request (device.answerNothingQueued request, device)
  | message (fetched : Device κ) (pid : ParameterId)
      (hfetched : fetched = device ∨ fetched = { device with parameters := device.parameters.popQueued.2 })
      (hlast : fetched.parameters.lastQueued = some pid) :
      Fetches rules device request (fetched.answerQueued rules request pid)

theorem fetches_answerQueuedMessage (rules : CustomRules κ) (device : Device κ) (request : Request) :
    Fetches rules device request (device.answerQueuedMessage rules request) := by
  unfold answerQueuedMessage
  dsimp only
  split
  · exact .refusal _ trivial
  split
  · split
    · cases hlast : device.parameters.lastQueued with
      | none => exact .nothing
      | some pid => exact .message device pid (.inl rfl) hlast
    split
    · rcases device.parameters.popQueued_cases with hpop | ⟨pid, hpid, hlast⟩
      · rw [hpop]
        exact .nothing
      · rw [hpid]
        exact .message _ pid (.inr rfl) hlast
    · exact .refusal _ trivial
  · exact .refusal _ trivial

/-! ### Choice of the rule -/

theorem dispatch_of_handler {definition : Definition κ} {handler : Handler κ}
    (hdefinition : device.parameters.definition? request.parameterId = some definition)
    (hhandler : definition.handler = handler) (hother : handler ≠ .queuedMessage) :
    device.dispatch rules request = device.applyRule rules request handler := by
  unfold dispatch
  rw [hdefinition]
  dsimp only
  rw [hhandler]
  split
  · exact absurd rfl hother
  · rfl

theorem dispatch_of_fetching (hknown : device.parameters.definition? request.parameterId = some definition)
    (hfetching : definition.handler = .queuedMessage) :
    device.dispatch rules request = device.answerQueuedMessage rules request := by
  unfold dispatch
  rw [hknown]
  dsimp only
  rw [hfetching]

/-! ### Invariants -/

/-- What the rules of a device do keeps the invariant, apart from muting on request. -/
structure KeptByRules (rules : CustomRules κ) (I : Device κ → Prop) : Prop where
  set {device : Device κ} (pid : ParameterId) (native : List UInt8) (h : I device) :
    I { device with parameters := (device.parameters.set pid native).2 }
  popQueued {device : Device κ} (h : I device) : I { device with parameters := device.parameters.popQueued.2 }
  /-- A message may have waited for the rule that mutes. -/
  fetchedMute {device : Device κ} {pid : ParameterId} {definition : Definition κ} (request : Request) (h : I device)
    (hlast : device.parameters.lastQueued = some pid)
    (hdefinition : device.parameters.definition? pid = some definition) (hmute : definition.handler = .mute) :
    I (device.answerMute (queuedRequest request pid)).2
  custom {device : Device κ} (rule : κ) (request : Request) (h : I device) : I (rules rule device request).2

namespace KeptByRules

private theorem stores {after : Device κ} (hrules : KeptByRules rules I) (h : I device)
    (hstores : device.Stores after) : I after := by
  cases hstores with
  | nothing => exact h
  | value pid native => exact hrules.set pid native h

private theorem applyRule {handler : Handler κ} (hrules : KeptByRules rules I) (h : I device)
    (hmute : handler = .mute → I (device.answerMute request).2) : I (device.applyRule rules request handler).2 := by
  rcases applyRule_cases rules device request handler with ⟨rule, -, happly⟩ | ⟨hhandler, happly⟩ | ⟨-, hstores⟩
  · rw [happly]
    exact hrules.custom rule request h
  · rw [happly]
    exact hmute hhandler
  · exact hrules.stores h hstores

private theorem answerQueued (hrules : KeptByRules rules I) (h : I device)
    (hlast : device.parameters.lastQueued = some pid) :
    I (device.answerQueued rules request pid).2 := by
  rw [answerQueued_eq, fetchedOutcome]
  cases hdefinition : device.parameters.definition? pid with
  | none => exact h
  | some definition => exact hrules.applyRule h (hrules.fetchedMute request h hlast hdefinition)

private theorem answerQueuedMessage (hrules : KeptByRules rules I) (h : I device) :
    I (device.answerQueuedMessage rules request).2 := by
  have hfetches := fetches_answerQueuedMessage rules device request
  generalize device.answerQueuedMessage rules request = result at hfetches ⊢
  cases hfetches with
  | refusal => exact h
  | nothing => exact h
  | message fetched pid hfetched hlast =>
    -- The message is taken before the rule of its parameter answers, and that rule may change the device again.
    have hkept : I fetched := by
      rcases hfetched with rfl | rfl
      · exact h
      · exact hrules.popQueued h
    exact hrules.answerQueued hkept hlast

private theorem dispatch (hrules : KeptByRules rules I) (h : I device)
    (hmute : ∀ definition, device.parameters.definition? request.parameterId = some definition →
      definition.handler = .mute →
      I (device.answerMute request).2) : I (device.dispatch rules request).2 := by
  unfold Device.dispatch
  split
  · exact h
  · rename_i definition hdefinition
    split
    · exact hrules.answerQueuedMessage h
    · exact hrules.applyRule h (hmute definition hdefinition)

end KeptByRules

/-! ### Requests -/

theorem handle_of_not_addressed (app : Application κ υ ε) (memory : υ)
    (hother : request.destination.addresses device.state.uid = false) :
    device.handle app request memory = (.ok .silent, device, memory) := by
  unfold handle
  rw [if_pos (by simp [hother])]

/-- What is sent changes nothing any more. -/
theorem after_handle_of_addressed (app : Application κ υ ε) (memory : υ)
    (haddressed : request.destination.addresses device.state.uid = true) :
    (device.handle app request memory).2.1 = (outcomeOf app request device memory).2.1 := by
  unfold handle outcomeOf
  rw [if_neg (by simp [haddressed])]
  cases device.refusal? request with
  | some reason =>
    dsimp only
    split <;> rfl
  | none =>
    cases device.parameters.contains request.parameterId with
    | true =>
      simp only [if_true]
      split <;> rfl
    | false =>
      rw [if_neg Bool.false_ne_true]
      rcases app.others request device memory with ⟨_ | outcome, after, memory⟩
      · rfl
      · dsimp only
        split <;> rfl

/-- The answer is sent that the outcome has. -/
theorem exists_handle_of_outcome {app : Application κ υ ε} {outcome : Outcome} {after : Device κ} {memory memory' : υ}
    (haddressed : request.destination.addresses device.state.uid = true)
    (houtcome : outcomeOf app request device memory = (.ok outcome, after, memory')) :
    ∃ memory'', device.handle app request memory = (.ok (after.answerOf request outcome), after, memory'') := by
  have hafter := after_handle_of_addressed app memory haddressed
  have hanswer := handle_of_addressed app memory haddressed
  rw [houtcome] at hafter hanswer
  rcases hhandle : device.handle app request memory with ⟨answer, device', memory''⟩
  rw [hhandle] at hafter hanswer
  obtain rfl : device' = after := hafter
  obtain rfl : answer = .ok (device'.answerOf request outcome) := hanswer
  exact ⟨memory'', rfl⟩

/-- What comes of a request for a parameter that the device has. -/
theorem outcomeOf_of_known (app : Application κ υ ε)
    (hknown : device.parameters.definition? request.parameterId = some definition)
    (hrefusal : device.refusal? request = none) (memory : υ) :
    outcomeOf app request device memory =
      (.ok (device.dispatch app.rules request).1, (device.dispatch app.rules request).2, memory) := by
  have hcontains : device.parameters.contains request.parameterId = true := by
    obtain ⟨entry, hentry, -⟩ := Option.map_eq_some_iff.1 hknown
    exact Dictionary.contains_of_entry? hentry
  rw [outcomeOf, hrefusal]
  dsimp only
  rw [if_pos hcontains]

theorem outcomeOf_of_refused (app : Application κ υ ε) {reason : NackReason}
    (hrefusal : device.refusal? request = some reason) (memory : υ) :
    outcomeOf app request device memory = (.ok (.nack reason), device, memory) := by
  rw [outcomeOf, hrefusal]

/-- Nothing but the lack of a response keeps the one device that a GET or a SET goes to from answering it. -/
theorem answerOf_of_single {outcome : Outcome} (hsingle : request.destination.isBroadcast = false)
    (hclass : request.commandClass ≠ .discovery) :
    device.answerOf request outcome =
      match outcome.response? request device.state.uid device.parameters.messageCount with
      | some response => .response response
      | none => .silent := by
  unfold answerOf
  split
  · rw [if_neg (by simp [Request.isBranchProbe, hclass])]
    rfl
  · rw [if_neg (by simp [hsingle])]
    cases outcome.response? request device.state.uid device.parameters.messageCount with
    | none => rfl
    | some response => simp [hclass]

/-- The answer to a request that has an outcome, and the device after it. -/
theorem handle_of_outcome {app : Application κ υ ε} {memory memory' : υ} {after : Device κ} {outcome : Outcome}
    (haddressed : request.destination.addresses device.state.uid = true)
    (houtcome : outcomeOf app request device memory = (.ok outcome, after, memory')) :
    (device.handle app request memory).1 = .ok (after.answerOf request outcome) ∧
      (device.handle app request memory).2.1 = after := by
  rw [handle_of_addressed app memory haddressed, after_handle_of_addressed app memory haddressed, houtcome]
  exact ⟨rfl, rfl⟩

/-- An invariant that bears the rules, the application, and muting as far as the request may mute. -/
theorem KeptByRules.handle {app : Application κ υ ε} (hrules : KeptByRules app.rules I)
    (hothers : ∀ {device : Device κ} (request : Request) (memory : υ), I device →
      I (app.others request device memory).2.1)
    (h : I device)
    (hmute : ∀ definition, request.destination.addresses device.state.uid = true → device.refusal? request = none →
      device.parameters.definition? request.parameterId = some definition → definition.handler = .mute →
        I (device.answerMute request).2) (memory : υ) : I (device.handle app request memory).2.1 := by
  cases haddressed : request.destination.addresses device.state.uid with
  | false => rwa [handle_of_not_addressed app memory haddressed]
  | true =>
    rw [after_handle_of_addressed app memory haddressed]
    unfold outcomeOf
    cases hrefusal : device.refusal? request with
    | some reason => exact h
    | none =>
      cases device.parameters.contains request.parameterId with
      | true => exact hrules.dispatch h fun definition => hmute definition haddressed hrefusal
      | false => exact hothers request memory h

end Device

end LightBus
