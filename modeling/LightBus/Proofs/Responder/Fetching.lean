import LightBus.Proofs.Responder.Discovery
import LightBus.Proofs.Responder.Standard

/-!
# Fetching queued messages

A controller that fetches a queued message is told the value of the parameter that waits, as if it had asked for that
parameter itself, and may have it told again as long as the value stays (`Device.handle_of_waiting`).  The rule of the
parameter answers both times.  But only a request of the controller's own is refused where the parameter does not
allow GET: a message is fetched without a look at the access.

* (rules) `applyRule_of_gets`: what each rule tells (`Device.told`) depends on nothing but stored values, entries, and
  what the device knows about itself.
* (requests) `handle_of_fetched` for messages, `handle_of_direct` for the parameter itself.
* (run) `handleAll_of_again`: a message is repeated any number of times.
-/

namespace LightBus

variable {κ υ ε : Type}

/-- The request asks the device itself for the parameter. -/
structure Request.Gets (request : Request) (uid : Uid) (pid : ParameterId) (data : List UInt8) : Prop where
  destination : request.destination = .device uid
  commandClass : request.commandClass = .get
  subDevice : request.subDevice = 0
  port : request.port ≠ 0
  parameterId : request.parameterId = pid
  data : request.data.bytes = data

private theorem Request.Asks.gets {request : Request} {uid : Uid} {pid : ParameterId} (h : request.Asks .get pid)
    (hdestination : request.destination = .device uid) (hport : request.port ≠ 0) :
    request.Gets uid pid request.data.bytes :=
  ⟨hdestination, h.commandClass, h.subDevice, hport, h.parameterId, rfl⟩

private theorem Request.Gets.asks {request : Request} {uid : Uid} {pid : ParameterId} {data : List UInt8}
    (h : request.Gets uid pid data) : request.Asks .get pid :=
  ⟨h.subDevice, h.commandClass, h.parameterId⟩

private theorem Request.Gets.addresses {request : Request} {uid : Uid} {pid : ParameterId} {data : List UInt8}
    (h : request.Gets uid pid data) : request.destination.addresses uid = true := by
  rw [h.destination]
  exact beq_self_eq_true _

private theorem Request.Gets.single {request : Request} {uid : Uid} {pid : ParameterId} {data : List UInt8}
    (h : request.Gets uid pid data) : request.destination.isBroadcast = false := by
  rw [h.destination, Address.isBroadcast]

/-- Type and data of the response that carries the outcome, unless that was made up. -/
def Outcome.content? : Outcome → Option (ResponseType × Payload)
  | .acknowledged data => some (.ack, data)
  | .overflow data => some (.ackOverflow, data)
  | .refused reason => some (.nack, .ofList (word reason))
  | .later delay => some (.ackTimer, .ofList (word delay))
  | .silent | .here _ | .custom _ => none

theorem Outcome.isPlain_of_content? {outcome : Outcome} {content : ResponseType × Payload}
    (h : outcome.content? = some content) :
    outcome.IsPlain := by
  cases outcome with
  | custom => cases h
  | acknowledged | overflow | refused | later | silent | here => trivial

theorem Outcome.response?_of_isPlain (outcome : Outcome) {request : Request} (hplain : outcome.IsPlain)
    (hsingle : request.destination.isBroadcast = false) (responder : Uid) (count : UInt8) :
    outcome.response? request responder count =
      outcome.content?.map fun content => request.reply responder content.1 content.2 count := by
  have hsent (type : ResponseType) (data : Payload) :
      (request.reply? responder type data count).toOption = some (request.reply responder type data count) := by
    rw [Request.reply?, if_neg (by simp [hsingle])]
    rfl
  cases outcome with
  | acknowledged | overflow | refused | later => exact hsent _ _
  | silent | here => rfl
  | custom => exact absurd hplain id

namespace Device

variable {device fetched later : Device κ} {request : Request} {rules : CustomRules κ} {pid : ParameterId}
  {data : List UInt8} {definition fetching : Definition κ} {handler : Handler κ} {app : Application κ υ ε}

/-! ### What the rules tell -/

/-- The stored value, in the form in which it is sent. -/
def toldValue (device : Device κ) (pid : ParameterId) : Outcome :=
  match device.parameters.definition? pid with
  | none => .nack .unknownPid
  | some definition =>
    match device.parameters.get? pid with
    | none => .nack .hardwareFault
    | some value =>
      match definition.schema.toPayload? value with
      | .ok data => .acknowledged data
      | .error _ => .nack .hardwareFault

/-- What a GET without data comes to. -/
def told (device : Device κ) (pid : ParameterId) : Handler κ → Outcome
  | .stored | .identifyDevice | .startAddress => device.toldValue pid
  | .mute => .acknowledged MuteReply.plain.payload
  | .deviceInfo => .acknowledged device.info.payload
  | .supportedParameters => .acknowledged device.listPayload
  | .softwareVersionLabel => .acknowledged device.versionLabel
  | .parameterDescription | .queuedMessage => .nack .formatError
  | .branchProbe | .custom _ => .silent

private theorem isPlain_told (device : Device κ) (pid : ParameterId) (handler : Handler κ) :
    (device.told pid handler).IsPlain := by
  have hvalue : (device.toldValue pid).IsPlain := by
    unfold toldValue
    split
    · trivial
    split
    · trivial
    · split <;> trivial
  cases handler with
  | stored | identifyDevice | startAddress => exact hvalue
  | mute | deviceInfo | supportedParameters | softwareVersionLabel | parameterDescription | queuedMessage
    | branchProbe | custom =>
    trivial

/-- All rules but the one of branch probes tell something. -/
private theorem exists_content_of_told (device : Device κ) (pid : ParameterId) (hstandard : handler.IsStandard)
    (hprobe : handler ≠ .branchProbe) : ∃ content, (device.told pid handler).content? = some content := by
  have hvalue : ∃ content, (device.toldValue pid).content? = some content := by
    unfold toldValue
    split
    · exact ⟨_, rfl⟩
    split
    · exact ⟨_, rfl⟩
    · split <;> exact ⟨_, rfl⟩
  cases handler with
  | stored | identifyDevice | startAddress => exact hvalue
  | mute | deviceInfo | supportedParameters | softwareVersionLabel | parameterDescription | queuedMessage =>
    exact ⟨_, rfl⟩
  | branchProbe => exact absurd rfl hprobe
  | custom => exact absurd hstandard id

theorem answerStored_of_gets (device : Device κ) {uid : Uid} (hgets : request.Gets uid pid data) :
    device.answerStored request = (device.toldValue pid, device) := by
  obtain ⟨-, hclass, hroot, -, rfl, -⟩ := hgets
  unfold answerStored toldValue
  rw [if_neg (by simp [hroot]), hclass]
  cases device.parameters.definition? request.parameterId with
  | none => rfl
  | some definition =>
    dsimp only
    cases device.parameters.get? request.parameterId with
    | none => rfl
    | some value =>
      dsimp only
      cases definition.schema.toPayload? value with
      | ok | error => rfl

/-- Of the rules that every device has, one mutes and none does anything else to the device. -/
theorem applyRule_of_gets (rules : CustomRules κ) (device : Device κ) {uid : Uid} (hgets : request.Gets uid pid [])
    (hstandard : handler.IsStandard) :
    ∃ muted, device.applyRule rules request handler =
      (device.told pid handler, { device with state := { device.state with muted } }) := by
  have hstored := answerStored_of_gets device hgets
  obtain ⟨-, hclass, hroot, -, rfl, hdata⟩ := hgets
  have honRoot (outcome : Outcome) : onRoot request outcome = outcome := if_neg (by simp [hroot])
  cases handler with
  | stored => exact ⟨device.state.muted, hstored⟩
  | identifyDevice =>
    refine ⟨device.state.muted, ?_⟩
    simp only [applyRule, answerIdentify, hclass]
    exact hstored
  | startAddress =>
    refine ⟨device.state.muted, ?_⟩
    simp only [applyRule, answerStartAddress, hclass]
    exact hstored
  | branchProbe =>
    refine ⟨device.state.muted, ?_⟩
    rw [applyRule, answerBranchProbe, hdata]
    split <;> rfl
  | mute => exact ⟨_, by rw [applyRule, answerMute, if_neg (by simp [hroot, hdata]), told]⟩
  | deviceInfo | supportedParameters | softwareVersionLabel =>
    exact ⟨device.state.muted, by rw [applyRule, honRoot, told]⟩
  | parameterDescription => exact ⟨device.state.muted, by rw [applyRule, honRoot, describe, hdata, told]⟩
  | queuedMessage => exact ⟨device.state.muted, rfl⟩
  | custom rule => exact absurd hstandard id

/-- The later device stores the same under the same rules, and tells the same about itself.  Other messages may wait,
and it may be muted. -/
structure TellsSame (device later : Device κ) : Prop where
  arena : later.parameters.arena = device.parameters.arena
  entries : later.parameters.entries = device.parameters.entries
  uid : later.state.uid = device.state.uid
  metadata : later.state.metadata = device.state.metadata
  otherParameters : later.state.otherParameters = device.state.otherParameters

private theorem TellsSame.definition? (h : device.TellsSame later) (pid : ParameterId) :
    later.parameters.definition? pid = device.parameters.definition? pid := by
  rw [Dictionary.definition?, Dictionary.definition?, Dictionary.entry?_of_entries h.entries]

private theorem TellsSame.get? (h : device.TellsSame later) (pid : ParameterId) :
    later.parameters.get? pid = device.parameters.get? pid :=
  Dictionary.get?_of_same h.entries h.arena pid

theorem TellsSame.told (h : device.TellsSame later) (pid : ParameterId) (handler : Handler κ) :
    later.told pid handler = device.told pid handler := by
  have hvalue : later.toldValue pid = device.toldValue pid := by rw [toldValue, toldValue, h.definition?, h.get?]
  cases handler with
  | stored | identifyDevice | startAddress => exact hvalue
  | deviceInfo =>
    have hinfo : later.info = device.info := by
      rw [info, info, storedStartAddress, storedStartAddress, h.metadata, h.get?]
    rw [Device.told, Device.told, hinfo]
  | supportedParameters =>
    have hlist : later.listPayload = device.listPayload := by
      rw [listPayload, listPayload, listedParameters, listedParameters, Dictionary.parameterIds,
        Dictionary.parameterIds, h.entries, h.otherParameters]
    rw [Device.told, Device.told, hlist]
  | softwareVersionLabel => rw [Device.told, Device.told, versionLabel, versionLabel, h.metadata]
  | mute | parameterDescription | queuedMessage | branchProbe | custom => rfl

/-! ### Single requests -/

private theorem refusal?_of_gets {uid : Uid} (hgets : request.Gets uid pid data)
    (hknown : device.parameters.definition? pid = some definition) :
    device.refusal? request = if definition.access.allows .get then none else some .unsupportedCommandClass := by
  obtain ⟨-, hclass, hroot, hport, rfl, -⟩ := hgets
  unfold refusal?
  rw [if_neg (fun h => hport h.1), hknown, hclass, hroot]
  dsimp only
  cases definition.access.allows .get with
  | true => rfl
  | false => rfl

private theorem answerOf_of_gets {uid : Uid} {outcome : Outcome} {response : Response}
    (hgets : request.Gets uid pid data) (hresponse : outcome.response? request device.state.uid
      device.parameters.messageCount = some response) :
    device.answerOf request outcome = .response response := by
  have hclass : request.commandClass ≠ .discovery := by simp [hgets.commandClass]
  rw [answerOf_of_single hgets.single hclass, hresponse]

/-- What a GET comes to that the rule of its parameter answers without a change to the device.  It has to name a port
of the controller. -/
theorem outcomeOf_of_asks {outcome : Outcome} (app : Application κ υ ε) (hasks : request.Asks .get pid)
    (hdestination : request.destination = .device device.state.uid)
    (hknown : device.parameters.definition? pid = some definition) (hallows : definition.access.allows .get = true)
    (hhandler : definition.handler = handler) (hother : handler ≠ .queuedMessage)
    (hrule : device.applyRule app.rules request handler = (outcome, device)) (memory : υ) :
    outcomeOf app request device memory =
      (.ok (if request.port = 0 then .nack .formatError else outcome), device, memory) := by
  by_cases hport : request.port = 0
  · have hrefusal : device.refusal? request = some .formatError := by
      rw [refusal?, if_pos ⟨hport, by simp [hasks.commandClass]⟩]
    rw [outcomeOf_of_refused app hrefusal memory, if_pos hport]
  · have hrefusal := refusal?_of_gets (hasks.gets hdestination hport) hknown
    rw [hallows] at hrefusal
    rw [← hasks.parameterId] at hknown
    rw [outcomeOf_of_known app hknown hrefusal memory, dispatch_of_handler hknown hhandler hother,
      hrule, if_neg hport]

/-- The response to such a GET. -/
theorem handle_of_asks {outcome : Outcome} {content : ResponseType × Payload} (hasks : request.Asks .get pid)
    (hdestination : request.destination = .device device.state.uid)
    (hknown : device.parameters.definition? pid = some definition) (hallows : definition.access.allows .get = true)
    (hhandler : definition.handler = handler) (hother : handler ≠ .queuedMessage)
    (hrule : device.applyRule app.rules request handler = (outcome, device))
    (hcontent : (if request.port = 0 then .nack .formatError else outcome).content? = some content) (memory : υ) :
    (device.handle app request memory).1 = .ok (.response
      (request.reply device.state.uid content.1 content.2 device.parameters.messageCount)) := by
  have haddressed : request.destination.addresses device.state.uid = true := by
    rw [hdestination]
    exact beq_self_eq_true _
  have hsingle : request.destination.isBroadcast = false := by rw [hdestination, Address.isBroadcast]
  have hclass : request.commandClass ≠ .discovery := by simp [hasks.commandClass]
  have houtcome := outcomeOf_of_asks app hasks hdestination hknown hallows hhandler hother hrule memory
  obtain ⟨hanswer, -⟩ := handle_of_outcome haddressed houtcome
  rw [hanswer, answerOf_of_single hsingle hclass,
    Outcome.response?_of_isPlain _ (Outcome.isPlain_of_content? hcontent) hsingle, hcontent]
  rfl

/-- The response to a request that the rule of its parameter answers without a change to the device. -/
theorem handle_of_rule {outcome : Outcome} {content : ResponseType × Payload}
    (hgets : request.Gets device.state.uid pid data) (hknown : device.parameters.definition? pid = some definition)
    (hallows : definition.access.allows .get = true) (hhandler : definition.handler = handler)
    (hother : handler ≠ .queuedMessage) (hrule : device.applyRule app.rules request handler = (outcome, device))
    (hcontent : outcome.content? = some content) (memory : υ) :
    (device.handle app request memory).1 = .ok (.response
      (request.reply device.state.uid content.1 content.2 device.parameters.messageCount)) := by
  refine handle_of_asks hgets.asks hgets.destination hknown hallows hhandler hother hrule ?_ memory
  rwa [if_neg hgets.port]

/-- The response to a request that asks for the parameter itself. -/
theorem handle_of_direct (hgets : request.Gets device.state.uid pid [])
    (hknown : device.parameters.definition? pid = some definition) (hstandard : definition.handler.IsStandard)
    {content : ResponseType × Payload}
    (hcontent : (device.told pid definition.handler).content? = some content) (memory : υ) :
    (device.handle app request memory).1 = .ok (.response
      (if definition.access.allows .get then
        request.reply device.state.uid content.1 content.2 device.parameters.messageCount
      else request.reply device.state.uid .nack (.ofList (word NackReason.unsupportedCommandClass.code))
        device.parameters.messageCount)) := by
  have hrefusal := refusal?_of_gets hgets hknown
  cases hallows : definition.access.allows .get with
  | false =>
    rw [hallows] at hrefusal
    obtain ⟨hanswer, -⟩ := handle_of_outcome hgets.addresses (outcomeOf_of_refused app hrefusal memory)
    rw [hanswer, answerOf_of_gets hgets (Outcome.response?_of_isPlain (.nack .unsupportedCommandClass) trivial
      hgets.single _ _)]
    rfl
  | true =>
    rw [hallows] at hrefusal
    -- Without data, a request that would fetch a message has the wrong form, as the rule says.
    obtain ⟨muted, hdispatch⟩ : ∃ muted, device.dispatch app.rules request =
        (device.told pid definition.handler, { device with state := { device.state with muted } }) := by
      have hknown' : device.parameters.definition? request.parameterId = some definition := by rwa [hgets.parameterId]
      by_cases hfetching : definition.handler = .queuedMessage
      · refine ⟨device.state.muted, ?_⟩
        rw [dispatch_of_fetching hknown' hfetching, answerQueuedMessage, hgets.single, hgets.data, hfetching]
        rfl
      · rw [dispatch_of_handler hknown' rfl hfetching]
        exact applyRule_of_gets app.rules device hgets hstandard
    have houtcome := outcomeOf_of_known app (by rwa [hgets.parameterId]) hrefusal memory
    rw [hdispatch] at houtcome
    obtain ⟨hanswer, -⟩ := handle_of_outcome hgets.addresses houtcome
    rw [hanswer, answerOf_of_gets hgets]
    rw [Outcome.response?_of_isPlain _ (device.isPlain_told pid _) hgets.single, hcontent]
    rfl

/-- What the message about a parameter tells. -/
def message (device : Device κ) (request : Request) (pid : ParameterId) (handler : Handler κ) : Response :=
  match (device.told pid handler).content? with
  | some (type, data) => (queuedRequest request pid).reply device.state.uid type data device.parameters.messageCount
  | none =>
    request.reply device.state.uid .nack (.ofList (word NackReason.hardwareFault.code)) device.parameters.messageCount

/-- The response to a request that fetches the message about a parameter, perhaps after that was taken from the
queue. -/
theorem handle_of_fetched (app : Application κ υ ε) (hgets : request.Gets device.state.uid .queuedMessage data)
    (hknown : device.parameters.definition? .queuedMessage = some fetching)
    (hfetching : fetching.handler = .queuedMessage) (hallows : fetching.access.allows .get = true)
    (hfetches : device.answerQueuedMessage app.rules request = fetched.answerQueued app.rules request pid)
    (hwaiting : fetched.parameters.definition? pid = some definition) (hstandard : definition.handler.IsStandard)
    (memory : υ) :
    (device.handle app request memory).1 = .ok (.response (fetched.message request pid definition.handler)) ∧
      ∃ muted, (device.handle app request memory).2.1 = { fetched with state := { fetched.state with muted } } := by
  have hrefusal := refusal?_of_gets hgets hknown
  rw [hallows] at hrefusal
  have hvalue : (queuedRequest request pid).Gets device.state.uid pid [] :=
    ⟨hgets.destination, hgets.commandClass, rfl, hgets.port, rfl, rfl⟩
  obtain ⟨muted, hrule⟩ := applyRule_of_gets app.rules fetched hvalue hstandard
  have houtcome := outcomeOf_of_known app (by rwa [hgets.parameterId]) hrefusal memory
  rw [dispatch_of_fetching (by rwa [hgets.parameterId]) hfetching, hfetches, answerQueued_eq, fetchedOutcome,
    hwaiting] at houtcome
  dsimp only at houtcome
  rw [hrule] at houtcome
  dsimp only at houtcome
  rw [Outcome.response?_of_isPlain _ (fetched.isPlain_told pid _) hvalue.single] at houtcome
  obtain ⟨hanswer, hafter⟩ := handle_of_outcome hgets.addresses houtcome
  refine ⟨?_, muted, hafter⟩
  rw [hanswer, message]
  cases (fetched.told pid definition.handler).content? with
  | none =>
    exact congrArg Except.ok (answerOf_of_gets hgets
      (Outcome.response?_of_isPlain (.nack .hardwareFault) trivial hgets.single _ _))
  | some content => exact congrArg Except.ok (answerOf_of_gets hgets rfl)

/-- The device after it has taken the message about a parameter from the queue. -/
def taken (device : Device κ) (pid : ParameterId) (rest : List ParameterId) : Device κ :=
  { device with parameters := { device.parameters with queue := rest, lastQueued := some pid } }

private theorem answerQueuedMessage_of_waiting {uid : Uid} {status : UInt8} {rest : List ParameterId}
    (hgets : request.Gets uid .queuedMessage [status]) (hstatus : 2 ≤ status ∧ status ≤ 4)
    (hqueue : device.parameters.queue = pid :: rest) :
    device.answerQueuedMessage rules request = (device.taken pid rest).answerQueued rules request pid := by
  have hnew : status ≠ StatusType.lastMessage.code := by
    rintro rfl
    exact absurd hstatus.1 (by decide)
  have hpop :
      device.parameters.popQueued = (some pid, { device.parameters with queue := rest, lastQueued := some pid }) := by
    rw [Dictionary.popQueued, hqueue]
  rw [answerQueuedMessage, hgets.single, hgets.data]
  dsimp only
  rw [if_neg Bool.false_ne_true, if_neg hnew,
    if_pos (show StatusType.advisory.code ≤ status ∧ status ≤ StatusType.error.code from hstatus), hpop]
  rfl

private theorem answerQueuedMessage_of_again {uid : Uid} (hgets : request.Gets uid .queuedMessage [1])
    (hlast : device.parameters.lastQueued = some pid) :
    device.answerQueuedMessage rules request = device.answerQueued rules request pid := by
  rw [answerQueuedMessage, hgets.single, hgets.data]
  dsimp only
  rw [if_neg Bool.false_ne_true, if_pos (show 1 = StatusType.lastMessage.code from rfl), hlast]

/-! ### Runs -/

private theorem TellsSame.message (h : device.TellsSame later)
    (hcount : later.parameters.messageCount = device.parameters.messageCount) (request : Request) (pid : ParameterId)
    (handler : Handler κ) :
    later.message request pid handler = device.message request pid handler := by
  rw [Device.message, Device.message, h.told, h.uid, hcount]

/-- The message about a parameter tells the same to every request that fetches it. -/
private theorem TellsSame.message_repeated (h : device.TellsSame later) {again : Request}
    (hpid : again.parameterId = request.parameterId) (pid : ParameterId) (handler : Handler κ) :
    (later.message again pid handler).parameterId = (device.message request pid handler).parameterId ∧
      (later.message again pid handler).responseType = (device.message request pid handler).responseType ∧
      (later.message again pid handler).data = (device.message request pid handler).data ∧
      (later.message again pid handler).messageCount = later.parameters.messageCount := by
  rw [Device.message, Device.message, h.told]
  cases (device.told pid handler).content? with
  | none => exact ⟨hpid, rfl, rfl, rfl⟩
  | some content => exact ⟨rfl, rfl, rfl, rfl⟩

/-- The message that was fetched last is repeated as often as a controller likes. -/
theorem handleAll_of_again (hknown : device.parameters.definition? .queuedMessage = some fetching)
    (hfetching : fetching.handler = .queuedMessage) (hallows : fetching.access.allows .get = true)
    (hlast : device.parameters.lastQueued = some pid) (hwaiting : device.parameters.definition? pid = some definition)
    (hstandard : definition.handler.IsStandard) {repeats : List Request}
    (hrepeats : ∀ again ∈ repeats, again.Gets device.state.uid .queuedMessage [1]) {memory : υ} {e : Exchange κ ε}
    (he : e ∈ handleAll app repeats device memory) :
    e.answer = .ok (.response (device.message e.request pid definition.handler)) ∧
      e.after.parameters = device.parameters := by
  induction repeats generalizing device memory with
  | nil => cases he
  | cons again repeats ih =>
    have hgets := hrepeats again List.mem_cons_self
    obtain ⟨hanswer, muted, hafter⟩ := handle_of_fetched app hgets hknown hfetching hallows
      (answerQueuedMessage_of_again hgets hlast) hwaiting hstandard memory
    rcases hhandle : device.handle app again memory with ⟨answer, after, memory'⟩
    rw [hhandle] at hanswer hafter
    obtain rfl : after = { device with state := { device.state with muted } } := hafter
    rw [handleAll, hhandle] at he
    rcases List.mem_cons.1 he with rfl | he
    · exact ⟨hanswer, rfl⟩
    · -- Of the device, only whether it is muted may have changed.
      obtain ⟨hlater, hkept⟩ := @ih { device with state := { device.state with muted } } hknown hlast hwaiting
        (fun other hother => hrepeats other (List.mem_cons_of_mem _ hother)) memory' he
      refine ⟨?_, hkept⟩
      have hsame : device.TellsSame { device with state := { device.state with muted } } := ⟨rfl, rfl, rfl, rfl, rfl⟩
      rw [hlater, hsame.message rfl]

/-- The message about a parameter that waits is told as the value is to a request of its own, and repeated.  The
access of the parameter only matters to the latter. -/
theorem handle_of_waiting (app : Application κ υ ε) (hdevice : device.Reachable) (hstandard : device.HasStandardRules)
    (hknown : device.parameters.definition? .queuedMessage = some fetching)
    (hfetching : fetching.handler = .queuedMessage) (hallows : fetching.access.allows .get = true)
    {rest : List ParameterId} (hqueue : device.parameters.queue = pid :: rest) {status : UInt8}
    (hgets : request.Gets device.state.uid .queuedMessage [status]) (hstatus : 2 ≤ status ∧ status ≤ 4) (memory : υ) :
    ∃ definition response after, device.parameters.definition? pid = some definition ∧
      (device.handle app request memory).1 = .ok (.response response) ∧
      (device.handle app request memory).2.1 = after ∧
      after.parameters = { device.parameters with queue := rest, lastQueued := some pid } ∧
      response.messageCount.toNat = rest.length ∧
      (definition.handler ≠ .branchProbe →
        response.parameterId = pid ∧
        (device.applyRule app.rules { request with parameterId := pid, data := .empty }
          definition.handler).1.response?
          { request with parameterId := pid, data := .empty } device.state.uid response.messageCount = some response ∧
        (device.handle app { request with parameterId := pid, data := .empty } memory).1 = .ok (.response
          (if definition.access.allows .get then { response with messageCount := device.parameters.messageCount }
          else { request with parameterId := pid, data := .empty }.reply device.state.uid .nack
            (.ofList (word NackReason.unsupportedCommandClass.code)) device.parameters.messageCount))) ∧
      ∀ (later : Device κ) (repeats : List Request) (memory : υ), after.TellsSame later →
        later.parameters.lastQueued = some pid →
        (∀ again ∈ repeats, again.Gets device.state.uid .queuedMessage [1]) →
        ∀ e ∈ handleAll app repeats later memory,
          e.after.parameters = later.parameters ∧ ∃ repeated, e.answer = .ok (.response repeated) ∧
            repeated.parameterId = response.parameterId ∧ repeated.responseType = response.responseType ∧
            repeated.data = response.data ∧ repeated.messageCount = later.parameters.messageCount := by
  obtain ⟨definition, hwaiting⟩ : ∃ definition, device.parameters.definition? pid = some definition := by
    -- Only parameters with storage are queued.
    obtain ⟨range, hrange⟩ := Option.isSome_iff_exists.1
      (hdevice.parameters.queueSound.stored (.inl (by rw [hqueue]; exact List.mem_cons_self)))
    obtain ⟨entry, hentry, -⟩ := Option.bind_eq_some_iff.1 hrange
    exact ⟨_, Dictionary.definition?_of_entry? hentry⟩
  have hrule := hstandard.isStandard hwaiting
  obtain ⟨hanswer, muted, hafter⟩ := handle_of_fetched app hgets hknown hfetching hallows
    (answerQueuedMessage_of_waiting hgets hstatus hqueue) hwaiting hrule memory
  have hdirect : { request with parameterId := pid, data := .empty } = queuedRequest request pid := by
    rw [queuedRequest, ← hgets.subDevice]
  have hvalue : (queuedRequest request pid).Gets device.state.uid pid [] :=
    ⟨hgets.destination, hgets.commandClass, rfl, hgets.port, rfl, rfl⟩
  have htaken : device.TellsSame (device.taken pid rest) := ⟨rfl, rfl, rfl, rfl, rfl⟩
  refine ⟨definition, _, _, hwaiting, hanswer, hafter, rfl, ?_, fun hprobe => ?_, ?_⟩
  · have hcount : ((device.taken pid rest).message request pid definition.handler).messageCount =
        (device.taken pid rest).parameters.messageCount := (htaken.message_repeated rfl pid definition.handler).2.2.2
    rw [hcount]
    have hreachable : (device.taken pid rest).parameters.Reachable := by
      have hpop := hdevice.parameters.popQueued
      rwa [Dictionary.popQueued, hqueue] at hpop
    exact hreachable.toNat_messageCount
  · obtain ⟨content, hcontent⟩ := exists_content_of_told device pid hrule hprobe
    have hmessage : (device.taken pid rest).message request pid definition.handler =
        (queuedRequest request pid).reply device.state.uid content.1 content.2
          (device.taken pid rest).parameters.messageCount := by
      rw [message, htaken.told, hcontent]
      rfl
    rw [hmessage, hdirect]
    refine ⟨rfl, ?_, ?_⟩
    · obtain ⟨muted, hsame⟩ := applyRule_of_gets app.rules device hvalue hrule
      rw [hsame, Outcome.response?_of_isPlain _ (device.isPlain_told pid _) hvalue.single, hcontent]
      rfl
    · rw [handle_of_direct hvalue hwaiting hrule hcontent]
      rfl
  · intro later repeats memory' hlater hlast hrepeats e he
    have hsame : (device.taken pid rest).TellsSame later :=
      ⟨hlater.arena, hlater.entries, hlater.uid, hlater.metadata, hlater.otherParameters⟩
    have huid : later.state.uid = device.state.uid := hsame.uid
    obtain ⟨hrepeated, hkept⟩ := handleAll_of_again (by rwa [hsame.definition?]) hfetching hallows hlast
      (by rwa [hsame.definition?]) hrule (by rwa [huid]) he
    have hasked : e.request ∈ repeats := by
      have hmem : e.request ∈ (handleAll app repeats later memory').map Exchange.request := List.mem_map_of_mem he
      rwa [map_request_handleAll] at hmem
    have hpid : e.request.parameterId = request.parameterId := by
      rw [(hrepeats _ hasked).parameterId, hgets.parameterId]
    exact ⟨hkept, _, hrepeated, hsame.message_repeated hpid pid definition.handler⟩

def fetchRequest : Request := ⟨.device ⟨0x05E0, 1⟩, ⟨0x7FF0, 0⟩, 5, 1, 0, 0, .get, .queuedMessage, .ofList [2]⟩

def directRequest (pid : ParameterId) : Request := { fetchRequest with parameterId := pid, data := .empty }

/-- That the lamp identifies itself is told both ways. -/
theorem handle_of_waiting_identify : ∃ response : Response,
    (identifiedLamp.handle .idle fetchRequest ()).1 = .ok (.response response) ∧
      (identifiedLamp.handle .idle (directRequest .identifyDevice) ()).1 =
        .ok (.response { response with messageCount := 1 }) ∧
      response.parameterId = .identifyDevice ∧ response.messageCount.toNat = 0 := by
  obtain ⟨definition, response, after, hwaiting, hanswer, -, -, hcount, hdirect, -⟩ :=
    handle_of_waiting .idle reachable_identifiedLamp hasStandardRules_identifiedLamp
      (show identifiedLamp.parameters.definition? .queuedMessage = some queuedMessageDefinition from rfl) rfl rfl
      (show identifiedLamp.parameters.queue = [.identifyDevice] from rfl)
      (show fetchRequest.Gets identifiedLamp.state.uid .queuedMessage [2] from ⟨rfl, rfl, rfl, by decide, rfl, rfl⟩)
      (by decide) ()
  obtain rfl : identifyDefinition = definition := Option.some.inj hwaiting
  obtain ⟨hpid, -, hvalue⟩ := hdirect (by simp [identifyDefinition, plainDefinition])
  exact ⟨response, hanswer, hvalue, hpid, hcount⟩

/-- A parameter of one byte that controllers may set but not ask for. -/
def triggerDefinition : Definition Empty :=
  plainDefinition 0x8001 ⟨[.byte], checkFields_byte⟩ .set .unsignedByte .stored

def triggerParameters : Dictionary Empty :=
  { lamp.parameters with used := 36, entries := standardEntries ++ [⟨triggerDefinition, .owned 35 1, false⟩] }

private theorem define_trigger : lamp.parameters.define triggerDefinition 1 [] = .ok triggerParameters := rfl

/-- A lamp with that parameter, which was pulled at its own panel. -/
def pulledLamp : Device Empty := { lamp with parameters := (triggerParameters.setAndQueue 0x8001 [7]).2 }

private theorem reachable_pulledLamp : pulledLamp.Reachable :=
  ⟨(reachable_lamp.parameters.define define_trigger).setAndQueue _ _, reachable_lamp.uid⟩

private theorem hasStandardRules_pulledLamp : pulledLamp.HasStandardRules := by
  intro entry hentry
  have hentry : entry ∈ standardEntries ++ [⟨triggerDefinition, .owned 35 1, false⟩] := hentry
  rcases List.mem_append.1 hentry with hstandard | hadded
  · exact hasStandardRules_lamp entry hstandard
  · obtain rfl := List.mem_singleton.1 hadded
    trivial

/-- A controller that fetches the message is told what it is not allowed to ask for. -/
theorem told_though_refused : ∃ (device : Device Empty) (request : Request) (response direct : Response),
    device.Reachable ∧ device.HasStandardRules ∧ device.parameters.queue = [0x8001] ∧
      request.Gets device.state.uid .queuedMessage [2] ∧ (device.handle .idle request ()).1 =
        .ok (.response response) ∧
      (device.handle .idle { request with parameterId := 0x8001, data := .empty } ()).1 = .ok (.response direct) ∧
      response.responseType = .ack ∧ response.data = .ofList [7] ∧ direct.responseType = .nack ∧
      direct.data = .ofList (word NackReason.unsupportedCommandClass.code) :=
  ⟨pulledLamp, fetchRequest, ⟨.device ⟨0x7FF0, 0⟩, ⟨0x05E0, 1⟩, 5, .ack, 0, 0, .get, 0x8001, .ofList [7]⟩,
    ⟨.device ⟨0x7FF0, 0⟩, ⟨0x05E0, 1⟩, 5, .nack, 1, 0, .get, 0x8001, .ofList [0, 5]⟩, reachable_pulledLamp,
    hasStandardRules_pulledLamp, rfl, ⟨rfl, rfl, rfl, by decide, rfl, rfl⟩, rfl, rfl, rfl, rfl, rfl, rfl⟩

end Device

end LightBus
