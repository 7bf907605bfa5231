import LightBus.Proofs.Package.RoundTrip
import LightBus.Proofs.Responder.Standard

/-!
# Responses and their requests

A controller tells from a response which of its requests is answered (`Device.correlates_handle`).  The response is
made once more for a queued message: first for the parameter that waited, then with the number of messages that wait
now.  Both times it goes back to the source of the same request (`answers_of_outcomeOf`).
-/

namespace LightBus

variable {κ υ ε : Type}

/-- The response is the responder's to this request. -/
structure Response.Answers (response : Response) (request : Request) (responder : Uid) : Prop where
  destination : response.destination = .device request.source
  source : response.source = responder
  transaction : response.transaction = request.transaction
  commandClass : response.commandClass = request.commandClass

/-- Nobody makes up responses: neither the rules that are in use nor the application, and messages are fetched only by
the parameter that is meant for it. -/
structure Device.Honest (device : Device κ) (app : Application κ υ ε) : Prop where
  rules {pid : ParameterId} {definition : Definition κ} {rule : κ}
    (hdefinition : device.parameters.definition? pid = some definition) (hrule : definition.handler = .custom rule)
    (asked : Device κ) (request : Request) : (app.rules rule asked request).1.IsPlain
  fetching {pid : ParameterId} {definition : Definition κ}
    (hdefinition : device.parameters.definition? pid = some definition)
    (hfetching : definition.handler = .queuedMessage) : pid = .queuedMessage
  others (request : Request) (asked : Device κ) (memory : υ) {outcome : Outcome}
    (houtcome : (app.others request asked memory).1 = .ok outcome) : outcome.IsPlain

variable {request : Request} {response : Response}

theorem Request.eq_reply_of_toOption {responder : Uid} {type : ResponseType} {data : Payload} {count : UInt8}
    (h : (request.reply? responder type data count).toOption = some response) :
    response = request.reply responder type data count := by
  unfold reply? at h
  split at h
  · cases h
  · exact (Option.some.inj h).symm

/-- The frame of a response between two devices is read as the response. -/
theorem Response.Answers.ofFrame? {responder : Uid} (h : response.Answers request responder)
    (hsource : request.source.device ≠ 0xFFFFFFFF) (hresponder : responder.device ≠ 0xFFFFFFFF) :
    Package.ofFrame? (Package.response response).frame = .ok (.response response) := by
  have hproper : (Package.response response).Proper := by
    constructor
    · show response.destination.Proper
      rw [h.destination]
      exact hsource
    · show response.source.device ≠ 0xFFFFFFFF
      rw [h.source]
      exact hresponder
  exact Package.ofFrame?_eq_ok_iff.2 ⟨hproper, rfl⟩

/-- Unless it was made up, the response of an outcome is a reply to the request. -/
private theorem Outcome.eq_reply_of_response? {outcome : Outcome} {responder : Uid} {count : UInt8}
    (hplain : outcome.IsPlain) (h : outcome.response? request responder count = some response) :
    ∃ type data, response = request.reply responder type data count := by
  cases outcome with
  | acknowledged | overflow | refused | later => exact ⟨_, _, Request.eq_reply_of_toOption h⟩
  | silent | here => cases h
  | custom => exact absurd hplain id

namespace Device

variable {device fetched : Device κ} {app : Application κ υ ε} {pid : ParameterId}

/-- A message that was fetched is answered as the parameter that waited, to the source of the request. -/
private theorem answers_of_answerQueued (hhonest : fetched.Honest app)
    (h : (fetched.answerQueued app.rules request pid).1 = .custom response) :
    response.Answers request (fetched.answerQueued app.rules request pid).2.state.uid := by
  have hplain : (fetched.fetchedOutcome app.rules request pid).1.IsPlain := by
    unfold fetchedOutcome
    split
    · trivial
    · rename_i definition hdefinition
      exact isPlain_applyRule fun rule hrule => hhonest.rules hdefinition hrule fetched (queuedRequest request pid)
  rw [answerQueued_eq] at h ⊢
  dsimp only at h
  split at h
  · rename_i reply hreply
    obtain rfl := Outcome.custom.inj h
    obtain ⟨type, data, rfl⟩ := Outcome.eq_reply_of_response? hplain hreply
    exact ⟨rfl, rfl, rfl, rfl⟩
  · cases h

private theorem answers_of_answerNothingQueued (h : device.answerNothingQueued request = .custom response) :
    response.Answers request device.state.uid := by
  unfold answerNothingQueued at h
  split at h
  · rename_i reply hreply
    obtain rfl := Outcome.custom.inj h
    obtain rfl := Request.eq_reply_of_toOption hreply
    exact ⟨rfl, rfl, rfl, rfl⟩
  · cases h

private theorem Honest.of_entries (h : device.Honest app)
    (hentries : fetched.parameters.entries = device.parameters.entries) :
    fetched.Honest app := by
  have hsame (pid : ParameterId) : fetched.parameters.definition? pid = device.parameters.definition? pid := by
    rw [Dictionary.definition?, Dictionary.definition?, Dictionary.entry?_of_entries hentries]
  constructor
  · intro pid definition rule hdefinition
    exact h.rules ((hsame pid).symm.trans hdefinition)
  · intro pid definition hdefinition
    exact h.fetching ((hsame pid).symm.trans hdefinition)
  · exact h.others

/-- Only queued messages are answered with a response that does not follow from the outcome alone. -/
private theorem answers_of_dispatch (hhonest : device.Honest app)
    (h : (device.dispatch app.rules request).1 = .custom response) :
    request.parameterId = .queuedMessage ∧
    response.Answers request (device.dispatch app.rules request).2.state.uid := by
  unfold dispatch at h ⊢
  cases hdefinition : device.parameters.definition? request.parameterId with
  | none =>
    rw [hdefinition] at h
    cases h
  | some definition =>
    rw [hdefinition] at h
    dsimp only at h ⊢
    split at h
    · rename_i hfetching
      refine ⟨hhonest.fetching hdefinition hfetching, ?_⟩
      have hfetches := fetches_answerQueuedMessage app.rules device request
      generalize device.answerQueuedMessage app.rules request = result at h hfetches ⊢
      cases hfetches with
      | refusal outcome hplain =>
        obtain rfl : outcome = .custom response := h
        exact absurd hplain id
      | nothing => exact answers_of_answerNothingQueued h
      | message fetched pid hfetched _ =>
        -- Taking a message from the queue leaves the rules as they are.
        have hentries : fetched.parameters.entries = device.parameters.entries := by
          rcases hfetched with rfl | rfl
          · rfl
          · exact device.parameters.entries_popQueued
        exact answers_of_answerQueued (hhonest.of_entries hentries) h
    · have hplain : (device.applyRule app.rules request definition.handler).1.IsPlain :=
        isPlain_applyRule fun rule hrule => hhonest.rules hdefinition hrule device request
      rw [h] at hplain
      exact absurd hplain id

theorem answers_of_outcomeOf {memory : υ} (hhonest : device.Honest app)
    (h : (outcomeOf app request device memory).1 = .ok (.custom response)) :
    request.parameterId = .queuedMessage ∧
    response.Answers request (outcomeOf app request device memory).2.1.state.uid := by
  unfold outcomeOf at h ⊢
  cases hrefusal : device.refusal? request with
  | some reason =>
    rw [hrefusal] at h
    cases h
  | none =>
    rw [hrefusal] at h
    dsimp only at h ⊢
    split at h
    · rename_i hknown
      rw [if_pos hknown]
      exact answers_of_dispatch hhonest (Except.ok.inj h)
    · exact absurd (hhonest.others request device memory h) id

private theorem response?_of_answerOf {outcome : Outcome} (h : device.answerOf request outcome = .response response) :
    outcome.response? request device.state.uid device.parameters.messageCount = some response := by
  unfold answerOf at h
  split at h
  · split at h <;> cases h
  split at h
  · cases h
  split at h
  · cases h
  rename_i sent hsent
  split at h
  · cases h
  · obtain rfl := Answer.response.inj h
    exact hsent

/-- What a request that is answered with a response has come to. -/
private theorem exists_outcome_of_handle {memory memory' : υ} {after : Device κ}
    (h : device.handle app request memory = (.ok (.response response), after, memory')) :
    ∃ outcome memory'', outcomeOf app request device memory = (.ok outcome, after, memory'') ∧
      outcome.response? request after.state.uid after.parameters.messageCount = some response := by
  cases haddressed : request.destination.addresses device.state.uid with
  | false =>
    rw [handle_of_not_addressed app memory haddressed] at h
    cases h
  | true =>
    have hafter := after_handle_of_addressed app memory haddressed
    have hanswer := handle_of_addressed app memory haddressed
    rw [h] at hafter hanswer
    rcases houtcome : outcomeOf app request device memory with ⟨e | outcome, after', memory''⟩
    · rw [houtcome] at hanswer
      cases hanswer
    · rw [houtcome] at hafter hanswer
      obtain rfl : after = after' := hafter
      exact ⟨outcome, memory'', rfl, response?_of_answerOf (Except.ok.inj hanswer).symm⟩

/-- The response that carries an outcome answers the request, and tells how many messages wait now.  It could only
fail to if somebody made it up. -/
theorem answers_of_response? {memory memory' : υ} {after : Device κ} {outcome : Outcome}
    (hmade : outcome.IsPlain ∨ device.Honest app)
    (houtcome : outcomeOf app request device memory = (.ok outcome, after, memory'))
    (h : outcome.response? request after.state.uid after.parameters.messageCount = some response) :
    response.Answers request after.state.uid ∧ response.messageCount = after.parameters.messageCount ∧
      (request.parameterId ≠ .queuedMessage → response.parameterId = request.parameterId) := by
  by_cases hplain : outcome.IsPlain
  · obtain ⟨type, data, rfl⟩ := Outcome.eq_reply_of_response? hplain h
    exact ⟨⟨rfl, rfl, rfl, rfl⟩, rfl, fun _ => rfl⟩
  · cases outcome with
    | custom made =>
      have hhonest := hmade.resolve_left hplain
      obtain ⟨hfetching, hmade⟩ := answers_of_outcomeOf hhonest (congrArg Prod.fst houtcome)
      rw [houtcome] at hmade
      obtain rfl := Option.some.inj h
      exact ⟨⟨hmade.destination, hmade.source, hmade.transaction, hmade.commandClass⟩, rfl,
        fun hother => absurd hfetching hother⟩
    | acknowledged | overflow | refused | later | silent | here => exact absurd trivial hplain

/-- A response answers the request that it is sent for: it goes back to its source with the number of its transaction,
comes from the device, tells how many messages wait now, and is about the parameter of the request unless that fetches
a message.  The frame of the response is read as the response. -/
theorem correlates_handle (happ : app.Lawful) (hdevice : device.Reachable) (hhonest : device.Honest app)
    (hsource : request.source.device ≠ 0xFFFFFFFF) {memory memory' : υ} {after : Device κ}
    (h : device.handle app request memory = (.ok (.response response), after, memory')) :
    response.Answers request after.state.uid ∧ (app.KeepsUid → response.source = device.state.uid) ∧
      response.messageCount.toNat = after.parameters.queue.length ∧
      (request.parameterId ≠ .queuedMessage → response.parameterId = request.parameterId) ∧
      Package.ofFrame? (Package.response response).frame = .ok (.response response) := by
  have hafter : after.Reachable := by
    have hkept := reachable_handle happ hdevice request memory
    rwa [h] at hkept
  obtain ⟨outcome, memory'', houtcome, hresponse⟩ := exists_outcome_of_handle h
  obtain ⟨hanswers, hcount, hparameter⟩ := answers_of_response? (.inr hhonest) houtcome hresponse
  refine ⟨hanswers, fun hkeeps => ?_, ?_, hparameter, hanswers.ofFrame? hsource hafter.uid⟩
  · have huid := uid_handle hkeeps device request memory
    rw [h] at huid
    rw [hanswers.source, huid]
  · rw [hcount, hafter.parameters.toNat_messageCount]

/-- Only the parameter that is meant for it fetches messages, and there are no rules that could make up responses. -/
private theorem honest_idle {device : Device Empty}
    (hfetching : ∀ {pid : ParameterId} {definition : Definition Empty},
    device.parameters.definition? pid = some definition → definition.handler = .queuedMessage →
    pid = .queuedMessage) :
    device.Honest .idle where
  rules {_ _ rule} _ _ := rule.elim
  fetching := hfetching
  others request asked memory outcome houtcome := by
    obtain rfl := Except.ok.inj houtcome
    trivial

/-- A parameter of one byte with storage of its own. -/
def gaugeDefinition : Definition Empty :=
  plainDefinition 0x8001 ⟨[.byte], checkFields_byte⟩ .getSet .unsignedByte .stored

def fetchingDefinition : Definition Empty :=
  plainDefinition .queuedMessage ⟨[.byte], checkFields_byte⟩ .get .unsignedByte .queuedMessage

/-- A parameter of one byte, and the one that fetches messages. -/
def gaugeParameters : Dictionary Empty where
  arena := [0]
  used := 1
  entries := [⟨gaugeDefinition, .owned 0 1, false⟩, ⟨fetchingDefinition, .computed, false⟩]
  queue := []
  lastQueued := none

private theorem reachable_gaugeParameters : gaugeParameters.Reachable := by
  have hgauge : (Dictionary.empty [0]).define gaugeDefinition 1 [] =
      .ok { gaugeParameters with entries := [⟨gaugeDefinition, .owned 0 1, false⟩] } := rfl
  have hfetching : Dictionary.defineComputed
    { gaugeParameters with entries := [⟨gaugeDefinition, .owned 0 1, false⟩] }
      fetchingDefinition = .ok gaugeParameters := rfl
  exact .defineComputed (.define (.empty [0]) hgauge) hfetching

/-- The byte changed to 7, and no controller has heard of it. -/
def changedGauge : Device Empty :=
  ⟨(gaugeParameters.setAndQueue 0x8001 [7]).2, ⟨⟨0x05E0, 1⟩, [], ⟨0, 0, 0, "", 0, 0, .none, ""⟩, false⟩⟩

theorem reachable_changedGauge : changedGauge.Reachable := ⟨reachable_gaugeParameters.setAndQueue _ _, by decide⟩

private theorem honest_changedGauge : changedGauge.Honest .idle := by
  refine honest_idle fun {pid definition} hdefinition hfetching => ?_
  obtain ⟨entry, hentry, rfl⟩ := Option.map_eq_some_iff.1 hdefinition
  obtain ⟨hmem, hpid⟩ := Dictionary.mem_of_entry? hentry
  have hmem : entry ∈ gaugeParameters.entries := hmem
  rw [gaugeParameters, List.mem_cons, List.mem_singleton] at hmem
  rcases hmem with rfl | rfl
  · cases hfetching
  · exact hpid.symm

/-- A controller fetches the message that waits, and the response answers that. -/
theorem correlates_handle_changedGauge :
    ∃ response : Response, response.parameterId = 0x8001 ∧ response.data = .ofList [7] ∧
      changedGauge.handle .idle ⟨.device ⟨0x05E0, 1⟩, ⟨0x7FF0, 0⟩, 5, 1, 0, 0, .get, .queuedMessage, .ofList [2]⟩ () =
        (.ok (.response response), { changedGauge with parameters := changedGauge.parameters.popQueued.2 }, ()) ∧
      response.source = ⟨0x05E0, 1⟩ ∧ response.transaction = 5 ∧ response.messageCount.toNat = 0 ∧
      Package.ofFrame? (Package.response response).frame = .ok (.response response) := by
  refine ⟨⟨.device ⟨0x7FF0, 0⟩, ⟨0x05E0, 1⟩, 5, .ack, 0, 0, .get, 0x8001, .ofList [7]⟩, rfl, rfl, rfl, ?_⟩
  obtain ⟨hanswers, -, hcount, -, hframe⟩ :=
    correlates_handle Application.lawful_idle reachable_changedGauge honest_changedGauge (by decide)
      (show changedGauge.handle .idle ⟨.device ⟨0x05E0, 1⟩, ⟨0x7FF0, 0⟩, 5, 1, 0, 0, .get, .queuedMessage,
        .ofList [2]⟩ () =
        (.ok (.response ⟨.device ⟨0x7FF0, 0⟩, ⟨0x05E0, 1⟩, 5, .ack, 0, 0, .get, 0x8001, .ofList [7]⟩),
          { changedGauge with parameters := changedGauge.parameters.popQueued.2 }, ()) from rfl)
  exact ⟨hanswers.source, hanswers.transaction, hcount, hframe⟩

end Device

end LightBus
