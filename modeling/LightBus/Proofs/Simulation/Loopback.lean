import LightBus.Proofs.Discovery.Devices
import LightBus.Proofs.Responder.Correlation
import LightBus.Simulation.Loopback

/-!
# Controllers and devices agree

What a controller makes of the response is what the request came to at the device (`Controller.agrees_ask`).  In
between the request is written and read, and so is the response.

* (forth) `runFrom_request`: the device handles the request of the controller.
* (back) `returned_of_response`: the controller gets the response of the device.
* (result) `Response.reply_*`: each type of response has one result.
-/

namespace LightBus

variable {κ υ ε : Type}

open Simulation

/-- The controller's result is what the request for `pid` came to at the device, and it knows how many messages wait
there. -/
structure Controller.Agrees (outcome : Outcome) (pid : ParameterId) (result : Except (ControllerError ε) Reply)
    (controller : Controller (Loopback κ υ)) : Prop where
  acknowledged {data : Payload} (h : outcome = .acknowledged data) :
    result = .ok (.complete ⟨pid, controller.messageCount, data⟩)
  overflow {data : Payload} (h : outcome = .overflow data) : result =
    .ok (.incomplete ⟨pid, controller.messageCount, data⟩)
  later {delay : UInt16} (h : outcome = .later delay) : result = .error (.notReady delay)
  refused {reason : NackReason} (h : outcome = .refused reason.code) : result = .error (.refused reason)
  unknown {code : UInt16} (h : outcome = .refused code) (hcode : ∀ reason : NackReason, reason.code ≠ code) :
    result = .error .unreadableError
  /-- A message was fetched. -/
  fetched {response : Response} (h : outcome = .custom response) :
    result = { response with messageCount := controller.messageCount }.reply
  nothing (h : outcome = .silent ∨ ∃ uid, outcome = .here uid) : result = .error (.link .timeout)
  matching : result ≠ .error .notMatching
  messageCount (hsilent : outcome ≠ .silent) (hhere : ∀ uid, outcome ≠ .here uid) :
    controller.messageCount.toNat = controller.link.device.parameters.queue.length

namespace NackReason

theorem ofCode?_eq_some_iff {code : UInt16} {reason : NackReason} :
    ofCode? code = some reason ↔ reason.code = code := by
  constructor
  · intro h
    unfold ofCode? at h
    split at h <;> cases h <;> rfl
  · rintro rfl
    cases reason <;> rfl

private theorem ofCode?_eq_none {code : UInt16} (h : ∀ reason : NackReason, reason.code ≠ code) :
    ofCode? code = none := by
  cases hreason : ofCode? code with
  | none => rfl
  | some reason => exact absurd (ofCode?_eq_some_iff.1 hreason) (h reason)

end NackReason

/-! ### The result of a response -/

namespace Response

variable {response : Response}

private theorem reply_later {delay : UInt16} (htype : response.responseType = .ackTimer)
    (hdata : response.data = .ofList (word delay)) :
    (response.reply : Except (ControllerError ε) Reply) = .error (.notReady delay) := by
  obtain ⟨hi, lo, hword, rfl⟩ := exists_word delay
  have hbytes : response.data.bytes = [hi, lo] := by rw [hdata, hword]; rfl
  simp only [reply, htype, hbytes]

theorem reply_refused {code : UInt16} (htype : response.responseType = .nack)
    (hdata : response.data = .ofList (word code)) :
    (response.reply : Except (ControllerError ε) Reply) =
      .error (match NackReason.ofCode? code with | some reason => .refused reason | none => .unreadableError) := by
  obtain ⟨hi, lo, hword, rfl⟩ := exists_word code
  have hbytes : response.data.bytes = [hi, lo] := by rw [hdata, hword]; rfl
  simp only [reply, htype, hbytes]
  cases NackReason.ofCode? (wordOf hi lo) with
  | some reason => rfl
  | none => rfl

end Response

namespace Simulation.Loopback

variable {loop : Loopback κ υ} {app : Application κ υ ε} {request : Request} {response : Response}

/-- The frame of a request is read at the device. -/
private theorem runFrom_deliver {answer : Answer} {after : Device κ} {memory : υ}
    (hproper : (Package.request request).Proper)
    (h : loop.device.handle app request loop.memory = (.ok answer, after, memory)) :
    (deliver app (Package.request request).frame).runFrom loop = (.ok answer, ⟨after, memory⟩) := by
  have hread : Package.ofFrame? (Package.request request).frame = .ok (.request request) :=
    Package.ofFrame?_eq_ok_iff.2 ⟨hproper, rfl⟩
  rw [deliver, hread]
  dsimp only [Run.of, Run.runFrom]
  rw [h]
  rfl

/-- The device handles the request that the controller sends. -/
theorem runFrom_request {answer : Answer} {after : Device κ} {memory : υ} (hproper : (Package.request request).Proper)
    (h : loop.device.handle app request loop.memory = (.ok answer, after, memory)) :
    ((link app).request request).runFrom loop = (returned request answer, ⟨after, memory⟩) := by
  show (deliver app (Package.request request).frame >>= fun answer => Run.ofExcept (returned request answer)).runFrom
    loop = _
  rw [Run.runFrom_bind, runFrom_deliver hproper h]
  rfl

theorem runFrom_probe {answer : Answer} {after : Device κ} {memory : υ} (hproper : (Package.request request).Proper)
    (h : loop.device.handle app request loop.memory = (.ok answer, after, memory)) :
    ((link app).probe request).runFrom loop = (.ok (probed answer), ⟨after, memory⟩) := by
  show (deliver app (Package.request request).frame >>= fun answer => pure (probed answer)).runFrom loop = _
  rw [Run.runFrom_bind, runFrom_deliver hproper h]
  rfl

/-- What comes back is the answer to the outcome that the device has come to. -/
theorem exists_runFrom_request {outcome : Outcome} {after : Device κ} {memory : υ}
    (hproper : (Package.request request).Proper)
    (haddressed : request.destination.addresses loop.device.state.uid = true)
    (houtcome : Device.outcomeOf app request loop.device loop.memory = (.ok outcome, after, memory)) :
    ∃ memory', ((link app).request request).runFrom loop =
      (returned request (after.answerOf request outcome), ⟨after, memory'⟩) := by
  obtain ⟨memory', hhandle⟩ := Device.exists_handle_of_outcome haddressed houtcome
  exact ⟨memory', runFrom_request hproper hhandle⟩

theorem returned_of_response (h : Package.ofFrame? (Package.response response).frame = .ok (.response response)) :
    returned (ε := ε) request (.response response) = .ok (some response) := by
  rw [returned, h]

theorem returned_of_silent (hsingle : request.destination.isBroadcast = false) :
    returned (ε := ε) request .silent = .error .timeout := by
  rw [returned, if_neg (by simp [hsingle])]

end Simulation.Loopback

namespace Controller

section

variable {σ : Type} {link : ControllerLink σ ε} {controller : Controller σ} {commandClass : CommandClass}
  {destination : Address} {pid : ParameterId} {subDevice : UInt16} {data : Payload} {s : σ}

theorem runFrom_ask_of_error {error : LinkError ε}
    (h : (link.request (controller.requestOf commandClass destination pid subDevice data)).runFrom controller.link =
      (.error error, s)) :
    (ask link commandClass destination pid subDevice data).runFrom controller =
      (.error (.link error), { controller with link := s }) := by
  simp [ask, runFrom_onLink, h, Except.mapError]

theorem runFrom_ask_of_response {response : Response}
    (h : (link.request (controller.requestOf commandClass destination pid subDevice data)).runFrom controller.link =
      (.ok (some response), s)) (hdestination : response.destination = .device controller.uid)
    (hclass : response.commandClass = commandClass) :
    (ask link commandClass destination pid subDevice data).runFrom controller =
      (response.reply, { controller with link := s, messageCount := response.messageCount }) := by
  simp [ask, runFrom_onLink, h, Except.mapError, hdestination, hclass]

end

variable {controller : Controller (Loopback κ υ)} {app : Application κ υ ε} {commandClass : CommandClass}
  {pid : ParameterId} {subDevice : UInt16} {data : Payload}

/-- The reply to a response that a device of the loopback sent agrees with the outcome. -/
private theorem agrees_of_response {outcome : Outcome} {request : Request} {response : Response}
    (hcount : response.messageCount = controller.messageCount)
    (hqueue : controller.messageCount.toNat = controller.link.device.parameters.queue.length)
    (h : outcome.response? request controller.link.device.state.uid response.messageCount = some response) :
    Agrees outcome request.parameterId (response.reply : Except (ControllerError ε) Reply) controller := by
  have hreply {type : ResponseType} {data : Payload}
    (hsent : (request.reply? controller.link.device.state.uid type data
      response.messageCount).toOption = some response) : response.responseType = type ∧ response.data = data ∧
        response.parameterId = request.parameterId := by
    rw [Request.eq_reply_of_toOption hsent]
    exact ⟨rfl, rfl, rfl⟩
  constructor
  · rintro data rfl
    obtain ⟨htype, hdata, hpid⟩ := hreply h
    simp only [Response.reply, htype, hdata, hpid, hcount]
  · rintro data rfl
    obtain ⟨htype, hdata, hpid⟩ := hreply h
    simp only [Response.reply, htype, hdata, hpid, hcount]
  · rintro delay rfl
    obtain ⟨htype, hdata, -⟩ := hreply h
    exact Response.reply_later htype hdata
  · rintro reason rfl
    obtain ⟨htype, hdata, -⟩ := hreply h
    rw [Response.reply_refused htype hdata, NackReason.ofCode?_eq_some_iff.2 rfl]
  · rintro code rfl hcode
    obtain ⟨htype, hdata, -⟩ := hreply h
    rw [Response.reply_refused htype hdata, NackReason.ofCode?_eq_none hcode]
  · rintro made rfl
    rw [← hcount]
    exact congrArg Response.reply (Option.some.inj h).symm
  · rintro (rfl | ⟨uid, rfl⟩)
    · cases h
    · cases h
  · exact Response.reply_ne_notMatching
  · exact fun _ _ => hqueue

/-- Without a response the time is up. -/
private theorem agrees_of_silent {outcome : Outcome} (h : outcome = .silent ∨ ∃ uid, outcome = .here uid) :
    Agrees outcome pid (.error (.link .timeout) : Except (ControllerError ε) Reply) controller := by
  have hother {other : Outcome} (hsilent : other ≠ .silent) (hhere : ∀ uid, other ≠ .here uid) : outcome ≠ other := by
    rintro rfl
    rcases h with h | ⟨uid, h⟩
    · exact hsilent h
    · exact hhere uid h
  constructor
  case nothing => exact fun _ => rfl
  case matching => exact fun h => by cases h
  case messageCount => exact fun hsilent hhere => absurd rfl (hother hsilent hhere)
  all_goals
    intro _ houtcome
    exact absurd houtcome (hother (fun h => by cases h) (fun _ h => by cases h))

/-- A request to a single device has no response only if the outcome has none. -/
private theorem silent_of_response? {outcome : Outcome} {request : Request} {uid : Uid} {count : UInt8}
    (hsingle : request.destination.isBroadcast = false) (h : outcome.response? request uid count = none) :
    outcome = .silent ∨ ∃ uid, outcome = .here uid := by
  have hreply (type : ResponseType) (data : Payload) : (request.reply? uid type data count).toOption ≠ none := by
    rw [Request.reply?, if_neg (by simp [hsingle])]
    exact Option.some_ne_none _
  cases outcome with
  | acknowledged | overflow | refused | later => exact absurd h (hreply _ _)
  | silent => exact .inl rfl
  | here uid => exact .inr ⟨uid, rfl⟩
  | custom => cases h

/-- A GET or a SET has the result at the controller that it had at the device, whether the device refused it or a rule
answered, and the controller knows how many messages wait.  Only responses that a rule makes up are left out. -/
theorem agrees_ask (happ : app.Lawful) (hdevice : controller.link.device.Reachable)
    (huid : controller.uid.device ≠ 0xFFFFFFFF) (hclass : commandClass ≠ .discovery) {outcome : Outcome}
    {after : Device κ} {memory : υ} (houtcome : Device.outcomeOf app
      (controller.requestOf commandClass (.device controller.link.device.state.uid) pid subDevice data)
        controller.link.device
        controller.link.memory = (.ok outcome, after, memory))
    (hmade : outcome.IsPlain ∨ controller.link.device.Honest app) :
    let asked := (ask (Loopback.link app) commandClass (.device controller.link.device.state.uid) pid
      subDevice data).runFrom
      controller
    Agrees outcome pid asked.1 asked.2 ∧ asked.2.link.device = after := by
  generalize hrequest :
    controller.requestOf commandClass (.device controller.link.device.state.uid) pid subDevice data =
      request at houtcome
  have hsingle : request.destination.isBroadcast = false := by rw [← hrequest]; rfl
  have haddressed : request.destination.addresses controller.link.device.state.uid = true := by
    rw [← hrequest]
    exact beq_self_eq_true _
  have hproper : (Package.request request).Proper := by
    rw [← hrequest]
    exact ⟨hdevice.uid, huid⟩
  have hreachable := Device.reachable_outcomeOf happ hdevice haddressed controller.link.memory
  rw [houtcome] at hreachable
  obtain ⟨memory', hsent⟩ := Loopback.exists_runFrom_request hproper haddressed houtcome
  rw [Device.answerOf_of_single hsingle (by rw [← hrequest]; exact hclass)] at hsent
  cases hresponse : outcome.response? request after.state.uid after.parameters.messageCount with
  | none =>
    rw [hresponse] at hsent
    dsimp only at hsent
    rw [Loopback.returned_of_silent hsingle, ← hrequest] at hsent
    rw [runFrom_ask_of_error hsent]
    exact ⟨agrees_of_silent (silent_of_response? hsingle hresponse), rfl⟩
  | some response =>
    obtain ⟨hanswers, hcount, -⟩ := Device.answers_of_response? hmade houtcome hresponse
    -- The response answers the request, so it is read as it was sent and the controller takes it for its own.
    have hsource : request.source.device ≠ 0xFFFFFFFF := by
      rw [← hrequest]
      exact huid
    have hdestination : response.destination = .device controller.uid := by rw [hanswers.destination, ← hrequest]; rfl
    have hresponds : response.commandClass = commandClass := by rw [hanswers.commandClass, ← hrequest]; rfl
    have hpid : request.parameterId = pid := by rw [← hrequest]; rfl
    rw [hresponse] at hsent
    dsimp only at hsent
    rw [Loopback.returned_of_response (hanswers.ofFrame? hsource hreachable.uid), ← hrequest] at hsent
    rw [runFrom_ask_of_response hsent hdestination hresponds]
    refine ⟨?_, rfl⟩
    rw [← hcount] at hresponse
    rw [← hpid]
    exact agrees_of_response rfl (by rw [hcount]; exact hreachable.parameters.toNat_messageCount) hresponse

def gaugeController : Controller (Loopback Empty Unit) := .new ⟨0x7FF0, 0⟩ 1 ⟨Device.changedGauge, ()⟩

/-- The changed byte is read while the message about it still waits. -/
theorem agrees_ask_changedGauge :
    ∃ count : UInt8, count.toNat = 1 ∧
      ((ask (Loopback.link .idle) .get (.device ⟨0x05E0, 1⟩) 0x8001 0 .empty).runFrom gaugeController).1 =
        .ok (.complete ⟨0x8001, count, .ofList [7]⟩) := by
  have hdevice : gaugeController.link.device.Reachable := Device.reachable_changedGauge
  have houtcome : Device.outcomeOf .idle (gaugeController.requestOf .get (.device ⟨0x05E0, 1⟩) 0x8001 0 .empty)
      gaugeController.link.device gaugeController.link.memory =
        (.ok (.acknowledged (.ofList [7])), Device.changedGauge, ()) := rfl
  obtain ⟨hagrees, hafter⟩ := agrees_ask Application.lawful_idle hdevice (by decide) (by decide) houtcome
    (.inl trivial)
  refine ⟨_, ?_, hagrees.acknowledged rfl⟩
  rw [hagrees.messageCount (fun h => by cases h) (fun _ h => by cases h), hafter]
  rfl

end Controller

end LightBus
