import LightBus.Proofs.Simulation.Loopback
import LightBus.Simulation.Links

/-!
# Which responses a controller accepts

A link brings whatever response has the number of the transaction.  The controller accepts those that go to it and are
of the class of its request, and refuses all others (`Controller.accepts_of_asks`).  It does not compare parameters: a
response about another parameter than the one that was asked for is accepted as well
(`Controller.accepted_other_parameter`), so it is up to the link to bring none.
-/

namespace LightBus

namespace Controller

variable {σ ε : Type} {link : ControllerLink σ ε} {c : Controller σ} {commandClass : CommandClass}
  {destination : Address} {pid : ParameterId} {subDevice : UInt16} {data : Payload}

/-- The response goes to the controller and is of the given class. -/
def Takes (c : Controller σ) (commandClass : CommandClass) (response : Response) : Prop :=
  response.destination = .device c.uid ∧ response.commandClass = commandClass

/-- A controller asks for a parameter with GET, or sets it with SET. -/
inductive Asks (link : ControllerLink σ ε) (destination : Address) (pid : ParameterId) (subDevice : UInt16)
    (data : Payload) :
    CommandClass → Run (Controller σ) (ControllerError ε) Reply → Prop
  | get : Asks link destination pid subDevice data .get (get link destination pid subDevice data)
  | set : Asks link destination pid subDevice data .set (set link destination pid subDevice data)

/-! ### One request -/

private theorem runFrom_ask_of_none {s : σ}
    (h : (link.request (c.requestOf commandClass destination pid subDevice data)).runFrom c.link = (.ok none, s)) :
    (ask link commandClass destination pid subDevice data).runFrom c = (.ok .broadcast, { c with link := s }) := by
  simp [ask, runFrom_onLink, h, Except.mapError]

/-- What the controller does not take leaves nothing behind but the state of the link. -/
private theorem runFrom_ask_of_other {response : Response} {s : σ}
    (h : (link.request (c.requestOf commandClass destination pid subDevice data)).runFrom c.link =
      (.ok (some response), s))
    (hother : ¬c.Takes commandClass response) :
    (ask link commandClass destination pid subDevice data).runFrom c =
      (.error .notMatching, { c with link := s }) := by
  have hother : response.destination ≠ .device c.uid ∨ response.commandClass ≠ commandClass := not_and_or.1 hother
  simp [ask, runFrom_onLink, h, Except.mapError, hother]

/-- What the controller makes of what the link brings. -/
private theorem ask_cases (link : ControllerLink σ ε) (c : Controller σ) (commandClass : CommandClass)
    (destination : Address) (pid : ParameterId) (subDevice : UInt16) (data : Payload) :
    let brought := (link.request (c.requestOf commandClass destination pid subDevice data)).runFrom c.link
    let ended := (ask link commandClass destination pid subDevice data).runFrom c
    (∃ error s, brought = (.error error, s) ∧ ended = (.error (.link error), { c with link := s })) ∨
    (∃ s, brought = (.ok none, s) ∧ ended = (.ok .broadcast, { c with link := s })) ∨
    (∃ response s, brought = (.ok (some response), s) ∧ c.Takes commandClass response ∧
      ended = (response.reply, { c with link := s, messageCount := response.messageCount })) ∨
    ∃ response s, brought = (.ok (some response), s) ∧ ¬c.Takes commandClass response ∧
      ended = (.error .notMatching, { c with link := s }) := by
  dsimp only
  rcases hbrought : (link.request (c.requestOf commandClass destination pid subDevice data)).runFrom c.link with
    ⟨error | _ | response, s⟩
  · exact .inl ⟨error, s, rfl, runFrom_ask_of_error hbrought⟩
  · exact .inr (.inl ⟨s, rfl, runFrom_ask_of_none hbrought⟩)
  · by_cases htakes : c.Takes commandClass response
    · exact .inr (.inr (.inl ⟨response, s, rfl, htakes, runFrom_ask_of_response hbrought htakes.1 htakes.2⟩))
    · exact .inr (.inr (.inr ⟨response, s, rfl, htakes, runFrom_ask_of_other hbrought htakes⟩))

/-- The reply is that of a response that the controller takes, or that of a broadcast. -/
theorem ask_eq_ok_iff {reply : Reply} :
    ((ask link commandClass destination pid subDevice data).runFrom c).1 = .ok reply ↔
      (((link.request (c.requestOf commandClass destination pid subDevice data)).runFrom c.link).1 = .ok none ∧
          reply = .broadcast) ∨
        ∃ response, ((link.request (c.requestOf commandClass destination pid subDevice data)).runFrom c.link).1 =
            .ok (some response) ∧ c.Takes commandClass response ∧
          (response.reply : Except (ControllerError ε) Reply) = .ok reply := by
  rcases ask_cases link c commandClass destination pid subDevice data with ⟨error, s, hbrought, hended⟩
    | ⟨s, hbrought, hended⟩ | ⟨response, s, hbrought, htakes, hended⟩ | ⟨response, s, hbrought, htakes, hended⟩
    <;> rw [hbrought, hended]
  · simp
  · simp [eq_comm]
  · simp [htakes]
  · simp [htakes]

theorem ask_eq_notMatching_iff :
    ((ask link commandClass destination pid subDevice data).runFrom c).1 = .error .notMatching ↔
      ∃ response, ((link.request (c.requestOf commandClass destination pid subDevice data)).runFrom c.link).1 =
        .ok (some response) ∧ ¬c.Takes commandClass response := by
  rcases ask_cases link c commandClass destination pid subDevice data with ⟨error, s, hbrought, hended⟩
    | ⟨s, hbrought, hended⟩ | ⟨response, s, hbrought, htakes, hended⟩ | ⟨response, s, hbrought, htakes, hended⟩
    <;> rw [hbrought, hended]
  · simp
  · simp
  · simp [htakes, Response.reply_ne_notMatching]
  · simp [htakes]

/-- An error of the link is what the link told, and nothing was done after it. -/
theorem request_of_ask {c' : Controller σ} {error : LinkError ε}
    (h : (ask link commandClass destination pid subDevice data).runFrom c = (.error (.link error), c')) :
    (link.request (c.requestOf commandClass destination pid subDevice data)).runFrom c.link =
      (.error error, c'.link) := by
  rcases ask_cases link c commandClass destination pid subDevice data with ⟨_, s, hbrought, hended⟩
    | ⟨s, -, hended⟩ | ⟨response, s, -, -, hended⟩ | ⟨response, s, -, -, hended⟩ <;> rw [hended] at h
  · cases h
    exact hbrought
  · cases h
  · exact absurd (congrArg Prod.fst h) (Response.reply_ne_link error)
  · cases h

theorem ask_eq_complete_iff {info : ReplyInfo} :
    ((ask link commandClass destination pid subDevice data).runFrom c).1 = .ok (.complete info) ↔
      ∃ response, ((link.request (c.requestOf commandClass destination pid subDevice data)).runFrom c.link).1 =
          .ok (some response) ∧ c.Takes commandClass response ∧ response.responseType = .ack ∧
          info = response.info := by
  simp [ask_eq_ok_iff, Response.reply_eq_ok_iff]

theorem ask_eq_incomplete_iff {info : ReplyInfo} :
    ((ask link commandClass destination pid subDevice data).runFrom c).1 = .ok (.incomplete info) ↔
      ∃ response, ((link.request (c.requestOf commandClass destination pid subDevice data)).runFrom c.link).1 =
          .ok (some response) ∧ c.Takes commandClass response ∧ response.responseType = .ackOverflow ∧
          info = response.info := by
  simp [ask_eq_ok_iff, Response.reply_eq_ok_iff]

/-! ### The two ways to ask -/

private theorem eq_ask_of_asks {asked : Run (Controller σ) (ControllerError ε) Reply}
    (h : Asks link destination pid subDevice data commandClass asked) :
    asked = ask link commandClass destination pid subDevice data := by
  cases h <;> rfl

/-- A controller accepts the acknowledgements that go to it and are of the class of its request, and tells what they
bring.  Other responses to somebody else or of another class do not match.  What the controller is told is about the
parameter that it asked for if the link brings no response about another one. -/
theorem accepts_of_asks {asked : Run (Controller σ) (ControllerError ε) Reply}
    (hasks : Asks link destination pid subDevice data commandClass asked) (c : Controller σ) :
    let brought := (link.request (c.requestOf commandClass destination pid subDevice data)).runFrom c.link
    let ended := asked.runFrom c
    (∀ info, ended.1 = .ok (.complete info) ↔ ∃ response, brought.1 = .ok (some response) ∧
      c.Takes commandClass response ∧
      response.responseType = .ack ∧ info = response.info) ∧
    (∀ info, ended.1 = .ok (.incomplete info) ↔ ∃ response, brought.1 = .ok (some response) ∧
      c.Takes commandClass response ∧
      response.responseType = .ackOverflow ∧ info = response.info) ∧
    (ended.1 = .error .notMatching ↔ ∃ response, brought.1 = .ok (some response) ∧ ¬c.Takes commandClass response) ∧
    ((∀ response, brought.1 = .ok (some response) → response.parameterId = pid) →
      ∀ info, ended.1 = .ok (.complete info) ∨ ended.1 = .ok (.incomplete info) → info.parameterId = pid) := by
  obtain rfl := eq_ask_of_asks hasks
  dsimp only
  refine ⟨fun _ => ask_eq_complete_iff, fun _ => ask_eq_incomplete_iff, ask_eq_notMatching_iff,
    fun hpid info hinfo => ?_⟩
  rw [ask_eq_complete_iff, ask_eq_incomplete_iff] at hinfo
  obtain ⟨response, hresponse, -, -, rfl⟩ | ⟨response, hresponse, -, -, rfl⟩ := hinfo
  · exact hpid response hresponse
  · exact hpid response hresponse

open Simulation

/-- A controller on a link that brings the given response to everything. -/
def answeredWith (response : Response) : Controller (Outbox Empty) :=
  .new ⟨0x7FF0, 0⟩ 1 ⟨fun _ => .ok (some response), .ok .nobody, .ok (), []⟩

/-- A device tells that it identifies itself. -/
def identifying : Response := ⟨.device ⟨0x7FF0, 0⟩, ⟨0x05E0, 1⟩, 0, .ack, 0, 0, .get, .identifyDevice, .ofList [1]⟩

theorem accepts_of_asks_identifying :
    ((get Outbox.link (.device ⟨0x05E0, 1⟩) .identifyDevice).runFrom (answeredWith identifying)).1 =
        .ok (.complete identifying.info) ∧ identifying.info.parameterId = .identifyDevice := by
  have hasks : Asks (Outbox.link : ControllerLink (Outbox Empty) Empty) (.device ⟨0x05E0, 1⟩)
    .identifyDevice 0 .empty .get
      (get Outbox.link (.device ⟨0x05E0, 1⟩) .identifyDevice) := .get
  obtain ⟨hcomplete, -, -, hpid⟩ := accepts_of_asks hasks (answeredWith identifying)
  have hbrought : ((get Outbox.link (.device ⟨0x05E0, 1⟩) .identifyDevice).runFrom (answeredWith identifying)).1 =
      .ok (.complete identifying.info) := (hcomplete _).2 ⟨identifying, rfl, ⟨rfl, rfl⟩, rfl, rfl⟩
  exact ⟨hbrought, hpid (fun _ h => by cases h; rfl) _ (.inl hbrought)⟩

/-- A controller that asks whether a device identifies itself takes the answer from a response about the start
address. -/
theorem accepted_other_parameter :
    let response : Response := { identifying with parameterId := .dmxStartAddress }
    ((get Outbox.link (.device ⟨0x05E0, 1⟩) .identifyDevice).runFrom (answeredWith response)).1 =
        .ok (.complete ⟨.dmxStartAddress, 0, .ofList [1]⟩) ∧
      ((set Outbox.link (.device ⟨0x05E0, 1⟩) .identifyDevice 0 (.ofList [1])).runFrom
        (answeredWith { response with commandClass := .set })).1 =
          .ok (.complete ⟨.dmxStartAddress, 0, .ofList [1]⟩) ∧
      ((getIdentify Outbox.link ⟨0x05E0, 1⟩).runFrom (answeredWith response)).1 = .ok true := by
  exact ⟨rfl, rfl, rfl⟩

end Controller

end LightBus
