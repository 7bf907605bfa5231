import LightBus.Proofs.Responder.Fetching
import LightBus.Proofs.Responder.Operation
import LightBus.Proofs.Simulation.Loopback

/-!
# The list of supported parameters

A controller that asks a device which parameters it lists gets the first of them, in their order, as many as parameter
data have room for (`Controller.getSupported_of_operated`).

* (device) `Payload.bytes_fill`: one identifier after the other goes into the data, until one does not fit.
* (way) `Controller.ask_of_outcome`: what the controller makes of an outcome.
* (controller) `Controller.wordsOf_flatMap_word`: the identifiers are read from the data again.
-/

namespace LightBus

variable {κ υ ε σ : Type}

open Simulation

/-! ### On the device -/

/-- Of parts of one size, as many are taken as there is room for. -/
theorem Payload.bytes_fill {size : Nat} (hsize : 0 < size) {parts : List (List UInt8)}
    (hparts : ∀ part ∈ parts, part.length = size) (data : Payload) :
    (data.fill parts).bytes = data.bytes ++ (parts.take ((maxPayloadSize - data.bytes.length) / size)).flatten := by
  induction parts generalizing data with
  | nil => simp [fill]
  | cons part parts ih =>
    have hpart : part.length = size := hparts part List.mem_cons_self
    by_cases hfits : (data.bytes ++ part).length ≤ maxPayloadSize
    · have hroom : (maxPayloadSize - data.bytes.length) / size = (maxPayloadSize - (data.bytes ++ part).length) /
          size + 1 := by
        rw [List.length_append, hpart] at hfits ⊢
        rw [Nat.div_eq_sub_div hsize (by omega), Nat.sub_sub]
      rw [fill, append?, dif_pos hfits]
      dsimp only
      rw [ih (fun part h => hparts part (List.mem_cons_of_mem _ h)), hroom, List.take_succ_cons, List.flatten_cons,
        List.append_assoc]
    · have hroom : (maxPayloadSize - data.bytes.length) / size = 0 := by
        rw [List.length_append, hpart] at hfits
        exact Nat.div_eq_of_lt (by omega)
      rw [fill, append?, dif_neg hfits, hroom, List.take_zero, List.flatten_nil, List.append_nil]

namespace Device

variable {device : Device κ} {request : Request} {definition : Definition κ}

private theorem bytes_listPayload (device : Device κ) :
    device.listPayload.bytes = (device.listedParameters.take 115).flatMap word := by
  have hparts : ∀ part ∈ device.listedParameters.map word, part.length = 2 := by
    intro part hpart
    obtain ⟨pid, -, rfl⟩ := List.mem_map.1 hpart
    exact length_word pid
  rw [listPayload, Payload.bytes_fill (by decide) hparts, ← List.map_take, List.flatMap]
  rfl

def listDefinition : Definition κ :=
  plainDefinition .supportedParameters ⟨[.word], checkFields_word⟩ .get .unsignedWord .supportedParameters

/-- The parameter with the list is the one that every device begins with, if the rule of the list answers it. -/
private theorem definition?_list (hstanding : device.Standing)
    (hrule : (device.parameters.definition? .supportedParameters).map Definition.handler =
      some .supportedParameters) :
    device.parameters.definition? .supportedParameters = some listDefinition := by
  have hentry : (⟨listDefinition, .computed, false⟩ : Entry κ) ∈ (standardEntries : List (Entry κ)) := by
    simp [standardEntries, listDefinition]
  exact hstanding.definition?_of_rule hentry hrule

/-- A request for the list comes to the list, unless it names no port of the controller. -/
private theorem outcomeOf_list (app : Application κ υ ε) (hasks : request.Asks .get .supportedParameters)
    (hdestination : request.destination = .device device.state.uid)
    (hknown : device.parameters.definition? .supportedParameters = some listDefinition) (memory : υ) :
    outcomeOf app request device memory =
      (.ok (if request.port = 0 then .nack .formatError else .acknowledged device.listPayload), device, memory) := by
  have hrule :
      device.applyRule app.rules request .supportedParameters = (.acknowledged device.listPayload, device) := by
    rw [applyRule, onRoot, if_neg (by simp [hasks.subDevice])]
  exact outcomeOf_of_asks app hasks hdestination hknown rfl rfl (fun h => by cases h) hrule memory

end Device

/-! ### At the controller -/

namespace Controller

theorem wordsOf_flatMap_word (words : List UInt16) : wordsOf (words.flatMap word) = words := by
  induction words with
  | nil => rfl
  | cons w words ih =>
    obtain ⟨hi, lo, hword, hread⟩ := exists_word w
    rw [List.flatMap_cons, hword]
    show wordOf hi lo :: wordsOf (words.flatMap word) = w :: words
    rw [hread, ih]

/-- The controller makes of a plain outcome what the response that carries it amounts to. -/
theorem ask_of_outcome {app : Application κ υ ε} {controller : Controller (Loopback κ υ)}
    {commandClass : CommandClass} {pid : ParameterId} {subDevice : UInt16} {data : Payload} {outcome : Outcome}
    {content : ResponseType × Payload} {after : Device κ} {memory : υ}
    (hdevice : controller.link.device.state.uid.device ≠ 0xFFFFFFFF) (huid : controller.uid.device ≠ 0xFFFFFFFF)
    (hclass : commandClass ≠ .discovery) (houtcome : Device.outcomeOf app
      (controller.requestOf commandClass (.device controller.link.device.state.uid) pid subDevice data)
        controller.link.device
        controller.link.memory = (.ok outcome, after, memory))
    (hafter : after.state.uid.device ≠ 0xFFFFFFFF) (hcontent : outcome.content? = some content) :
    ((ask (Loopback.link app) commandClass (.device controller.link.device.state.uid) pid subDevice data).runFrom
      controller).1 = ((controller.requestOf commandClass (.device controller.link.device.state.uid) pid
        subDevice data).reply
        after.state.uid content.1 content.2 after.parameters.messageCount).reply := by
  generalize hrequest :
    controller.requestOf commandClass (.device controller.link.device.state.uid) pid subDevice data =
      request at houtcome
  have hsource : request.source = controller.uid := by rw [← hrequest]; rfl
  have hsingle : request.destination.isBroadcast = false := by rw [← hrequest]; rfl
  have hasks : request.commandClass = commandClass := by rw [← hrequest]; rfl
  have haddressed : request.destination.addresses controller.link.device.state.uid = true := by
    rw [← hrequest]
    exact beq_self_eq_true _
  have hproper : (Package.request request).Proper := by
    rw [← hrequest]
    exact ⟨hdevice, huid⟩
  have hread : Package.ofFrame? (Package.response (request.reply after.state.uid content.1 content.2
      after.parameters.messageCount)).frame = .ok (.response (request.reply after.state.uid content.1 content.2
        after.parameters.messageCount)) :=
    Response.Answers.ofFrame? ⟨rfl, rfl, rfl, rfl⟩ (hsource ▸ huid) hafter
  obtain ⟨memory', hsent⟩ := Loopback.exists_runFrom_request hproper haddressed houtcome
  have hplain := Outcome.isPlain_of_content? hcontent
  rw [Device.answerOf_of_single hsingle (hasks ▸ hclass), Outcome.response?_of_isPlain _ hplain hsingle, hcontent]
    at hsent
  rw [Option.map_some, Loopback.returned_of_response hread, ← hrequest] at hsent
  rw [runFrom_ask_of_response hsent rfl rfl, hrequest]

/-- The list in a reply. -/
def listOf : Reply → Except (ControllerError ε) (List ParameterId)
  | .complete info => if info.data.bytes.length % 2 ≠ 0 then .error .unreadableData else .ok (wordsOf info.data.bytes)
  | _ => .error .unreadableData

private theorem runFrom_getSupported (link : ControllerLink σ ε) (uid : Uid) (controller : Controller σ) :
    ((getSupported link uid).runFrom controller).1 =
      ((ask link .get (.device uid) .supportedParameters 0 .empty).runFrom controller).1 >>= listOf := by
  rw [getSupported, Run.runFrom_bind, getData, Run.runFrom_bind, get]
  rcases (ask link .get (.device uid) .supportedParameters 0 .empty).runFrom controller with ⟨e | reply, after⟩
  · rfl
  · cases reply with
    | complete info =>
      show (Run.runFrom (if info.data.bytes.length % 2 ≠ 0 then _ else _) after).1 = listOf (.complete info)
      rw [listOf]
      split <;> rfl
    | incomplete | broadcast => rfl

private theorem listOf_complete {info : ReplyInfo} {pids : List ParameterId}
    (h : info.data.bytes = pids.flatMap word) :
    (listOf (.complete info) : Except (ControllerError ε) (List ParameterId)) = .ok pids := by
  have heven : ¬info.data.bytes.length % 2 ≠ 0 := by
    rw [h, List.length_flatMap]
    simp
  rw [listOf, if_neg heven, h, wordsOf_flatMap_word]

theorem length_wordsOf (bytes : List UInt8) : (wordsOf bytes).length = bytes.length / 2 := by
  induction bytes using wordsOf.induct with
  | case1 hi lo rest ih => rw [wordsOf, List.length_cons, List.length_cons, List.length_cons, ih]; omega
  | case2 bytes hshort =>
    match bytes, hshort with
    | [], _ => rfl
    | [_], _ => simp [wordsOf]
    | hi :: lo :: rest, hshort => exact absurd rfl (hshort hi lo rest)

/-- Of any data that come back, no more identifiers are read than there is room for. -/
theorem length_le_of_getSupported {link : ControllerLink σ ε} {uid : Uid} {controller : Controller σ}
    {pids : List ParameterId} (h : ((getSupported link uid).runFrom controller).1 = .ok pids) :
    pids.length ≤ 115 := by
  rw [runFrom_getSupported] at h
  obtain ⟨reply, -, hlist⟩ := Device.exists_of_bind_eq_ok h
  unfold listOf at hlist
  split at hlist
  case h_2 => cases hlist
  rename_i info
  split at hlist
  case isTrue => cases hlist
  obtain rfl := Except.ok.inj hlist
  have hlength : info.data.bytes.length ≤ 231 := info.data.length_le
  rw [length_wordsOf]
  omega

/-- A controller gets the first of the parameters that a device lists, in their order: those of the dictionary and
then the others, without the required ones, as many as parameter data have room for.  Nobody may have given the list
another rule, and a controller without a port is refused. -/
theorem getSupported_of_operated {app : Application κ υ ε} (happ : app.ByCalls)
    (controller : Controller (Loopback κ υ)) (hdevice : controller.link.device.Operated app)
    (huid : controller.uid.device ≠ 0xFFFFFFFF)
    (hrule : (controller.link.device.parameters.definition? .supportedParameters).map Definition.handler =
      some .supportedParameters) :
    ((getSupported (Loopback.link app) controller.link.device.state.uid).runFrom controller).1 =
      if controller.port = 0 then .error (.refused .formatError)
      else .ok (controller.link.device.listedParameters.take 115) := by
  have hstanding := hdevice.standing happ
  have hknown := Device.definition?_list hstanding hrule
  have hasks : (controller.requestOf .get (.device controller.link.device.state.uid) .supportedParameters 0
    .empty).Asks .get
      .supportedParameters := ⟨rfl, rfl, rfl⟩
  have houtcome := Device.outcomeOf_list app hasks rfl hknown controller.link.memory
  have hport : (controller.requestOf .get (.device controller.link.device.state.uid) .supportedParameters 0
    .empty).port =
      controller.port := rfl
  rw [runFrom_getSupported]
  rw [hport] at houtcome
  split at houtcome
  · rename_i hnone
    rw [if_pos hnone, ask_of_outcome hstanding.uid huid (by decide) houtcome hstanding.uid rfl,
      Response.reply_refused rfl rfl, NackReason.ofCode?_eq_some_iff.2 rfl]
    rfl
  · rename_i hsome
    rw [if_neg hsome, ask_of_outcome hstanding.uid huid (by decide) houtcome hstanding.uid rfl]
    exact listOf_complete controller.link.device.bytes_listPayload

/-- The lamp has two hundred parameters outside of its dictionary, and names one that every device has. -/
def crowdedConfig : DeviceConfig :=
  { Device.lampConfig with otherParameters := .deviceInfo :: (List.range 200).map fun n => UInt16.ofNat (0x8100 + n) }

def crowdedLamp : Device Empty :=
  { Device.lamp with state := { Device.lamp.state with otherParameters := crowdedConfig.otherParameters } }

private theorem operated_crowdedLamp : crowdedLamp.Operated .idle :=
  .created (show Device.create? crowdedConfig (List.replicate 36 0) = .ok crowdedLamp from rfl) (by decide)

/-- Two parameters of the dictionary and 113 of the others have room. -/
theorem getSupported_of_operated_crowdedLamp :
    ((getSupported (Loopback.link .idle) ⟨0x05E0, 1⟩).runFrom (.new ⟨0x7FF0, 0⟩ 1 ⟨crowdedLamp, ()⟩)).1 =
      .ok (.deviceLabel :: .queuedMessage :: (List.range 113).map fun n => UInt16.ofNat (0x8100 + n)) :=
  getSupported_of_operated Application.byCalls_idle (.new ⟨0x7FF0, 0⟩ 1 ⟨crowdedLamp, ()⟩) operated_crowdedLamp
    (by decide) rfl

/-- The program lets the list be answered as if it were stored. -/
def unlistedLamp : Device Empty :=
  { Device.lamp with parameters := Device.lamp.parameters.perform (.setHandler .supportedParameters .stored) }

private theorem operated_unlistedLamp : unlistedLamp.Operated .idle :=
  .changed (.created Device.create?_lamp (by decide)) ⟨⟨[.setHandler .supportedParameters .stored], rfl⟩, id⟩

/-- A lamp that answers by another rule does not tell what it lists, and neither does one that is asked without a
port. -/
theorem unlisted_and_portless :
    (unlistedLamp.Operated .idle ∧ unlistedLamp.listedParameters.take 115 = [.deviceLabel, .queuedMessage] ∧
      ((getSupported (Loopback.link .idle) ⟨0x05E0, 1⟩).runFrom (.new ⟨0x7FF0, 0⟩ 1 ⟨unlistedLamp, ()⟩)).1 =
        .error (.refused .hardwareFault)) ∧
    (crowdedLamp.Operated .idle ∧
      ((getSupported (Loopback.link .idle) ⟨0x05E0, 1⟩).runFrom (.new ⟨0x7FF0, 0⟩ 0 ⟨crowdedLamp, ()⟩)).1 =
        .error (.refused .formatError)) :=
  ⟨⟨operated_unlistedLamp, rfl, rfl⟩, operated_crowdedLamp, rfl⟩

end Controller

end LightBus
