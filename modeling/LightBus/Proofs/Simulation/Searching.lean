import LightBus.Proofs.Bus.Delivery
import LightBus.Proofs.Discovery.Reversals
import LightBus.Proofs.Responder.Discovery
import LightBus.Proofs.Simulation.Loopback

/-!
# A search for a device

A device that has the rules of discovery is an ideal bus of one device to the controller at the other end of a
loopback, whatever its application does (`Loopback.idealBus`).  So a search finds the device
(`Controller.discover_loopback`).
-/

namespace LightBus

variable {κ υ ε : Type}

/-! ### Answers -/

namespace Device

variable {device : Device κ} {request : Request} {uid : Uid} {b : Branch}

/-- The acknowledgement of a request for discovery is sent, if the request goes to a single device. -/
private theorem answerOf_acknowledged {data : Payload} (hsingle : request.destination.isBroadcast = false) :
    device.answerOf request (.acknowledged data) =
      .response (request.reply device.state.uid .ack data device.parameters.messageCount) := by
  simp [answerOf, Outcome.response?, Request.reply?, Except.toOption, hsingle, Request.reply]

private theorem answerOf_acknowledged_of_broadcast {data : Payload} (hmany : request.destination.isBroadcast = true) :
    device.answerOf request (.acknowledged data) = .silent := by
  simp [answerOf, hmany]

/-- The device answers a probe if it is awake and lies in the branch. -/
private theorem answerOf_probe (hprobe : request.IsProbe b) :
    device.answerOf request (device.answerBranchProbe request) =
      if device.state.muted = false ∧ b.contains device.state.uid = true then .here device.state.uid
      else .silent := by
  have hasks := hprobe.isBranchProbe
  obtain ⟨⟨-, -, hdestination, hroot⟩, hbranch⟩ := hprobe
  have hsilent : device.answerOf request .silent = .silent := by simp [answerOf, hdestination, Address.isBroadcast]
  unfold answerBranchProbe
  rw [hbranch]
  cases hmuted : device.state.muted with
  | true => simp [hsilent]
  | false =>
    cases hin : b.contains device.state.uid with
    | true => simp [hroot, hin, answerOf, hasks]
    | false => simp [hroot, hin, hsilent]

end Device

namespace Simulation.Loopback

variable {loop : Loopback κ υ} {app : Application κ υ ε} {request : Request} {uid source : Uid}
  {M : Finset Uid} {b : Branch}

/-- The device `uid` at the other end hears the controller `source`, and it is muted if `M` has it. -/
structure Hosts (uid source : Uid) (loop : Loopback κ υ) (M : Finset Uid) : Prop where
  source : source.device ≠ 0xFFFFFFFF
  discovering : loop.device.Discovering
  named : loop.device.state.uid = uid
  muted : loop.device.state.muted = true ↔ uid ∈ M

/-- The device that has heeded the request. -/
private theorem Hosts.mutes (h : Hosts uid source loop M) {muted : Bool} {M' : Finset Uid}
    (hmuted : muted = true ↔ uid ∈ M') (memory : υ) :
    Hosts uid source ⟨{ loop.device with state := { loop.device.state with muted } }, memory⟩ M' :=
  ⟨h.source, h.discovering.of_entries h.discovering.parameters rfl, h.named, hmuted⟩

private theorem Hosts.remember (h : Hosts uid source loop M) (memory : υ) :
    Hosts uid source ⟨loop.device, memory⟩ M :=
  ⟨h.source, h.discovering, h.named, h.muted⟩

/-- Everybody hears the controller, and nobody answers. -/
private theorem Hosts.unMute (h : Hosts uid request.source loop M) (hr : request.IsUnMute) : ∃ loop',
    ((link app).request request).runFrom loop = (.ok none, loop') ∧ Hosts uid request.source loop' ∅ := by
  obtain ⟨⟨hclass, hpid, hdestination, hroot⟩, hempty⟩ := hr
  have hproper : (Package.request request).Proper := ⟨by rw [Package.header, hdestination]; trivial, h.source⟩
  have haddressed : request.destination.addresses loop.device.state.uid = true := by rw [hdestination]; rfl
  have hmutes : request.mutes? = some false :=
    Request.mutes?_eq_some_iff.2 ⟨hclass, hroot, by rw [hempty]; rfl, hpid⟩
  have hmany : request.destination.isBroadcast = true := by rw [hdestination]; rfl
  have houtcome : Device.outcomeOf app request loop.device loop.memory = _ :=
    Device.outcomeOf_of_mutes? h.discovering hmutes loop.memory
  obtain ⟨memory, hrun⟩ := exists_runFrom_request hproper haddressed houtcome
  rw [Device.answerOf_acknowledged_of_broadcast hmany] at hrun
  exact ⟨_, hrun.trans (by rw [returned, if_pos hmany]), h.mutes (by simp) memory⟩

/-- The device acknowledges the request to mute it. -/
private theorem Hosts.mute (h : Hosts uid request.source loop M) (huid : uid.device ≠ 0xFFFFFFFF)
    (hr : request.IsMute uid) :
    ∃ response reply loop', ((link app).request request).runFrom loop = (.ok (some response), loop') ∧
      response.Acknowledges request reply ∧ reply.binding = none ∧ Hosts uid request.source loop' (insert uid M) := by
  obtain ⟨⟨hclass, hpid, hdestination, hroot⟩, hempty⟩ := hr
  have hproper : (Package.request request).Proper := ⟨by rw [Package.header, hdestination]; exact huid, h.source⟩
  have haddressed : request.destination.addresses loop.device.state.uid = true := by
    rw [hdestination, h.named]
    exact beq_self_eq_true uid
  have hmutes : request.mutes? = some true := Request.mutes?_eq_some_iff.2 ⟨hclass, hroot, by rw [hempty]; rfl, hpid⟩
  have hsingle : request.destination.isBroadcast = false := by rw [hdestination]; rfl
  have houtcome : Device.outcomeOf app request loop.device loop.memory = _ :=
    Device.outcomeOf_of_mutes? h.discovering hmutes loop.memory
  obtain ⟨memory, hrun⟩ := exists_runFrom_request hproper haddressed houtcome
  rw [Device.answerOf_acknowledged hsingle] at hrun
  have hanswers : (request.reply loop.device.state.uid .ack MuteReply.plain.payload
      loop.device.parameters.messageCount).Answers request loop.device.state.uid := ⟨rfl, rfl, rfl, rfl⟩
  rw [returned_of_response (hanswers.ofFrame? h.source (h.named ▸ huid))] at hrun
  exact ⟨_, .plain, _, hrun, ⟨rfl, rfl, rfl, rfl⟩, rfl, h.mutes (by simp) memory⟩

/-- The device keeps silent if the request goes to another one. -/
private theorem Hosts.mute_of_ne (h : Hosts uid request.source loop M) {other : Uid} (hother : other ≠ uid)
    (hvalid : other.device ≠ 0xFFFFFFFF) (hr : request.IsMute other) : ∃ loop',
    ((link app).request request).runFrom loop = (.error .timeout, loop') ∧ Hosts uid request.source loop' M := by
  have hdestination := hr.1.destination
  have hproper : (Package.request request).Proper := ⟨by rw [Package.header, hdestination]; exact hvalid, h.source⟩
  have hpassed : request.destination.addresses loop.device.state.uid = false := by
    rw [hdestination, h.named]
    exact beq_false_of_ne hother
  have hsingle : request.destination.isBroadcast = false := by rw [hdestination]; rfl
  have hrun := runFrom_request hproper (Device.handle_of_not_addressed app loop.memory hpassed)
  rw [returned_of_silent hsingle] at hrun
  exact ⟨_, hrun, h.remember loop.memory⟩

/-- The answer to a probe tells whether the device is awake and lies in the branch. -/
private theorem Hosts.probe (h : Hosts uid request.source loop M) (huid : uid.device ≠ 0xFFFFFFFF)
    (hr : request.IsProbe b) :
    ∃ answer loop', ((link app).probe request).runFrom loop = (.ok answer, loop') ∧
      answer.Describes (awake {uid} M b) ∧ Hosts uid request.source loop' M := by
  have hdestination := hr.1.destination
  have hproper : (Package.request request).Proper := ⟨by rw [Package.header, hdestination]; trivial, h.source⟩
  have haddressed : request.destination.addresses loop.device.state.uid = true := by rw [hdestination]; rfl
  have houtcome : Device.outcomeOf app request loop.device loop.memory = _ :=
    (Device.outcomeOf_of_probe h.discovering hr.isBranchProbe loop.memory).resolve_right fun hrefused =>
      hrefused.1 hr.1.subDevice
  obtain ⟨memory, hhandle⟩ := Device.exists_handle_of_outcome haddressed houtcome
  have hrun := runFrom_probe hproper hhandle
  rw [Device.answerOf_probe hr, h.named] at hrun
  refine ⟨_, _, hrun, ?_, h.remember memory⟩
  have hawake : loop.device.state.muted = false ↔ uid ∉ M := by rw [← h.muted, Bool.not_eq_true]
  simp only [hawake]
  split
  · rename_i hfound
    have hread : probed (.here uid) = .found uid := by
      rw [probed, Discovery.uidOfReply?_replyFrame huid]
    rw [hread]
    exact Finset.filter_true_of_mem fun other hother => Finset.mem_singleton.1 hother ▸ hfound
  · rename_i hnobody
    exact Finset.filter_false_of_mem fun other hother => Finset.mem_singleton.1 hother ▸ hnobody

/-- A loopback is an ideal bus of one device. -/
theorem idealBus (app : Application κ υ ε) (huid : uid.device ≠ 0xFFFFFFFF) :
    IdealBus (link app) {uid} (Hosts uid) where
  unMute hr h := h.unMute hr
  mute_mem hr hmem h := by
    obtain rfl := Finset.mem_singleton.1 hmem
    exact h.mute huid hr
  mute_not_mem hr hother hvalid h := h.mute_of_ne (fun heq => hother (Finset.mem_singleton.2 heq)) hvalid.2 hr
  probe hr h := h.probe huid hr

end Simulation.Loopback

namespace Controller

open Simulation

/-- A search from the other end of a loopback finds the device once, and leaves it muted. -/
theorem discover_loopback (app : Application κ υ ε) (config : SearchConfig)
    (hclear : config.swapFallback = false ∨ config.quickFind = true) {c : Controller (Loopback κ υ)}
    (hsource : c.uid.device ≠ 0xFFFFFFFF) (hdevice : c.link.device.Discovering)
    (hvalid : c.link.device.state.uid.Valid) :
    ∃ c', c.discover config (Loopback.link app) = (.ok 1, [c.link.device.state.uid], c') ∧
      c'.link.device.state.muted = true := by
  generalize huid : c.link.device.state.uid = uid at hvalid
  have hhosts : Loopback.Hosts uid c.uid c.link (if c.link.device.state.muted then {uid} else ∅) := by
    refine ⟨hsource, hdevice, huid, ?_⟩
    cases c.link.device.state.muted <;> simp
  obtain ⟨s, sites, hs, hsited⟩ := exists_sited config (Loopback.idealBus app hvalid.2)
    (fun other hother => Finset.mem_singleton.1 hother ▸ hvalid) c hhosts
  have hnodup := Search.nodup_of_ascending (hsited.found_ascending (hclear.imp_right .inl))
  have hfound : s.found = [uid] := by
    refine List.perm_singleton.1 ((List.perm_ext_iff_of_nodup hnodup (List.nodup_singleton uid)).2 fun other => ?_)
    rw [hsited.mem_found, Finset.mem_singleton, List.mem_singleton]
  rw [hfound] at hs
  refine ⟨s.controller, hs, hsited.muted.muted.2 ?_⟩
  rw [hfound]
  exact List.mem_toFinset.2 List.mem_cons_self

end Controller

end LightBus
