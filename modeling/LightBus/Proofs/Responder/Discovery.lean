import LightBus.Proofs.Addressing
import LightBus.Proofs.Responder.Reachable

/-!
# Discovery at the device

A device is found by the probes of every branch that it lies in until it is muted, and again after it was un-muted.
Of all the requests that it handles, the last one that mutes or un-mutes decides (`Device.discovers_handleAll`).

* (rules) `Device.Discovering`: the rules of discovery are in place, and nothing else mutes.  A device has them from
  the beginning (`discovering_create?`).
* (request) `state_handle`: a request that neither mutes nor un-mutes leaves the device as muted as it was.  A message
  that is fetched never mutes, because the parameters that do have no storage and are never queued.
* (run) `exchange_of_split`: what holds before each request of a run.
-/

namespace LightBus

variable {κ υ ε : Type}

/-- The bytes of a probe are those of two identifiers, the ends of the branch. -/
theorem Branch.ofBytes?_eq_some_iff {bytes : List UInt8} {b : Branch} :
    ofBytes? bytes = some b ↔ ∃ lower upper : Uid, bytes = lower.bytes ++ upper.bytes ∧
    b = ⟨lower.value, upper.value⟩ := by
  constructor
  · intro h
    unfold ofBytes? at h
    split at h
    · obtain rfl := Option.some.inj h
      refine ⟨_, _, ?_, rfl⟩
      rw [Uid.bytes_ofBytes, Uid.bytes_ofBytes]
      rfl
    · cases h
  · rintro ⟨lower, upper, rfl, rfl⟩
    obtain ⟨l0, l1, l2, l3, l4, l5, hlower, hlower'⟩ := lower.exists_bytes
    obtain ⟨u0, u1, u2, u3, u4, u5, hupper, hupper'⟩ := upper.exists_bytes
    rw [hlower, hupper]
    show some (Branch.mk (Uid.ofBytes l0 l1 l2 l3 l4 l5).value (Uid.ofBytes u0 u1 u2 u3 u4 u5).value) = _
    rw [hlower', hupper']

/-- What the request does to a device that it goes to: mute it, un-mute it, or neither. -/
def Request.mutes? (request : Request) : Option Bool :=
  if request.commandClass = .discovery ∧ request.subDevice = 0 ∧ request.data.bytes = [] then
    if request.parameterId = .discMute then some true
    else if request.parameterId = .discUnMute then some false
    else none
  else none

theorem Request.mutes?_eq_some_iff {request : Request} {muted : Bool} :
    request.mutes? = some muted ↔ request.commandClass = .discovery ∧ request.subDevice = 0 ∧
    request.data.bytes = [] ∧
      request.parameterId = if muted then .discMute else .discUnMute := by
  unfold mutes?
  by_cases heeded : request.commandClass = .discovery ∧ request.subDevice = 0 ∧ request.data.bytes = []
  · obtain ⟨hclass, hroot, hempty⟩ := heeded
    rw [if_pos ⟨hclass, hroot, hempty⟩]
    have hother : ParameterId.discUnMute ≠ .discMute := by decide
    cases muted with
    | true =>
      by_cases hmute : request.parameterId = .discMute <;> simp [hclass, hroot, hempty, hmute]
    | false =>
      by_cases hmute : request.parameterId = .discMute
      · simp [hmute, hother.symm]
      · simp [hclass, hroot, hempty, hmute]
  · rw [if_neg heeded]
    constructor
    · intro h
      cases h
    · rintro ⟨hclass, hroot, hempty, -⟩
      exact absurd ⟨hclass, hroot, hempty⟩ heeded

/-- Requests with data and requests for a sub-device do not mute. -/
private theorem Request.unheeded_of_mutes? {request : Request} (hclass : request.commandClass = .discovery)
    (hpid : request.parameterId = .discMute ∨ request.parameterId = .discUnMute) (h : request.mutes? = none) :
    request.subDevice ≠ 0 ∨ request.data.bytes ≠ [] := by
  refine Decidable.byContradiction fun hheeded => ?_
  rw [not_or, Decidable.not_not, Decidable.not_not] at hheeded
  obtain ⟨hroot, hempty⟩ := hheeded
  obtain ⟨muted, hmuted⟩ : ∃ muted, request.mutes? = some muted := by
    rcases hpid with hpid | hpid
    · exact ⟨true, mutes?_eq_some_iff.2 ⟨hclass, hroot, hempty, hpid⟩⟩
    · exact ⟨false, mutes?_eq_some_iff.2 ⟨hclass, hroot, hempty, hpid⟩⟩
  rw [h] at hmuted
  cases hmuted

/-- The rules of discovery answer the requests for it, and only they mute. -/
structure Device.Discovering (device : Device κ) : Prop where
  parameters : device.parameters.Reachable
  branchProbe : ∃ e, device.parameters.entry? .discUniqueBranch = some e ∧ e.definition.access = .discovery ∧
    e.definition.handler = .branchProbe
  mute {pid : ParameterId} (h : pid = .discMute ∨ pid = .discUnMute) : ∃ e, device.parameters.entry? pid = some e ∧
    e.storage = .computed ∧ e.definition.access = .discovery ∧ e.definition.handler = .mute
  only {pid : ParameterId} {definition : Definition κ} (h : device.parameters.definition? pid = some definition)
    (hmute : definition.handler = .mute) : pid = .discMute ∨ pid = .discUnMute

/-- The rules of the device's own and the application keep away from discovery. -/
structure Application.LeavesDiscovery (app : Application κ υ ε) : Prop where
  rules {device : Device κ} (rule : κ) (request : Request) (h : device.Discovering) :
    (app.rules rule device request).2.Discovering ∧ (app.rules rule device request).2.state.muted = device.state.muted
  others {device : Device κ} (request : Request) (memory : υ) (h : device.Discovering) :
    (app.others request device memory).2.1.Discovering ∧
      (app.others request device memory).2.1.state.muted = device.state.muted

namespace Device

variable {device after : Device κ} {request : Request} {app : Application κ υ ε} {pid : ParameterId} {muted : Bool}

/-! ### The rules -/

theorem Discovering.of_entries (h : device.Discovering) (hreachable : after.parameters.Reachable)
    (hentries : after.parameters.entries = device.parameters.entries) : after.Discovering := by
  have hsame := Dictionary.entry?_of_entries hentries
  refine ⟨hreachable, ?_, fun hpid => ?_, fun {pid definition} hdefinition => h.only ?_⟩
  · rw [hsame]
    exact h.branchProbe
  · rw [hsame]
    exact h.mute hpid
  · rw [← hdefinition, Dictionary.definition?, Dictionary.definition?, hsame]

/-- A message that is fetched never mutes. -/
private theorem Discovering.not_mute_of_lastQueued (h : device.Discovering) {definition : Definition κ}
    (hlast : device.parameters.lastQueued = some pid)
    (hdefinition : device.parameters.definition? pid = some definition) :
    definition.handler ≠ .mute := by
  intro hmute
  obtain ⟨e, hentry, hcomputed, -⟩ := h.mute (h.only hdefinition hmute)
  have hstored := h.parameters.queueSound.stored (.inr hlast)
  rw [Dictionary.range?, hentry, Option.bind_some, hcomputed] at hstored
  cases hstored

private theorem keptByRules_discovering (happ : app.LeavesDiscovery) :
    KeptByRules app.rules fun device => device.Discovering ∧ device.state.muted = muted where
  set {device} pid native h := by
    obtain ⟨hentries, -, -⟩ := device.parameters.set_frame pid native
    exact ⟨h.1.of_entries (h.1.parameters.set pid native) hentries, h.2⟩
  popQueued {device} h := ⟨h.1.of_entries h.1.parameters.popQueued device.parameters.entries_popQueued, h.2⟩
  fetchedMute request h hlast hdefinition hmute := absurd hmute (h.1.not_mute_of_lastQueued hlast hdefinition)
  custom rule request h := by
    obtain ⟨hkept, hmuted⟩ := happ.rules rule request h.1
    exact ⟨hkept, hmuted.trans h.2⟩

/-! ### Set-up -/

theorem discovering_create? {config : DeviceConfig} {arena : List UInt8} (h : create? config arena = .ok device) :
    device.Discovering ∧ device.state.muted = false := by
  obtain ⟨hparameters, hstate⟩ := create?_spec h
  obtain ⟨hreachable, hothers, hdiscovery⟩ := standardParameters_spec hparameters
  have hentries := (List.take_append_drop 3 device.parameters.entries).symm
  rw [hdiscovery] at hentries
  refine ⟨⟨hreachable, ?_, ?_, ?_⟩, by rw [hstate]⟩
  · rw [Dictionary.entry?, hentries]
    exact ⟨_, rfl, rfl, rfl⟩
  · rintro pid (rfl | rfl)
    · rw [Dictionary.entry?, hentries]
      exact ⟨_, rfl, rfl, rfl, rfl⟩
    · rw [Dictionary.entry?, hentries]
      exact ⟨_, rfl, rfl, rfl, rfl⟩
  · intro pid definition hdefinition hmute
    obtain ⟨entry, hentry, rfl⟩ := Option.map_eq_some_iff.1 hdefinition
    obtain ⟨hmem, hpid⟩ := Dictionary.mem_of_entry? hentry
    rw [hentries, List.mem_append, List.mem_cons, List.mem_cons, List.mem_singleton] at hmem
    rcases hmem with (rfl | rfl | rfl) | hother
    · cases hmute
    · exact .inl hpid.symm
    · exact .inr hpid.symm
    · exact absurd hmute (hothers entry hother)

/-- Parameters may be added as long as they do not mute. -/
theorem Discovering.extend (h : device.Discovering) {entry : Entry κ} (hreachable : after.parameters.Reachable)
    (hextends : device.parameters.Extends after.parameters entry) (hother : entry.definition.handler ≠ .mute) :
    after.Discovering := by
  refine ⟨hreachable, ?_, fun hpid => ?_, fun {pid definition} hdefinition hmute => ?_⟩
  · obtain ⟨e, hentry, hrule⟩ := h.branchProbe
    exact ⟨e, hextends.entry?_of_some hentry, hrule⟩
  · obtain ⟨e, hentry, hrule⟩ := h.mute hpid
    exact ⟨e, hextends.entry?_of_some hentry, hrule⟩
  · obtain ⟨e, hentry, rfl⟩ := Option.map_eq_some_iff.1 hdefinition
    rw [Dictionary.entry?, hextends.entries, List.find?_append, Option.or_eq_some_iff] at hentry
    rcases hentry with hfound | ⟨-, hadded⟩
    · exact h.only (Dictionary.definition?_of_entry? hfound) hmute
    · have hmem := List.mem_of_find?_eq_some hadded
      obtain rfl := List.mem_singleton.1 hmem
      exact absurd hmute hother

/-! ### Single requests -/

/-- The parameters of discovery are refused to all other requests. -/
private theorem commandClass_of_refusal? {definition : Definition κ}
    (hdefinition : device.parameters.definition? request.parameterId = some definition)
    (haccess : definition.access = .discovery) (h : device.refusal? request = none) :
    request.commandClass = .discovery := by
  unfold refusal? at h
  split at h
  · cases h
  rw [hdefinition] at h
  dsimp only at h
  split at h
  · cases h
  · rename_i hallowed
    rw [haccess] at hallowed
    cases hclass : request.commandClass with
    | discovery => rfl
    | get | set => exact absurd (by rw [hclass]; rfl) hallowed

private theorem refusal?_of_discovery {definition : Definition κ}
    (hdefinition : device.parameters.definition? request.parameterId = some definition)
    (haccess : definition.access = .discovery) (hclass : request.commandClass = .discovery)
    (hroot : request.subDevice = 0) :
    device.refusal? request = none := by
  unfold refusal?
  rw [if_neg (by simp [hclass]), hdefinition]
  simp [haccess, hclass, hroot, Access.allows, allSubDevices, maxSubDevice]

/-- An effective request comes to the rule that mutes. -/
theorem outcomeOf_of_mutes? (hdevice : device.Discovering) (h : request.mutes? = some muted) (memory : υ) :
    outcomeOf app request device memory =
      (.ok (.acknowledged MuteReply.plain.payload), { device with state := { device.state with muted } },
        memory) := by
  obtain ⟨hclass, hroot, hempty, hpid⟩ := Request.mutes?_eq_some_iff.1 h
  have hmutes : request.parameterId = .discMute ∨ request.parameterId = .discUnMute := by
    cases muted with
    | true => exact .inl hpid
    | false => exact .inr hpid
  obtain ⟨e, hentry, -, haccess, hhandler⟩ := hdevice.mute hmutes
  have hdefinition := Dictionary.definition?_of_entry? hentry
  have hknown := Dictionary.contains_of_entry? hentry
  have hbecomes : (request.parameterId == .discMute) = muted := by
    rw [hpid]
    cases muted <;> rfl
  unfold outcomeOf
  rw [refusal?_of_discovery hdefinition haccess hclass hroot]
  dsimp only
  rw [if_pos hknown, dispatch_of_handler hdefinition hhandler (fun h => by cases h), applyRule, answerMute,
    if_neg (by simp [hroot, hempty]), hbecomes]

/-- A request that mutes or un-mutes does so, and any other one leaves the device as muted as it was. -/
theorem state_handle (happ : app.LeavesDiscovery) (hdevice : device.Discovering) (request : Request) (memory : υ) :
    (device.handle app request memory).2.1.Discovering ∧
      (device.handle app request memory).2.1.state.muted =
        ((if request.destination.addresses device.state.uid then request.mutes? else none).getD
          device.state.muted) := by
  cases haddressed : request.destination.addresses device.state.uid with
  | false =>
    rw [handle_of_not_addressed app memory haddressed]
    exact ⟨hdevice, rfl⟩
  | true =>
    rw [if_pos rfl]
    cases hmutes : request.mutes? with
    | some muted =>
      rw [after_handle_of_addressed app memory haddressed, outcomeOf_of_mutes? hdevice hmutes]
      exact ⟨hdevice.of_entries hdevice.parameters rfl, rfl⟩
    | none =>
      refine (keptByRules_discovering happ).handle (fun request memory h => ?_) ⟨hdevice, rfl⟩ ?_ memory
      · obtain ⟨hkept, hmuted⟩ := happ.others request memory h.1
        exact ⟨hkept, hmuted.trans h.2⟩
      · intro definition _ hrefusal hdefinition hmute
        -- The rule that mutes has been reached, but by a request that it does not heed.
        have hpid := hdevice.only hdefinition hmute
        obtain ⟨e, hentry, -, haccess, -⟩ := hdevice.mute hpid
        have hclass := commandClass_of_refusal? (Dictionary.definition?_of_entry? hentry) haccess hrefusal
        rw [answerMute, if_pos (Request.unheeded_of_mutes? hclass hpid hmutes)]
        exact ⟨hdevice, rfl⟩

theorem answerOf_eq_here_iff {outcome : Outcome} {uid : Uid} (hprobe : request.isBranchProbe = true) :
    device.answerOf request outcome = .here uid ↔ outcome = .here uid := by
  constructor
  · intro h
    unfold answerOf at h
    split at h
    · rw [if_pos hprobe] at h
      exact congrArg Outcome.here (Answer.here.inj h)
    · split at h
      · cases h
      split at h
      · cases h
      split at h <;> cases h
  · rintro rfl
    exact if_pos hprobe

theorem answerBranchProbe_eq_here_iff :
    device.answerBranchProbe request = .here device.state.uid ↔ device.state.muted = false ∧ request.subDevice = 0 ∧
      ∃ lower upper : Uid, request.data.bytes = lower.bytes ++ upper.bytes ∧ lower.value ≤ device.state.uid.value ∧
        device.state.uid.value ≤ upper.value := by
  have hbranch : (∃ lower upper : Uid, request.data.bytes = lower.bytes ++ upper.bytes ∧
      lower.value ≤ device.state.uid.value ∧ device.state.uid.value ≤ upper.value) ↔
        ∃ b, Branch.ofBytes? request.data.bytes = some b ∧ b.contains device.state.uid = true := by
    constructor
    · rintro ⟨lower, upper, hbytes, hlower, hupper⟩
      exact ⟨_, Branch.ofBytes?_eq_some_iff.2 ⟨lower, upper, hbytes, rfl⟩, decide_eq_true ⟨hlower, hupper⟩⟩
    · rintro ⟨b, hb, hcontains⟩
      obtain ⟨lower, upper, hbytes, rfl⟩ := Branch.ofBytes?_eq_some_iff.1 hb
      obtain ⟨hlower, hupper⟩ := of_decide_eq_true hcontains
      exact ⟨lower, upper, hbytes, hlower, hupper⟩
  rw [hbranch]
  unfold answerBranchProbe
  by_cases hdeaf : device.state.muted = true ∨ request.subDevice ≠ 0
  · rw [if_pos hdeaf]
    constructor
    · intro h
      cases h
    · rintro ⟨hawake, hroot, -⟩
      rcases hdeaf with hmuted | hother
      · rw [hawake] at hmuted
        cases hmuted
      · exact absurd hroot hother
  · rw [if_neg hdeaf]
    rw [not_or, Bool.not_eq_true, Decidable.not_not] at hdeaf
    cases hb : Branch.ofBytes? request.data.bytes with
    | none => simp
    | some b =>
      cases hcontains : b.contains device.state.uid with
      | false => simp [hcontains]
      | true => simp [hcontains, hdeaf]

/-- A branch probe comes to its rule, if it is not for a sub-device. -/
theorem outcomeOf_of_probe (hdevice : device.Discovering) (hprobe : request.isBranchProbe = true) (memory : υ) :
    outcomeOf app request device memory = (.ok (device.answerBranchProbe request), device, memory) ∨
      request.subDevice ≠ 0 ∧ ∃ reason, outcomeOf app request device memory =
        (.ok (.nack reason), device, memory) := by
  obtain ⟨hclass, hpid⟩ : request.commandClass = .discovery ∧ request.parameterId = .discUniqueBranch := by
    simpa [Request.isBranchProbe] using hprobe
  obtain ⟨e, hentry, haccess, hhandler⟩ := hdevice.branchProbe
  rw [← hpid] at hentry
  have hdefinition := Dictionary.definition?_of_entry? hentry
  have hknown := Dictionary.contains_of_entry? hentry
  unfold outcomeOf
  cases hrefusal : device.refusal? request with
  | some reason =>
    refine .inr ⟨fun hroot => ?_, reason, rfl⟩
    rw [refusal?_of_discovery hdefinition haccess hclass hroot] at hrefusal
    cases hrefusal
  | none =>
    left
    dsimp only
    rw [if_pos hknown, dispatch_of_handler hdefinition hhandler (fun h => by cases h), applyRule]

/-- A branch probe is answered by a device that lies in the branch and is not muted. -/
private theorem here_handle (hdevice : device.Discovering) (hprobe : request.isBranchProbe = true) (memory : υ) :
    (device.handle app request memory).1 = .ok (.here device.state.uid) ↔
      request.destination.addresses device.state.uid = true ∧ request.subDevice = 0 ∧
        (∃ lower upper : Uid, request.data.bytes = lower.bytes ++ upper.bytes ∧ lower.value ≤ device.state.uid.value ∧
          device.state.uid.value ≤ upper.value) ∧ device.state.muted = false := by
  cases haddressed : request.destination.addresses device.state.uid with
  | false =>
    rw [handle_of_not_addressed app memory haddressed]
    simp
  | true =>
    rw [handle_of_addressed app memory haddressed]
    rcases outcomeOf_of_probe hdevice hprobe memory with houtcome | ⟨hother, reason, houtcome⟩
    · rw [houtcome]
      simp only [Except.map, Except.ok.injEq, answerOf_eq_here_iff hprobe, answerBranchProbe_eq_here_iff, true_and]
      constructor
      · rintro ⟨hawake, hroot, hbranch⟩
        exact ⟨hroot, hbranch, hawake⟩
      · rintro ⟨hroot, hbranch, hawake⟩
        exact ⟨hawake, hroot, hbranch⟩
    · rw [houtcome]
      simp [Except.map, answerOf_eq_here_iff hprobe, Outcome.nack, hother]

/-! ### Runs -/

/-- A request that a device has handled. -/
structure Exchange (κ ε : Type) where
  before : Device κ
  request : Request
  answer : Except ε Answer
  after : Device κ

/-- What the request did to the device. -/
def Exchange.mutes? (e : Exchange κ ε) : Option Bool :=
  if e.request.destination.addresses e.before.state.uid then e.request.mutes? else none

/-- The device handles one request after the other, whether or not the application fails in between. -/
def handleAll (app : Application κ υ ε) : List Request → Device κ → υ → List (Exchange κ ε)
  | [], _, _ => []
  | request :: requests, device, memory =>
    let (answer, after, memory) := device.handle app request memory
    ⟨device, request, answer, after⟩ :: handleAll app requests after memory

theorem map_request_handleAll (requests : List Request) (device : Device κ) (memory : υ) :
    (handleAll app requests device memory).map Exchange.request = requests := by
  induction requests generalizing device memory with
  | nil => rfl
  | cons request requests ih => rw [handleAll, List.map_cons, ih]

private theorem uid_of_mem_handleAll (happ : app.KeepsUid) {requests : List Request} {memory : υ} {e : Exchange κ ε}
    (h : e ∈ handleAll app requests device memory) : e.before.state.uid = device.state.uid := by
  induction requests generalizing device memory with
  | nil => cases h
  | cons request requests ih =>
    rw [handleAll] at h
    rcases List.mem_cons.1 h with rfl | h
    · rfl
    · exact (ih h).trans (uid_handle happ device request memory)

/-- Before each request of a run, the rules of discovery are in place, and the last request that muted or un-muted has
decided. -/
theorem exchange_of_split (happ : app.LeavesDiscovery) (hdevice : device.Discovering) {requests : List Request}
    {memory : υ} {earlier later : List (Exchange κ ε)} {e : Exchange κ ε}
    (h : handleAll app requests device memory = earlier ++ e :: later) :
    e.before.Discovering ∧ e.before.state.muted = (earlier.filterMap Exchange.mutes?).getLast?.getD
      device.state.muted ∧
      ∃ memory, (e.before.handle app e.request memory).1 = e.answer ∧
      (e.before.handle app e.request memory).2.1 = e.after := by
  -- Every request starts the rest of the run at the device that it leaves, as muted as its own effect says.
  induction requests generalizing device memory earlier with
  | nil => cases earlier <;> cases h
  | cons request requests ih =>
    obtain ⟨hkept, hmuted⟩ := state_handle happ hdevice request memory
    rw [handleAll] at h
    cases earlier with
    | nil =>
      obtain ⟨rfl, -⟩ := List.cons.inj h
      exact ⟨hdevice, rfl, memory, rfl, rfl⟩
    | cons first earlier =>
      obtain ⟨hfirst, hrest⟩ := List.cons.inj h
      obtain ⟨hbefore, hdecided, hhandle⟩ := ih hkept hrest
      refine ⟨hbefore, ?_, hhandle⟩
      have heffect :
          first.mutes? = if request.destination.addresses device.state.uid then request.mutes? else none := by
        rw [← hfirst]
        rfl
      rw [hdecided, hmuted, ← heffect, List.filterMap_cons]
      cases first.mutes? with
      | none => rfl
      | some muted => rw [List.getLast?_cons, Option.getD_some, Option.getD_some]

/-- A device that is not muted at first is found by the probes of a branch that it lies in as long as the last request
that muted or un-muted it did not mute, and no other request makes a difference. -/
theorem discovers_handleAll (happ : app.LeavesDiscovery) (hdevice : device.Discovering)
    (hawake : device.state.muted = false) (requests : List Request) (memory : υ) :
    (handleAll app requests device memory).map Exchange.request = requests ∧
      ∀ earlier e later, handleAll app requests device memory = earlier ++ e :: later →
        (e.request.isBranchProbe = true → (e.answer = .ok (.here e.before.state.uid) ↔
          e.request.destination.addresses e.before.state.uid = true ∧ e.request.subDevice = 0 ∧
            (∃ lower upper : Uid, e.request.data.bytes = lower.bytes ++ upper.bytes ∧
              lower.value ≤ e.before.state.uid.value ∧ e.before.state.uid.value ≤ upper.value) ∧
                (earlier.filterMap Exchange.mutes?).getLast? ≠ some true)) ∧
        (e.mutes? = none → e.after.state.muted = e.before.state.muted) := by
  refine ⟨map_request_handleAll requests device memory, fun earlier e later h => ?_⟩
  obtain ⟨hbefore, hmuted, memory', hanswer, hafter⟩ := exchange_of_split happ hdevice h
  constructor
  · intro hprobe
    have hdecided : e.before.state.muted = false ↔ (earlier.filterMap Exchange.mutes?).getLast? ≠ some true := by
      rw [hmuted, hawake]
      rcases (earlier.filterMap Exchange.mutes?).getLast? with _ | _ | _ <;> simp
    rw [← hanswer, here_handle hbefore hprobe, hdecided]
  · intro hinert
    obtain ⟨-, hkept⟩ := state_handle happ hbefore e.request memory'
    rw [← hafter, hkept]
    exact congrArg (fun effect => Option.getD effect e.before.state.muted) hinert

private theorem leavesDiscovery_idle : Application.idle.LeavesDiscovery := ⟨nofun, fun _ _ h => ⟨h, rfl⟩⟩

/-- A request of the discovery class to everybody. -/
def callForAll (pid : ParameterId) (data : Payload) : Request :=
  ⟨.broadcast, ⟨0x7FF0, 0⟩, 0, 1, 0, 0, .discovery, pid, data⟩

/-- After it was muted and un-muted, a device is found again. -/
theorem discovers_handleAll_unMuted :
    ∃ (device : Device Empty) (e : Exchange Empty Empty) (earlier : List (Exchange Empty Empty)),
      create? ⟨⟨0x05E0, 1⟩, [], ⟨0, 0, 0, "", 0, 0, .none, ""⟩⟩ (List.replicate 64 0) = .ok device ∧
        handleAll .idle [callForAll .discMute .empty, callForAll .discUnMute .empty,
          callForAll .discUniqueBranch Branch.whole.payload] device () = earlier ++ [e] ∧
        e.answer = .ok (.here ⟨0x05E0, 1⟩) := by
  obtain ⟨device, hdevice⟩ : ∃ device : Device Empty,
      create? ⟨⟨0x05E0, 1⟩, [], ⟨0, 0, 0, "", 0, 0, .none, ""⟩⟩ (List.replicate 64 0) = .ok device := ⟨_, rfl⟩
  obtain ⟨hdiscovering, hawake⟩ := discovering_create? hdevice
  obtain ⟨hrequests, hrun⟩ := discovers_handleAll leavesDiscovery_idle hdiscovering hawake
    [callForAll .discMute .empty, callForAll .discUnMute .empty, callForAll .discUniqueBranch Branch.whole.payload] ()
  obtain ⟨muting, exchanges, hexchanges, hmuting, hrequests⟩ := List.map_eq_cons_iff.1 hrequests
  obtain ⟨unMuting, exchanges, rfl, hunMuting, hrequests⟩ := List.map_eq_cons_iff.1 hrequests
  obtain ⟨e, exchanges, rfl, he, hrequests⟩ := List.map_eq_cons_iff.1 hrequests
  obtain rfl := List.map_eq_nil_iff.1 hrequests
  have huid : e.before.state.uid = ⟨0x05E0, 1⟩ := by
    rw [uid_of_mem_handleAll Application.keepsUid_idle (by rw [hexchanges]; simp), (create?_spec hdevice).2]
  have hfound := (hrun [muting, unMuting] e [] hexchanges).1 (by rw [he]; rfl)
  refine ⟨device, e, [muting, unMuting], hdevice, hexchanges, ?_⟩
  rw [huid, he] at hfound
  refine hfound.2 ⟨rfl, rfl, ⟨⟨0, 0⟩, ⟨0xFFFF, 0xFFFFFFFE⟩, rfl, by decide, by decide⟩, ?_⟩
  have hmutes : muting.mutes? = some true := by
    rw [Exchange.mutes?, hmuting]
    rfl
  have hunMutes : unMuting.mutes? = some false := by
    rw [Exchange.mutes?, hunMuting]
    rfl
  rw [List.filterMap_cons_some hmutes, List.filterMap_cons_some hunMutes]
  decide

end Device

end LightBus
