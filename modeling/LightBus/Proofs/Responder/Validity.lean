import LightBus.Proofs.Payloads
import LightBus.Proofs.Responder.Defaults
import LightBus.Proofs.Responder.Fetching
import LightBus.Proofs.Responder.Stored

/-!
# Values that every device stores

A device stores whether it makes itself seen, its start address and its label.  No request makes one of them invalid,
whatever it carries, and a controller reads the same start address from DEVICE_INFO as from DMX_START_ADDRESS
(`Device.valid_of_serving`).

* (rules) `sound_applyRule`: the rules of the three look at the data before they store them, and no other rule stores
  one of the three.
* (request) `sound_handle`, also where a message is fetched.
* (run) `Device.Serving`: requests, and calls that leave the three alone.
-/

namespace LightBus

variable {κ υ ε : Type}

/-! ### The values -/

private theorem toNative_identify (value : UInt8) :
    (Device.identifyDefinition : Definition κ).schema.toNative [value]
    (min 1 maxPayloadSize) = ⟨[value], .ok ()⟩ := by
  show (⟨[.byte], rfl⟩ : Schema).toNative [value] 1 = _
  rw [Schema.toNative_eq, show [value].length = 1 from rfl]
  rfl

private theorem toNative_startAddress (hi lo : UInt8) :
    (Device.startAddressDefinition : Definition κ).schema.toNative [hi, lo]
    (min 2 maxPayloadSize) = ⟨[lo, hi], .ok ()⟩ := by
  show (⟨[.word], rfl⟩ : Schema).toNative [hi, lo] 2 = _
  rw [Schema.toNative_eq, show [hi, lo].length = 2 from rfl]
  rfl

private theorem toPayload?_startAddress (lo hi : UInt8) :
    (Device.startAddressDefinition : Definition κ).schema.toPayload? [lo, hi] = .ok (.ofList [hi, lo]) := by
  show (⟨[.word], rfl⟩ : Schema).toPayload? [lo, hi] = _
  rw [Schema.toPayload?, Schema.toWire_eq, show [lo, hi].length = 2 from rfl]
  rfl

namespace Dictionary

open Device

variable {d d' : Dictionary κ}

/-- The values that every device stores are among those that they may have. -/
structure ValidDefaults (d : Dictionary κ) : Prop where
  identify : ∃ value, d.get? .identifyDevice = some [value] ∧ (value = 0 ∨ value = 1)
  startAddress : ∃ a : StartAddress, a.Possible ∧ d.get? .dmxStartAddress = some (word a.toWord).reverse
  label : ∃ native, d.get? .deviceLabel = some native ∧ Field.text.Canonical native

private theorem ValidDefaults.of_spares (hvalid : d.ValidDefaults) (h : d.Spares d') : d'.ValidDefaults := by
  constructor
  · rw [h.values (by decide)]
    exact hvalid.identify
  · rw [h.values (by decide)]
    exact hvalid.startAddress
  · rw [h.values (by decide)]
    exact hvalid.label

private theorem validDefaults_set_identify (hd : d.HasDefaults) (hvalid : d.ValidDefaults) {value : UInt8}
    (h : value = 0 ∨ value = 1) :
    (d.set .identifyDevice [value]).2.ValidDefaults := by
  obtain ⟨hdefinition, hrange⟩ := hd.identify
  refine ⟨⟨value, get?_set hd.reachable hdefinition hrange rfl, h⟩, ?_, ?_⟩
  · rw [hd.get?_set (by decide) (by decide)]
    exact hvalid.startAddress
  · rw [hd.get?_set (by decide) (by decide)]
    exact hvalid.label

private theorem validDefaults_set_startAddress (hd : d.HasDefaults) (hvalid : d.ValidDefaults) {a : StartAddress}
    (h : a.Possible) :
    (d.set .dmxStartAddress (word a.toWord).reverse).2.ValidDefaults := by
  obtain ⟨hdefinition, hrange⟩ := hd.startAddress
  refine ⟨?_, ⟨a, h, get?_set hd.reachable hdefinition hrange rfl⟩, ?_⟩
  · rw [hd.get?_set (by decide) (by decide)]
    exact hvalid.identify
  · rw [hd.get?_set (by decide) (by decide)]
    exact hvalid.label

theorem canonical_label_iff {native : List UInt8} :
    (labelDefinition : Definition κ).schema.Canonical native ↔ Field.text.Canonical native := by
  have hsingle : (labelDefinition : Definition κ).schema.isSingleton = true := rfl
  have hfields : (labelDefinition : Definition κ).schema.fields = [.text] := rfl
  rw [Schema.Canonical, if_pos hsingle, hfields]
  constructor
  · intro h
    cases h with
    | cons hfield hrest => rwa [hrest.eq_nil, List.append_nil]
  · intro h
    rw [← List.append_nil native]
    exact .cons h .nil

private theorem validDefaults_set_label (hd : d.HasDefaults) (hvalid : d.ValidDefaults) {native : List UInt8}
    (h : Field.text.Canonical native) : (d.set .deviceLabel native).2.ValidDefaults := by
  obtain ⟨hdefinition, hrange⟩ := hd.label
  have hlength : native.length = 32 := h.1
  have hform : storedForm (labelDefinition : Definition κ).description.dataType 32 native = native := by
    rw [← hlength]
    exact storedForm_of_canonical (.inr rfl) (canonical_label_iff (κ := κ).2 h)
  refine ⟨?_, ?_, ⟨native, ?_, h⟩⟩
  · rw [hd.get?_set (by decide) (by decide)]
    exact hvalid.identify
  · rw [hd.get?_set (by decide) (by decide)]
    exact hvalid.startAddress
  · rw [get?_set hd.reachable hdefinition hrange (by rw [hform, hlength]), hform]

end Dictionary

/-! ### Rules -/

namespace Device

variable {device : Device κ} {request : Request} {definition : Definition κ} {pid : ParameterId}

/-- The defaults are in place and their values valid. -/
def Sound (device : Device κ) : Prop := device.parameters.HasDefaults ∧ device.parameters.ValidDefaults

private theorem Sound.of_spares {after : Device κ} (h : device.Sound)
    (hspares : device.parameters.Spares after.parameters) :
    after.Sound :=
  ⟨hspares.defaults, h.2.of_spares hspares⟩

/-- Only a SET that can be read stores anything, and that for its own parameter. -/
private theorem answerStored_cases (hdevice : device.parameters.Reachable)
    (hdefinition : device.parameters.definition? request.parameterId = some definition) :
    (device.answerStored request).2 = device ∨ request.commandClass = .set ∧ ∃ start size native,
      device.parameters.range? request.parameterId = some (start, size) ∧
      definition.schema.toNative request.data.bytes (min size maxPayloadSize) = ⟨native, .ok ()⟩ ∧
      (device.answerStored request).2 =
        { device with parameters := (device.parameters.set request.parameterId native).2 } := by
  by_cases hroot : request.subDevice = 0
  case neg => exact .inl (by rw [answerStored, if_pos hroot])
  cases hclass : request.commandClass with
  | get =>
    left
    unfold answerStored
    rw [if_neg (by simp [hroot])]
    simp only [hdefinition, hclass]
    split
    · rfl
    · split <;> rfl
  | discovery =>
    left
    unfold answerStored
    rw [if_neg (by simp [hroot])]
    simp only [hdefinition, hclass]
  | set =>
    cases hrange : device.parameters.range? request.parameterId with
    | none => exact .inl (answerStored_of_no_range hrange)
    | some range =>
      obtain ⟨start, size⟩ := range
      have hset := answerStored_set hdevice hroot hclass hdefinition hrange
      generalize hread : definition.schema.toNative request.data.bytes (min size maxPayloadSize) = read at hset
      obtain ⟨native, result⟩ := read
      cases result with
      | error e => exact .inl (by rw [hset]; rfl)
      | ok => exact .inr ⟨rfl, start, size, native, rfl, hread, by rw [hset]; rfl⟩

private theorem sound_answerIdentify (h : device.Sound) (hpid : request.parameterId = .identifyDevice) :
    (device.answerIdentify request).2.Sound := by
  obtain ⟨hdefaults, hvalid⟩ := h
  obtain ⟨hdefinition, hrange⟩ := hdefaults.identify
  rw [← hpid] at hdefinition hrange
  have hcases := answerStored_cases hdefaults.reachable hdefinition
  unfold answerIdentify
  split
  · rename_i value hclass hdata
    split
    · rename_i hvalue
      rcases hcases with hsame | ⟨-, start, size, native, hplace, hread, hset⟩
      · rw [hsame]
        exact ⟨hdefaults, hvalid⟩
      · obtain ⟨rfl, rfl⟩ := Prod.mk.inj (Option.some.inj (hrange.symm.trans hplace))
        rw [hdata, toNative_identify] at hread
        obtain rfl : [value] = native := congrArg Conversion.written hread
        rw [hset, hpid]
        exact ⟨hdefaults.set _ _, Dictionary.validDefaults_set_identify hdefaults hvalid hvalue⟩
    · exact ⟨hdefaults, hvalid⟩
  · exact ⟨hdefaults, hvalid⟩
  · rename_i hother _
    rcases hcases with hsame | ⟨hclass, -⟩
    · rw [hsame]
      exact ⟨hdefaults, hvalid⟩
    · exact absurd hclass hother

private theorem sound_answerStartAddress (h : device.Sound) (hpid : request.parameterId = .dmxStartAddress) :
    (device.answerStartAddress request).2.Sound := by
  obtain ⟨hdefaults, hvalid⟩ := h
  obtain ⟨hdefinition, hrange⟩ := hdefaults.startAddress
  rw [← hpid] at hdefinition hrange
  have hcases := answerStored_cases hdefaults.reachable hdefinition
  unfold answerStartAddress
  split
  · split
    · exact ⟨hdefaults, hvalid⟩
    split
    · exact ⟨hdefaults, hvalid⟩
    rename_i a haddress
    rcases hcases with hsame | ⟨-, start, size, native, hplace, hread, hset⟩
    · rw [hsame]
      exact ⟨hdefaults, hvalid⟩
    · obtain ⟨rfl, rfl⟩ := Prod.mk.inj (Option.some.inj (hrange.symm.trans hplace))
      -- The rule has read the address from the two bytes that are stored the other way round.
      unfold StartAddress.ofBytes? at haddress
      split at haddress
      case h_2 => cases haddress
      rename_i hi lo hdata
      obtain ⟨hpossible, hword⟩ := StartAddress.ofWord?_eq_ok_iff.1 haddress
      rw [hdata, toNative_startAddress] at hread
      have hnative : native = (word a.toWord).reverse := by
        rw [hword, word_wordOf]
        exact (congrArg Conversion.written hread).symm
      rw [hset, hpid, hnative]
      exact ⟨hdefaults.set _ _, Dictionary.validDefaults_set_startAddress hdefaults hvalid hpossible⟩
  · rename_i hother
    rcases hcases with hsame | ⟨hclass, -⟩
    · rw [hsame]
      exact ⟨hdefaults, hvalid⟩
    · exact absurd hclass hother

/-- Whatever is read of the data is a text. -/
private theorem sound_answerStored_label (h : device.Sound) (hpid : request.parameterId = .deviceLabel) :
    (device.answerStored request).2.Sound := by
  obtain ⟨hdefaults, hvalid⟩ := h
  obtain ⟨hdefinition, -⟩ := hdefaults.label
  rw [← hpid] at hdefinition
  rcases answerStored_cases hdefaults.reachable hdefinition with hsame | ⟨-, start, size, native, -, hread, hset⟩
  · rw [hsame]
    exact ⟨hdefaults, hvalid⟩
  · have hcanonical := Dictionary.canonical_label_iff.1 (Schema.canonical_of_toNative hread)
    rw [hset, hpid]
    exact ⟨hdefaults.set _ _, Dictionary.validDefaults_set_label hdefaults hvalid hcanonical⟩

end Device

/-- Rules of the device's own and the application leave the defaults alone. -/
structure Application.SparesDefaults (app : Application κ υ ε) : Prop where
  rules {device : Device κ} (rule : κ) (request : Request) (h : device.parameters.HasDefaults) :
    device.parameters.Spares (app.rules rule device request).2.parameters
  others {device : Device κ} (request : Request) (memory : υ) (h : device.parameters.HasDefaults) :
    device.parameters.Spares (app.others request device memory).2.1.parameters

private theorem Application.sparesDefaults_idle : idle.SparesDefaults := ⟨nofun, fun _ _ h => h.spares_self⟩

namespace Device

variable {device : Device κ} {app : Application κ υ ε} {request : Request} {definition : Definition κ}
  {pid : ParameterId}

/-- A rule that the device did not bring along stores nothing but the parameter that it answers for. -/
private theorem parameters_applyRule (rules : CustomRules κ) (hdevice : device.parameters.Reachable)
    (hdefinition : device.parameters.definition? request.parameterId = some definition) {handler : Handler κ}
    (hstandard : handler.IsStandard) :
    (device.applyRule rules request handler).2.parameters = device.parameters ∨
      ∃ native, (device.applyRule rules request handler).2.parameters =
        (device.parameters.set request.parameterId native).2 := by
  have hstored : (device.answerStored request).2.parameters = device.parameters ∨
      ∃ native, (device.answerStored request).2.parameters =
        (device.parameters.set request.parameterId native).2 := by
    rcases answerStored_cases hdevice hdefinition with hsame | ⟨-, -, -, native, -, -, hset⟩
    · exact .inl (by rw [hsame])
    · exact .inr ⟨native, by rw [hset]⟩
  cases handler with
  | stored => exact hstored
  | identifyDevice =>
    rw [applyRule, answerIdentify]
    split
    · split
      · exact hstored
      · exact .inl rfl
    · exact .inl rfl
    · exact hstored
  | startAddress =>
    rw [applyRule, answerStartAddress]
    split
    · split
      · exact .inl rfl
      · split
        · exact .inl rfl
        · exact hstored
    · exact hstored
  | mute => exact .inl (device.state_answerMute request).1
  | branchProbe | deviceInfo | supportedParameters | parameterDescription | softwareVersionLabel | queuedMessage =>
    exact .inl rfl
  | custom => exact absurd hstandard id

/-- The rule of a parameter leaves valid values, whatever it is asked. -/
theorem sound_applyRule (happ : app.SparesDefaults) (h : device.Sound)
    (hdefinition : device.parameters.definition? request.parameterId = some definition) :
    (device.applyRule app.rules request definition.handler).2.Sound := by
  obtain ⟨hdefaults, hvalid⟩ := h
  by_cases hstored : request.parameterId ∈ Dictionary.storedDefaults
  · simp only [Dictionary.storedDefaults, List.mem_cons, List.not_mem_nil, or_false] at hstored
    rcases hstored with hpid | hpid | hpid
    · rw [hpid, hdefaults.identify.1] at hdefinition
      obtain rfl := Option.some.inj hdefinition
      exact sound_answerIdentify ⟨hdefaults, hvalid⟩ hpid
    · rw [hpid, hdefaults.startAddress.1] at hdefinition
      obtain rfl := Option.some.inj hdefinition
      exact sound_answerStartAddress ⟨hdefaults, hvalid⟩ hpid
    · rw [hpid, hdefaults.label.1] at hdefinition
      obtain rfl := Option.some.inj hdefinition
      exact sound_answerStored_label ⟨hdefaults, hvalid⟩ hpid
  · refine Sound.of_spares ⟨hdefaults, hvalid⟩ ?_
    by_cases hstandard : definition.handler.IsStandard
    · rcases parameters_applyRule app.rules hdefaults.reachable hdefinition hstandard with hsame | ⟨native, hset⟩
      · rw [hsame]
        exact hdefaults.spares_self
      · rw [hset]
        exact hdefaults.spares_set hstored native
    · cases hhandler : definition.handler with
      | custom rule => exact happ.rules rule request hdefaults
      | stored | branchProbe | mute | deviceInfo | supportedParameters | parameterDescription | softwareVersionLabel
        | identifyDevice | startAddress | queuedMessage => exact absurd (by rw [hhandler]; trivial) hstandard

/-! ### Requests -/

private theorem sound_answerQueued (happ : app.SparesDefaults) (h : device.Sound) (pid : ParameterId) :
    (device.answerQueued app.rules request pid).2.Sound := by
  rw [answerQueued_eq, fetchedOutcome]
  cases hdefinition : device.parameters.definition? pid with
  | none => exact h
  | some definition =>
    have hasked : device.parameters.definition? (queuedRequest request pid).parameterId = some definition :=
      hdefinition
    exact sound_applyRule happ h hasked

private theorem sound_answerQueuedMessage (happ : app.SparesDefaults) (h : device.Sound) :
    (device.answerQueuedMessage app.rules request).2.Sound := by
  have hfetches := fetches_answerQueuedMessage app.rules device request
  generalize device.answerQueuedMessage app.rules request = result at hfetches ⊢
  cases hfetches with
  | refusal | nothing => exact h
  | message fetched pid hfetched hlast =>
    have htaken : fetched.Sound := by
      rcases hfetched with rfl | rfl
      · exact h
      · exact h.of_spares h.1.spares_popQueued
    exact sound_answerQueued happ htaken pid

private theorem sound_dispatch (happ : app.SparesDefaults) (h : device.Sound) :
    (device.dispatch app.rules request).2.Sound := by
  unfold dispatch
  split
  · exact h
  · rename_i definition hdefinition
    split
    · exact sound_answerQueuedMessage happ h
    · exact sound_applyRule happ h hdefinition

/-- No request leaves an invalid value. -/
theorem sound_handle (happ : app.SparesDefaults) (h : device.Sound) (request : Request) (memory : υ) :
    (device.handle app request memory).2.1.Sound := by
  cases haddressed : request.destination.addresses device.state.uid with
  | false => rwa [handle_of_not_addressed app memory haddressed]
  | true =>
    rw [after_handle_of_addressed app memory haddressed]
    unfold outcomeOf
    cases hrefusal : device.refusal? request with
    | some reason => exact h
    | none =>
      cases device.parameters.contains request.parameterId with
      | true => exact sound_dispatch happ h
      | false => exact h.of_spares (happ.others request memory h.1)

/-! ### Set-up -/

private theorem slices_standardArena (m : Metadata) {arena : List UInt8} (h : minArenaSize ≤ arena.length) :
    slice (standardArena m arena) 0 1 = [0] ∧ slice (standardArena m arena) 1 2 =
      (word m.startAddress.toWord).reverse ∧
      slice (standardArena m arena) 3 32 = padZero maxTextSize ((textBytes m.label).take maxTextSize) := by
  have hsize : 35 ≤ arena.length := h
  have hword : (word m.startAddress.toWord).reverse.length = 2 := rfl
  have htext : (padZero maxTextSize ((textBytes m.label).take maxTextSize)).length = 32 :=
    length_padZero (List.length_take_le ..)
  unfold standardArena
  generalize (word m.startAddress.toWord).reverse = address at hword ⊢
  generalize padZero maxTextSize ((textBytes m.label).take maxTextSize) = label at htext ⊢
  refine ⟨?_, ?_, ?_⟩
  · rw [slice_overwrite_of_apart (by simp only [length_overwrite]; omega) (by omega),
      slice_overwrite_of_apart (by simp only [length_overwrite]; omega) (by omega)]
    exact slice_overwrite (show 0 + [(0 : UInt8)].length ≤ arena.length by simp only [List.length_singleton]; omega)
  · rw [slice_overwrite_of_apart (by simp only [length_overwrite]; omega) (by omega), ← hword]
    exact slice_overwrite (by simp only [length_overwrite]; omega)
  · rw [← htext]
    exact slice_overwrite (by simp only [length_overwrite]; omega)

private theorem sound_create? {config : DeviceConfig} {arena : List UInt8} (h : create? config arena = .ok device)
    (haddress : config.metadata.startAddress.Possible) (hlabel : 0 ∉ textBytes config.metadata.label) :
    device.Sound := by
  have hreachable := (standardParameters_spec (create?_spec h).1).1
  obtain ⟨hidentify, hstart, htext⟩ := slices_standardArena config.metadata (minArenaSize_le_of_create? h)
  rw [parameters_create? h] at hreachable
  rw [Sound, parameters_create? h]
  refine ⟨⟨hreachable, Nat.le_refl _, fun {definition storage} hplace => ?_,
    fun {pid} hpid {start size} hrange => ?_⟩, ?_⟩
  · simp only [Dictionary.defaultPlaces, List.mem_cons, Prod.mk.injEq, List.not_mem_nil, or_false] at hplace
    rcases hplace with ⟨rfl, rfl⟩ | ⟨rfl, rfl⟩ | ⟨rfl, rfl⟩ | ⟨rfl, rfl⟩
    all_goals exact ⟨false, rfl⟩
  · obtain ⟨entry, hentry, hstorage⟩ := Option.bind_eq_some_iff.1 hrange
    obtain ⟨hmem, rfl⟩ := Dictionary.mem_of_entry? hentry
    simp only [standardEntries, List.mem_cons, List.not_mem_nil, or_false] at hmem
    rcases hmem with rfl | rfl | rfl | rfl | rfl | rfl | rfl | rfl | rfl | rfl | rfl
    all_goals first
      | exact absurd (show ParameterId.identifyDevice ∈ Dictionary.storedDefaults by decide) hpid
      | exact absurd (show ParameterId.dmxStartAddress ∈ Dictionary.storedDefaults by decide) hpid
      | exact absurd (show ParameterId.deviceLabel ∈ Dictionary.storedDefaults by decide) hpid
      | cases hstorage
  · have hzero : 0 ∉ (textBytes config.metadata.label).take maxTextSize :=
      fun hmem => hlabel (List.mem_of_mem_take hmem)
    refine ⟨⟨0, ?_, .inl rfl⟩, ⟨_, haddress, ?_⟩, ⟨_, ?_, length_padZero (List.length_take_le ..), _, _, hzero, rfl⟩⟩
    · exact congrArg some hidentify
    · exact congrArg some hstart
    · exact congrArg some htext

/-! ### Runs -/

/-- A device that was set up with a possible start address and a label without zeros, and has since handled requests
and seen calls that leave its defaults alone. -/
inductive Serving (app : Application κ υ ε) : Device κ → Prop
  | created {device : Device κ} {config : DeviceConfig} {arena : List UInt8} (h : create? config arena = .ok device)
    (haddress : config.metadata.startAddress.Possible) (hlabel : 0 ∉ textBytes config.metadata.label) :
    Serving app device
  | request {device : Device κ} (h : Serving app device) (request : Request) (memory : υ) :
    Serving app (device.handle app request memory).2.1
  | call {device : Device κ} (h : Serving app device) (call : Dictionary.Call κ) (hcall : call.SparesDefaults) :
    Serving app { device with parameters := device.parameters.perform call }

private theorem Serving.sound (happ : app.SparesDefaults) (h : Serving app device) : device.Sound := by
  induction h with
  | created h haddress hlabel => exact sound_create? h haddress hlabel
  | request _ request memory ih => exact sound_handle happ ih request memory
  | call _ call hcall ih => exact ih.of_spares (Dictionary.spares_perform ih.1 call hcall)

/-! ### What a controller reads -/

private theorem storedStartAddress_of_valid {a : StartAddress} (ha : a.Possible)
    (hvalue : device.parameters.get? .dmxStartAddress = some (word a.toWord).reverse) :
    device.storedStartAddress = a := by
  obtain ⟨hi, lo, hword, hread⟩ := exists_word a.toWord
  rw [hword] at hvalue
  rw [storedStartAddress, hvalue]
  show (StartAddress.ofWord? (wordOf hi lo)).toOption.getD .none = a
  rw [hread, ha.ofWord?_toWord]
  rfl

/-- DMX_START_ADDRESS is answered with the stored address. -/
private theorem handle_startAddress (app : Application κ υ ε) (hdefaults : device.parameters.HasDefaults)
    {a : StartAddress} (hvalue : device.parameters.get? .dmxStartAddress = some (word a.toWord).reverse)
    {data : List UInt8} (hgets : request.Gets device.state.uid .dmxStartAddress data) (memory : υ) :
    (device.handle app request memory).1 = .ok (.response
      (request.reply device.state.uid .ack a.payload device.parameters.messageCount)) := by
  obtain ⟨hdefinition, -⟩ := hdefaults.startAddress
  have htold : device.toldValue .dmxStartAddress = .acknowledged a.payload := by
    obtain ⟨hi, lo, hword, -⟩ := exists_word a.toWord
    have hstored : device.parameters.get? .dmxStartAddress = some [lo, hi] := by rw [hvalue, hword]; rfl
    rw [toldValue, hdefinition, hstored]
    dsimp only
    rw [toPayload?_startAddress, StartAddress.payload, hword]
  have hrule : device.applyRule app.rules request .startAddress = (.acknowledged a.payload, device) := by
    rw [applyRule, answerStartAddress, if_neg (by simp [hgets.commandClass]), answerStored_of_gets device hgets,
      htold]
  exact handle_of_rule hgets hdefinition rfl rfl (fun h => by cases h) hrule rfl memory

/-- DEVICE_INFO is answered with what the device tells about itself. -/
private theorem handle_info (app : Application κ υ ε) (hdefaults : device.parameters.HasDefaults) {data : List UInt8}
    (hgets : request.Gets device.state.uid .deviceInfo data) (memory : υ) :
    (device.handle app request memory).1 = .ok (.response
      (request.reply device.state.uid .ack device.info.payload device.parameters.messageCount)) := by
  have hrule : device.applyRule app.rules request .deviceInfo = (.acknowledged device.info.payload, device) := by
    rw [applyRule, onRoot, if_neg (by simp [hgets.subDevice])]
  exact handle_of_rule hgets hdefaults.info rfl rfl (fun h => by cases h) hrule rfl memory

/-- Requests keep the values that every device stores valid, and a controller reads the same start address both
ways. -/
theorem valid_of_serving (happ : app.SparesDefaults) (h : Serving app device) :
    (∃ value, device.parameters.get? .identifyDevice = some [value] ∧ (value = 0 ∨ value = 1)) ∧
    (∃ lo hi, device.parameters.get? .dmxStartAddress = some [lo, hi] ∧
      (1 ≤ wordOf hi lo ∧ wordOf hi lo ≤ 512 ∨ wordOf hi lo = 0xFFFF)) ∧
    (∃ text zeros, device.parameters.get? .deviceLabel = some (text ++ List.replicate zeros 0) ∧ 0 ∉ text) ∧
    ∀ (infoRequest addressRequest : Request) (infoData addressData : List UInt8) (memory memory' : υ),
      infoRequest.Gets device.state.uid .deviceInfo infoData →
      addressRequest.Gets device.state.uid .dmxStartAddress addressData →
      ∃ infoResponse addressResponse info,
        (device.handle app infoRequest memory).1 = .ok (.response infoResponse) ∧ infoResponse.responseType = .ack ∧
        (device.handle app addressRequest memory').1 = .ok (.response addressResponse) ∧
        addressResponse.responseType = .ack ∧
        DeviceInfo.ofBytes? infoResponse.data.bytes = .ok info ∧
        StartAddress.ofBytes? addressResponse.data.bytes = .ok info.startAddress := by
  obtain ⟨hdefaults, hidentify, ⟨a, ha, haddress⟩, ⟨native, hlabel, -, text, zeros, hzero, rfl⟩⟩ := h.sound happ
  have hstored := storedStartAddress_of_valid ha haddress
  obtain ⟨hi, lo, hword, hread⟩ := exists_word a.toWord
  refine ⟨hidentify, ⟨lo, hi, ?_, ?_⟩, ⟨text, zeros, hlabel, hzero⟩, ?_⟩
  · rw [haddress, hword]
    rfl
  · rw [hread]
    cases a with
    | none => exact .inr rfl
    | address slot => exact .inl ha
  · intro infoRequest addressRequest infoData addressData memory memory' hinfo hasked
    refine ⟨_, _, device.info, handle_info app hdefaults hinfo memory, rfl,
      handle_startAddress app hdefaults haddress hasked memory', rfl, DeviceInfo.ofBytes?_payload ?_, ?_⟩
    · exact (congrArg StartAddress.Possible hstored).mpr ha
    · show StartAddress.ofBytes? a.payload.bytes = .ok device.storedStartAddress
      rw [hstored, StartAddress.payload, hword]
      show StartAddress.ofWord? (wordOf hi lo) = .ok a
      rw [hread, ha.ofWord?_toWord]

/-- All lamps are told to start at slot 7. -/
def addressingRequest : Request := ⟨.broadcast, ⟨0x7FF0, 0⟩, 5, 1, 0, 0, .set, .dmxStartAddress, .ofList [0, 7]⟩

private theorem serving_addressedLamp : Serving .idle (lamp.handle .idle addressingRequest ()).2.1 :=
  (Serving.created create?_lamp (show (0x110 : UInt16) ≥ 1 ∧ (0x110 : UInt16) ≤ 512 by decide)
    (by decide)).request _ _

/-- Both ways, a controller learns that the lamp does. -/
theorem valid_of_serving_addressedLamp :
    ∃ infoResponse addressResponse info,
      ((lamp.handle .idle addressingRequest ()).2.1.handle .idle (directRequest .deviceInfo) ()).1 =
        .ok (.response infoResponse) ∧
      ((lamp.handle .idle addressingRequest ()).2.1.handle .idle (directRequest .dmxStartAddress) ()).1 =
        .ok (.response addressResponse) ∧
      DeviceInfo.ofBytes? infoResponse.data.bytes = .ok info ∧
      StartAddress.ofBytes? addressResponse.data.bytes = .ok info.startAddress ∧ info.startAddress = .address 7 := by
  obtain ⟨-, -, -, hagree⟩ := valid_of_serving Application.sparesDefaults_idle serving_addressedLamp
  obtain ⟨infoResponse, addressResponse, info, hinfo, -, haddress, -, hread, hread'⟩ :=
    hagree (directRequest .deviceInfo) (directRequest .dmxStartAddress) [] [] () ()
      ⟨rfl, rfl, rfl, by decide, rfl, rfl⟩ ⟨rfl, rfl, rfl, by decide, rfl, rfl⟩
  have hsent : ((lamp.handle .idle addressingRequest ()).2.1.handle .idle (directRequest .dmxStartAddress) ()).1 =
      .ok (.response ((directRequest .dmxStartAddress).reply ⟨0x05E0, 1⟩ .ack (.ofList [0, 7]) 0)) := rfl
  obtain rfl := Answer.response.inj (Except.ok.inj (hsent.symm.trans haddress))
  exact ⟨infoResponse, _, info, hinfo, haddress, hread, hread', (Except.ok.inj hread').symm⟩

end Device

end LightBus
