import LightBus.Proofs.Dictionary.Values
import LightBus.Proofs.Responder.Rules
import LightBus.Proofs.Schema.Reading

/-!
# Values that are just stored

A SET stores what its data stand for, and a GET sends it back: the value that an acknowledged SET carried is told by
the next GET (`get_after_set`), and no other value has changed.  A refused SET leaves the device as it was
(`unchanged_of_refused`), but for one that empties a text: that is refused after the text was cleared
(`cleared_though_refused`).
-/

namespace LightBus

/-! ### Storage for values -/

/-- Storage of the given size can hold a value: it has the size of one, or more where the last field takes all that is
left. -/
def Schema.Fits (s : Schema) (size : Nat) : Prop :=
  size = s.size ∨ s.fields.getLast? = some .bytes ∧ s.size ≤ size ∧ size ≤ maxPayloadSize

private theorem size_le_of_checkFields {fields : List Field} {used : Nat} (h : checkFields used fields = .ok ())
    (hused : used ≤ maxPayloadSize) :
    used + fields.foldr (fun field total => field.size + total) 0 ≤ maxPayloadSize := by
  induction fields generalizing used with
  | nil => exact hused
  | cons field fields ih =>
    simp only [checkFields] at h
    split at h
    · cases h
    split at h
    · cases h
    split at h
    · cases h
    · rename_i hroom
      have hrest := ih h (Nat.le_of_not_lt hroom)
      rw [List.foldr_cons]
      omega

theorem Schema.size_le (s : Schema) : s.size ≤ maxPayloadSize := by
  have hsize := size_le_of_checkFields s.checked (Nat.zero_le _)
  rwa [Nat.zero_add] at hsize

theorem Schema.Fits.le {s : Schema} {size : Nat} (h : s.Fits size) : size ≤ maxPayloadSize := by
  rcases h with rfl | ⟨-, -, hle⟩
  · exact s.size_le
  · exact hle

/-- Data without a zero in front of another byte are stored as text as they are, and no others. -/
theorem storedForm_text_eq_iff {native : List UInt8} : Dictionary.storedForm .text native.length native = native ↔
    ∃ text zeros, 0 ∉ text ∧ native = text ++ List.replicate zeros 0 := by
  rw [Dictionary.storedForm, if_pos rfl]
  constructor
  · intro h
    exact ⟨_, _, zero_notMem_untilZero native.length native, h.symm⟩
  · rintro ⟨text, zeros, htext, rfl⟩
    rw [untilZero_append_zeros htext (by simp), padZero]
    simp

theorem storedForm_of_bytes {dataType : DataType} (htype : dataType ≠ .text) (native : List UInt8) :
    Dictionary.storedForm dataType native.length native = native := by
  rw [Dictionary.storedForm_of_ne htype, List.take_length]

/-- A canonical value is stored as it is.  Storing text cuts it at its first zero, so text may be nothing else. -/
theorem storedForm_of_canonical {s : Schema} {dataType : DataType} {native : List UInt8}
    (htype : dataType ≠ .text ∨ s.fields = [.text]) (h : s.Canonical native) :
    Dictionary.storedForm dataType native.length native = native := by
  by_cases htext : dataType = .text
  · have hfields := htype.resolve_left fun hother => hother htext
    have hsingle : s.isSingleton = true := by
      rw [Schema.isSingleton, hfields]
      rfl
    rw [Schema.Canonical, if_pos hsingle, hfields] at h
    cases h with
    | @cons _ _ native _ hfield hrest =>
      rw [hrest.eq_nil, List.append_nil, htext]
      exact storedForm_text_eq_iff.2 hfield.2
  · exact storedForm_of_bytes htext native

namespace Device

variable {κ : Type} {device after : Device κ} {request : Request} {rules : CustomRules κ} {definition : Definition κ}
  {pid : ParameterId} {native : List UInt8} {start size : Nat}

/-! ### Single requests -/

private theorem dispatch_of_stored (hdefinition : device.parameters.definition? request.parameterId = some definition)
    (hstored : definition.handler = .stored) : device.dispatch rules request = device.answerStored request :=
  dispatch_of_handler hdefinition hstored (fun h => nomatch h)

private theorem answerStored_get (hroot : request.subDevice = 0) (hget : request.commandClass = .get)
    (hdefinition : device.parameters.definition? request.parameterId = some definition)
    (hvalue : device.parameters.get? request.parameterId = some native) {data : Payload}
    (hsent : definition.schema.toPayload? native = .ok data) :
    device.answerStored request = (.acknowledged data, device) := by
  unfold answerStored
  rw [if_neg (by simp [hroot])]
  simp only [hdefinition, hget, hvalue, hsent]

/-- A SET stores what can be read of its data, as far as there is room for it. -/
theorem answerStored_set (hdevice : device.parameters.Reachable) (hroot : request.subDevice = 0)
    (hset : request.commandClass = .set)
    (hdefinition : device.parameters.definition? request.parameterId = some definition)
    (hrange : device.parameters.range? request.parameterId = some (start, size)) :
    device.answerStored request =
      match (definition.schema.toNative request.data.bytes (min size maxPayloadSize)).toExcept with
      | .error _ => (.nack .formatError, device)
      | .ok native =>
        (if min native.length size = 0 then .nack .hardwareFault else .acknowledged .empty,
          { device with parameters := (device.parameters.set request.parameterId native).2 }) := by
  have hvalue := Dictionary.get?_of_range? hrange
  unfold answerStored
  rw [if_neg (by simp [hroot])]
  simp only [hdefinition, hset, hvalue, Option.map_some, Option.getD_some, hdevice.length_slice hrange]
  cases (definition.schema.toNative request.data.bytes (min size maxPayloadSize)).toExcept with
  | error e => rfl
  | ok native =>
    simp only [Dictionary.set_eq hdefinition hrange]
    split
    · rfl
    · rfl

/-- Without storage there is nothing that could change. -/
theorem answerStored_of_no_range (hrange : device.parameters.range? request.parameterId = none) :
    (device.answerStored request).2 = device := by
  unfold answerStored
  simp only [Dictionary.set_of_no_range hrange]
  repeat' split
  all_goals rfl

/-! ### A device with a note and a tag -/

/-- A text without a fixed form. -/
def noteDefinition : Definition Empty := plainDefinition 0x8001 ⟨[.bytes], rfl⟩ .getSet .text .stored

/-- A number and bytes behind it. -/
def tagDefinition : Definition Empty := plainDefinition 0x8002 ⟨[.word, .bytes], rfl⟩ .getSet .bitField .stored

/-- Both with storage of their own, four bytes each. -/
def labelParameters : Dictionary Empty where
  arena := [0x6E, 0x6F, 0x74, 0x65, 0, 0, 0, 0]
  used := 8
  entries := [⟨noteDefinition, .owned 0 4, false⟩, ⟨tagDefinition, .owned 4 4, false⟩]
  queue := []
  lastQueued := none

private theorem reachable_labelParameters : labelParameters.Reachable := by
  have hnote : (Dictionary.empty (List.replicate 8 0)).define noteDefinition 4 [0x6E, 0x6F, 0x74, 0x65] =
      .ok { labelParameters with used := 4, entries := [⟨noteDefinition, .owned 0 4, false⟩] } := rfl
  have htag : Dictionary.define { labelParameters with used := 4, entries := [⟨noteDefinition, .owned 0 4, false⟩] }
      tagDefinition 4 [] = .ok labelParameters := rfl
  exact .define (.define (.empty _) hnote) htag

def labelled : Device Empty := ⟨labelParameters, ⟨⟨0x05E0, 1⟩, [], ⟨0, 0, 0, "", 0, 0, .none, ""⟩, false⟩⟩

/-- A request to set a parameter of this device. -/
def setLabelled (pid : ParameterId) (bytes : List UInt8) : Request :=
  ⟨.device ⟨0x05E0, 1⟩, ⟨0x7FF0, 0⟩, 5, 1, 0, 0, .set, pid, .ofList bytes⟩

/-! ### What a SET leaves -/

/-- A canonical value that fills its storage can be sent, and a SET that carries it is acknowledged after it was
stored. -/
theorem dispatch_set_of_canonical (rules : CustomRules κ) (hdevice : device.parameters.Reachable)
    (hdefinition : device.parameters.definition? pid = some definition) (hstored : definition.handler = .stored)
    (hrange : device.parameters.range? pid = some (start, size)) (hsize : 0 < size) (hroom : size ≤ maxPayloadSize)
    (hnative : definition.schema.Canonical native) (hlength : native.length = size) :
    ∃ wire, definition.schema.toPayload? native = .ok wire ∧
      ∀ request : Request, request.Asks .set pid → request.data = wire →
        device.dispatch rules request =
          (.acknowledged .empty, { device with parameters := (device.parameters.set pid native).2 }) := by
  obtain ⟨wire, hshort, hwire, hread⟩ := hnative.exists_wire
  have hsent : definition.schema.toPayload? native = .ok (.ofList wire) := by
    rw [Schema.toPayload?, hwire maxPayloadSize (by omega) (by omega)]
    rfl
  refine ⟨.ofList wire, hsent, fun request hasks hdata => ?_⟩
  obtain ⟨hroot, hset, rfl⟩ := hasks
  have hdecoded :
      (definition.schema.toNative request.data.bytes (min size maxPayloadSize)).toExcept = .ok native := by
    rw [hdata, Payload.bytes_ofList (by omega), hread _ (by omega)]
    rfl
  rw [dispatch_of_stored hdefinition hstored, answerStored_set hdevice hroot hset hdefinition hrange, hdecoded]
  dsimp only
  rw [if_neg (by omega)]

/-- A canonical value that fills its storage can be sent, and a SET that carries it is acknowledged.  Then it is the
value, which the next GET tells, and everything that shares no storage with it is as it was. -/
theorem get_after_set (rules : CustomRules κ) (hdevice : device.parameters.Reachable)
    (hdefinition : device.parameters.definition? pid = some definition) (hstored : definition.handler = .stored)
    (hrange : device.parameters.range? pid = some (start, size)) (hsize : 0 < size)
    (hfits : definition.schema.Fits size)
    (htype : definition.description.dataType ≠ .text ∨ definition.schema.fields = [.text])
    (hnative : definition.schema.Canonical native) (hlength : native.length = size) :
    ∃ wire, definition.schema.toPayload? native = .ok wire ∧
      ∀ request : Request, request.Asks .set pid → request.data = wire →
        ∃ after, device.dispatch rules request = (.acknowledged .empty, after) ∧
        after.parameters.get? pid = some native ∧
          (∀ fetch : Request, fetch.Asks .get pid → after.dispatch rules fetch = (.acknowledged wire, after)) ∧
          ∀ other, (∀ place, device.parameters.range? other = some place → Dictionary.Apart place (start, size)) →
            after.parameters.get? other = device.parameters.get? other := by
  obtain ⟨wire, hsent, hset⟩ :=
    dispatch_set_of_canonical rules hdevice hdefinition hstored hrange hsize hfits.le hnative hlength
  refine ⟨wire, hsent, fun request hasks hdata => ?_⟩
  have hform : Dictionary.storedForm definition.description.dataType size native = native := by
    rw [← hlength]
    exact storedForm_of_canonical htype hnative
  have hvalue : (device.parameters.set pid native).2.get? pid = some native := by
    rw [Dictionary.get?_set hdevice hdefinition hrange (by rw [hform, hlength]), hform]
  refine ⟨_, hset request hasks hdata, hvalue, fun fetch hfetch => ?_,
    fun other hapart => Dictionary.get?_set_of_apart hdevice hrange hapart native⟩
  obtain ⟨hroot, hget, rfl⟩ := hfetch
  have hkept :
      (device.parameters.set fetch.parameterId native).2.definition? fetch.parameterId = some definition := by
    rw [Dictionary.definition?, Dictionary.entry?_of_entries (device.parameters.set_frame _ native).1]
    exact hdefinition
  rw [dispatch_of_stored hkept hstored]
  exact answerStored_get hroot hget hkept hvalue hsent

/-- The number arrives the other way round, and the note is as it was. -/
theorem get_after_set_tag :
    ∃ after : Device Empty, labelled.dispatch nofun (setLabelled 0x8002 [0x12, 0x34, 7, 8]) =
      (.acknowledged .empty, after) ∧
      after.parameters.get? 0x8002 = some [0x34, 0x12, 7, 8] ∧
      after.parameters.get? 0x8001 = some [0x6E, 0x6F, 0x74, 0x65] ∧
      after.dispatch nofun { setLabelled 0x8002 [] with commandClass := .get } =
        (.acknowledged (.ofList [0x12, 0x34, 7, 8]), after) := by
  have hcanonical : CanonicalFields tagDefinition.schema.fields ([0x34, 0x12] ++ ([7, 8] ++ [])) :=
    .cons rfl (.cons trivial .nil)
  have hdefinition : labelled.parameters.definition? 0x8002 = some tagDefinition := rfl
  obtain ⟨wire, hwire, hset⟩ := get_after_set nofun reachable_labelParameters hdefinition rfl rfl (by decide)
    (.inr ⟨rfl, by decide, by decide⟩) (.inl (by decide)) hcanonical rfl
  obtain rfl : Payload.ofList [0x12, 0x34, 7, 8] = wire := Except.ok.inj hwire
  obtain ⟨after, hdispatch, hvalue, hfetch, hothers⟩ :=
    hset (setLabelled 0x8002 [0x12, 0x34, 7, 8]) ⟨rfl, rfl, rfl⟩ rfl
  refine ⟨after, hdispatch, hvalue, ?_, hfetch _ ⟨rfl, rfl, rfl⟩⟩
  refine (hothers 0x8001 fun place hplace i hi => ?_).trans rfl
  obtain rfl : (0, 4) = place := Option.some.inj hplace
  exact absurd hi.2.1 (Nat.not_le_of_lt hi.1.2)

/-- Before it is refused, a SET stores nothing, or all that was read, which is no byte. -/
private theorem refused_cases (hdevice : device.parameters.Reachable)
    (hdefinition : device.parameters.definition? request.parameterId = some definition)
    (hset : request.commandClass = .set) {reason : UInt16}
    (h : device.answerStored request = (.refused reason, after)) :
    after = device ∨ request.subDevice = 0 ∧ ∃ start size, device.parameters.range? request.parameterId =
      some (start, size) ∧
      definition.schema.toNative request.data.bytes (min size maxPayloadSize) = ⟨[], .ok ()⟩ ∧
      after = { device with parameters := (device.parameters.set request.parameterId []).2 } := by
  by_cases hroot : request.subDevice = 0
  case neg =>
    rw [answerStored, if_pos hroot] at h
    exact .inl (congrArg Prod.snd h).symm
  cases hrange : device.parameters.range? request.parameterId with
  | none =>
    have hsame := answerStored_of_no_range hrange
    rw [h] at hsame
    exact .inl hsame
  | some range =>
    obtain ⟨start, size⟩ := range
    rw [answerStored_set hdevice hroot hset hdefinition hrange] at h
    generalize hread : definition.schema.toNative request.data.bytes (min size maxPayloadSize) = read at h
    obtain ⟨native, result⟩ := read
    rw [Conversion.toExcept] at h
    cases result with
    | error e => exact .inl (congrArg Prod.snd h).symm
    | ok =>
      rw [Except.map] at h
      dsimp only at h
      split at h
      case isFalse => cases h
      rename_i hnothing
      -- There is room for what was read, so no byte is stored only where none was read.
      have hroom := Schema.length_le_of_toNative hread
      obtain rfl : native = [] := List.length_eq_zero_iff.1 (by omega)
      exact .inr ⟨hroot, start, size, rfl, hread, (congrArg Prod.snd h).symm⟩

/-- The root device is to store a text for which nothing can be read of the data. -/
def Empties (device : Device κ) (definition : Definition κ) (request : Request) (start size : Nat) : Prop :=
  definition.description.dataType = .text ∧ request.subDevice = 0 ∧
    device.parameters.range? request.parameterId = some (start, size) ∧
    definition.schema.toNative request.data.bytes (min size maxPayloadSize) = ⟨[], .ok ()⟩

/-- A SET that is refused leaves the device as it was, unless it empties a text.  Then no byte of the text is left. -/
theorem unchanged_of_refused (hdevice : device.parameters.Reachable)
    (hdefinition : device.parameters.definition? request.parameterId = some definition)
    (hstored : definition.handler = .stored) (hset : request.commandClass = .set) {reason : UInt16}
    (h : device.dispatch rules request = (.refused reason, after)) :
    ((¬∃ start size, device.Empties definition request start size) → after = device) ∧
      ∀ start size, device.Empties definition request start size → reason = NackReason.hardwareFault.code ∧
        after = { device with parameters := { device.parameters with
          arena := overwrite device.parameters.arena start (List.replicate size 0) } } := by
  rw [dispatch_of_stored hdefinition hstored] at h
  constructor
  · intro hkeeps
    rcases refused_cases hdevice hdefinition hset h with hsame | ⟨hroot, start, size, hrange, hread, rfl⟩
    · exact hsame
    · have hother : definition.description.dataType ≠ .text :=
        fun htext => hkeeps ⟨start, size, htext, hroot, hrange, hread⟩
      rw [Dictionary.set_nil hdefinition hrange, if_neg hother]
  · rintro start size ⟨htext, hroot, hrange, hread⟩
    rw [answerStored_set hdevice hroot hset hdefinition hrange, hread] at h
    have hnothing := Dictionary.set_nil hdefinition hrange
    rw [if_pos htext] at hnothing
    simp only [Conversion.toExcept, Except.map, List.length_nil, Nat.zero_min, if_true, hnothing] at h
    obtain ⟨hreason, hafter⟩ := Prod.mk.inj h
    exact ⟨(Outcome.refused.inj hreason).symm, hafter.symm⟩

/-- A number needs two bytes. -/
theorem unchanged_of_refused_tag :
    ∃ after, labelled.dispatch nofun (setLabelled 0x8002 [0x12]) = (.refused NackReason.formatError.code, after) ∧
      after = labelled := by
  have hdefinition : labelled.parameters.definition? (setLabelled 0x8002 [0x12]).parameterId = some tagDefinition :=
    rfl
  have hrefused : labelled.dispatch nofun (setLabelled 0x8002 [0x12]) =
    (.refused NackReason.formatError.code, labelled) := rfl
  refine ⟨labelled, hrefused, (unchanged_of_refused reachable_labelParameters hdefinition rfl rfl hrefused).1 ?_⟩
  rintro ⟨start, size, htext, -⟩
  cases htext

/-- Without data there is no note, and although that is refused, the old one is gone. -/
theorem cleared_though_refused :
    ∃ after : Device Empty, labelled.parameters.Reachable ∧ labelled.parameters.definition? 0x8001 =
      some noteDefinition ∧
      labelled.dispatch nofun (setLabelled 0x8001 []) = (.refused NackReason.hardwareFault.code, after) ∧
      labelled.parameters.arena = [0x6E, 0x6F, 0x74, 0x65, 0, 0, 0, 0] ∧
      after.parameters.arena = [0, 0, 0, 0, 0, 0, 0, 0] :=
  ⟨_, reachable_labelParameters, rfl, rfl, rfl, rfl⟩

end Device

end LightBus
