import LightBus.Proofs.Responder.Standard
import LightBus.Proofs.Responder.Stored

/-!
# What the type of a value changes

The type of a value is told to controllers, and it selects how data are stored: a text is cut at its first zero.  Two
devices that differ only in the type of one parameter are compared (`Device.Retyped`).  Both acknowledge a SET that
carries a canonical value, and both then have this value, unless one of the types is text and the value has another
byte behind a zero (`Device.set_of_retyped`).
-/

namespace LightBus

/-! ### Data of a type -/

/-- What is stored of data that fill their storage: text loses what is behind its first zero. -/
def DataType.kept (dataType : DataType) (native : List UInt8) : List UInt8 :=
  if dataType = .text then padZero native.length (native.takeWhile (· != 0)) else native

private theorem storedForm_eq_kept (dataType : DataType) (native : List UInt8) :
    Dictionary.storedForm dataType native.length native = dataType.kept native := by
  rw [Dictionary.storedForm, DataType.kept, untilZero, List.take_length]

theorem DataType.length_kept (dataType : DataType) (native : List UInt8) :
    (dataType.kept native).length = native.length := by
  unfold kept
  split
  · exact length_padZero (List.takeWhile_prefix _).length_le
  · rfl

/-- Everything is kept but of a text with another byte behind a zero. -/
theorem DataType.kept_eq_self_iff {dataType : DataType} {native : List UInt8} : dataType.kept native = native ↔
    (dataType = .text → ∃ text zeros, 0 ∉ text ∧ native = text ++ List.replicate zeros 0) := by
  rw [← storedForm_eq_kept]
  by_cases htype : dataType = .text
  · rw [htype, storedForm_text_eq_iff]
    exact ⟨fun h _ => h, fun h => h rfl⟩
  · exact ⟨fun _ htext => absurd htext htype, fun _ => storedForm_of_bytes htype native⟩

/-! ### Parameters of another type -/

def Definition.describedAs {κ : Type} (dataType : DataType) (definition : Definition κ) : Definition κ :=
  { definition with description := { definition.description with dataType } }

def Entry.describedAs {κ : Type} (dataType : DataType) (entry : Entry κ) : Entry κ :=
  { entry with definition := entry.definition.describedAs dataType }

namespace Dictionary

variable {κ : Type} {d d' : Dictionary κ} {pid : ParameterId} {dataType : DataType} {definition : Definition κ}
  {data : List UInt8} {start size : Nat}

/-- Data that fill the value leave what the type keeps of them. -/
private theorem get?_set_of_full (hd : d.Reachable) (hdefinition : d.definition? pid = some definition)
    (hrange : d.range? pid = some (start, size)) (hlength : data.length = size) :
    (d.set pid data).2.get? pid = some (definition.description.dataType.kept data) := by
  subst hlength
  have hfull : (storedForm definition.description.dataType data.length data).length = data.length := by
    rw [storedForm_eq_kept, DataType.length_kept]
  rw [get?_set hd hdefinition hrange hfull, storedForm_eq_kept]

/-- `d'` is as `d`, but for the type that it tells for a parameter. -/
def Retyped (d : Dictionary κ) (pid : ParameterId) (dataType : DataType) (d' : Dictionary κ) : Prop :=
  d.updateEntry pid (.describedAs dataType) = .ok d'

private theorem Retyped.range? (h : d.Retyped pid dataType d') (other : ParameterId) :
    d'.range? other = d.range? other := by
  refine (range?_updateEntry ?_ ?_ h).1 other
  · exact fun _ => rfl
  · exact fun _ => rfl

/-- All that differs are the entries. -/
private theorem Retyped.eq (h : d.Retyped pid dataType d') : d.contains pid = true ∧
    d' = { d with
      entries := d.entries.map fun entry =>
        if entry.definition.parameterId == pid then entry.describedAs dataType else entry } := by
  unfold Retyped updateEntry at h
  split at h
  · rename_i hcontains
    exact ⟨hcontains, (Except.ok.inj h).symm⟩
  · cases h

private theorem Retyped.definition? (h : d.Retyped pid dataType d')
    (hdefinition : d.definition? pid = some definition) :
    d'.definition? pid = some (definition.describedAs dataType) := by
  obtain ⟨-, hsame⟩ := h.eq
  obtain ⟨entry, hentry, rfl⟩ := Option.map_eq_some_iff.1 hdefinition
  obtain ⟨-, hpid⟩ := mem_of_entry? hentry
  have hfound : d'.entry? pid = some (entry.describedAs dataType) := by
    rw [entry?_map _ (fun entry => ?_) (congrArg Dictionary.entries hsame), hentry, Option.map_some,
      if_pos (beq_iff_eq.2 hpid)]
    split
    · rfl
    · rfl
  exact definition?_of_entry? hfound

private theorem Retyped.withArena (h : d.Retyped pid dataType d') (arena : List UInt8) :
    Retyped { d with arena } pid dataType { d' with arena } := by
  obtain ⟨hcontains, rfl⟩ := h.eq
  exact if_pos hcontains

/-- Where both types store the same, they stay all that differs. -/
private theorem Retyped.set (h : d.Retyped pid dataType d') (hdefinition : d.definition? pid = some definition)
    (hrange : d.range? pid = some (start, size))
    (hsame : storedForm dataType size data = storedForm definition.description.dataType size data) :
    (d.set pid data).2.Retyped pid dataType (d'.set pid data).2 := by
  have harena : d'.arena = d.arena := by rw [h.eq.2]
  have hother : storedForm (definition.describedAs dataType).description.dataType size data =
      storedForm definition.description.dataType size data := hsame
  rw [set_eq hdefinition hrange, set_eq (h.definition? hdefinition) ((h.range? pid).trans hrange), hother, harena]
  exact h.withArena _

end Dictionary

namespace Device

variable {κ : Type} {device other : Device κ} {pid : ParameterId} {dataType : DataType} {definition : Definition κ}
  {native : List UInt8} {start size : Nat}

/-- `other` is as `device`, but for the type that it tells for a parameter. -/
structure Retyped (device : Device κ) (pid : ParameterId) (dataType : DataType) (other : Device κ) : Prop where
  parameters : device.parameters.Retyped pid dataType other.parameters
  state : other.state = device.state

/-- Of two devices that differ only in the type of a parameter, both acknowledge a SET that carries a canonical value.
Each has then what its type keeps of it.  So both have the value as it came, unless one of the types is text and the
value has another byte behind a zero.  If the two have the same, the type is still all that differs. -/
theorem set_of_retyped (rules : CustomRules κ) (hdevice : device.parameters.Reachable)
    (hother : other.parameters.Reachable) (hretyped : device.Retyped pid dataType other)
    (hdefinition : device.parameters.definition? pid = some definition) (hstored : definition.handler = .stored)
    (hrange : device.parameters.range? pid = some (start, size)) (hsize : 0 < size)
    (hfits : definition.schema.Fits size) (hnative : definition.schema.Canonical native)
    (hlength : native.length = size) :
    ∃ wire, definition.schema.toPayload? native = .ok wire ∧
      ∀ request : Request, request.Asks .set pid → request.data = wire →
        ∃ after otherAfter, device.dispatch rules request = (.acknowledged .empty, after) ∧
          other.dispatch rules request = (.acknowledged .empty, otherAfter) ∧
          after.parameters.get? pid = some (definition.description.dataType.kept native) ∧
          otherAfter.parameters.get? pid = some (dataType.kept native) ∧
          (after.parameters.get? pid = some native ∧ otherAfter.parameters.get? pid = some native ↔
            (definition.description.dataType = .text ∨ dataType = .text →
              ∃ text zeros, 0 ∉ text ∧ native = text ++ List.replicate zeros 0)) ∧
          (after.parameters.get? pid = otherAfter.parameters.get? pid → after.Retyped pid dataType otherAfter) := by
  -- What is known of one device at a time holds of the other too, whose definition has the same schema and the same
  -- storage.
  have hotherDefinition := hretyped.parameters.definition? hdefinition
  have hotherRange := (hretyped.parameters.range? pid).trans hrange
  obtain ⟨wire, hsent, hset⟩ :=
    dispatch_set_of_canonical rules hdevice hdefinition hstored hrange hsize hfits.le hnative hlength
  obtain ⟨otherWire, hotherSent, hotherSet⟩ :=
    dispatch_set_of_canonical rules hother hotherDefinition hstored hotherRange hsize hfits.le hnative hlength
  obtain rfl : wire = otherWire := Except.ok.inj (hsent.symm.trans hotherSent)
  have hvalue := Dictionary.get?_set_of_full hdevice hdefinition hrange hlength
  have hotherValue := Dictionary.get?_set_of_full hother hotherDefinition hotherRange hlength
  refine ⟨wire, hsent, fun request hasks hdata =>
    ⟨_, _, hset request hasks hdata, hotherSet request hasks hdata, hvalue,
    hotherValue, ?_, fun hsame => ⟨?_, hretyped.state⟩⟩⟩
  · rw [hvalue, hotherValue, Option.some.injEq, Option.some.injEq, DataType.kept_eq_self_iff,
      DataType.kept_eq_self_iff]
    exact or_imp.symm
  · rw [hvalue, hotherValue, Option.some.injEq] at hsame
    refine hretyped.parameters.set hdefinition hrange ?_
    rw [← hlength, storedForm_eq_kept, storedForm_eq_kept]
    exact hsame.symm

/-! ### A number that is told to be a text -/

def numberDefinition (dataType : DataType) : Definition Empty :=
  plainDefinition 0x8001 ⟨[.word], checkFields_word⟩ .getSet dataType .stored

/-- A device with one number, that is said to be of the given type. -/
def numbered (dataType : DataType) : Device Empty :=
  ⟨⟨[0, 0], 2, [⟨numberDefinition dataType, .owned 0 2, false⟩], [], none⟩, labelled.state⟩

private theorem reachable_numbered (dataType : DataType) : (numbered dataType).parameters.Reachable :=
  have hdefine : (Dictionary.empty [0, 0]).define (numberDefinition dataType) 2 [] =
    .ok (numbered dataType).parameters := rfl
  .define (.empty _) hdefine

private theorem retyped_numbered (dataType otherType : DataType) :
    (numbered dataType).Retyped 0x8001 otherType (numbered otherType) := ⟨rfl, rfl⟩

private theorem canonical_number (dataType : DataType) (low high : UInt8) :
    (numberDefinition dataType).schema.Canonical [low, high] := by
  have hfields : CanonicalFields [.word] ([low, high] ++ []) := .cons rfl .nil
  exact ⟨[[low, high]], fun value hvalue => List.mem_singleton.1 hvalue ▸ hfields, rfl⟩

/-- A number without a zero is stored by both. -/
theorem set_of_retyped_number :
    ∃ after otherAfter : Device Empty,
      (numbered .unsignedWord).dispatch nofun (setLabelled 0x8001 [0x12, 0x34]) = (.acknowledged .empty, after) ∧
      (numbered .text).dispatch nofun (setLabelled 0x8001 [0x12, 0x34]) = (.acknowledged .empty, otherAfter) ∧
      after.parameters.get? 0x8001 = some [0x34, 0x12] ∧ otherAfter.parameters.get? 0x8001 = some [0x34, 0x12] ∧
      after.Retyped 0x8001 .text otherAfter := by
  obtain ⟨wire, hwire, hset⟩ := set_of_retyped nofun (reachable_numbered .unsignedWord) (reachable_numbered .text)
    (retyped_numbered .unsignedWord .text) rfl rfl rfl (by decide) (.inl rfl)
    (canonical_number .unsignedWord 0x34 0x12) rfl
  obtain rfl : Payload.ofList [0x12, 0x34] = wire := Except.ok.inj hwire
  obtain ⟨after, otherAfter, hafter, hotherAfter, -, -, hboth, hsame⟩ :=
    hset (setLabelled 0x8001 [0x12, 0x34]) ⟨rfl, rfl, rfl⟩ rfl
  obtain ⟨hvalue, hother⟩ := hboth.2 fun _ => ⟨[0x34, 0x12], 0, by decide, rfl⟩
  exact ⟨after, otherAfter, hafter, hotherAfter, hvalue, hother, hsame (hvalue.trans hother.symm)⟩

/-- A number with a zero in front is acknowledged by both, and lost where it is said to be a text. -/
theorem number_lost_as_text :
    ∃ after otherAfter : Device Empty,
      (numbered .unsignedWord).parameters.Reachable ∧ (numbered .text).parameters.Reachable ∧
      (numbered .unsignedWord).Retyped 0x8001 .text (numbered .text) ∧
      (numberDefinition .unsignedWord).schema.Canonical [0, 1] ∧
      (numberDefinition .unsignedWord).schema.toPayload? [0, 1] = .ok (.ofList [1, 0]) ∧
      (numbered .unsignedWord).dispatch nofun (setLabelled 0x8001 [1, 0]) = (.acknowledged .empty, after) ∧
      (numbered .text).dispatch nofun (setLabelled 0x8001 [1, 0]) = (.acknowledged .empty, otherAfter) ∧
      after.parameters.get? 0x8001 = some [0, 1] ∧ otherAfter.parameters.get? 0x8001 = some [0, 0] :=
  ⟨_, _, reachable_numbered _, reachable_numbered _, retyped_numbered _ _, canonical_number _ 0 1, rfl, rfl,
    rfl, rfl, rfl⟩

end Device

end LightBus
