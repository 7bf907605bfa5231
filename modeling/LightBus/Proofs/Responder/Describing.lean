import LightBus.Proofs.Identifiers
import LightBus.Proofs.Responder.Fetching
import LightBus.Proofs.Responder.Operation
import LightBus.Proofs.Responder.Stored
import LightBus.Proofs.Schema.RoundTrip

/-!
# Descriptions of parameters

A device describes the parameters of its manufacturer as it defines them (`Device.described_as_defined`).  The
description is put together in native form, and goes to the line by a schema of its own.

* (fields) `Field.carries_byte`, `Field.carries_word`, `Field.carries_dword`, `Field.carries_text`.
* (schema) `Definition.carriesAll_native`: the schema has the fields of the native form, in their order.
* (data) `Describes`: where a controller finds what.
-/

namespace LightBus

variable {κ υ ε : Type}

/-! ### From native form to the line -/

namespace Field

theorem carries_byte (b : UInt8) : Field.byte.Carries [b] [b] :=
  carries_of_cut (fun cut => [cut]) (fun _ => rfl) (fun _ => rfl) rfl rfl rfl

theorem carries_word (w : UInt16) : Field.word.Carries (LightBus.word w).reverse (LightBus.word w) :=
  carries_of_cut (fun cut => [cut.reverse]) (fun _ => rfl) (fun _ => rfl) rfl rfl rfl

theorem carries_dword (d : UInt32) : Field.dword.Carries (LightBus.dword d).reverse (LightBus.dword d) :=
  carries_of_cut (fun cut => [cut.reverse]) (fun _ => rfl) (fun _ => rfl) rfl rfl rfl

end Field

private theorem CarriesAll.single {field : Field} {native wire : List UInt8} (h : field.Carries native wire) :
    CarriesAll [field] native wire := by
  have hnil : CarriesAll [] [] [] :=
    ⟨fun _ => by simp [visitFields], fun _ => by simp [visitFields], Nat.le_refl _, fun _ => rfl⟩
  simpa using CarriesAll.cons h hnil (fun _ => rfl) (fun _ => rfl)

/-- A field of fixed length in front of others. -/
private theorem CarriesAll.front {field : Field} {fields : List Field} {native wire restNative restWire : List UInt8}
    (hfixed : field.isTerminal = false) (hfield : field.Carries native wire)
    (hrest : CarriesAll fields restNative restWire) :
    CarriesAll (field :: fields) (native ++ restNative) (wire ++ restWire) :=
  hrest.cons hfield (fun h => by rw [hfixed] at h; cases h) (fun h => by rw [hfixed] at h; cases h)

/-- A value of fields the last of which has a variable length is sent as it is carried. -/
private theorem Schema.toPayload?_of_carriesAll {s : Schema} {native wire : List UInt8}
    (hsingle : s.isSingleton = true) (h : CarriesAll s.fields native wire) (hroom : wire.length ≤ maxPayloadSize) :
    s.toPayload? native = .ok (.ofList wire) := by
  have hwire : s.toWire native maxPayloadSize = ⟨wire, .ok ()⟩ := by
    have hone : (List.replicate 1 s.fields).flatten = s.fields := by simp
    have hroom : ([] : List UInt8).length + wire.length ≤ maxPayloadSize := by simpa using hroom
    rw [toWire_eq, repetitions, if_pos hsingle, walk, hone, h.toWire hroom]
    rfl
  rw [toPayload?, hwire]
  rfl

/-! ### The data -/

/-- The bytes that describe a parameter on the line. -/
def Definition.describing (definition : Definition κ) : List UInt8 :=
  let about := definition.description
  word definition.parameterId ++ ([UInt8.ofNat definition.schema.size] ++
    ([about.dataType.code] ++ ([definition.access.code] ++
    ([0] ++ ([about.units] ++ ([about.scale] ++
      (dword about.minimum ++ (dword about.maximum ++ (dword about.standard ++
      (textBytes about.text).take maxTextSize)))))))))

/-- What a controller reads in the data about a parameter, most significant bytes first. -/
structure Describes (pid : ParameterId) (definition : Definition κ) (data : List UInt8) : Prop where
  length : data.length = 20 + min (textBytes definition.description.text).length 32
  parameterId : numberOf (slice data 0 2) = pid.toNat
  size : numberOf (slice data 2 1) = definition.schema.size
  dataType : numberOf (slice data 3 1) = definition.description.dataType.code.toNat
  access : numberOf (slice data 4 1) = definition.access.code.toNat
  reserved : numberOf (slice data 5 1) = 0
  units : numberOf (slice data 6 1) = definition.description.units.toNat
  scale : numberOf (slice data 7 1) = definition.description.scale.toNat
  minimum : numberOf (slice data 8 4) = definition.description.minimum.toNat
  maximum : numberOf (slice data 12 4) = definition.description.maximum.toNat
  standard : numberOf (slice data 16 4) = definition.description.standard.toNat
  text : data.drop 20 = (textBytes definition.description.text).take 32

namespace Definition

variable {definition : Definition κ}

theorem length_describing (definition : Definition κ) :
    definition.describing.length = 20 + min (textBytes definition.description.text).length 32 := by
  simp only [describing, List.length_append, length_word, length_dword, List.length_singleton, List.length_take,
    maxTextSize]
  omega

private theorem describes_describing (definition : Definition κ) :
    Describes definition.parameterId definition definition.describing where
  length := definition.length_describing
  parameterId := numberOf_word definition.parameterId
  size := by
    have hsize : definition.schema.size ≤ 231 := definition.schema.size_le
    refine (numberOf_byte (UInt8.ofNat definition.schema.size)).trans ?_
    rw [UInt8.toNat_ofNat']
    omega
  dataType := numberOf_byte definition.description.dataType.code
  access := numberOf_byte definition.access.code
  reserved := rfl
  units := numberOf_byte definition.description.units
  scale := numberOf_byte definition.description.scale
  minimum := numberOf_dword definition.description.minimum
  maximum := numberOf_dword definition.description.maximum
  standard := numberOf_dword definition.description.standard
  text := rfl

/-- The native form, field by field. -/
def native (definition : Definition κ) : List UInt8 :=
  let about := definition.description
  (word definition.parameterId).reverse ++ ([UInt8.ofNat definition.schema.size] ++ ([about.dataType.code] ++
    ([definition.access.code] ++ ([0] ++ ([about.units] ++ ([about.scale] ++ ((dword about.minimum).reverse ++
      ((dword about.maximum).reverse ++ ((dword about.standard).reverse ++
        padZero maxTextSize ((textBytes about.text).take maxTextSize))))))))))

/-- The schema has the fields of the native form, in their order. -/
theorem carriesAll_native (hzero : 0 ∉ textBytes definition.description.text) :
    CarriesAll Dictionary.descriptionSchema.fields definition.native definition.describing := by
  have htext : CarriesAll [.text] (padZero maxTextSize ((textBytes definition.description.text).take maxTextSize))
      ((textBytes definition.description.text).take maxTextSize) := by
    have hshort : ((textBytes definition.description.text).take maxTextSize).length ≤ maxTextSize :=
      List.length_take_le ..
    exact .single (Field.carries_text (fun hmem => hzero (List.mem_of_mem_take hmem)) (Nat.add_sub_of_le hshort))
  have hnumbers := ((htext.front rfl (Field.carries_dword definition.description.standard)).front rfl
    (Field.carries_dword definition.description.maximum)).front rfl
    (Field.carries_dword definition.description.minimum)
  have hscale := (hnumbers.front rfl (Field.carries_byte definition.description.scale)).front rfl
    (Field.carries_byte definition.description.units)
  have hcodes := ((hscale.front rfl (Field.carries_byte 0)).front rfl
    (Field.carries_byte definition.access.code)).front rfl
    (Field.carries_byte definition.description.dataType.code)
  exact (hcodes.front rfl (Field.carries_byte (UInt8.ofNat definition.schema.size))).front rfl
    (Field.carries_word definition.parameterId)

end Definition

/-- The native form is what the dictionary puts together. -/
private theorem Dictionary.describe?_eq {d : Dictionary κ} {pid : ParameterId}
    (hrange : pid.isManufacturerSpecific = true) :
    d.describe? pid = (d.definition? pid).map Definition.native := by
  rw [describe?, if_pos hrange]
  cases hdefinition : d.definition? pid with
  | none => rfl
  | some definition =>
    obtain rfl := parameterId_of_definition? hdefinition
    rfl

/-! ### The rule -/

namespace Device

variable {device : Device κ} {request : Request} {definition : Definition κ} {pid : ParameterId}

theorem isManufacturerSpecific_iff : pid.isManufacturerSpecific = true ↔ 0x8000 ≤ pid ∧ pid ≤ 0xFFDF := by
  rw [ParameterId.isManufacturerSpecific, Bool.and_eq_true, decide_eq_true_iff, decide_eq_true_iff]

private theorem describe_of_native {native : List UInt8} {data : Payload} (hdata : request.data.bytes = word pid)
    (hnative : device.parameters.describe? pid = some native)
    (hsent : Dictionary.descriptionSchema.toPayload? native = .ok data) :
    device.describe request = .acknowledged data := by
  obtain ⟨hi, lo, hword, rfl⟩ := exists_word pid
  simp only [describe, hdata, hword, hnative, hsent]

private theorem describe_of_none (hdata : request.data.bytes = word pid)
    (hnone : device.parameters.describe? pid = none) :
    device.describe request = .nack .dataOutOfRange := by
  obtain ⟨hi, lo, hword, rfl⟩ := exists_word pid
  simp only [describe, hdata, hword, hnone]

/-- A defined parameter is described. -/
private theorem describe_of_defined (hdata : request.data.bytes = word pid) (hrange : 0x8000 ≤ pid ∧ pid ≤ 0xFFDF)
    (hknown : device.parameters.definition? pid = some definition)
    (hzero : 0 ∉ textBytes definition.description.text) :
    ∃ data, device.describe request = .acknowledged data ∧ Describes pid definition data.bytes := by
  obtain rfl := Dictionary.parameterId_of_definition? hknown
  have hlength : definition.describing.length ≤ maxPayloadSize := by
    rw [definition.length_describing, maxPayloadSize]
    omega
  have hsent := Schema.toPayload?_of_carriesAll rfl (Definition.carriesAll_native hzero) hlength
  refine ⟨.ofList definition.describing, ?_, ?_⟩
  · refine describe_of_native hdata ?_ hsent
    rw [Dictionary.describe?_eq (isManufacturerSpecific_iff.2 hrange), hknown, Option.map_some]
  · rw [Payload.bytes_ofList hlength]
    exact definition.describes_describing

/-- No other parameter has a description. -/
private theorem describe_of_undefined (hdata : request.data.bytes = word pid)
    (hother : ¬(0x8000 ≤ pid ∧ pid ≤ 0xFFDF ∧ ∃ definition, device.parameters.definition? pid = some definition)) :
    device.describe request = .nack .dataOutOfRange := by
  refine describe_of_none hdata ?_
  cases hrange : pid.isManufacturerSpecific with
  | false => rw [Dictionary.describe?, hrange, if_neg Bool.false_ne_true]
  | true =>
    rw [Dictionary.describe?_eq hrange]
    cases hknown : device.parameters.definition? pid with
    | none => rfl
    | some definition =>
      obtain ⟨hfirst, hlast⟩ := isManufacturerSpecific_iff.1 hrange
      exact absurd ⟨hfirst, hlast, definition, hknown⟩ hother

private theorem describe_of_length (h : request.data.bytes.length ≠ 2) :
    device.describe request = .nack .formatError := by
  unfold describe
  split
  · rename_i hdata
    rw [hdata] at h
    exact absurd rfl h
  · rfl

/-- A request for a description is always answered. -/
private theorem exists_content_describe (device : Device κ) (request : Request) :
    ∃ content, (device.describe request).content? = some content := by
  unfold describe
  split
  · split
    · exact ⟨_, rfl⟩
    · split <;> exact ⟨_, rfl⟩
  · exact ⟨_, rfl⟩

def descriptionDefinition : Definition κ :=
  plainDefinition .parameterDescription Dictionary.descriptionSchema .get .notDefined .parameterDescription

/-- A device that is asked on its root for the description of a parameter of its manufacturer tells what the parameter
was defined as.  No other parameter has a description.  Nobody may have given the descriptions another rule, and a
request that names no port of the controller is refused. -/
theorem described_as_defined {app : Application κ υ ε} (happ : app.ByCalls) (hdevice : device.Operated app)
    (hrule : (device.parameters.definition? .parameterDescription).map Definition.handler =
      some .parameterDescription)
    (hasks : request.Asks .get .parameterDescription) (hdestination : request.destination = .device device.state.uid)
    (memory : υ) :
    ∃ type data, (device.handle app request memory).1 =
        .ok (.response (request.reply device.state.uid type data device.parameters.messageCount)) ∧
      (request.port = 0 → type = .nack ∧ data = .ofList (word NackReason.formatError.code)) ∧
      (request.port ≠ 0 →
        (∀ pid definition, request.data.bytes = word pid → 0x8000 ≤ pid ∧ pid ≤ 0xFFDF →
          device.parameters.definition? pid = some definition → 0 ∉ textBytes definition.description.text →
            type = .ack ∧ Describes pid definition data.bytes) ∧
        (∀ pid, request.data.bytes = word pid →
          ¬(0x8000 ≤ pid ∧ pid ≤ 0xFFDF ∧ ∃ definition, device.parameters.definition? pid = some definition) →
            type = .nack ∧ data = .ofList (word NackReason.dataOutOfRange.code)) ∧
        (request.data.bytes.length ≠ 2 → type = .nack ∧ data = .ofList (word NackReason.formatError.code))) := by
  have hentry : (⟨descriptionDefinition, .computed, false⟩ : Entry κ) ∈ (standardEntries : List (Entry κ)) := by
    simp [standardEntries, descriptionDefinition]
  have hknown := (hdevice.standing happ).definition?_of_rule hentry hrule
  have happlied : device.applyRule app.rules request .parameterDescription = (device.describe request, device) := by
    rw [applyRule, onRoot, if_neg (by simp [hasks.subDevice])]
  have hhandle {content : ResponseType × Payload}
      (hcontent : (if request.port = 0 then .nack .formatError else device.describe request).content? =
        some content) :=
    handle_of_asks hasks hdestination hknown rfl rfl (fun h => by cases h) happlied hcontent memory
  by_cases hport : request.port = 0
  · exact ⟨.nack, _, hhandle (by rw [if_pos hport]; rfl), fun _ => ⟨rfl, rfl⟩, fun h => absurd hport h⟩
  obtain ⟨⟨type, data⟩, hcontent⟩ := device.exists_content_describe request
  -- What the rule comes to is what the response carries.
  have htold {outcome : Outcome} {told : ResponseType × Payload} (hdescribe : device.describe request = outcome)
      (hmeans : outcome.content? = some told) : type = told.1 ∧ data = told.2 := by
    rw [hdescribe, hmeans] at hcontent
    obtain rfl := Option.some.inj hcontent
    exact ⟨rfl, rfl⟩
  refine ⟨type, data, hhandle (by rw [if_neg hport, hcontent]), fun h => absurd h hport, fun _ =>
    ⟨fun pid definition hdata hrange hdefined hzero => ?_, fun pid hdata hother => ?_, fun hlength => ?_⟩⟩
  · obtain ⟨described, hdescribe, hdescribes⟩ := describe_of_defined hdata hrange hdefined hzero
    obtain ⟨htype, rfl⟩ := htold hdescribe rfl
    exact ⟨htype, hdescribes⟩
  · exact htold (describe_of_undefined hdata hother) rfl
  · exact htold (describe_of_length hlength) rfl

/-- A parameter of the manufacturer's own.  Its text is too long to be told in full. -/
def toneDefinition : Definition Empty :=
  ⟨0x8001, ⟨[.word], checkFields_word⟩, .getSet,
    ⟨.unsignedWord, 0, 0, 1000, 10000, 4000, "colour temperature of the lamp in kelvin"⟩, .stored⟩

def tonedLamp : Device Empty :=
  { lamp with parameters := lamp.parameters.perform (.defineComputed toneDefinition) }

private theorem operated_tonedLamp : tonedLamp.Operated .idle :=
  .changed (.created create?_lamp (by decide)) ⟨⟨[.defineComputed toneDefinition], rfl⟩, id⟩

def toneRequest (data : List UInt8) : Request :=
  { fetchRequest with parameterId := .parameterDescription, data := .ofList data }

/-- The parameter is described, another one is not, and a request without data names none. -/
theorem described_as_defined_tonedLamp :
    (∃ data, (tonedLamp.handle .idle (toneRequest [0x80, 1]) ()).1 =
        .ok (.response ((toneRequest [0x80, 1]).reply ⟨0x05E0, 1⟩ .ack data 0)) ∧
      Describes 0x8001 toneDefinition data.bytes) ∧
    (tonedLamp.handle .idle (toneRequest [0x80, 2]) ()).1 =
      .ok (.response ((toneRequest [0x80, 2]).reply ⟨0x05E0, 1⟩ .nack
        (.ofList (word NackReason.dataOutOfRange.code)) 0)) ∧
    (tonedLamp.handle .idle (toneRequest []) ()).1 =
      .ok (.response ((toneRequest []).reply ⟨0x05E0, 1⟩ .nack
        (.ofList (word NackReason.formatError.code)) 0)) := by
  have hasks (data : List UInt8) : (toneRequest data).Asks .get .parameterDescription := ⟨rfl, rfl, rfl⟩
  have hdescribed (data : List UInt8) :=
    described_as_defined Application.byCalls_idle operated_tonedLamp rfl (hasks data) rfl ()
  have hport (data : List UInt8) : (toneRequest data).port ≠ 0 := show (1 : UInt8) ≠ 0 by decide
  have hzero : 0 ∉ textBytes toneDefinition.description.text := by decide +kernel
  refine ⟨?_, ?_, ?_⟩
  · obtain ⟨type, data, hhandle, -, hanswer⟩ := hdescribed [0x80, 1]
    obtain ⟨rfl, hdescribes⟩ := (hanswer (hport _)).1 0x8001 toneDefinition rfl (by decide) rfl hzero
    exact ⟨data, hhandle, hdescribes⟩
  · obtain ⟨type, data, hhandle, -, hanswer⟩ := hdescribed [0x80, 2]
    have hother : ¬((0x8000 : ParameterId) ≤ 0x8002 ∧ (0x8002 : ParameterId) ≤ 0xFFDF ∧
        ∃ definition, tonedLamp.parameters.definition? 0x8002 = some definition) := by
      rintro ⟨-, -, definition, hknown⟩
      cases hknown
    obtain ⟨rfl, rfl⟩ := (hanswer (hport _)).2.1 0x8002 rfl hother
    exact hhandle
  · obtain ⟨type, data, hhandle, -, hanswer⟩ := hdescribed []
    obtain ⟨rfl, rfl⟩ := (hanswer (hport _)).2.2 (by decide)
    exact hhandle

/-- The program lets the descriptions be answered as if they were stored. -/
def silencedLamp : Device Empty :=
  { tonedLamp with parameters := tonedLamp.parameters.perform (.setHandler .parameterDescription .stored) }

private theorem operated_silencedLamp : silencedLamp.Operated .idle :=
  .changed operated_tonedLamp ⟨⟨[.setHandler .parameterDescription .stored], rfl⟩, id⟩

/-- A lamp that answers by another rule does not tell what a parameter was defined as, and neither does one that is
asked without a port. -/
theorem undescribed_and_portless :
    (silencedLamp.Operated .idle ∧ silencedLamp.parameters.definition? 0x8001 = some toneDefinition ∧
      0 ∉ textBytes toneDefinition.description.text ∧
      (silencedLamp.handle .idle (toneRequest [0x80, 1]) ()).1 =
        .ok (.response ((toneRequest [0x80, 1]).reply ⟨0x05E0, 1⟩ .nack
          (.ofList (word NackReason.hardwareFault.code)) 0))) ∧
    (tonedLamp.Operated .idle ∧ tonedLamp.parameters.definition? 0x8001 = some toneDefinition ∧
      (tonedLamp.handle .idle { toneRequest [0x80, 1] with port := 0 } ()).1 =
        .ok (.response ((toneRequest [0x80, 1]).reply ⟨0x05E0, 1⟩ .nack
          (.ofList (word NackReason.formatError.code)) 0))) :=
  ⟨⟨operated_silencedLamp, rfl, by decide +kernel, rfl⟩, operated_tonedLamp, rfl, rfl⟩

end Device

end LightBus
