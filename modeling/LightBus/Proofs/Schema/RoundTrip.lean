import LightBus.Schema.Codec

/-!
# From native form to wire form and back

Native data that are canonical for a schema come back from the line as they were (`Schema.toNative_toWire`).

* (fields) `Field.Canonical.exists_wire`: a canonical field has a wire form from which it is read again.  Fields of
  variable length are read to the end of the data, so nothing may follow them.
* (values) `CanonicalFields.exists_wire`: the wire forms of the fields stand one behind the other.
* (repetitions) `Schema.Canonical.exists_count`: both directions convert the same number of values.
-/

namespace LightBus

/-- Native data that a field can be read as: integers and identifiers of the right size, text that is zero after its
first zero, and literals as they are. -/
def Field.Canonical : Field → List UInt8 → Prop
  | .text, native => native.length = maxTextSize ∧ ∃ text zeros, 0 ∉ text ∧ native = text ++ List.replicate zeros 0
  | .bytes, _ => True
  | .literal data, native => native = data
  | field, native => native.length = field.size

/-- Native data of the given fields, one behind the other. -/
inductive CanonicalFields : List Field → List UInt8 → Prop
  | nil : CanonicalFields [] []
  | cons {field : Field} {fields : List Field} {native rest : List UInt8} (hfield : field.Canonical native)
      (hrest : CanonicalFields fields rest) : CanonicalFields (field :: fields) (native ++ rest)

/-- One value if the last field has a variable length, and any number of whole values otherwise. -/
def Schema.Canonical (s : Schema) (native : List UInt8) : Prop :=
  if s.isSingleton then CanonicalFields s.fields native
  else ∃ values : List (List UInt8), (∀ value ∈ values, CanonicalFields s.fields value) ∧ native = values.flatten

/-! ### Parts of buffers -/

theorem cut?_append {count : Nat} {source : List UInt8} (h : source.length = count) (rest : List UInt8) :
    cut? count (source ++ rest) = .ok (source, rest) := by
  have hlong : ¬(source ++ rest).length < count := by
    rw [List.length_append]
    omega
  rw [cut?, if_neg hlong, List.take_left' h, List.drop_left' h]

theorem untilZero_append_zeros {limit zeros : Nat} {text : List UInt8} (htext : 0 ∉ text)
    (hlimit : text.length + zeros ≤ limit) : untilZero limit (text ++ List.replicate zeros 0) = text := by
  have htake : (text ++ List.replicate zeros 0).take limit = text ++ List.replicate zeros 0 := by
    apply List.take_of_length_le
    rw [List.length_append, List.length_replicate]
    exact hlimit
  have hnonzero : ∀ b ∈ text, (b != 0) = true := by
    intro b hb
    have hne : b ≠ 0 := fun h => htext (h ▸ hb)
    simpa using hne
  have hzeros : (List.replicate zeros (0 : UInt8)).takeWhile (· != 0) = [] := by
    cases zeros with
    | zero => rfl
    | succ n => simp [List.replicate_succ]
  rw [untilZero, htake, List.takeWhile_append_of_pos hnonzero, hzeros, List.append_nil]

/-! ### One field -/

namespace Field

variable {field : Field} {native wire text : List UInt8}

/-- What is written for a field in front of any other data.  A field of variable length is the last one. -/
def Converts (convert : Field → List UInt8 → Except CodecError (List (List UInt8) × List UInt8)) (field : Field)
    (source result : List UInt8) : Prop :=
  ∀ rest, (field.isTerminal = true → rest = []) →
    ∃ parts, convert field (source ++ rest) = .ok (parts, rest) ∧ parts.flatten = result

/-- Both forms of one field, each written for the other. -/
structure Carries (field : Field) (native wire : List UInt8) : Prop where
  toWire : Converts Field.toWire field native wire
  toNative : Converts Field.toNative field wire native
  length_le : wire.length ≤ native.length
  length_eq : field.isTerminal = false → wire.length = native.length

/-- A field of fixed length is cut off the data and written in parts. -/
private theorem converts_of_cut {convert : Field → List UInt8 → Except CodecError (List (List UInt8) × List UInt8)}
    {count : Nat} {source : List UInt8} {parts : List UInt8 → List (List UInt8)}
    (hconvert : ∀ data, convert field data = (cut? count data).map fun (cut, rest) => (parts cut, rest))
    (h : source.length = count) : Converts convert field source (parts source).flatten := by
  intro rest _
  refine ⟨parts source, ?_, rfl⟩
  rw [hconvert, cut?_append h]
  rfl

/-- Both directions write the same parts of a field of fixed length. -/
theorem carries_of_cut (parts : List UInt8 → List (List UInt8))
    (hwire : ∀ data, Field.toWire field data = (cut? field.size data).map fun (cut, rest) => (parts cut, rest))
    (hnative : ∀ data, Field.toNative field data = (cut? field.size data).map fun (cut, rest) => (parts cut, rest))
    (hsize : native.length = field.size) (hlength : (parts native).flatten.length = native.length)
    (hparts : (parts (parts native).flatten).flatten = native) : field.Carries native (parts native).flatten where
  toWire := converts_of_cut hwire hsize
  toNative := by
    have hread := converts_of_cut hnative (hlength.trans hsize)
    rwa [hparts] at hread
  length_le := Nat.le_of_eq hlength
  length_eq _ := hlength

/-- The two halves of an identifier, each with its bytes in reverse order. -/
private def halves (six : List UInt8) : List (List UInt8) := [(six.take 2).reverse, (six.drop 2).reverse]

private theorem length_halves (six : List UInt8) : (halves six).flatten.length = six.length := by
  simp [halves]
  omega

private theorem halves_halves (h : native.length = 6) : (halves (halves native).flatten).flatten = native := by
  match native, h with
  | [_, _, _, _, _, _], _ => rfl

private theorem eq_zeros_of_all (h : native.length = 6) (hzero : native.all (· == 0) = true) :
    native = List.replicate 6 0 := by
  rw [List.eq_replicate_iff]
  refine ⟨h, fun b hb => ?_⟩
  exact eq_of_beq (List.all_eq_true.1 hzero b hb)

private theorem converts_sentUid (h : wire.length = 6) :
    Converts Field.toNative .optionalUid wire (halves wire).flatten := by
  intro rest hrest
  obtain rfl := hrest rfl
  have hshort : ¬wire.length < 6 := by omega
  have htake : wire.take 6 = wire := List.take_of_length_le (by omega)
  have hdrop : wire.drop 6 = [] := List.drop_of_length_le (by omega)
  refine ⟨halves wire, ?_, rfl⟩
  rw [List.append_nil, Field.toNative, if_neg hshort, htake, hdrop]
  rfl

/-- The identifier of all zeros is read where nothing is left, and any other one as it was sent. -/
private theorem exists_carries_optionalUid (h : native.length = 6) : ∃ wire, Carries .optionalUid native wire := by
  cases hzero : native.all (· == 0) with
  | true =>
    refine ⟨[], ⟨?_, ?_, Nat.zero_le _, fun hlast => nomatch hlast⟩⟩
    · intro rest _
      refine ⟨[], ?_, rfl⟩
      rw [Field.toWire, cut?_append h]
      simp only [bind, Except.bind, hzero, if_true]
      rfl
    · intro rest hrest
      obtain rfl := hrest rfl
      rw [eq_zeros_of_all h hzero]
      exact ⟨[List.replicate 6 0], rfl, rfl⟩
  | false =>
    have hlength := length_halves native
    refine ⟨(halves native).flatten, ⟨?_, ?_, Nat.le_of_eq hlength, fun _ => hlength⟩⟩
    · intro rest _
      refine ⟨halves native, ?_, rfl⟩
      rw [Field.toWire, cut?_append h]
      simp only [bind, Except.bind, hzero, Bool.false_eq_true, if_false]
      rfl
    · have hread := converts_sentUid (hlength.trans h)
      rwa [halves_halves h] at hread

/-- Text loses its padding on the way to the line and has it again after it. -/
theorem carries_text {zeros : Nat} (htext : 0 ∉ text) (hlength : text.length + zeros = maxTextSize) :
    Carries .text (text ++ List.replicate zeros 0) text := by
  have hnative : (text ++ List.replicate zeros (0 : UInt8)).length = maxTextSize := by simpa using hlength
  refine ⟨?_, ?_, by simp, fun hlast => nomatch hlast⟩
  · have hsent := untilZero_append_zeros htext (Nat.le_of_eq hlength)
    intro rest _
    refine ⟨[text], ?_, by simp⟩
    rw [Field.toWire, cut?_append hnative]
    simp only [bind, Except.bind, hsent]
    rfl
  · intro rest hrest
    obtain rfl := hrest rfl
    have hread : untilZero maxTextSize text = text := by
      have hshort : text.length + 0 ≤ maxTextSize := by omega
      simpa using untilZero_append_zeros htext hshort
    have hpad : padZero maxTextSize text = text ++ List.replicate zeros 0 := by
      rw [padZero, show maxTextSize - text.length = zeros by omega]
    have hdrop : text.drop maxTextSize = [] := List.drop_of_length_le (by omega)
    refine ⟨[text ++ List.replicate zeros 0], ?_, by simp⟩
    rw [List.append_nil, Field.toNative, hread, hpad, hdrop]
    rfl

private theorem carries_bytes (native : List UInt8) : Carries .bytes native native := by
  refine ⟨?_, ?_, Nat.le_refl _, fun _ => rfl⟩
  all_goals
    intro rest hrest
    obtain rfl := hrest rfl
    rw [List.append_nil]
    exact ⟨[native], rfl, by simp⟩

/-- A canonical field has a wire form from which it is read again. -/
theorem Canonical.exists_wire (h : field.Canonical native) : ∃ wire, field.Carries native wire := by
  cases field with
  | byte =>
    exact ⟨_, carries_of_cut (fun cut => [cut]) (fun _ => rfl) (fun _ => rfl) h (by simp) (by simp)⟩
  | word | dword =>
    exact ⟨_, carries_of_cut (fun cut => [cut.reverse]) (fun _ => rfl) (fun _ => rfl) h (by simp) (by simp)⟩
  | uid =>
    exact ⟨_, carries_of_cut halves (fun _ => rfl) (fun _ => rfl) h (length_halves native) (halves_halves h)⟩
  | optionalUid => exact exists_carries_optionalUid h
  | text =>
    obtain ⟨hlength, text, zeros, htext, rfl⟩ := h
    rw [List.length_append, List.length_replicate] at hlength
    exact ⟨text, carries_text htext hlength⟩
  | bytes => exact ⟨native, carries_bytes native⟩
  | literal data =>
    have h : native = data := h
    subst h
    exact ⟨_, carries_of_cut (fun _ => [native]) (fun _ => rfl) (fun _ => rfl) rfl (by simp) (by simp)⟩

end Field

/-! ### The fields of values -/

/-- Only the last field has a variable length. -/
def LastTerminal (fields : List Field) : Prop := ∀ field ∈ fields.dropLast, field.isTerminal = false

private theorem LastTerminal.head {field : Field} {fields : List Field} (h : LastTerminal (field :: fields))
    (hterminal : field.isTerminal = true) : fields = [] := by
  cases fields with
  | nil => rfl
  | cons next fields =>
    have hfield := h field (by simp)
    rw [hterminal] at hfield
    cases hfield

private theorem LastTerminal.tail {field : Field} {fields : List Field} (h : LastTerminal (field :: fields)) :
    LastTerminal fields := by
  intro other hother
  cases fields with
  | nil => cases hother
  | cons next fields => exact h other (List.mem_cons_of_mem _ hother)

private theorem lastTerminal_of_checkFields {used : Nat} {fields : List Field}
    (h : checkFields used fields = .ok ()) :
    LastTerminal fields := by
  induction fields generalizing used with
  | nil => intro field hfield; cases hfield
  | cons field fields ih =>
    simp only [checkFields] at h
    split at h
    · cases h
    rename_i hterminal
    split at h
    · cases h
    split at h
    · cases h
    cases fields with
    | nil => intro other hother; cases hother
    | cons next fields =>
      intro other hother
      rcases List.mem_cons.1 hother with rfl | hother
      · simpa using hterminal
      · exact ih h other hother

/-- The parts of a field are written where there is room for them. -/
theorem Transfer.putAll_of_room {room : Nat} {parts : List (List UInt8)} {t : Transfer}
    (h : t.written.length + parts.flatten.length ≤ room) :
    putAll room parts t = (.ok (), { t with written := t.written ++ parts.flatten }) := by
  induction parts generalizing t with
  | nil => simp [putAll]
  | cons part parts ih =>
    rw [List.flatten_cons, List.length_append] at h
    have hpart : t.written.length + part.length ≤ room := by omega
    have hparts : (t.written ++ part).length + parts.flatten.length ≤ room := by
      rw [List.length_append]
      omega
    rw [putAll, if_pos hpart, ih hparts, List.flatten_cons, List.append_assoc]

/-- One visit converts the field at the front and leaves the data after it. -/
theorem visitFields_cons {convert : Field → List UInt8 → Except CodecError (List (List UInt8) × List UInt8)}
    {field : Field} {fields : List Field} {source result rest written : List UInt8} {room : Nat}
    (hfield : field.Converts convert source result) (hlast : field.isTerminal = true → rest = [])
    (hroom : written.length + result.length ≤ room) :
    visitFields (Transfer.field convert room) (field :: fields) ⟨source ++ rest, written⟩ =
      visitFields (Transfer.field convert room) fields ⟨rest, written ++ result⟩ := by
  obtain ⟨parts, hconvert, rfl⟩ := hfield rest hlast
  have hvisit :
      Transfer.field convert room field ⟨source ++ rest, written⟩ = (.ok (), ⟨rest, written ++ parts.flatten⟩) := by
    simp only [Transfer.field, hconvert]
    exact Transfer.putAll_of_room hroom
  rw [visitFields, hvisit]

/-- Both forms of the given fields, the native value and its bytes on the wire. -/
structure CarriesAll (fields : List Field) (value wire : List UInt8) : Prop where
  toWire {room : Nat} {written : List UInt8} (hroom : written.length + wire.length ≤ room) :
    visitFields (Transfer.field Field.toWire room) fields ⟨value, written⟩ = (.ok (), ⟨[], written ++ wire⟩)
  toNative {room : Nat} {written : List UInt8} (hroom : written.length + value.length ≤ room) :
    visitFields (Transfer.field Field.toNative room) fields ⟨wire, written⟩ = (.ok (), ⟨[], written ++ value⟩)
  length_le : wire.length ≤ value.length
  length_eq : (∀ field ∈ fields, field.isTerminal = false) → wire.length = value.length

theorem CarriesAll.cons {field : Field} {fields : List Field} {native wire restNative restWire : List UInt8}
    (hfield : field.Carries native wire) (hrest : CarriesAll fields restNative restWire)
    (hnative : field.isTerminal = true → restNative = []) (hwire : field.isTerminal = true → restWire = []) :
    CarriesAll (field :: fields) (native ++ restNative) (wire ++ restWire) where
  toWire {room written} hroom := by
    rw [List.length_append] at hroom
    rw [visitFields_cons hfield.toWire hnative (by omega), hrest.toWire (by rw [List.length_append]; omega),
      List.append_assoc]
  toNative {room written} hroom := by
    rw [List.length_append] at hroom
    rw [visitFields_cons hfield.toNative hwire (by omega), hrest.toNative (by rw [List.length_append]; omega),
      List.append_assoc]
  length_le := by
    have hfront := hfield.length_le
    have hback := hrest.length_le
    simp only [List.length_append]
    omega
  length_eq hall := by
    have hfront := hfield.length_eq (hall field List.mem_cons_self)
    have hback := hrest.length_eq fun other hother => hall other (List.mem_cons_of_mem _ hother)
    simp only [List.length_append, hfront, hback]

namespace CanonicalFields

theorem append {first second : List Field} {a b : List UInt8} (hfirst : CanonicalFields first a)
    (hsecond : CanonicalFields second b) : CanonicalFields (first ++ second) (a ++ b) := by
  induction hfirst with
  | nil => exact hsecond
  | cons hfield _ ih =>
    rw [List.cons_append, List.append_assoc]
    exact .cons hfield ih

private theorem flatten {fields : List Field} {values : List (List UInt8)}
    (h : ∀ value ∈ values, CanonicalFields fields value) :
    CanonicalFields (List.replicate values.length fields).flatten values.flatten := by
  induction values with
  | nil => exact .nil
  | cons value values ih =>
    rw [List.length_cons, List.replicate_succ, List.flatten_cons, List.flatten_cons]
    exact append (h value List.mem_cons_self) (ih fun other hother => h other (List.mem_cons_of_mem _ hother))

theorem eq_nil {native : List UInt8} (h : CanonicalFields [] native) : native = [] := by
  cases h with
  | nil => rfl

/-- The wire forms of the fields stand one behind the other. -/
theorem exists_wire {fields : List Field} {native : List UInt8} (h : CanonicalFields fields native)
    (hlast : LastTerminal fields) : ∃ wire, CarriesAll fields native wire := by
  induction h with
  | nil => exact ⟨[], ⟨fun _ => by simp [visitFields], fun _ => by simp [visitFields], Nat.le_refl _, fun _ => rfl⟩⟩
  | @cons field fields native rest hfield hrest ih =>
    obtain ⟨wire, hwire⟩ := hfield.exists_wire
    obtain ⟨restWire, hrestWire⟩ := ih hlast.tail
    -- Behind a field of variable length there is nothing, and nothing becomes of it.
    have hnative (hterminal : field.isTerminal = true) : rest = [] := by
      rw [hlast.head hterminal] at hrest
      exact hrest.eq_nil
    refine ⟨wire ++ restWire, .cons hwire hrestWire hnative fun hterminal => ?_⟩
    have hle := hrestWire.length_le
    rw [hnative hterminal] at hle
    exact List.eq_nil_of_length_eq_zero (Nat.le_zero.1 hle)

/-- Without a field of variable length, values have the size of their fields. -/
theorem length_eq {fields : List Field} {native : List UInt8} (h : CanonicalFields fields native)
    (hall : ∀ field ∈ fields, field.isTerminal = false) :
    native.length = fields.foldr (fun field total => field.size + total) 0 := by
  induction h with
  | nil => rfl
  | @cons field fields native rest hfield hrest ih =>
    have hrestLength := ih fun other hother => hall other (List.mem_cons_of_mem _ hother)
    have hterminal := hall field List.mem_cons_self
    have hlength : native.length = field.size := by
      cases field with
      | optionalUid | text | bytes => cases hterminal
      | literal data => rw [show native = data from hfield]; rfl
      | byte | word | dword | uid => exact hfield
    rw [List.length_append, hlength, hrestLength, List.foldr_cons]

end CanonicalFields

/-! ### Repetitions -/

namespace Schema

variable {s : Schema} {native : List UInt8}

private theorem lastTerminal (s : Schema) : LastTerminal s.fields := lastTerminal_of_checkFields s.checked

private theorem isTerminal_of_not_isSingleton (h : s.isSingleton = false) :
    ∀ field ∈ s.fields, field.isTerminal = false := by
  intro field hfield
  rcases List.eq_nil_or_concat s.fields with hnil | ⟨front, last, hfields⟩
  · rw [hnil] at hfield
    cases hfield
  have hfront := s.lastTerminal
  rw [LastTerminal, hfields, List.concat_eq_append, List.dropLast_concat] at hfront
  rw [isSingleton, hfields] at h
  rw [hfields, List.concat_eq_append, List.mem_append, List.mem_singleton] at hfield
  rcases hfield with hfield | rfl
  · exact hfront field hfield
  · simpa using h

theorem isTerminal_of_mem_repeated (h : s.isSingleton = false) {count : Nat} :
    ∀ field ∈ (List.replicate count s.fields).flatten, field.isTerminal = false := by
  intro field hfield
  obtain ⟨fields, hfields, hfield⟩ := List.mem_flatten.1 hfield
  rw [List.eq_of_mem_replicate hfields] at hfield
  exact isTerminal_of_not_isSingleton h field hfield

theorem toWire_eq (s : Schema) (native : List UInt8) (room : Nat) :
    s.toWire native room =
      ⟨(s.walk (s.repetitions native.length room) (Transfer.field Field.toWire room) ⟨native, []⟩).2.written,
        (s.walk (s.repetitions native.length room) (Transfer.field Field.toWire room) ⟨native, []⟩).1⟩ := rfl

theorem toNative_eq (s : Schema) (wire : List UInt8) (room : Nat) :
    s.toNative wire room =
      ⟨(s.walk (s.repetitions wire.length room) (Transfer.field Field.toNative room) ⟨wire, []⟩).2.written,
        (s.walk (s.repetitions wire.length room) (Transfer.field Field.toNative room) ⟨wire, []⟩).1⟩ := rfl

/-- Canonical data are those of as many values as are converted wherever there is room for them. -/
theorem Canonical.exists_count (h : s.Canonical native) : ∃ count,
    CanonicalFields (List.replicate count s.fields).flatten native ∧
    LastTerminal (List.replicate count s.fields).flatten ∧
    (s.isSingleton = false → ∀ field ∈ (List.replicate count s.fields).flatten, field.isTerminal = false) ∧
    ∀ source destination, (s.isSingleton = false → source = native.length) → native.length ≤ destination →
      s.repetitions source destination = count := by
  cases hsingle : s.isSingleton with
  | true =>
    rw [Canonical, if_pos hsingle] at h
    have hone : (List.replicate 1 s.fields).flatten = s.fields := by simp
    refine ⟨1, ?_, ?_, fun hfalse => (Bool.noConfusion hfalse), fun source destination _ _ => ?_⟩
    · rwa [hone]
    · rw [hone]
      exact s.lastTerminal
    · rw [repetitions, if_pos hsingle]
  | false =>
    rw [Canonical, if_neg (by simp [hsingle])] at h
    obtain ⟨values, hvalues, rfl⟩ := h
    have hfixed := isTerminal_of_not_isSingleton hsingle
    have hlength : values.flatten.length = values.length * s.size := by
      rw [List.length_flatten, List.eq_replicate_of_mem (a := s.size) (l := values.map List.length)]
      · simp
      · intro length hlength
        obtain ⟨value, hvalue, rfl⟩ := List.mem_map.1 hlength
        exact (hvalues value hvalue).length_eq hfixed
    have hall (count : Nat) : ∀ field ∈ (List.replicate count s.fields).flatten, field.isTerminal = false :=
      isTerminal_of_mem_repeated hsingle
    have hlast (count : Nat) : LastTerminal (List.replicate count s.fields).flatten :=
      fun field hfield => hall count field (List.dropLast_subset _ hfield)
    by_cases hsize : s.size = 0
    · -- Values without bytes are not converted at all.
      rw [hsize, Nat.mul_zero, List.length_eq_zero_iff] at hlength
      rw [hlength]
      refine ⟨0, .nil, hlast 0, fun _ => hall 0, fun source destination _ _ => ?_⟩
      rw [repetitions, if_neg (by simp [hsingle]), if_pos hsize]
    · refine ⟨values.length, .flatten hvalues, hlast _, fun _ => hall _, fun source destination hsource hroom => ?_⟩
      have hpos : 0 < s.size := Nat.pos_of_ne_zero hsize
      have hfits : values.length ≤ destination / s.size := by
        rw [Nat.le_div_iff_mul_le hpos, ← hlength]
        exact hroom
      rw [repetitions, if_neg (by simp [hsingle]), if_neg hsize, hsource rfl, hlength, Nat.mul_div_cancel _ hpos]
      exact Nat.min_eq_left hfits

/-- Canonical native data have a wire form that fits where they do, and are read from it again. -/
theorem Canonical.exists_wire (h : s.Canonical native) : ∃ wire, wire.length ≤ native.length ∧
    (∀ room, wire.length ≤ room → native.length ≤ room → s.toWire native room = ⟨wire, .ok ()⟩) ∧
    ∀ room, native.length ≤ room → s.toNative wire room = ⟨native, .ok ()⟩ := by
  obtain ⟨count, hfields, hlast, hfixed, hcount⟩ := h.exists_count
  obtain ⟨wire, hwire⟩ := hfields.exists_wire hlast
  have hsame (hsingle : s.isSingleton = false) : wire.length = native.length := hwire.length_eq (hfixed hsingle)
  refine ⟨wire, hwire.length_le, fun room hroom hfits => ?_, fun room hroom => ?_⟩
  · rw [toWire_eq, hcount native.length room (fun _ => rfl) hfits, walk, hwire.toWire (by simpa using hroom)]
    rfl
  · rw [toNative_eq, hcount wire.length room hsame hroom, walk, hwire.toNative (by simpa using hroom)]
    rfl

/-- Canonical native data can be sent wherever there is room for as many bytes, and what is then read into a buffer of
their size are the same data. -/
theorem toNative_toWire (s : Schema) {native : List UInt8} (h : s.Canonical native) {room : Nat}
    (hroom : native.length ≤ room) :
    ∃ wire, s.toWire native room = ⟨wire, .ok ()⟩ ∧ s.toNative wire native.length = ⟨native, .ok ()⟩ := by
  obtain ⟨wire, hshort, hwire, hnative⟩ := h.exists_wire
  exact ⟨wire, hwire room (Nat.le_trans hshort hroom) hroom, hnative native.length (Nat.le_refl _)⟩

/-- A word, a constant and a padded text of two letters. -/
theorem toNative_toWire_label :
    let s : Schema := ⟨[.word, .literal [0xAB], .text], rfl⟩
    let native : List UInt8 := [0x34, 0x12, 0xAB, 0x48, 0x69] ++ List.replicate 30 0
    s.Canonical native ∧ native.length ≤ 40 ∧ s.toWire native 40 = ⟨[0x12, 0x34, 0xAB, 0x48, 0x69], .ok ()⟩ ∧
      ∃ wire, s.toWire native 40 = ⟨wire, .ok ()⟩ ∧ s.toNative wire native.length = ⟨native, .ok ()⟩ := by
  intro s native
  have hcanonical :
      CanonicalFields s.fields ([0x34, 0x12] ++ ([0xAB] ++ ([0x48, 0x69] ++ List.replicate 30 0 ++ []))) :=
    .cons rfl (.cons rfl (.cons ⟨rfl, [0x48, 0x69], 30, by decide, rfl⟩ .nil))
  exact ⟨hcanonical, by decide, rfl, toNative_toWire s hcanonical (by decide)⟩

end Schema

end LightBus
