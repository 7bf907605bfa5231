import LightBus.Proofs.Schema.RoundTrip

/-!
# What is read from the line

Whatever comes in, the data that are read from it are canonical (`Schema.canonical_of_toNative`), so they can be sent
and are read again as they are (`Schema.toNative_normalizes`).  Bytes that make no whole value, and those behind the
last field, are left alone.

* (one field) what a field reads is canonical for it (`Field.canonical_of_toNative`).
* (values) what a walk over fields writes is canonical for them, and never more than there is room for.
* (repetitions) canonical data of repeated fields are the values of the repetitions.
-/

namespace LightBus

/-! ### Parts of buffers -/

theorem length_of_cut? {count : Nat} {source front rest : List UInt8} (h : cut? count source = .ok (front, rest)) :
    front.length = count := by
  unfold cut? at h
  split at h
  · cases h
  · rename_i hlong
    obtain ⟨rfl, -⟩ := Prod.mk.inj (Except.ok.inj h)
    rw [List.length_take]
    omega

/-- The bytes in front of the first zero hold none. -/
theorem zero_notMem_untilZero (limit : Nat) (bytes : List UInt8) : 0 ∉ untilZero limit bytes := by
  intro hzero
  have hnonzero := List.all_eq_true.1 (List.all_takeWhile (l := bytes.take limit) (p := (· != 0))) 0 hzero
  cases hnonzero

/-! ### One field -/

namespace Field

variable {field : Field} {wire rest : List UInt8} {parts : List (List UInt8)}

/-- What a field of fixed length reads comes from a cut of its size. -/
private theorem exists_cut {count : Nat} (read : List UInt8 → List (List UInt8))
    (h : (cut? count wire).map (fun (cut, rest) => (read cut, rest)) = .ok (parts, rest)) :
    ∃ cut : List UInt8, cut.length = count ∧ parts = read cut := by
  cases hcut : cut? count wire with
  | error e =>
    rw [hcut] at h
    cases h
  | ok split =>
    rw [hcut] at h
    obtain ⟨rfl, -⟩ := Prod.mk.inj (Except.ok.inj h)
    exact ⟨split.1, length_of_cut? hcut, rfl⟩

/-- Text is cut at its first zero and padded with zeros. -/
private theorem canonical_text (wire : List UInt8) :
    Canonical .text (padZero maxTextSize (untilZero maxTextSize wire)) :=
  ⟨length_padZero (length_untilZero_le maxTextSize wire), _, _, zero_notMem_untilZero maxTextSize wire, rfl⟩

/-- What a field reads is canonical for it. -/
theorem canonical_of_toNative (h : field.toNative wire = .ok (parts, rest)) : field.Canonical parts.flatten := by
  cases field with
  | byte =>
    obtain ⟨cut, hlength, rfl⟩ := exists_cut (fun cut => [cut]) h
    exact (congrArg List.length (List.append_nil cut)).trans hlength
  | word | dword =>
    obtain ⟨cut, hlength, rfl⟩ := exists_cut (fun cut => [cut.reverse]) h
    exact (congrArg List.length (List.append_nil cut.reverse)).trans (List.length_reverse.trans hlength)
  | uid =>
    obtain ⟨cut, hlength, rfl⟩ := exists_cut (fun cut => [(cut.take 2).reverse, (cut.drop 2).reverse]) h
    show List.length _ = 6
    simp only [List.flatten_cons, List.flatten_nil, List.append_nil, List.length_append, List.length_reverse,
      List.length_take, List.length_drop]
    omega
  | optionalUid =>
    simp only [Field.toNative] at h
    show List.length _ = 6
    split at h
    · obtain ⟨rfl, -⟩ := Prod.mk.inj (Except.ok.inj h)
      rfl
    · obtain ⟨rfl, -⟩ := Prod.mk.inj (Except.ok.inj h)
      simp only [List.flatten_cons, List.flatten_nil, List.append_nil, List.length_append, List.length_reverse,
        List.length_take, List.length_drop]
      omega
  | text =>
    obtain ⟨rfl, -⟩ := Prod.mk.inj (Except.ok.inj h)
    simpa using canonical_text wire
  | bytes => trivial
  | literal data =>
    -- The literal is written whatever bytes come in its place.
    obtain ⟨cut, -, rfl⟩ := exists_cut (fun _ => [data]) h
    exact List.append_nil data

end Field

/-! ### The fields of values -/

namespace Transfer

/-- Parts that could all be written are behind what was written before, and there was room for them. -/
private theorem written_of_putAll {room : Nat} {parts : List (List UInt8)} {t after : Transfer}
    (h : putAll room parts t = (.ok (), after)) : after = { t with written := t.written ++ parts.flatten } ∧
      (t.written.length ≤ room → after.written.length ≤ room) := by
  induction parts generalizing t with
  | nil =>
    obtain rfl := (Prod.mk.inj h).2
    exact ⟨by simp, id⟩
  | cons part parts ih =>
    rw [putAll] at h
    split at h
    · rename_i hpart
      obtain ⟨hafter, hroom⟩ := ih h
      refine ⟨?_, fun _ => hroom ?_⟩
      · rw [hafter, List.flatten_cons, List.append_assoc]
      · rwa [List.length_append]
    · cases h

/-- A visit that reads a field writes data that are canonical for it. -/
private theorem canonical_of_field {room : Nat} {f : Field} {t after : Transfer}
    (h : Transfer.field Field.toNative room f t = (.ok (), after)) :
    (∃ value, f.Canonical value ∧ after.written = t.written ++ value) ∧
      (t.written.length ≤ room → after.written.length ≤ room) := by
  unfold Transfer.field at h
  split at h
  · cases h
  · rename_i parts rest hread
    obtain ⟨hafter, hroom⟩ := written_of_putAll h
    exact ⟨⟨parts.flatten, Field.canonical_of_toNative hread, congrArg written hafter⟩, hroom⟩

end Transfer

/-- The data that a walk over fields reads are canonical for them, and fit the buffer. -/
private theorem canonicalFields_of_visitFields {fields : List Field} {room : Nat} {t after : Transfer}
    (h : visitFields (Transfer.field Field.toNative room) fields t = (.ok (), after)) :
    (∃ value, CanonicalFields fields value ∧ after.written = t.written ++ value) ∧
      (t.written.length ≤ room → after.written.length ≤ room) := by
  induction fields generalizing t with
  | nil =>
    obtain rfl := (Prod.mk.inj h).2
    exact ⟨⟨[], .nil, by simp⟩, id⟩
  | cons field fields ih =>
    rw [visitFields] at h
    split at h
    · rename_i next hvisit
      obtain ⟨⟨value, hvalue, hfield⟩, hroom⟩ := Transfer.canonical_of_field hvisit
      obtain ⟨⟨rest, hrest, hfields⟩, hrestRoom⟩ := ih h
      refine ⟨⟨value ++ rest, .cons hvalue hrest, ?_⟩, fun hfits => hrestRoom (hroom hfits)⟩
      rw [hfields, hfield, List.append_assoc]
    · cases h

namespace CanonicalFields

/-- Canonical data of fields in two groups are those of the one group in front of those of the other. -/
theorem exists_append {first second : List Field} {native : List UInt8}
    (h : CanonicalFields (first ++ second) native) :
    ∃ a b, CanonicalFields first a ∧ CanonicalFields second b ∧ native = a ++ b := by
  induction first generalizing native with
  | nil => exact ⟨[], native, .nil, h, rfl⟩
  | cons field first ih =>
    cases h with
    | cons hfield hrest =>
      obtain ⟨a, b, ha, hb, rfl⟩ := ih hrest
      exact ⟨_, b, .cons hfield ha, hb, (List.append_assoc ..).symm⟩

/-- Canonical data of fields that are repeated are values of the fields. -/
private theorem exists_values {fields : List Field} {count : Nat} {native : List UInt8}
    (h : CanonicalFields (List.replicate count fields).flatten native) :
    ∃ values : List (List UInt8), (∀ value ∈ values, CanonicalFields fields value) ∧ native = values.flatten := by
  induction count generalizing native with
  | zero => exact ⟨[], by simp, h.eq_nil⟩
  | succ count ih =>
    rw [List.replicate_succ, List.flatten_cons] at h
    obtain ⟨value, rest, hvalue, hrest, rfl⟩ := h.exists_append
    obtain ⟨values, hvalues, rfl⟩ := ih hrest
    refine ⟨value :: values, fun other hother => ?_, rfl⟩
    rcases List.mem_cons.1 hother with rfl | hother
    · exact hvalue
    · exact hvalues other hother

end CanonicalFields

/-! ### Repetitions -/

namespace Schema

variable {s : Schema} {wire native : List UInt8} {room size : Nat}

private theorem visitFields_of_toNative (h : s.toNative wire room = ⟨native, .ok ()⟩) :
    ∃ after : Transfer, after.written = native ∧ visitFields (Transfer.field Field.toNative room)
      (List.replicate (s.repetitions wire.length room) s.fields).flatten ⟨wire, []⟩ = (.ok (), after) := by
  rw [toNative_eq, Conversion.mk.injEq] at h
  exact ⟨_, h.1, Prod.ext h.2 rfl⟩

/-- Data that could be read are canonical, whatever came in. -/
theorem canonical_of_toNative (h : s.toNative wire room = ⟨native, .ok ()⟩) : s.Canonical native := by
  obtain ⟨after, rfl, hvisit⟩ := visitFields_of_toNative h
  obtain ⟨⟨value, hvalue, hwritten⟩, -⟩ := canonicalFields_of_visitFields hvisit
  rw [hwritten, List.nil_append]
  unfold Canonical
  split
  · rename_i hsingle
    rw [repetitions, if_pos hsingle] at hvalue
    simpa using hvalue
  · exact hvalue.exists_values

theorem length_le_of_toNative (h : s.toNative wire room = ⟨native, .ok ()⟩) : native.length ≤ room := by
  obtain ⟨after, rfl, hvisit⟩ := visitFields_of_toNative h
  exact (canonicalFields_of_visitFields hvisit).2 (Nat.zero_le _)

/-- What was read of any bytes can be sent wherever there is room for as many, and what is read of that into a buffer
of their size are the same data. -/
theorem toNative_normalizes (h : s.toNative wire room = ⟨native, .ok ()⟩) (hsize : native.length ≤ size) :
    ∃ sent, s.toWire native size = ⟨sent, .ok ()⟩ ∧ s.toNative sent native.length = ⟨native, .ok ()⟩ := by
  obtain ⟨sent, hshort, hwire, hnative⟩ := (canonical_of_toNative h).exists_wire
  exact ⟨sent, hwire size (Nat.le_trans hshort hsize) hsize, hnative native.length (Nat.le_refl _)⟩

/-- A wrong literal, and text that goes on behind a zero, become the literal and the text up to the zero. -/
theorem toNative_normalizes_label :
    let s : Schema := ⟨[.word, .literal [0xAB], .text], rfl⟩
    let native : List UInt8 := [0x34, 0x12, 0xAB, 0x48, 0x69] ++ List.replicate 30 0
    s.toNative [0x12, 0x34, 0x00, 0x48, 0x69, 0x00, 0x7A] 40 = ⟨native, .ok ()⟩ ∧ native.length ≤ 35 ∧
      s.toWire native 35 = ⟨[0x12, 0x34, 0xAB, 0x48, 0x69], .ok ()⟩ ∧
      ∃ sent, s.toWire native 35 = ⟨sent, .ok ()⟩ ∧ s.toNative sent native.length = ⟨native, .ok ()⟩ := by
  intro s native
  have hread : s.toNative [0x12, 0x34, 0x00, 0x48, 0x69, 0x00, 0x7A] 40 = ⟨native, .ok ()⟩ := rfl
  exact ⟨hread, by decide, rfl, toNative_normalizes hread (by decide)⟩

end Schema

end LightBus
