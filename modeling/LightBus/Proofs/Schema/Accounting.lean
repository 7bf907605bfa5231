import LightBus.Proofs.Schema.RoundTrip
import LightBus.Schema.InPlace

/-!
# How many bytes a conversion takes and writes

A conversion writes at the front of its buffer and leaves the rest of it alone, and it never runs out of source or of
room where the number of values was reckoned from both (`Schema.convertInto_accounts`).

* (in place) `Schema.convertInto_eq`: the buffer holds what a transfer writes, in front of what was behind it before.
* (whole values) `Field.exists_parts`: a field of fixed length takes and writes as many bytes as its size, so fields
  that fit both source and room are all converted (`Transfer.visitFields_of_fixed`).
* (sending) `Field.exists_sent`: no field is longer on the wire than in native form, so a buffer as long as the native
  data has room for all of them.
-/

namespace LightBus

/-! ### Walks -/

section Walks

variable {σ τ ε : Type} {visit : Field → σ → Except ε Unit × σ} {other : Field → τ → Except ε Unit × τ}

/-- Walks do the same if their visits do, as far as `R` tells. -/
private theorem visitFields_simulates {R : σ → τ → Prop}
    (h : ∀ f s t, R s t → (visit f s).1 = (other f t).1 ∧ R (visit f s).2 (other f t).2) (fields : List Field)
    {s : σ} {t : τ} (hR : R s t) : (visitFields visit fields s).1 = (visitFields other fields t).1 ∧
      R (visitFields visit fields s).2 (visitFields other fields t).2 := by
  induction fields generalizing s t with
  | nil => exact ⟨rfl, hR⟩
  | cons f fields ih =>
    obtain ⟨hresult, hnext⟩ := h f s t hR
    cases hvisit : visit f s with | mk result s'
    cases hother : other f t with | mk result' t'
    rw [hvisit, hother] at hresult hnext
    obtain rfl : result = result' := hresult
    rw [visitFields, visitFields, hvisit, hother]
    cases result with
    | error => exact ⟨rfl, hnext⟩
    | ok => exact ih hnext

/-- What each visit keeps, a walk keeps, and a walk fails only as its visits do. -/
private theorem visitFields_keeps {I : σ → Prop} {E : ε → Prop}
    (h : ∀ f s, I s → I (visit f s).2 ∧ ∀ e, (visit f s).1 = .error e → E e) (fields : List Field)
    {s : σ} (hs : I s) :
    I (visitFields visit fields s).2 ∧ ∀ e, (visitFields visit fields s).1 = .error e → E e := by
  induction fields generalizing s with
  | nil => exact ⟨hs, fun _ herror => nomatch herror⟩
  | cons f fields ih =>
    obtain ⟨hnext, herror⟩ := h f s hs
    cases hvisit : visit f s with | mk result s'
    rw [hvisit] at hnext herror
    rw [visitFields, hvisit]
    cases result with
    | error => exact ⟨hnext, herror⟩
    | ok => exact ih hnext

end Walks

/-! ### In place -/

namespace Cursor

variable {original : List UInt8} {c : Cursor} {t : Transfer}

/-- The cursor has written over the front of `original` what the transfer has written. -/
structure Mirrors (original : List UInt8) (c : Cursor) (t : Transfer) : Prop where
  source : c.source = t.source
  position : c.position = t.written.length
  fits : t.written.length ≤ original.length
  destination : c.destination = t.written ++ original.drop t.written.length

theorem Mirrors.length_destination (h : Mirrors original c t) : c.destination.length = original.length := by
  have hfits := h.fits
  rw [h.destination, List.length_append, List.length_drop]
  omega

/-- Bytes that are copied behind what is written already push the old bytes back. -/
private theorem overwrite_behind {written part : List UInt8} (h : written.length + part.length ≤ original.length) :
    overwrite (written ++ original.drop written.length) written.length part =
      (written ++ part) ++ original.drop (written ++ part).length := by
  have hroom : part.length ≤ (written ++ original.drop written.length).length - written.length := by
    rw [List.length_append, List.length_drop]
    omega
  rw [overwrite, List.take_left, List.take_of_length_le hroom, ← List.drop_drop, List.drop_left, List.drop_drop,
    List.length_append, List.append_assoc]

private theorem Mirrors.putAll (h : Mirrors original c t) (parts : List (List UInt8)) :
    (Cursor.putAll parts c).1 = (Transfer.putAll original.length parts t).1 ∧
      Mirrors original (Cursor.putAll parts c).2 (Transfer.putAll original.length parts t).2 := by
  induction parts generalizing c t with
  | nil => exact ⟨rfl, h⟩
  | cons part parts ih =>
    rw [Cursor.putAll, Transfer.putAll, h.length_destination, h.position]
    split
    · rename_i hpart
      refine ih ⟨h.source, ?_, ?_, ?_⟩
      · exact List.length_append.symm
      · rwa [List.length_append]
      · show overwrite c.destination t.written.length part = _
        rw [h.destination]
        exact overwrite_behind hpart
    · exact ⟨rfl, h⟩

private theorem Mirrors.field (h : Mirrors original c t) (form : Form) (f : Field) :
    (Cursor.field form f c).1 = (Transfer.field (Field.convert form) original.length f t).1 ∧
      Mirrors original (Cursor.field form f c).2 (Transfer.field (Field.convert form) original.length f t).2 := by
  rw [Cursor.field, Transfer.field, h.source]
  cases f.convert form t.source with
  | error e => exact ⟨rfl, h⟩
  | ok converted =>
    have hread : Mirrors original { c with source := converted.2 } { t with source := converted.2 } :=
      ⟨rfl, h.position, h.fits, h.destination⟩
    exact hread.putAll converted.1

end Cursor

namespace Schema

private theorem convertTo_eq (form : Form) (s : Schema) (source : List UInt8) (room : Nat) :
    s.convertTo form source room =
      ⟨(s.walk (s.repetitions source.length room) (Transfer.field (Field.convert form) room) ⟨source, []⟩).2.written,
        (s.walk (s.repetitions source.length room) (Transfer.field (Field.convert form) room) ⟨source, []⟩).1⟩ := by
  cases form with
  | wire => exact s.toWire_eq source room
  | native => exact s.toNative_eq source room

/-- A conversion in place writes the bytes of the conversion, and behind them the buffer holds what it held before. -/
theorem convertInto_eq (form : Form) (s : Schema) (source destination : List UInt8) :
    s.convertInto form source destination =
        ((s.convertTo form source destination.length).result.map fun () =>
          (s.convertTo form source destination.length).written.length,
        (s.convertTo form source destination.length).written ++
          destination.drop (s.convertTo form source destination.length).written.length) ∧
      (s.convertTo form source destination.length).written.length ≤ destination.length := by
  have hstart : Cursor.Mirrors destination ⟨source, destination, 0⟩ ⟨source, []⟩ :=
    ⟨rfl, rfl, Nat.zero_le _, rfl⟩
  obtain ⟨hresult, hmirrors⟩ := visitFields_simulates (R := Cursor.Mirrors destination)
    (fun f _ _ h => h.field form f)
    (List.replicate (s.repetitions source.length destination.length) s.fields).flatten hstart
  rw [convertTo_eq]
  refine ⟨?_, hmirrors.fits⟩
  unfold convertInto Cursor.outcome
  rw [walk, hresult, hmirrors.position, hmirrors.destination]
  rfl

end Schema

/-! ### Whole values -/

private theorem cut?_of_le {count : Nat} {source : List UInt8} (h : count ≤ source.length) :
    cut? count source = .ok (source.take count, source.drop count) := if_neg (Nat.not_lt.2 h)

/-- A field of fixed length is cut off the source, and both directions write the same parts of it, which have its
size. -/
theorem Field.exists_parts {f : Field} (hfixed : f.isTerminal = false) : ∃ parts : List UInt8 → List (List UInt8),
    (∀ form source, f.convert form source = (cut? f.size source).map fun (cut, rest) => (parts cut, rest)) ∧
    ∀ cut : List UInt8, cut.length = f.size → (parts cut).flatten.length = f.size := by
  cases f with
  | byte => exact ⟨fun cut => [cut], fun form _ => by cases form <;> rfl, fun cut hcut => by simpa using hcut⟩
  | word | dword =>
    exact ⟨fun cut => [cut.reverse], fun form _ => by cases form <;> rfl, fun cut hcut => by simpa using hcut⟩
  | uid =>
    refine ⟨fun cut => [(cut.take 2).reverse, (cut.drop 2).reverse],
      fun form _ => by cases form <;> rfl, fun cut hcut => ?_⟩
    match cut, hcut with
    | [_, _, _, _, _, _], _ => rfl
  | literal data => exact ⟨fun _ => [data], fun form _ => by cases form <;> rfl, fun _ _ => by simp [Field.size]⟩
  | optionalUid | text | bytes => cases hfixed

/-- The bytes of one value of the fields. -/
def totalSize (fields : List Field) : Nat := fields.foldr (fun field total => field.size + total) 0

@[simp] theorem totalSize_cons (f : Field) (fields : List Field) :
    totalSize (f :: fields) = f.size + totalSize fields := rfl

theorem totalSize_append (first second : List Field) :
    totalSize (first ++ second) = totalSize first + totalSize second := by
  induction first with
  | nil => exact (Nat.zero_add _).symm
  | cons f first ih => rw [List.cons_append, totalSize_cons, totalSize_cons, ih, Nat.add_assoc]

private theorem totalSize_replicate (count : Nat) (fields : List Field) :
    totalSize (List.replicate count fields).flatten = totalSize fields * count := by
  induction count with
  | zero => rfl
  | succ count ih => rw [List.replicate_succ, List.flatten_cons, totalSize_append, ih, Nat.mul_succ, Nat.add_comm]

namespace Transfer

variable {room : Nat} {t : Transfer}

/-- A field of fixed length is converted where source and room have its size. -/
private theorem field_of_fixed {f : Field} (hfixed : f.isTerminal = false) (form : Form)
    (hsource : f.size ≤ t.source.length) (hroom : t.written.length + f.size ≤ room) :
    ∃ bytes : List UInt8, bytes.length = f.size ∧
      Transfer.field (Field.convert form) room f t = (.ok (), ⟨t.source.drop f.size, t.written ++ bytes⟩) := by
  obtain ⟨parts, hconvert, hlength⟩ := Field.exists_parts hfixed
  have hcut : (parts (t.source.take f.size)).flatten.length = f.size := hlength _ (List.length_take_of_le hsource)
  refine ⟨(parts (t.source.take f.size)).flatten, hcut, ?_⟩
  rw [Transfer.field, hconvert, cut?_of_le hsource]
  exact putAll_of_room (by rwa [hcut])

/-- Fields of fixed length are all converted where source and room have their size. -/
theorem visitFields_of_fixed {fields : List Field} (hfixed : ∀ f ∈ fields, f.isTerminal = false) (form : Form)
    (hsource : totalSize fields ≤ t.source.length) (hroom : t.written.length + totalSize fields ≤ room) :
    (visitFields (Transfer.field (Field.convert form) room) fields t).1 = .ok () ∧
      (visitFields (Transfer.field (Field.convert form) room) fields t).2.written.length =
        t.written.length + totalSize fields := by
  induction fields generalizing t with
  | nil => exact ⟨rfl, rfl⟩
  | cons f fields ih =>
    rw [totalSize_cons] at hsource hroom
    have hfits : t.written.length + f.size ≤ room := by omega
    obtain ⟨bytes, hbytes, hvisit⟩ := field_of_fixed (t := t) (hfixed f List.mem_cons_self) form (by omega) hfits
    have hwritten : (t.written ++ bytes).length = t.written.length + f.size := by rw [List.length_append, hbytes]
    have hleft : totalSize fields ≤ (t.source.drop f.size).length := by
      rw [List.length_drop]
      omega
    have hspace : (t.written ++ bytes).length + totalSize fields ≤ room := by omega
    obtain ⟨hresult, hcount⟩ := ih (t := ⟨t.source.drop f.size, t.written ++ bytes⟩)
      (fun other hother => hfixed other (List.mem_cons_of_mem _ hother)) hleft hspace
    rw [visitFields, hvisit]
    refine ⟨hresult, hcount.trans ?_⟩
    rw [hwritten, totalSize_cons, Nat.add_assoc]

end Transfer

namespace Schema

variable {s : Schema}

/-- The values of a repeated schema fit both the source and the buffer. -/
private theorem size_mul_repetitions_le (hrepeated : s.isSingleton = false) (source destination : Nat) :
    s.size * s.repetitions source destination ≤ min source destination := by
  rw [repetitions, if_neg (by simp [hrepeated])]
  split
  · exact Nat.zero_le _
  · apply Nat.le_min.2
    constructor
    · exact Nat.le_trans (Nat.mul_le_mul_left _ (Nat.min_le_left ..)) (Nat.mul_div_le ..)
    · exact Nat.le_trans (Nat.mul_le_mul_left _ (Nat.min_le_right ..)) (Nat.mul_div_le ..)

/-- A repeated schema converts as many values as both source and buffer have room for. -/
private theorem convertInto_of_repeated (hrepeated : s.isSingleton = false) (form : Form)
    (source destination : List UInt8) :
    (s.convertInto form source destination).1 = .ok (s.size * s.repetitions source.length destination.length) := by
  have hsize : totalSize (List.replicate (s.repetitions source.length destination.length) s.fields).flatten =
      s.size * s.repetitions source.length destination.length := totalSize_replicate _ _
  have hfits := Nat.le_min.1 (size_mul_repetitions_le hrepeated source.length destination.length)
  rw [← hsize] at hfits ⊢
  have hroom : ([] : List UInt8).length +
      totalSize (List.replicate (s.repetitions source.length destination.length) s.fields).flatten ≤
        destination.length := by
    rw [List.length_nil, Nat.zero_add]
    exact hfits.2
  obtain ⟨hresult, hcount⟩ := Transfer.visitFields_of_fixed (t := ⟨source, []⟩)
    (isTerminal_of_mem_repeated hrepeated) form hfits.1 hroom
  rw [(s.convertInto_eq form source destination).1, convertTo_eq]
  simp only [walk, hresult, hcount, List.length_nil, Nat.zero_add]
  rfl

end Schema

/-! ### Sending -/

/-- A field takes as many bytes of native data as its size, and no more of them are sent.  Bytes without a size are
all sent. -/
theorem Field.exists_sent (f : Field) : f = .bytes ∨ ∃ parts : List UInt8 → List (List UInt8),
    (∀ source, f.toWire source = (cut? f.size source).map fun (cut, rest) => (parts cut, rest)) ∧
    ∀ cut : List UInt8, cut.length = f.size → (parts cut).flatten.length ≤ f.size := by
  cases hterminal : f.isTerminal with
  | false =>
    obtain ⟨parts, hconvert, hlength⟩ := Field.exists_parts hterminal
    exact .inr ⟨parts, hconvert .wire, fun cut hcut => Nat.le_of_eq (hlength cut hcut)⟩
  | true =>
    cases f with
    | bytes => exact .inl rfl
    | text =>
      refine .inr ⟨fun label => [untilZero maxTextSize label], fun _ => rfl, fun label _ => ?_⟩
      simpa [Field.size] using length_untilZero_le maxTextSize label
    | optionalUid =>
      refine .inr ⟨fun six => if six.all (· == 0) then [] else [(six.take 2).reverse, (six.drop 2).reverse],
        fun _ => rfl, fun six hsix => ?_⟩
      match six, hsix with
      | [_, _, _, _, _, _], _ =>
        dsimp only
        split
        · exact Nat.zero_le _
        · exact Nat.le_refl _
    | byte | word | dword | uid | literal => cases hterminal

namespace Transfer

variable {room : Nat} {t : Transfer}

/-- Parts that take the place of what was read still leave room for the rest of the source. -/
private theorem putAll_of_read {count : Nat} {parts : List (List UInt8)} {rest : List UInt8}
    (hroom : t.written.length + t.source.length ≤ room) (hread : count + rest.length = t.source.length)
    (hparts : parts.flatten.length ≤ count) :
    (putAll room parts { t with source := rest }).1 = .ok () ∧
      (putAll room parts { t with source := rest }).2.written.length +
        (putAll room parts { t with source := rest }).2.source.length ≤ room := by
  have hfits : t.written.length + parts.flatten.length ≤ room := by omega
  rw [putAll_of_room (t := { t with source := rest }) hfits]
  refine ⟨rfl, ?_⟩
  simp only [List.length_append]
  omega

/-- With room for all native data that are left, a field can only fail for want of them, and there is room for what it
leaves. -/
private theorem field_toWire_of_room (hroom : t.written.length + t.source.length ≤ room) (f : Field) :
    (Transfer.field Field.toWire room f t).2.written.length +
        (Transfer.field Field.toWire room f t).2.source.length ≤ room ∧
      ∀ e, (Transfer.field Field.toWire room f t).1 = .error e → e = .sourceTooShort := by
  rw [Transfer.field]
  rcases f.exists_sent with rfl | ⟨parts, hconvert, hlength⟩
  · have hlength : [t.source].flatten.length ≤ t.source.length := by simp
    have hread : t.source.length + ([] : List UInt8).length = t.source.length := Nat.add_zero _
    obtain ⟨hresult, hleft⟩ := putAll_of_read hroom hread hlength
    refine ⟨hleft, fun e he => ?_⟩
    cases hresult.symm.trans he
  · rw [hconvert]
    rcases Nat.lt_or_ge t.source.length f.size with hshort | hlong
    · rw [cut?, if_pos hshort]
      exact ⟨hroom, fun e he => (Except.error.inj he).symm⟩
    · have hread : f.size + (t.source.drop f.size).length = t.source.length := by
        rw [List.length_drop]
        omega
      obtain ⟨hresult, hleft⟩ := putAll_of_read hroom hread (hlength _ (List.length_take_of_le hlong))
      rw [cut?_of_le hlong]
      refine ⟨hleft, fun e he => ?_⟩
      cases hresult.symm.trans he

end Transfer

namespace Schema

variable {s : Schema}

/-- Native data that are no longer than the parameter data of a package never lack room there. -/
private theorem toPayload?_ne_destinationTooSmall {data : List UInt8} (h : data.length ≤ maxPayloadSize) :
    s.toPayload? data ≠ .error .destinationTooSmall := by
  intro hsmall
  have hroom : ([] : List UInt8).length + data.length ≤ maxPayloadSize := by simpa using h
  obtain ⟨-, herror⟩ := visitFields_keeps
    (I := fun t : Transfer => t.written.length + t.source.length ≤ maxPayloadSize)
    (E := (· = CodecError.sourceTooShort))
    (fun f _ ht => Transfer.field_toWire_of_room ht f)
    (List.replicate (s.repetitions data.length maxPayloadSize) s.fields).flatten (s := ⟨data, []⟩) hroom
  rw [toPayload?, Conversion.toExcept, toWire_eq, walk] at hsmall
  cases hresult : (visitFields (Transfer.field Field.toWire maxPayloadSize)
      (List.replicate (s.repetitions data.length maxPayloadSize) s.fields).flatten ⟨data, []⟩).1 with
  | ok =>
    rw [hresult] at hsmall
    cases hsmall
  | error e =>
    obtain rfl := herror e hresult
    rw [hresult] at hsmall
    cases hsmall

/-! ### Accounts -/

/-- The bytes that are told as written are the converted ones, and what is behind them is as it was before. -/
private theorem convertInto_frame {form : Form} {source destination : List UInt8} {count : Nat}
    (h : (s.convertInto form source destination).1 = .ok count) :
    count ≤ destination.length ∧
      (s.convertInto form source destination).2.take count = (s.convertTo form source destination.length).written ∧
      (s.convertInto form source destination).2.length = destination.length ∧
      (s.convertInto form source destination).2.drop count = destination.drop count := by
  obtain ⟨heq, hfits⟩ := s.convertInto_eq form source destination
  rw [heq] at h ⊢
  cases hresult : (s.convertTo form source destination.length).result with
  | error e =>
    rw [hresult] at h
    cases h
  | ok =>
    rw [hresult] at h
    obtain rfl := Except.ok.inj h
    refine ⟨hfits, List.take_left, ?_, List.drop_left⟩
    rw [List.length_append, List.length_drop]
    exact Nat.add_sub_of_le hfits

/-- A buffer holds the converted bytes at its front and keeps the others.  Repeated values are all converted, as many
as both source and buffer have room for, and a value that is not repeated is converted once.  Native data that are no
longer than parameter data never lack room there. -/
theorem convertInto_accounts (s : Schema) (form : Form) (source destination : List UInt8) :
    let made := s.convertTo form source destination.length
    s.convertInto form source destination = (made.result.map fun () => made.written.length,
      made.written ++ destination.drop made.written.length) ∧
    (s.isSingleton = false → 0 < s.size → (s.convertInto form source destination).1 =
      .ok (s.size * min (source.length / s.size) (destination.length / s.size))) ∧
    (s.isSingleton = false → s.size = 0 → (s.convertInto form source destination).1 = .ok 0) ∧
    (s.isSingleton = true → s.convertInto form source destination =
      Cursor.outcome (visitFields (Cursor.field form) s.fields ⟨source, destination, 0⟩)) ∧
    (∀ count, (s.convertInto form source destination).1 = .ok count →
      count ≤ destination.length ∧ (s.convertInto form source destination).2.take count = made.written ∧
        (s.convertInto form source destination).2.length = destination.length ∧
        (s.convertInto form source destination).2.drop count = destination.drop count) ∧
    (source.length ≤ maxPayloadSize → s.toPayload? source ≠ .error .destinationTooSmall) := by
  intro made
  refine ⟨(s.convertInto_eq form source destination).1, fun hrepeated hsize => ?_, fun hrepeated hsize => ?_,
    fun hsingle => ?_, fun _ => convertInto_frame, toPayload?_ne_destinationTooSmall⟩
  · rw [convertInto_of_repeated hrepeated, repetitions, if_neg (by simp [hrepeated]), if_neg (Nat.ne_of_gt hsize)]
  · rw [convertInto_of_repeated hrepeated, hsize, Nat.zero_mul]
  · rw [convertInto, walk, repetitions, if_pos hsingle, List.replicate_one, List.flatten_singleton]

/-- Two and a half words and room for one and a half, nothing to convert, and a text in front of other data. -/
theorem convertInto_accounts_words :
    let words : Schema := ⟨[.word], rfl⟩
    let label : Schema := ⟨[.byte, .text], rfl⟩
    let pairs : List UInt8 := [0x34, 0x12, 0x78, 0x56, 0x9A]
    let buffer : List UInt8 := [1, 2, 3]
    (words.isSingleton = false ∧ 0 < words.size ∧ words.convertInto .wire pairs buffer = (.ok 2, [0x12, 0x34, 3])) ∧
    (empty.isSingleton = false ∧ empty.size = 0 ∧ (empty.convertInto .native pairs buffer).1 = .ok 0) ∧
    (label.isSingleton = true ∧ label.convertInto .native [7, 0x48, 0x69] (List.replicate 34 0xEE) =
      (.ok 33, [7, 0x48, 0x69] ++ List.replicate 30 0 ++ [0xEE])) ∧
    pairs.length ≤ maxPayloadSize ∧ words.toPayload? pairs ≠ .error .destinationTooSmall := by
  intro words label pairs buffer
  obtain ⟨hbuffer, hrepeated, -, -, -, hsent⟩ := convertInto_accounts words .wire pairs buffer
  obtain ⟨-, -, hnothing, -⟩ := convertInto_accounts empty .native pairs buffer
  obtain ⟨-, -, -, hsingle, -⟩ := convertInto_accounts label .native [7, 0x48, 0x69] (List.replicate 34 0xEE)
  have hcount : (words.convertInto .wire pairs buffer).1 = .ok 2 :=
    (hrepeated rfl (by decide)).trans (congrArg Except.ok (by decide))
  have hwritten : (words.convertTo .wire pairs buffer.length).written = [0x12, 0x34] := by decide +kernel
  have hcontent : (words.convertInto .wire pairs buffer).2 = [0x12, 0x34, 3] := by
    rw [hbuffer, hwritten]
    rfl
  exact ⟨⟨rfl, by decide, Prod.ext hcount hcontent⟩, ⟨rfl, rfl, hnothing rfl rfl⟩, ⟨rfl, (hsingle rfl).trans rfl⟩,
    by decide, hsent (by decide)⟩

end Schema

end LightBus
