import LightBus.Proofs.Dictionary.Calls
import LightBus.Proofs.Dictionary.Values

/-!
# Values that share bytes

An alias looks into the storage of another parameter from any offset on, so the values of parameters may overlap.  A
value that is stored changes the bytes of its own range only.  All other values show the new bytes where they share
them, and are as they were elsewhere (`Overlaid`), whatever calls have laid out the ranges: `isolated_set`.
-/

namespace LightBus.Dictionary

variable {κ : Type} {d : Dictionary κ} {pid other : ParameterId} {definition : Definition κ} {start size : Nat}
  {place range : Nat × Nat}

/-- A value in its place before and after `value` was stored in a range: it shows the bytes of `value` where the place
lies in the range, and its own ones elsewhere. -/
structure Overlaid (place range : Nat × Nat) (value before now : List UInt8) : Prop where
  length_before : before.length = place.2
  length_now : now.length = place.2
  shared {j : Nat} (hj : j < place.2) (hin : InRange (place.1 + j) range) : now[j]? = value[place.1 + j - range.1]?
  own {j : Nat} (hj : j < place.2) (hout : ¬InRange (place.1 + j) range) : now[j]? = before[j]?

/-- Parts of one arena agree where they overlap. -/
private theorem overlaid_slices {arena changed : List UInt8} (hplace : place.1 + place.2 ≤ arena.length)
    (hlength : changed.length = arena.length) (houtside : ∀ i, ¬InRange i range → changed[i]? = arena[i]?) :
    Overlaid place range (slice changed range.1 range.2) (slice arena place.1 place.2)
      (slice changed place.1 place.2) where
  length_before := by
    rw [slice, List.length_take, List.length_drop]
    omega
  length_now := by
    rw [slice, List.length_take, List.length_drop]
    omega
  shared {j} hj hin := by
    obtain ⟨hfirst, hlast⟩ := hin
    have hindex : range.1 + (place.1 + j - range.1) = place.1 + j := by omega
    rw [getElem?_slice hj, getElem?_slice (by omega), hindex]
  own {j} hj hout := by
    rw [getElem?_slice hj, getElem?_slice hj, houtside _ hout]

private theorem overlaid_set (hd : d.Reachable) (hrange : d.range? pid = some (start, size)) (data : List UInt8)
    (hplace : d.range? other = some place) :
    Overlaid place (start, size) (slice (d.set pid data).2.arena start size) (slice d.arena place.1 place.2)
      (slice (d.set pid data).2.arena place.1 place.2) :=
  overlaid_slices (hd.range_le hplace) (d.sameLayout_set pid data).length_arena fun _ hout =>
    getElem?_arena_set hd hrange data hout

/-! ### The value itself -/

/-- Data that are no text replace the first bytes of the value. -/
private theorem value_of_bytes {dataType : DataType} {old : List UInt8} (htype : dataType ≠ .text)
    (hold : old.length = size) (data : List UInt8) :
    storedForm dataType size data ++ old.drop (storedForm dataType size data).length =
      data.take size ++ old.drop data.length := by
  rw [storedForm_of_ne htype, List.length_take, List.append_cancel_left_eq, List.drop_eq_drop_iff]
  omega

/-- Text takes up the whole value, with zeros behind it. -/
theorem value_of_text {old : List UInt8} (hold : old.length = size) (data : List UInt8) :
    storedForm .text size data ++ old.drop (storedForm .text size data).length =
      (data.take size).takeWhile (· != 0) ++
        List.replicate (size - ((data.take size).takeWhile (· != 0)).length) 0 := by
  rw [length_storedForm_text, List.drop_of_length_le (Nat.le_of_eq hold), List.append_nil]
  rfl

/-- Storing changes the bytes of the value and nothing else.  The value begins with the data then, as far as there is
room for them, or is the text of the data with zeros behind it.  What shares no byte with the value is as it was, and
what does shows the new bytes there. -/
theorem isolated_set (hd : d.Reachable) (hdefinition : d.definition? pid = some definition)
    (hrange : d.range? pid = some (start, size)) (data : List UInt8) :
    let after := (d.set pid data).2
    (∃ arena, after = { d with arena } ∧ arena.length = d.arena.length ∧
      ∀ i, ¬InRange i (start, size) → arena[i]? = d.arena[i]?) ∧
    (∀ other, (∀ place, d.range? other = some place → Apart place (start, size)) → after.get? other = d.get? other) ∧
    ∃ old value, (d.get? pid = some old ∧ old.length = size) ∧ (after.get? pid = some value ∧ value.length = size) ∧
      (definition.description.dataType ≠ .text → value = data.take size ++ old.drop data.length) ∧
      (definition.description.dataType = .text →
        let text := (data.take size).takeWhile (· != 0)
        value = text ++ List.replicate (size - text.length) 0) ∧
      ∀ other place, d.range? other = some place →
        ∃ before now, d.get? other = some before ∧ after.get? other = some now ∧
          Overlaid place (start, size) value before now := by
  intro after
  have hafter : after = { d with arena := after.arena } := by
    simp only [after, set_eq hdefinition hrange]
  have hkept (other : ParameterId) : after.range? other = d.range? other := range?_set d pid data other
  have hlength : after.arena.length = d.arena.length := (d.sameLayout_set pid data).length_arena
  have hold := hd.length_slice hrange
  have hvalue : after.get? pid = some (slice after.arena start size) := get?_of_range? ((hkept pid).trans hrange)
  have hself := Option.some.inj (hvalue.symm.trans (get?_set_self hd hdefinition hrange data))
  refine ⟨⟨after.arena, hafter, hlength, fun i hout => getElem?_arena_set hd hrange data hout⟩,
    fun other hapart => get?_set_of_apart hd hrange hapart data,
    slice d.arena start size, slice after.arena start size, ⟨get?_of_range? hrange, hold⟩,
    ⟨hvalue, (hd.set pid data).length_slice ((hkept pid).trans hrange)⟩, fun hbytes => ?_, fun htext => ?_,
    fun other place hplace => ⟨_, _, get?_of_range? hplace, get?_of_range? ((hkept other).trans hplace),
      overlaid_set hd hrange data hplace⟩⟩
  · rw [hself, value_of_bytes hbytes hold]
  · rw [hself, htext]
    exact value_of_text hold data

/-! ### An example -/

private theorem checkFields_bytes : checkFields 0 [.bytes] = .ok () := rfl

/-- A parameter that is sent as it is stored. -/
def plainBytes (parameterId : ParameterId) (dataType : DataType) : Definition Empty where
  parameterId
  schema := ⟨[.bytes], checkFields_bytes⟩
  access := .getSet
  description := .ofType dataType
  handler := .stored

/-- A number of four bytes, the text in its last three, what follows the first letter of the text, and another
number. -/
def nestedCalls : List (Call Empty) :=
  [.define (plainBytes 0x8000 .unsignedDword) 4 [1, 2, 3, 4], .defineAlias (plainBytes 0x8001 .text) 0x8000 1,
    .defineAlias (plainBytes 0x8002 .bitField) 0x8001 1, .define (plainBytes 0x8003 .unsignedWord) 2 [5, 6]]

/-- The text is cut at its zero.  It is seen through both other views of the bytes, and the other number stays. -/
theorem isolated_set_nested :
    let d : Dictionary Empty := (empty (List.replicate 6 0)).performAll nestedCalls
    let after := (d.set 0x8001 [0x48, 0, 0x69]).2
    after.get? 0x8001 = some [0x48, 0, 0] ∧ after.get? 0x8003 = some [5, 6] ∧
      (after.get? 0x8000 = some [1, 0x48, 0, 0] ∧ Overlaid (0, 4) (1, 3) [0x48, 0, 0] [1, 2, 3, 4] [1, 0x48, 0, 0]) ∧
      (after.get? 0x8002 = some [0, 0] ∧ Overlaid (2, 2) (1, 3) [0x48, 0, 0] [3, 4] [0, 0]) := by
  intro d after
  have hd : d.Reachable := ((Reachable.empty _).performAll nestedCalls).1
  have hrange : d.range? 0x8001 = some (1, 3) := by decide +kernel
  obtain ⟨-, hapart, old, value, -, ⟨hvalue, -⟩, -, htext, hothers⟩ := isolated_set hd rfl hrange [0x48, 0, 0x69]
  obtain rfl : value = [0x48, 0, 0] := htext rfl
  have hnumber : d.range? 0x8003 = some (4, 2) := by decide +kernel
  obtain ⟨before, now, hbefore, hnow, hwhole⟩ := hothers 0x8000 (0, 4) (by decide +kernel)
  obtain ⟨before', now', hbefore', hnow', hrest⟩ := hothers 0x8002 (2, 2) (by decide +kernel)
  obtain rfl : [1, 2, 3, 4] = before := Option.some.inj hbefore
  obtain rfl : [1, 0x48, 0, 0] = now := Option.some.inj hnow
  obtain rfl : [3, 4] = before' := Option.some.inj hbefore'
  obtain rfl : [0, 0] = now' := Option.some.inj hnow'
  refine ⟨hvalue, (hapart 0x8003 fun place hplace i hi => ?_).trans (by decide +kernel), ⟨hnow, hwhole⟩,
    ⟨hnow', hrest⟩⟩
  obtain rfl : (4, 2) = place := Option.some.inj (hnumber.symm.trans hplace)
  obtain ⟨⟨hfirst, -⟩, -, hlast⟩ := hi
  exact absurd hfirst (Nat.not_le_of_lt hlast)

end LightBus.Dictionary
