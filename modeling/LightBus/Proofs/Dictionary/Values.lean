import LightBus.Proofs.Dictionary.Layout

/-!
# Stored values

What is stored for a parameter is the value that it has then if it fills the value (`get?_set`), and the beginning of
it otherwise (`get?_set_self`).  No byte elsewhere is written (`getElem?_arena_set`), so the parameters that share no
byte with it keep their values (`get?_set_of_apart`).  A value is never longer than its storage, and text fills it.
-/

namespace LightBus.Dictionary

variable {κ : Type} {d : Dictionary κ} {pid other : ParameterId} {definition : Definition κ} {start size : Nat}
  {data : List UInt8}

theorem get?_of_range? (hrange : d.range? pid = some (start, size)) :
    d.get? pid = some (slice d.arena start size) := by
  rw [get?, hrange, Option.map_some]

theorem range?_set (d : Dictionary κ) (pid : ParameterId) (data : List UInt8) (other : ParameterId) :
    (d.set pid data).2.range? other = d.range? other := by
  rw [range?, range?, entry?_of_entries (d.set_frame pid data).1]

theorem Reachable.length_slice (hd : d.Reachable) (hrange : d.range? pid = some (start, size)) :
    (slice d.arena start size).length = size := by
  have hfit := hd.range_le hrange
  rw [slice, List.length_take, List.length_drop]
  omega

/-! ### What is written -/

theorem length_storedForm_text (size : Nat) (data : List UInt8) : (storedForm .text size data).length = size :=
  length_padZero (length_untilZero_le size data)

theorem storedForm_of_ne {dataType : DataType} (h : dataType ≠ .text) (size : Nat) (data : List UInt8) :
    storedForm dataType size data = data.take size := if_neg h

theorem length_storedForm_le (dataType : DataType) (size : Nat) (data : List UInt8) :
    (storedForm dataType size data).length ≤ size := by
  by_cases h : dataType = .text
  · rw [h]
    exact Nat.le_of_eq (length_storedForm_text size data)
  · rw [storedForm_of_ne h]
    exact List.length_take_le ..

/-- All that storing changes are the bytes of the value. -/
theorem set_eq (hdefinition : d.definition? pid = some definition) (hrange : d.range? pid = some (start, size))
    (data : List UInt8) :
    d.set pid data = (min data.length size,
      { d with arena := overwrite d.arena start (storedForm definition.description.dataType size data) }) := by
  obtain ⟨entry, hentry, rfl⟩ := Option.map_eq_some_iff.1 hdefinition
  rw [range?, hentry, Option.bind_some] at hrange
  simp only [set, hentry, hrange]

theorem set_of_no_range (hrange : d.range? pid = none) (data : List UInt8) : d.set pid data = (0, d) := by
  unfold set
  split
  · rfl
  · rename_i entry hentry
    rw [range?, hentry, Option.bind_some] at hrange
    rw [hrange]

/-- No bytes are not nothing: they clear a text. -/
theorem set_nil (hdefinition : d.definition? pid = some definition) (hrange : d.range? pid = some (start, size)) :
    d.set pid [] = (0, if definition.description.dataType = .text then
      { d with arena := overwrite d.arena start (List.replicate size 0) } else d) := by
  rw [set_eq hdefinition hrange, List.length_nil, Nat.zero_min]
  split
  · rename_i htext
    rw [storedForm, if_pos htext]
    simp [untilZero, padZero]
  · rename_i hother
    rw [storedForm_of_ne hother, List.take_nil, overwrite_nil]

/-! ### Values after one of them was stored -/

/-- What is written stands in front of what is left of the old value. -/
theorem get?_set_self (hd : d.Reachable) (hdefinition : d.definition? pid = some definition)
    (hrange : d.range? pid = some (start, size)) (data : List UInt8) :
    (d.set pid data).2.get? pid = some (storedForm definition.description.dataType size data ++
      (slice d.arena start size).drop (storedForm definition.description.dataType size data).length) := by
  have hsame := range?_set d pid data pid
  rw [hrange] at hsame
  rw [get?_of_range? hsame, set_eq hdefinition hrange]
  exact congrArg some (slice_overwrite_of_le (length_storedForm_le ..) (hd.range_le hrange))

theorem get?_set (hd : d.Reachable) (hdefinition : d.definition? pid = some definition)
    (hrange : d.range? pid = some (start, size))
    (hfull : (storedForm definition.description.dataType size data).length = size) :
    (d.set pid data).2.get? pid = some (storedForm definition.description.dataType size data) := by
  have hold : (slice d.arena start size).length ≤ size := List.length_take_le ..
  rw [get?_set_self hd hdefinition hrange, hfull, List.drop_of_length_le hold, List.append_nil]

/-- No byte outside of the value is written. -/
theorem getElem?_arena_set (hd : d.Reachable) (hrange : d.range? pid = some (start, size))
    (data : List UInt8) {i : Nat} (hi : ¬InRange i (start, size)) : (d.set pid data).2.arena[i]? = d.arena[i]? := by
  obtain ⟨entry, hentry, -⟩ := Option.bind_eq_some_iff.1 hrange
  have hdefinition := definition?_of_entry? hentry
  have hfit := hd.range_le hrange
  have hshort := length_storedForm_le entry.definition.description.dataType size data
  rw [set_eq hdefinition hrange]
  refine getElem?_overwrite_of_outside (by omega) fun hin => hi ⟨hin.1, ?_⟩
  have hlast := hin.2
  dsimp only
  omega

/-- Storing leaves alone what shares no byte with the value. -/
theorem get?_set_of_apart (hd : d.Reachable) (hrange : d.range? pid = some (start, size))
    (hapart : ∀ place, d.range? other = some place → Apart place (start, size)) (data : List UInt8) :
    (d.set pid data).2.get? other = d.get? other := by
  rw [get?, get?, range?_set]
  cases hother : d.range? other with
  | none => rfl
  | some place =>
    exact congrArg some (slice_congr fun i hfirst hlast =>
      getElem?_arena_set hd hrange data fun hin => hapart place hother i ⟨⟨hfirst, hlast⟩, hin⟩)

end LightBus.Dictionary
