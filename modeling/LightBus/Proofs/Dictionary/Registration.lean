import LightBus.Dictionary

/-!
# Registration

A parameter enters a dictionary in steps: the call looks whether there is a place, takes storage, adds the entry, and
writes the first value.  A call that fails has done none of that (`Atomic`): taking storage leaves the entries alone,
so the entry finds the place that the call has seen.
-/

namespace LightBus.Dictionary

variable {κ : Type} {d d' : Dictionary κ} {pid target : ParameterId} {definition : Definition κ} {size offset : Nat}
  {value : List UInt8}

/-- The dictionary with one more entry. -/
def withEntry (d : Dictionary κ) (entry : Entry κ) : Dictionary κ := { d with entries := d.entries ++ [entry] }

/-- The dictionary with `size` more bytes taken, which begin with `value` and are zero after it. -/
def withStorage (d : Dictionary κ) (size : Nat) (value : List UInt8) : Dictionary κ :=
  { d with arena := overwrite d.arena d.used (padZero size (value.take size)), used := d.used + size }

@[simp] theorem arena_withEntry (d : Dictionary κ) (entry : Entry κ) : (d.withEntry entry).arena = d.arena := rfl

@[simp] theorem used_withEntry (d : Dictionary κ) (entry : Entry κ) : (d.withEntry entry).used = d.used := rfl

@[simp] theorem used_withStorage (d : Dictionary κ) (size : Nat) (value : List UInt8) :
    (d.withStorage size value).used = d.used + size := rfl

@[simp] theorem length_arena_withStorage (d : Dictionary κ) (size : Nat) (value : List UInt8) :
    (d.withStorage size value).arena.length = d.arena.length := length_overwrite ..

/-! ### The calls step by step -/

theorem checkFree_eq_ok_iff :
    d.checkFree pid = .ok () ↔ d.contains pid = false ∧ d.entries.length < dictionaryCapacity := by
  unfold checkFree
  cases d.contains pid with
  | true => simp
  | false =>
    by_cases hfull : dictionaryCapacity ≤ d.entries.length
    · simp [hfull]
    · simpa [hfull] using Nat.lt_of_not_le hfull

private theorem runFrom_insert (entry : Entry κ) (d : Dictionary κ) :
    (insert entry).runFrom d =
      match d.checkFree entry.definition.parameterId with
      | .ok () => (.ok (), d.withEntry entry)
      | .error e => (.error e, d) := by
  simp only [insert, Run.runFrom_bind, Run.runFrom_get, Run.runFrom_ofExcept]
  cases d.checkFree entry.definition.parameterId with
  | ok done => rfl
  | error e => rfl

private theorem runFrom_allocate (definition : Definition κ) (size : Nat) (value : List UInt8) (d : Dictionary κ) :
    (allocate definition size value).runFrom d =
      match d.checkFree definition.parameterId with
      | .ok () =>
        if d.storageLeft < size then (.error .outOfStorage, d)
        else
          (.ok (slice (d.withStorage size value).arena d.used size),
            (d.withStorage size value).withEntry ⟨definition, .owned d.used size, false⟩)
      | .error e => (.error e, d) := by
  simp only [allocate, Run.runFrom_bind, Run.runFrom_get, Run.runFrom_ofExcept]
  cases hfree : d.checkFree definition.parameterId with
  | error e => rfl
  | ok done =>
    by_cases hroom : d.storageLeft < size
    · simp only [if_pos hroom, Run.runFrom_bind, Run.runFrom_throw]
    · -- The bytes are taken already, and the entries are those that were looked at.
      have hagain : checkFree { d with used := d.used + size } definition.parameterId = .ok () := hfree
      simp only [if_neg hroom, Run.runFrom_bind, Run.runFrom_pure, Run.runFrom_modify, runFrom_insert, hagain,
        Run.runFrom_get]
      rfl

private theorem runFrom_share (definition : Definition κ) (target : ParameterId) (offset : Nat) (d : Dictionary κ) :
    (share definition target offset).runFrom d =
      match d.checkFree definition.parameterId, d.entry? target with
      | .error e, _ => (.error e, d)
      | .ok (), none => (.error .unknownParameter, d)
      | .ok (), some e =>
        match e.storage.range? with
        | none => (.error .noStorage, d)
        | some (start, size) =>
          if size < offset then (.error .offsetOutOfRange, d)
          else
            (.ok (slice d.arena (start + offset) (size - offset)),
              d.withEntry ⟨definition, .alias (start + offset) (size - offset), false⟩) := by
  simp only [share, Run.runFrom_bind, Run.runFrom_get, Run.runFrom_ofExcept]
  cases hfree : d.checkFree definition.parameterId with
  | error e => rfl
  | ok done =>
    cases d.entry? target with
    | none => rfl
    | some e =>
      dsimp only
      cases e.storage.range? with
      | none => rfl
      | some range =>
        obtain ⟨start, size⟩ := range
        by_cases hoffset : size < offset
        · simp only [if_pos hoffset, Run.runFrom_bind, Run.runFrom_throw]
        · simp only [if_neg hoffset, Run.runFrom_bind, Run.runFrom_pure, runFrom_insert, hfree, Run.runFrom_get,
            arena_withEntry]

/-! ### Calls that fail -/

/-- The call leaves the dictionary as it was whenever it fails. -/
def Atomic {α : Type} (call : Run (Dictionary κ) DictionaryError α) : Prop :=
  ∀ (d : Dictionary κ) (e : DictionaryError), (call.runFrom d).1 = .error e → (call.runFrom d).2 = d

theorem atomic_insert (entry : Entry κ) : Atomic (insert entry) := by
  intro d e h
  rw [runFrom_insert] at h ⊢
  split at h
  · cases h
  · rfl

theorem atomic_allocate (definition : Definition κ) (size : Nat) (value : List UInt8) :
    Atomic (allocate definition size value) := by
  intro d e h
  rw [runFrom_allocate] at h ⊢
  split at h
  · split at h
    · rename_i hroom
      rw [if_pos hroom]
    · cases h
  · rfl

theorem atomic_share (definition : Definition κ) (target : ParameterId) (offset : Nat) :
    Atomic (share definition target offset) := by
  intro d e h
  rw [runFrom_share] at h ⊢
  split at h
  · rfl
  · rfl
  · split at h
    · rfl
    · split at h
      · rename_i hoffset
        rw [if_pos hoffset]
      · cases h

/-! ### Calls that succeed -/

theorem after_eq_ok_iff {α : Type} {call : Run (Dictionary κ) DictionaryError α} :
    d.after call = .ok d' ↔ ∃ r, call.runFrom d = (.ok r, d') := by
  unfold after
  rcases call.runFrom d with ⟨_ | r, next⟩
  · simp
  · simp

theorem eq_of_defineComputed (h : d.defineComputed definition = .ok d') :
    d.checkFree definition.parameterId = .ok () ∧ d' = d.withEntry ⟨definition, .computed, false⟩ := by
  obtain ⟨r, h⟩ := after_eq_ok_iff.1 h
  rw [runFrom_insert] at h
  split at h
  · rename_i hfree
    exact ⟨hfree, (Prod.mk.inj h).2.symm⟩
  · cases h

theorem eq_of_define (h : d.define definition size value = .ok d') :
    d.checkFree definition.parameterId = .ok () ∧ size ≤ d.storageLeft ∧
      d' = (d.withStorage size value).withEntry ⟨definition, .owned d.used size, false⟩ := by
  obtain ⟨r, h⟩ := after_eq_ok_iff.1 h
  rw [runFrom_allocate] at h
  split at h
  · rename_i hfree
    split at h
    · cases h
    · rename_i hroom
      exact ⟨hfree, Nat.le_of_not_lt hroom, (Prod.mk.inj h).2.symm⟩
  · cases h

theorem eq_of_defineAlias (h : d.defineAlias definition target offset = .ok d') :
    d.checkFree definition.parameterId = .ok () ∧ ∃ seen start size, d.entry? target = some seen ∧
      seen.storage.range? = some (start, size) ∧ offset ≤ size ∧
      d' = d.withEntry ⟨definition, .alias (start + offset) (size - offset), false⟩ := by
  obtain ⟨r, h⟩ := after_eq_ok_iff.1 h
  rw [runFrom_share] at h
  split at h
  · cases h
  · cases h
  · rename_i seen hfree hseen
    split at h
    · cases h
    · rename_i start size hrange
      split at h
      · cases h
      · rename_i hoffset
        exact ⟨hfree, seen, start, size, hseen, hrange, Nat.le_of_not_lt hoffset, (Prod.mk.inj h).2.symm⟩

end LightBus.Dictionary
