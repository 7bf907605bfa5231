import LightBus.Proofs.Dictionary.Reachable

/-!
# The layout of the storage

The parameters with storage of their own share the arena: the first one has its first bytes, each other one the bytes
behind those of the one before, and none is free in between (`Consecutive`).  All others look into the storage of one
of them, or have none.  No call moves a value or takes storage away, so the layout is that of every dictionary that a
program can build (`Reachable.layout`), and every value lies in the arena (`Reachable.range_le`).
-/

namespace LightBus

/-- The range of a storage that belongs to its parameter alone. -/
def Storage.owned? : Storage → Option (Nat × Nat)
  | .owned start size => some (start, size)
  | .alias .. | .computed => none

namespace Dictionary

variable {κ : Type} {d d' : Dictionary κ} {pid : ParameterId} {entry : Entry κ} {start stop size i : Nat}
  {ranges : List (Nat × Nat)}

/-! ### Ranges of bytes -/

/-- The byte with the given index is one of the range. -/
def InRange (i : Nat) (range : Nat × Nat) : Prop := range.1 ≤ i ∧ i < range.1 + range.2

/-- No byte is in both ranges. -/
def Apart (a b : Nat × Nat) : Prop := ∀ i, ¬(InRange i a ∧ InRange i b)

/-- Each range begins where the one before it ends, the first one at `start`, and the last one ends at `stop`. -/
inductive Consecutive : Nat → List (Nat × Nat) → Nat → Prop
  | nil (start : Nat) : Consecutive start [] start
  | cons {start size stop : Nat} {ranges : List (Nat × Nat)} (h : Consecutive (start + size) ranges stop) :
    Consecutive start ((start, size) :: ranges) stop

namespace Consecutive

private theorem concat (h : Consecutive start ranges stop) (size : Nat) :
    Consecutive start (ranges ++ [(stop, size)]) (stop + size) := by
  induction h with
  | nil start => exact .cons (.nil _)
  | cons _ ih => exact .cons ih

private theorem start_le (h : Consecutive start ranges stop) : start ≤ stop := by
  induction h with
  | nil start => exact Nat.le_refl _
  | cons _ ih => omega

private theorem bounds (h : Consecutive start ranges stop) {range : Nat × Nat} (hrange : range ∈ ranges) :
    start ≤ range.1 ∧ range.1 + range.2 ≤ stop := by
  induction h with
  | nil start => cases hrange
  | cons hrest ih =>
    rcases List.mem_cons.1 hrange with rfl | hrange
    · exact ⟨Nat.le_refl _, hrest.start_le⟩
    · obtain ⟨hstart, hstop⟩ := ih hrange
      exact ⟨by omega, hstop⟩

theorem pairwise_apart (h : Consecutive start ranges stop) : ranges.Pairwise Apart := by
  induction h with
  | nil start => exact .nil
  | @cons start size stop ranges hrest ih =>
    refine .cons (fun range hrange i hi => ?_) ih
    have hbehind := (hrest.bounds hrange).1
    obtain ⟨⟨-, hfirst⟩, ⟨hlater, -⟩⟩ := hi
    dsimp only at hfirst
    omega

/-- The ranges leave nothing out between the first and the last of them. -/
theorem exists_inRange_iff (h : Consecutive start ranges stop) :
    (∃ range ∈ ranges, InRange i range) ↔ start ≤ i ∧ i < stop := by
  constructor
  · rintro ⟨range, hrange, hfirst, hlast⟩
    have hbounds := h.bounds hrange
    omega
  · intro hi
    induction h with
    | nil start => omega
    | @cons start size stop ranges hrest ih =>
      by_cases hfirst : i < start + size
      · exact ⟨(start, size), List.mem_cons_self, hi.1, hfirst⟩
      · obtain ⟨range, hrange, hin⟩ := ih ⟨by omega, hi.2⟩
        exact ⟨range, List.mem_cons_of_mem _ hrange, hin⟩

end Consecutive

/-! ### Places of values -/

/-- Each parameter with its storage, in the order in which they were defined. -/
def places (d : Dictionary κ) : List (ParameterId × Storage) :=
  d.entries.map fun e => (e.definition.parameterId, e.storage)

/-- The storage that parameters have of their own. -/
def ownedRanges (d : Dictionary κ) : List (Nat × Nat) := d.places.filterMap fun place => place.2.owned?

private theorem parameterIds_eq (d : Dictionary κ) : d.parameterIds = d.places.map Prod.fst := by
  rw [parameterIds, places, List.map_map]
  rfl

theorem mem_places_of_entry? (h : d.entry? pid = some entry) : (pid, entry.storage) ∈ d.places := by
  obtain ⟨hmem, rfl⟩ := mem_of_entry? h
  exact List.mem_map.2 ⟨entry, hmem, rfl⟩

private theorem not_mem_parameterIds (h : d.contains pid = false) : pid ∉ d.parameterIds := by
  intro hmem
  obtain ⟨e, he, rfl⟩ := List.mem_map.1 hmem
  rw [contains, entry?, Bool.eq_false_iff, ne_eq, List.find?_isSome] at h
  exact h ⟨e, he, beq_self_eq_true _⟩

/-- What is laid out stays where it is: the parameters, their storage, and the size of the arena. -/
structure SameLayout (d d' : Dictionary κ) : Prop where
  places : d'.places = d.places
  used : d'.used = d.used
  length_arena : d'.arena.length = d.arena.length

theorem sameLayout_updateEntry {change : Entry κ → Entry κ} (h : d.updateEntry pid change = .ok d')
    (hpid : ∀ e, (change e).definition.parameterId = e.definition.parameterId)
    (hstorage : ∀ e, (change e).storage = e.storage) :
    d.SameLayout d' := by
  unfold updateEntry at h
  split at h
  · obtain rfl := Except.ok.inj h
    refine ⟨?_, rfl, rfl⟩
    unfold Dictionary.places
    rw [List.map_map]
    refine List.map_congr_left fun e _ => ?_
    dsimp only [Function.comp]
    split
    · rw [hpid, hstorage]
    · rfl
  · cases h

theorem sameLayout_set (d : Dictionary κ) (pid : ParameterId) (data : List UInt8) :
    d.SameLayout (d.set pid data).2 := by
  obtain ⟨arena, hset, hlength⟩ := d.exists_arena_set pid data
  rw [hset]
  exact ⟨rfl, rfl, hlength⟩

theorem sameLayout_setAndQueue (d : Dictionary κ) (pid : ParameterId) (data : List UInt8) :
    d.SameLayout (d.setAndQueue pid data).2 := by
  have hset := d.sameLayout_set pid data
  unfold setAndQueue
  dsimp only
  split
  · exact ⟨hset.places, hset.used, hset.length_arena⟩
  · exact hset

theorem sameLayout_popQueued (d : Dictionary κ) : d.SameLayout d.popQueued.2 := by
  obtain ⟨hentries, harena, hused⟩ := d.popQueued_frame
  exact ⟨by rw [places, places, hentries], hused, by rw [harena]⟩

theorem Extends.places (h : d.Extends d' entry) :
    d'.places = d.places ++ [(entry.definition.parameterId, entry.storage)] := by
  rw [Dictionary.places, h.entries, List.map_append]
  rfl

private theorem Extends.ownedRanges (h : d.Extends d' entry) :
    d'.ownedRanges = d.ownedRanges ++ entry.storage.owned?.toList := by
  rw [Dictionary.ownedRanges, h.places, List.filterMap_append]
  cases howned : entry.storage.owned? with
  | none => simp [howned, Dictionary.ownedRanges]
  | some range => simp [howned, Dictionary.ownedRanges]

/-! ### The invariant -/

/-- The parameters are different and not too many.  Those with storage of their own share what is taken of the arena,
and each alias looks into the storage of one of them. -/
structure Layout (d : Dictionary κ) : Prop where
  nodup : d.parameterIds.Nodup
  length_le : d.entries.length ≤ dictionaryCapacity
  used_le : d.used ≤ d.arena.length
  consecutive : Consecutive 0 d.ownedRanges d.used
  alias_within {pid : ParameterId} {start size : Nat} (h : (pid, .alias start size) ∈ d.places) :
    ∃ owner ∈ d.ownedRanges, owner.1 ≤ start ∧ start + size ≤ owner.1 + owner.2

namespace Layout

/-- Every value lies in the storage of one parameter. -/
private theorem exists_owner (hd : d.Layout) (hentry : d.entry? pid = some entry)
    (hrange : entry.storage.range? = some (start, size)) :
    ∃ owner ∈ d.ownedRanges, owner.1 ≤ start ∧ start + size ≤ owner.1 + owner.2 := by
  have hplace := mem_places_of_entry? hentry
  cases hstorage : entry.storage with
  | computed =>
    rw [hstorage] at hrange
    cases hrange
  | «alias» =>
    rw [hstorage] at hplace hrange
    cases hrange
    exact hd.alias_within hplace
  | owned =>
    rw [hstorage] at hplace hrange
    cases hrange
    exact ⟨(start, size), List.mem_filterMap.2 ⟨_, hplace, rfl⟩, Nat.le_refl _, Nat.le_refl _⟩

private theorem of_same (hd : d.Layout) (h : d.SameLayout d') : d'.Layout := by
  have hparameters : d'.parameterIds = d.parameterIds := by rw [parameterIds_eq, parameterIds_eq, h.places]
  have hranges : d'.ownedRanges = d.ownedRanges := by rw [ownedRanges, ownedRanges, h.places]
  have hlength := congrArg List.length h.places
  rw [places, places, List.length_map, List.length_map] at hlength
  refine ⟨?_, ?_, ?_, ?_, fun {pid start size} hplace => ?_⟩
  · rw [hparameters]
    exact hd.nodup
  · rw [hlength]
    exact hd.length_le
  · rw [h.used, h.length_arena]
    exact hd.used_le
  · rw [hranges, h.used]
    exact hd.consecutive
  · rw [h.places] at hplace
    rw [hranges]
    exact hd.alias_within hplace

/-- A new parameter takes storage behind all others, or looks into that of another one. -/
private theorem extend (hd : d.Layout) (h : d.Extends d' entry) (hused : d'.used ≤ d'.arena.length)
    (hconsecutive : Consecutive 0 (d.ownedRanges ++ entry.storage.owned?.toList) d'.used)
    (halias : ∀ start size, entry.storage = .alias start size →
      ∃ owner ∈ d.ownedRanges, owner.1 ≤ start ∧ start + size ≤ owner.1 + owner.2) : d'.Layout := by
  refine ⟨?_, ?_, hused, ?_, fun {pid start size} hplace => ?_⟩
  · rw [parameterIds, h.entries, List.map_append, List.nodup_append]
    refine ⟨hd.nodup, by simp, fun other hother added hadded hsame => ?_⟩
    rw [hsame, List.mem_singleton.1 hadded] at hother
    exact not_mem_parameterIds h.fresh hother
  · have hroom := h.room
    rw [h.entries, List.length_append, List.length_singleton]
    omega
  · rw [h.ownedRanges]
    exact hconsecutive
  · have howner : ∃ owner ∈ d.ownedRanges, owner.1 ≤ start ∧ start + size ≤ owner.1 + owner.2 := by
      rw [h.places, List.mem_append, List.mem_singleton] at hplace
      rcases hplace with hplace | hplace
      · exact hd.alias_within hplace
      · exact halias start size (Prod.mk.inj hplace).2.symm
    obtain ⟨owner, hmem, hwithin⟩ := howner
    refine ⟨owner, ?_, hwithin⟩
    rw [h.ownedRanges]
    exact List.mem_append_left _ hmem

private theorem define {definition : Definition κ} {value : List UInt8} (hd : d.Layout)
    (hcall : d.define definition size value = .ok d') : d'.Layout := by
  have hextends := extends_define hcall
  obtain ⟨-, hroom, rfl⟩ := eq_of_define hcall
  refine hd.extend hextends ?_ (hd.consecutive.concat size) (fun _ _ halias => nomatch halias)
  have hused := hd.used_le
  rw [storageLeft] at hroom
  rw [used_withEntry, used_withStorage, arena_withEntry, length_arena_withStorage]
  omega

private theorem defineComputed {definition : Definition κ} (hd : d.Layout)
    (hcall : d.defineComputed definition = .ok d') :
    d'.Layout := by
  have hextends := extends_defineComputed hcall
  obtain ⟨-, rfl⟩ := eq_of_defineComputed hcall
  refine hd.extend hextends hd.used_le ?_ (fun _ _ halias => nomatch halias)
  simpa [Storage.owned?] using hd.consecutive

private theorem defineAlias {definition : Definition κ} {target : ParameterId} {offset : Nat} (hd : d.Layout)
    (hcall : d.defineAlias definition target offset = .ok d') : d'.Layout := by
  obtain ⟨hfree, seen, start, size, hseen, hrange, hoffset, rfl⟩ := eq_of_defineAlias hcall
  refine hd.extend (extends_withEntry hfree) hd.used_le ?_ fun first length halias => ?_
  · simpa [Storage.owned?] using hd.consecutive
  · -- What is seen of a part lies where the part does.
    obtain ⟨owner, howner, hfirst, hlast⟩ := hd.exists_owner hseen hrange
    obtain ⟨rfl, rfl⟩ := Storage.alias.inj halias
    exact ⟨owner, howner, by omega, by omega⟩

end Layout

theorem Reachable.layout (h : d.Reachable) : d.Layout := by
  induction h with
  | empty arena => exact ⟨.nil, Nat.zero_le _, Nat.zero_le _, .nil 0, fun hplace => nomatch hplace⟩
  | define _ hcall ih => exact ih.define hcall
  | defineAlias _ hcall ih => exact ih.defineAlias hcall
  | defineComputed _ hcall ih => exact ih.defineComputed hcall
  | setHandler _ hcall ih | setObserved _ hcall ih =>
    exact ih.of_same (sameLayout_updateEntry hcall (fun _ => rfl) (fun _ => rfl))
  | set pid data _ ih => exact ih.of_same (sameLayout_set _ pid data)
  | setAndQueue pid data _ ih => exact ih.of_same (sameLayout_setAndQueue _ pid data)
  | popQueued _ ih => exact ih.of_same (sameLayout_popQueued _)

/-- Every value lies in the arena. -/
theorem Reachable.range_le (h : d.Reachable) (hrange : d.range? pid = some (start, size)) :
    start + size ≤ d.arena.length := by
  obtain ⟨found, hentry, hrange⟩ := Option.bind_eq_some_iff.1 hrange
  obtain ⟨owner, howner, -, hlast⟩ := h.layout.exists_owner hentry hrange
  have hbounds := h.layout.consecutive.bounds howner
  have hused := h.layout.used_le
  omega

end Dictionary

end LightBus
