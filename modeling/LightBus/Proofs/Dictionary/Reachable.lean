import LightBus.Proofs.Dictionary.Registration

/-!
# Dictionaries that a program can build

A dictionary begins empty and changes through its calls only (`Dictionary.Reachable`).  A parameter is queued only
when data were stored for it, and storage is never taken away: what waits or was fetched last has storage, and no more
parameters wait than there is room for (`Reachable.queueSound`).
-/

namespace LightBus.Dictionary

variable {κ : Type} {d d' : Dictionary κ} {pid : ParameterId} {entry : Entry κ}

/-- The dictionaries that the calls lead to, from an empty one on.  A call that fails changes nothing. -/
inductive Reachable : Dictionary κ → Prop
  | empty (arena : List UInt8) : Reachable (.empty arena)
  | define {d d' : Dictionary κ} {definition : Definition κ} {size : Nat} {value : List UInt8} (hd : Reachable d)
      (hcall : d.define definition size value = .ok d') : Reachable d'
  | defineAlias {d d' : Dictionary κ} {definition : Definition κ} {target : ParameterId} {offset : Nat}
    (hd : Reachable d)
      (hcall : d.defineAlias definition target offset = .ok d') : Reachable d'
  | defineComputed {d d' : Dictionary κ} {definition : Definition κ} (hd : Reachable d)
      (hcall : d.defineComputed definition = .ok d') : Reachable d'
  | setHandler {d d' : Dictionary κ} {pid : ParameterId} {handler : Handler κ} (hd : Reachable d)
      (hcall : d.setHandler pid handler = .ok d') : Reachable d'
  | setObserved {d d' : Dictionary κ} {pid : ParameterId} {observed : Bool} (hd : Reachable d)
      (hcall : d.setObserved pid observed = .ok d') : Reachable d'
  | set {d : Dictionary κ} (pid : ParameterId) (data : List UInt8) (hd : Reachable d) : Reachable (d.set pid data).2
  | setAndQueue {d : Dictionary κ} (pid : ParameterId) (data : List UInt8) (hd : Reachable d) :
      Reachable (d.setAndQueue pid data).2
  | popQueued {d : Dictionary κ} (hd : Reachable d) : Reachable d.popQueued.2

theorem entry?_of_entries (h : d'.entries = d.entries) (pid : ParameterId) : d'.entry? pid = d.entry? pid := by
  unfold entry?
  rw [h]

theorem get?_of_same (hentries : d'.entries = d.entries) (harena : d'.arena = d.arena) (pid : ParameterId) :
    d'.get? pid = d.get? pid := by
  rw [get?, get?, range?, range?, entry?_of_entries hentries, harena]

theorem definition?_of_entry? (h : d.entry? pid = some entry) : d.definition? pid = some entry.definition := by
  rw [definition?, h, Option.map_some]

theorem contains_of_entry? (h : d.entry? pid = some entry) : d.contains pid = true := by
  rw [contains, h, Option.isSome_some]

theorem mem_of_entry? (h : d.entry? pid = some entry) : entry ∈ d.entries ∧ entry.definition.parameterId = pid := by
  unfold entry? at h
  have hfound := List.find?_some h
  exact ⟨List.mem_of_find?_eq_some h, eq_of_beq hfound⟩

theorem parameterId_of_definition? {definition : Definition κ} (h : d.definition? pid = some definition) :
    definition.parameterId = pid := by
  obtain ⟨entry, hentry, rfl⟩ := Option.map_eq_some_iff.1 h
  obtain ⟨-, hpid⟩ := mem_of_entry? hentry
  exact hpid

/-! ### Single calls -/

/-- `d'` has one more parameter than `d`, at the end, and the same messages. -/
structure Extends (d d' : Dictionary κ) (entry : Entry κ) : Prop where
  fresh : d.contains entry.definition.parameterId = false
  room : d.entries.length < dictionaryCapacity
  entries : d'.entries = d.entries ++ [entry]
  queue : d'.queue = d.queue
  lastQueued : d'.lastQueued = d.lastQueued

theorem extends_withEntry (hfree : d.checkFree entry.definition.parameterId = .ok ()) :
    d.Extends (d.withEntry entry) entry :=
  have ⟨hfresh, hroom⟩ := checkFree_eq_ok_iff.1 hfree
  ⟨hfresh, hroom, rfl, rfl, rfl⟩

theorem extends_define {definition : Definition κ} {size : Nat} {value : List UInt8}
    (h : d.define definition size value = .ok d') : d.Extends d' ⟨definition, .owned d.used size, false⟩ := by
  obtain ⟨hfree, -, rfl⟩ := eq_of_define h
  obtain ⟨hfresh, hroom⟩ := checkFree_eq_ok_iff.1 hfree
  exact ⟨hfresh, hroom, rfl, rfl, rfl⟩

theorem extends_defineComputed {definition : Definition κ} (h : d.defineComputed definition = .ok d') :
    d.Extends d' ⟨definition, .computed, false⟩ := by
  obtain ⟨hfree, rfl⟩ := eq_of_defineComputed h
  exact extends_withEntry hfree

theorem extends_defineAlias {definition : Definition κ} {target : ParameterId} {offset : Nat}
    (h : d.defineAlias definition target offset = .ok d') :
    ∃ start size, d.Extends d' ⟨definition, .alias start size, false⟩ := by
  obtain ⟨hfree, -, -, -, -, -, -, rfl⟩ := eq_of_defineAlias h
  exact ⟨_, _, extends_withEntry hfree⟩

/-- What was found before is found as it was. -/
theorem Extends.entry?_of_some (h : d.Extends d' entry) {found : Entry κ} (hfound : d.entry? pid = some found) :
    d'.entry? pid = some found := by
  unfold entry? at hfound ⊢
  rw [h.entries, List.find?_append, hfound]
  rfl

theorem entry?_map (change : Entry κ → Entry κ)
    (hpid : ∀ e, (change e).definition.parameterId = e.definition.parameterId)
    (h : d'.entries = d.entries.map change) : d'.entry? pid = (d.entry? pid).map change := by
  unfold entry?
  rw [h, List.find?_map]
  congr 2
  funext e
  simp [hpid]

theorem range?_updateEntry {change : Entry κ → Entry κ}
    (hpid : ∀ e, (change e).definition.parameterId = e.definition.parameterId)
    (hstorage : ∀ e, (change e).storage = e.storage) (h : d.updateEntry pid change = .ok d') :
    (∀ other, d'.range? other = d.range? other) ∧ d'.queue = d.queue ∧ d'.lastQueued = d.lastQueued := by
  unfold updateEntry at h
  split at h
  · obtain rfl := Except.ok.inj h
    refine ⟨fun other => ?_, rfl, rfl⟩
    have hsame (e : Entry κ) : (if e.definition.parameterId == pid then change e else e).storage = e.storage := by
      split
      · exact hstorage e
      · rfl
    rw [range?, range?, entry?_map (fun e => if e.definition.parameterId == pid then change e else e) _ rfl]
    · cases d.entry? other with
      | none => rfl
      | some e => simp only [Option.map_some, Option.bind_some, hsame]
    · intro e
      split
      · exact hpid e
      · rfl
  · cases h

/-- Storing changes only the values, which have the same room. -/
theorem exists_arena_set (d : Dictionary κ) (pid : ParameterId) (data : List UInt8) :
    ∃ arena, (d.set pid data).2 = { d with arena } ∧ arena.length = d.arena.length := by
  unfold set
  split
  · exact ⟨_, rfl, rfl⟩
  split
  · exact ⟨_, rfl, rfl⟩
  · exact ⟨_, rfl, length_overwrite ..⟩

theorem set_frame (d : Dictionary κ) (pid : ParameterId) (data : List UInt8) :
    (d.set pid data).2.entries = d.entries ∧ (d.set pid data).2.queue = d.queue ∧
      (d.set pid data).2.lastQueued = d.lastQueued := by
  obtain ⟨arena, hset, -⟩ := d.exists_arena_set pid data
  rw [hset]
  exact ⟨rfl, rfl, rfl⟩

theorem setAndQueue_frame (d : Dictionary κ) (pid : ParameterId) (data : List UInt8) :
    (d.setAndQueue pid data).2.entries = (d.set pid data).2.entries ∧
      (d.setAndQueue pid data).2.arena = (d.set pid data).2.arena ∧
      (d.setAndQueue pid data).2.used = (d.set pid data).2.used := by
  unfold setAndQueue
  dsimp only
  split
  · exact ⟨rfl, rfl, rfl⟩
  · exact ⟨rfl, rfl, rfl⟩

theorem popQueued_frame (d : Dictionary κ) :
    d.popQueued.2.entries = d.entries ∧ d.popQueued.2.arena = d.arena ∧ d.popQueued.2.used = d.used := by
  unfold popQueued
  split
  · exact ⟨rfl, rfl, rfl⟩
  · exact ⟨rfl, rfl, rfl⟩

/-- Only a parameter with storage takes data. -/
private theorem isSome_range?_of_set {data : List UInt8} (h : 0 < (d.set pid data).1) :
    (d.range? pid).isSome = true := by
  unfold set at h
  split at h
  · cases h
  rename_i e hentry
  split at h
  · cases h
  rename_i range hrange
  rw [range?, hentry, Option.bind_some, hrange]
  rfl

/-! ### Queued messages -/

/-- What can be fetched has storage, and there was room for it. -/
structure QueueSound (d : Dictionary κ) : Prop where
  length_le : d.queue.length ≤ queueCapacity
  stored {pid : ParameterId} (h : pid ∈ d.queue ∨ d.lastQueued = some pid) : (d.range? pid).isSome = true

theorem QueueSound.of_eq (hd : d.QueueSound)
    (hrange : ∀ {pid}, (d.range? pid).isSome = true → (d'.range? pid).isSome = true) (hqueue : d'.queue = d.queue)
    (hlast : d'.lastQueued = d.lastQueued) : d'.QueueSound := by
  constructor
  · rw [hqueue]
    exact hd.length_le
  · intro pid h
    rw [hqueue, hlast] at h
    exact hrange (hd.stored h)

private theorem QueueSound.extend (hd : d.QueueSound) (h : d.Extends d' entry) : d'.QueueSound := by
  refine hd.of_eq (fun {pid} hrange => ?_) h.queue h.lastQueued
  cases hfound : d.entry? pid with
  | none =>
    rw [range?, hfound] at hrange
    cases hrange
  | some found =>
    rw [range?, hfound] at hrange
    rwa [range?, h.entry?_of_some hfound]

private theorem QueueSound.update {change : Entry κ → Entry κ} (hd : d.QueueSound)
    (h : d.updateEntry pid change = .ok d') (hpid : ∀ e, (change e).definition.parameterId = e.definition.parameterId)
    (hstorage : ∀ e, (change e).storage = e.storage) :
    d'.QueueSound := by
  obtain ⟨hrange, hqueue, hlast⟩ := range?_updateEntry hpid hstorage h
  exact hd.of_eq (fun {other} hsome => by rwa [hrange other]) hqueue hlast

private theorem QueueSound.set (hd : d.QueueSound) (pid : ParameterId) (data : List UInt8) :
    (d.set pid data).2.QueueSound := by
  obtain ⟨hentries, hqueue, hlast⟩ := d.set_frame pid data
  refine hd.of_eq (fun {other} hsome => ?_) hqueue hlast
  rwa [range?, entry?_of_entries hentries]

private theorem QueueSound.setAndQueue (hd : d.QueueSound) (pid : ParameterId) (data : List UInt8) :
    (d.setAndQueue pid data).2.QueueSound := by
  have hset := hd.set pid data
  unfold Dictionary.setAndQueue
  dsimp only
  split
  · rename_i hqueued
    obtain ⟨hcount, -, hroom⟩ := hqueued
    -- Only data that were stored are queued, so there is storage for them.
    have hstored := isSome_range?_of_set hcount
    obtain ⟨hentries, -, -⟩ := d.set_frame pid data
    refine ⟨?_, fun {other} h => ?_⟩
    · rw [List.length_append, List.length_singleton]
      omega
    · have hrange : Dictionary.range? { (d.set pid data).2 with queue := (d.set pid data).2.queue ++ [pid] } other =
          (d.set pid data).2.range? other := rfl
      rw [hrange]
      rw [List.mem_append, List.mem_singleton] at h
      rcases h with (h | rfl) | h
      · exact hset.stored (.inl h)
      · rwa [range?, entry?_of_entries hentries]
      · exact hset.stored (.inr h)
  · exact hset

private theorem QueueSound.popQueued (hd : d.QueueSound) : d.popQueued.2.QueueSound := by
  unfold Dictionary.popQueued
  split
  · exact hd
  · rename_i first rest hqueue
    have hlength := hd.length_le
    rw [hqueue, List.length_cons] at hlength
    refine ⟨Nat.le_of_succ_le hlength, fun {pid} h => hd.stored (.inl ?_)⟩
    rw [hqueue]
    rcases h with h | h
    · exact List.mem_cons_of_mem _ h
    · obtain rfl := Option.some.inj h
      exact List.mem_cons_self

theorem Reachable.queueSound (h : d.Reachable) : d.QueueSound := by
  induction h with
  | empty arena => exact ⟨Nat.zero_le _, fun h => by rcases h with h | h <;> cases h⟩
  | define _ hcall ih => exact ih.extend (extends_define hcall)
  | defineAlias _ hcall ih =>
    obtain ⟨_, _, hextends⟩ := extends_defineAlias hcall
    exact ih.extend hextends
  | defineComputed _ hcall ih => exact ih.extend (extends_defineComputed hcall)
  | setHandler _ hcall ih | setObserved _ hcall ih => exact ih.update hcall (fun _ => rfl) (fun _ => rfl)
  | set pid data _ ih => exact ih.set pid data
  | setAndQueue pid data _ ih => exact ih.setAndQueue pid data
  | popQueued _ ih => exact ih.popQueued

/-- The count in a response is that of the messages that wait. -/
theorem Reachable.toNat_messageCount (h : d.Reachable) : d.messageCount.toNat = d.queue.length := by
  have hlength := h.queueSound.length_le
  rw [queueCapacity] at hlength
  rw [messageCount, UInt8.toNat_ofNat', Nat.min_eq_left (by omega)]
  omega

end LightBus.Dictionary
