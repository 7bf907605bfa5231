import LightBus.Proofs.Dictionary.Calls
import LightBus.Proofs.Dictionary.Values
import Mathlib.Data.List.Nodup
import Mathlib.Data.List.Perm.Subperm

/-!
# The queue of changes

Controllers fetch from a queue which parameters have changed.  A call leaves the queue alone, puts one parameter
behind the others, or takes the first one out (`QueueStep`).  So the parameters that were fetched in a run, followed
by those that still wait, are all that began to wait, in the order in which they did (`queue_performAll`).

A parameter waits once at most, and only if it has bytes to change (`QueueSparse`), in every dictionary that a program
can build (`Reachable.queueSparse`).  Then fewer parameters wait than the queue has places, and none is dropped:
`queue_of_calls`.
-/

namespace LightBus.Dictionary

variable {κ : Type} {d d' : Dictionary κ} {pid : ParameterId} {out : Option ParameterId} {start size : Nat}

/-! ### One call -/

/-- The parameter that the call takes out of the queue. -/
def fetched? (d : Dictionary κ) : Call κ → Option ParameterId
  | .popQueued => d.popQueued.1
  | _ => none

/-- The parameters that wait after the call, but not before it. -/
def newlyQueued (d : Dictionary κ) (call : Call κ) : List ParameterId :=
  (d.perform call).queue.filter fun pid => pid ∉ d.queue

/-- What a call from `d` to `d'` does to the queue, with the parameter that it takes out. -/
inductive QueueStep (d d' : Dictionary κ) : Option ParameterId → Prop
  | stays (hqueue : d'.queue = d.queue) (hlast : d'.lastQueued = d.lastQueued) : QueueStep d d' none
  | joins {pid : ParameterId} {start size : Nat} (hnew : pid ∉ d.queue) (hrange : d.range? pid = some (start, size))
    (hsize : 0 < size) (hqueue : d'.queue = d.queue ++ [pid]) (hlast : d'.lastQueued = d.lastQueued) :
    QueueStep d d' none
  | leaves {pid : ParameterId} (hqueue : d.queue = pid :: d'.queue) (hlast : d'.lastQueued = some pid) :
    QueueStep d d' (some pid)

/-- Data are stored only where there are bytes for them. -/
private theorem exists_range_of_set {data : List UInt8} (h : 0 < (d.set pid data).1) :
    ∃ start size, d.range? pid = some (start, size) ∧ 0 < size := by
  cases hrange : d.range? pid with
  | none =>
    rw [set_of_no_range hrange] at h
    exact absurd h (Nat.lt_irrefl 0)
  | some range =>
    obtain ⟨start, size⟩ := range
    obtain ⟨entry, hentry, -⟩ := Option.bind_eq_some_iff.1 hrange
    have hdefinition := definition?_of_entry? hentry
    rw [set_eq hdefinition hrange] at h
    exact ⟨start, size, rfl, Nat.lt_of_lt_of_le h (Nat.min_le_right _ _)⟩

private theorem Extends.queueStep {entry : Entry κ} (h : d.Extends d' entry) :
    QueueStep d d' none := .stays h.queue h.lastQueued

private theorem queueStep_updateEntry {change : Entry κ → Entry κ} (h : d.updateEntry pid change = .ok d')
    (hpid : ∀ e, (change e).definition.parameterId = e.definition.parameterId)
    (hstorage : ∀ e, (change e).storage = e.storage) : QueueStep d d' none := by
  obtain ⟨-, hqueue, hlast⟩ := range?_updateEntry hpid hstorage h
  exact .stays hqueue hlast

private theorem queueStep_setAndQueue (d : Dictionary κ) (pid : ParameterId) (data : List UInt8) :
    QueueStep d (d.setAndQueue pid data).2 none := by
  obtain ⟨-, hqueue, hlast⟩ := d.set_frame pid data
  unfold setAndQueue
  dsimp only
  split
  · rename_i hqueued
    obtain ⟨hcount, hnew, -⟩ := hqueued
    obtain ⟨start, size, hrange, hsize⟩ := exists_range_of_set hcount
    exact .joins (hqueue ▸ hnew) hrange hsize (congrArg (· ++ [pid]) hqueue) hlast
  · exact .stays hqueue hlast

private theorem queueStep_popQueued (d : Dictionary κ) : QueueStep d d.popQueued.2 d.popQueued.1 := by
  unfold popQueued
  split
  · exact .stays rfl rfl
  · rename_i pid rest hqueue
    exact .leaves hqueue rfl

private theorem queueStep_perform (d : Dictionary κ) (call : Call κ) :
    QueueStep d (d.perform call) (d.fetched? call) := by
  have hstays (hsame : d.perform call = d) : QueueStep d (d.perform call) none := by
    rw [hsame]
    exact .stays rfl rfl
  cases call with
  | define definition size value =>
    rcases (atomic_allocate definition size value).cases d with hsame | hcall
    · exact hstays hsame
    · exact (extends_define hcall).queueStep
  | defineAlias definition target offset =>
    rcases (atomic_share definition target offset).cases d with hsame | hcall
    · exact hstays hsame
    · obtain ⟨_, _, hextends⟩ := extends_defineAlias hcall
      exact hextends.queueStep
  | defineComputed definition =>
    rcases (atomic_insert _).cases d with hsame | hcall
    · exact hstays hsame
    · exact (extends_defineComputed hcall).queueStep
  | setHandler pid handler =>
    rcases update_cases (fun d => d.setHandler pid handler) d with hsame | hcall
    · exact hstays hsame
    · exact queueStep_updateEntry hcall (fun _ => rfl) (fun _ => rfl)
  | setObserved pid observed =>
    rcases update_cases (fun d => d.setObserved pid observed) d with hsame | hcall
    · exact hstays hsame
    · exact queueStep_updateEntry hcall (fun _ => rfl) (fun _ => rfl)
  | set pid data =>
    obtain ⟨-, hqueue, hlast⟩ := d.set_frame pid data
    exact .stays hqueue hlast
  | setAndQueue pid data => exact d.queueStep_setAndQueue pid data
  | popQueued => exact d.queueStep_popQueued

/-! ### Nothing is lost -/

/-- What waited and what is new are what is taken out and what waits then. -/
private theorem QueueStep.conserves (h : QueueStep d d' out) :
    d.queue ++ d'.queue.filter (fun pid => pid ∉ d.queue) = out.toList ++ d'.queue := by
  cases h with
  | stays hqueue =>
    rw [hqueue, List.filter_eq_nil_iff.2 (by simp), List.append_nil]
    rfl
  | @joins pid _ _ hnew _ _ hqueue =>
    have hadded : d'.queue.filter (fun pid => pid ∉ d.queue) = [pid] := by
      rw [hqueue, List.filter_append, List.filter_eq_nil_iff.2 (by simp), List.filter_singleton]
      simp [hnew]
    rw [hadded, hqueue]
    rfl
  | @leaves pid hqueue =>
    have hadded : d'.queue.filter (fun pid => pid ∉ d.queue) = [] := by
      rw [hqueue, List.filter_eq_nil_iff]
      intro other hother
      simp [hother]
    rw [hadded, List.append_nil, hqueue]
    rfl

private theorem QueueStep.lastQueued_eq (h : QueueStep d d' out) : d'.lastQueued = out.or d.lastQueued := by
  cases h with
  | stays _ hlast => exact hlast
  | joins _ _ _ _ hlast => exact hlast
  | leaves _ hlast => exact hlast

/-- The parameters that the calls take out of the queue, the first one first. -/
def fetched (d : Dictionary κ) : List (Call κ) → List ParameterId
  | [] => []
  | call :: rest => (d.fetched? call).toList ++ (d.perform call).fetched rest

/-- The parameters that begin to wait during the calls, in the order in which they do. -/
def queued (d : Dictionary κ) : List (Call κ) → List ParameterId
  | [] => []
  | call :: rest => d.newlyQueued call ++ (d.perform call).queued rest

/-- What waited before the calls and what began to wait during them is fetched in this order, and the rest of it
waits. -/
theorem queue_performAll (d : Dictionary κ) (calls : List (Call κ)) :
    d.queue ++ d.queued calls = d.fetched calls ++ (d.performAll calls).queue := by
  induction calls generalizing d with
  | nil => exact List.append_nil _
  | cons call rest ih =>
    have hstep := (d.queueStep_perform call).conserves
    calc d.queue ++ (d.newlyQueued call ++ (d.perform call).queued rest)
        = (d.queue ++ d.newlyQueued call) ++ (d.perform call).queued rest := (List.append_assoc ..).symm
      _ = (d.fetched? call).toList ++ ((d.perform call).queue ++ (d.perform call).queued rest) := by
        rw [newlyQueued, hstep, List.append_assoc]
      _ = (d.fetched? call).toList ++ ((d.perform call).fetched rest ++
          ((d.perform call).performAll rest).queue) := by
        rw [ih]
      _ = d.fetched (call :: rest) ++ (d.performAll (call :: rest)).queue := (List.append_assoc ..).symm

private theorem lastQueued_performAll (d : Dictionary κ) (calls : List (Call κ)) :
    (d.performAll calls).lastQueued = (d.fetched calls).getLast?.or d.lastQueued := by
  induction calls generalizing d with
  | nil => rfl
  | cons call rest ih =>
    have hstep := (d.queueStep_perform call).lastQueued_eq
    show ((d.perform call).performAll rest).lastQueued =
      ((d.fetched? call).toList ++ (d.perform call).fetched rest).getLast?.or d.lastQueued
    rw [ih, hstep, List.getLast?_append, Option.or_assoc]
    congr 2
    cases d.fetched? call <;> rfl

/-! ### Who waits -/

/-- No parameter waits twice, and each one has bytes. -/
structure QueueSparse (d : Dictionary κ) : Prop where
  nodup : d.queue.Nodup
  stored {pid : ParameterId} (h : pid ∈ d.queue) : ∃ start size, d.range? pid = some (start, size) ∧ 0 < size

private theorem Layout.range?_of_mem (hd : d.Layout) {storage : Storage} (hplace : (pid, storage) ∈ d.places) :
    d.range? pid = storage.range? := by
  obtain ⟨entry, hmem, heq⟩ := List.mem_map.1 hplace
  obtain ⟨rfl, rfl⟩ := Prod.mk.inj heq
  have hcontains : d.contains entry.definition.parameterId = true := by
    rw [contains, entry?, List.find?_isSome]
    exact ⟨entry, hmem, beq_self_eq_true _⟩
  obtain ⟨found, hfound⟩ := Option.isSome_iff_exists.1 hcontains
  obtain ⟨hfoundMem, hsame⟩ := mem_of_entry? hfound
  have hone : found = entry := List.inj_on_of_nodup_map hd.nodup hfoundMem hmem hsame
  rw [range?, hfound, Option.bind_some, hone]

/-- No call moves a value. -/
private theorem Grows.range?_eq_some (h : d.Grows d') (hd' : d'.Layout) (hrange : d.range? pid = some (start, size)) :
    d'.range? pid = some (start, size) := by
  obtain ⟨entry, hentry, hstorage⟩ := Option.bind_eq_some_iff.1 hrange
  have hplace := mem_places_of_entry? hentry
  rw [hd'.range?_of_mem (h.places.subset hplace), hstorage]

namespace QueueSparse

private theorem perform (h : d.QueueSparse) (hd : d.Reachable) (call : Call κ) : (d.perform call).QueueSparse := by
  obtain ⟨hreachable, hgrows⟩ := hd.perform call
  have hkept {pid : ParameterId} (hpid : ∃ start size, d.range? pid = some (start, size) ∧ 0 < size) :
      ∃ start size, (d.perform call).range? pid = some (start, size) ∧ 0 < size := by
    obtain ⟨start, size, hrange, hsize⟩ := hpid
    exact ⟨start, size, hgrows.range?_eq_some hreachable.layout hrange, hsize⟩
  generalize hout : d.fetched? call = out
  cases hout ▸ d.queueStep_perform call with
  | stays hqueue => exact ⟨hqueue ▸ h.nodup, fun hmem => hkept (h.stored (hqueue ▸ hmem))⟩
  | @joins pid start size hnew hrange hsize hqueue =>
    refine ⟨?_, fun {other} hmem => hkept ?_⟩
    · rw [hqueue, List.nodup_append]
      refine ⟨h.nodup, List.pairwise_singleton _ _, fun first hfirst last hlast hsame => hnew ?_⟩
      rwa [← List.mem_singleton.1 hlast, ← hsame]
    · rw [hqueue, List.mem_append, List.mem_singleton] at hmem
      rcases hmem with hold | rfl
      · exact h.stored hold
      · exact ⟨start, size, hrange, hsize⟩
  | leaves hqueue =>
    have hnodup := h.nodup
    rw [hqueue] at hnodup
    refine ⟨hnodup.of_cons, fun hmem => hkept (h.stored ?_)⟩
    rw [hqueue]
    exact List.mem_cons_of_mem _ hmem

private theorem performAll (h : d.QueueSparse) (hd : d.Reachable) (calls : List (Call κ)) :
    (d.performAll calls).QueueSparse := by
  induction calls generalizing d with
  | nil => exact h
  | cons call rest ih => exact ih (h.perform hd call) (hd.perform call).1

/-- Each parameter that waits has an entry of its own. -/
theorem length_le (h : d.QueueSparse) : d.queue.length ≤ d.entries.length := by
  have hsubset : d.queue ⊆ d.parameterIds := by
    intro pid hmem
    obtain ⟨start, size, hrange, -⟩ := h.stored hmem
    obtain ⟨entry, hentry, -⟩ := Option.bind_eq_some_iff.1 hrange
    obtain ⟨hentryMem, rfl⟩ := mem_of_entry? hentry
    exact List.mem_map_of_mem hentryMem
  have hlength := h.nodup.length_le_of_subset hsubset
  rwa [parameterIds, List.length_map] at hlength

/-- There are more places in the queue than entries. -/
theorem length_lt (h : d.QueueSparse) (hd : d.Reachable) : d.queue.length < queueCapacity := by
  have hentries := h.length_le
  have hcapacity := hd.layout.length_le
  rw [dictionaryCapacity] at hcapacity
  rw [queueCapacity]
  omega

/-- A change that was stored waits to be fetched. -/
theorem mem_setAndQueue (h : d.QueueSparse) (hd : d.Reachable) {data : List UInt8}
    (hcount : 0 < (d.setAndQueue pid data).1) :
    pid ∈ (d.setAndQueue pid data).2.queue := by
  obtain ⟨-, hqueue, -⟩ := d.set_frame pid data
  have hroom := h.length_lt hd
  unfold setAndQueue at hcount ⊢
  dsimp only at hcount ⊢
  rw [hqueue] at hcount ⊢
  by_cases hwaits : pid ∈ d.queue
  · rw [if_neg (fun hjoins => hjoins.2.1 hwaits), hqueue]
    exact hwaits
  · have hstored : 0 < (d.set pid data).1 := by
      split at hcount
      · exact hcount
      · exact hcount
    rw [if_pos ⟨hstored, hwaits, hroom⟩]
    exact List.mem_append_right _ (List.mem_singleton_self pid)

end QueueSparse

theorem Reachable.queueSparse (hd : d.Reachable) : d.QueueSparse := by
  obtain ⟨arena, calls, rfl⟩ := reachable_iff_exists_calls.1 hd
  exact QueueSparse.performAll ⟨List.nodup_nil, fun h => absurd h List.not_mem_nil⟩ (.empty arena) calls

/-! ### Runs -/

/-- After any calls, no parameter waits twice, each one that waits has bytes, and there are no more of them than
entries, so that the queue has a place for the one that is stored next.  Each stored change waits to be fetched.  What
was fetched and what still waits are the parameters in the order in which they began to wait, and the last one that
was fetched is known. -/
theorem queue_of_calls (arena : List UInt8) (calls : List (Call κ)) :
    let new : Dictionary κ := empty arena
    let d := new.performAll calls
    d.queue.Nodup ∧ (∀ pid ∈ d.queue, ∃ start size, d.range? pid = some (start, size) ∧ 0 < size) ∧
      (d.queue.length ≤ d.entries.length ∧ ∀ pid data, (d.set pid data).2.queue.length < queueCapacity) ∧
      (∀ pid data, 0 < (d.setAndQueue pid data).1 → pid ∈ (d.setAndQueue pid data).2.queue) ∧
      new.fetched calls ++ d.queue = new.queued calls ∧ d.lastQueued = (new.fetched calls).getLast? := by
  intro new d
  have hnew : new.Reachable := .empty arena
  have hd : d.Reachable := (hnew.performAll calls).1
  have hsparse : d.QueueSparse := hd.queueSparse
  refine ⟨hsparse.nodup, fun pid h => hsparse.stored h, ⟨hsparse.length_le, fun pid data => ?_⟩,
    fun pid data h => hsparse.mem_setAndQueue hd h, (new.queue_performAll calls).symm, ?_⟩
  · rw [(d.set_frame pid data).2.1]
    exact hsparse.length_lt hd
  · exact (new.lastQueued_performAll calls).trans (Option.or_none ..)

/-- Two numbers are defined.  The first one changes twice before it is fetched, and once more after that. -/
def numberChanges : List (Call Empty) :=
  let number (parameterId : ParameterId) : Call Empty := .define
    { parameterId, schema := ⟨[.dword], rfl⟩, access := .getSet, description := .ofType .unsignedDword,
      handler := .stored }
    4 []
  [number 0x8000, number 0x8001, .setAndQueue 0x8000 [1, 0, 0, 0], .setAndQueue 0x8001 [2, 0, 0, 0],
    .setAndQueue 0x8000 [3, 0, 0, 0], .popQueued, .setAndQueue 0x8000 [4, 0, 0, 0]]

theorem queue_of_calls_numberChanges :
    let new : Dictionary Empty := empty [0, 0, 0, 0, 0, 0, 0, 0]
    let d := new.performAll numberChanges
    d.queue = [0x8001, 0x8000] ∧ new.fetched numberChanges ++ d.queue = [0x8000, 0x8001, 0x8000] ∧
      d.lastQueued = some 0x8000 ∧ 0x8001 ∈ (d.setAndQueue 0x8001 [5]).2.queue := by
  obtain ⟨-, -, -, hwaits, horder, hlast⟩ := queue_of_calls [0, 0, 0, 0, 0, 0, 0, 0] numberChanges
  have hqueued : (empty [0, 0, 0, 0, 0, 0, 0, 0]).queued numberChanges = [0x8000, 0x8001, 0x8000] := by decide +kernel
  have hstored : 0 < (((empty [0, 0, 0, 0, 0, 0, 0, 0]).performAll numberChanges).setAndQueue 0x8001 [5]).1 := by
    decide +kernel
  exact ⟨by decide +kernel, horder.trans hqueued, hlast.trans (by decide +kernel), hwaits 0x8001 [5] hstored⟩

end LightBus.Dictionary
