import LightBus.Proofs.Dictionary.Layout

/-!
# Runs of calls

A program builds a dictionary by calls with any arguments, some of which fail and lead nowhere
(`Dictionary.perform_cases`).  One call leads from a reachable dictionary to a reachable one and keeps what was laid
out in front of what it adds (`Reachable.perform`), so a run of calls does (`Reachable.performAll`), and
`layout_of_calls` tells how the storage is shared after it.  The reachable dictionaries are those after runs
(`reachable_iff_exists_calls`).
-/

namespace LightBus.Dictionary

variable {κ α : Type} {d d' d'' : Dictionary κ} {entry : Entry κ} {definition : Definition κ} {target : ParameterId}
  {size offset : Nat} {value : List UInt8}

/-- A call that may change a dictionary, with its arguments. -/
inductive Call (κ : Type) where
  | define (definition : Definition κ) (size : Nat) (value : List UInt8)
  | defineAlias (definition : Definition κ) (target : ParameterId) (offset : Nat)
  | defineComputed (definition : Definition κ)
  | setHandler (pid : ParameterId) (handler : Handler κ)
  | setObserved (pid : ParameterId) (observed : Bool)
  | set (pid : ParameterId) (data : List UInt8)
  | setAndQueue (pid : ParameterId) (data : List UInt8)
  | popQueued

/-- What the call returns when it succeeds. -/
def Call.Result : Call κ → Type
  | .define .. | .defineAlias .. => List UInt8
  | .defineComputed .. | .setHandler .. | .setObserved .. => Unit
  | .set .. | .setAndQueue .. => Nat
  | .popQueued => Option ParameterId

/-- Takes the dictionary that results, if there is one. -/
def update (change : Dictionary κ → Except DictionaryError (Dictionary κ)) :
    Run (Dictionary κ) DictionaryError Unit :=
  .of fun d =>
    match change d with
    | .ok d' => (.ok (), d')
    | .error e => (.error e, d)

def Call.run : (call : Call κ) → Run (Dictionary κ) DictionaryError call.Result
  | .define definition size value => allocate definition size value
  | .defineAlias definition target offset => share definition target offset
  | .defineComputed definition => insert ⟨definition, .computed, false⟩
  | .setHandler pid handler => update fun d => d.setHandler pid handler
  | .setObserved pid observed => update fun d => d.setObserved pid observed
  | .set pid data => .step fun d => d.set pid data
  | .setAndQueue pid data => .step fun d => d.setAndQueue pid data
  | .popQueued => .step Dictionary.popQueued

/-- The dictionary after the call, whether it succeeds or fails. -/
def perform (d : Dictionary κ) (call : Call κ) : Dictionary κ := (call.run.runFrom d).2

/-- The dictionary after the calls, from the first to the last. -/
def performAll (d : Dictionary κ) (calls : List (Call κ)) : Dictionary κ := calls.foldl perform d

/-! ### One call -/

private theorem atomic_update (change : Dictionary κ → Except DictionaryError (Dictionary κ)) :
    Atomic (update change) := by
  intro d e h
  unfold update Run.of Run.runFrom at h ⊢
  dsimp only at h ⊢
  split at h
  · cases h
  · rfl

private theorem Call.atomic (call : Call κ) : Atomic call.run := by
  cases call with
  | define definition size value => exact atomic_allocate definition size value
  | defineAlias definition target offset => exact atomic_share definition target offset
  | defineComputed definition => exact atomic_insert _
  | setHandler | setObserved => exact atomic_update _
  | set | setAndQueue | popQueued => exact fun _ _ h => nomatch h

/-- A call that may fail leads to the dictionary that it returns, or nowhere. -/
theorem Atomic.cases {call : Run (Dictionary κ) DictionaryError α} (hcall : Atomic call) (d : Dictionary κ) :
    (call.runFrom d).2 = d ∨ d.after call = .ok (call.runFrom d).2 := by
  cases hresult : (call.runFrom d).1 with
  | error e => exact .inl (hcall d e hresult)
  | ok r => exact .inr (after_eq_ok_iff.2 ⟨r, Prod.ext hresult rfl⟩)

theorem update_cases (change : Dictionary κ → Except DictionaryError (Dictionary κ)) (d : Dictionary κ) :
    ((update change).runFrom d).2 = d ∨ change d = .ok ((update change).runFrom d).2 := by
  unfold update Run.of Run.runFrom
  dsimp only
  split
  · rename_i d' hchange
    exact .inr hchange
  · exact .inl rfl

/-- Where a call leads that succeeds. -/
inductive Performed (d : Dictionary κ) : Call κ → Dictionary κ → Prop
  | define {d' : Dictionary κ} {definition : Definition κ} {size : Nat} {value : List UInt8}
      (hcall : d.define definition size value = .ok d') : Performed d (.define definition size value) d'
  | defineAlias {d' : Dictionary κ} {definition : Definition κ} {target : ParameterId} {offset : Nat}
      (hcall : d.defineAlias definition target offset = .ok d') :
      Performed d (.defineAlias definition target offset) d'
  | defineComputed {d' : Dictionary κ} {definition : Definition κ} (hcall : d.defineComputed definition = .ok d') :
      Performed d (.defineComputed definition) d'
  | setHandler {d' : Dictionary κ} {pid : ParameterId} {handler : Handler κ}
      (hcall : d.setHandler pid handler = .ok d') :
      Performed d (.setHandler pid handler) d'
  | setObserved {d' : Dictionary κ} {pid : ParameterId} {observed : Bool}
      (hcall : d.setObserved pid observed = .ok d') :
      Performed d (.setObserved pid observed) d'
  | set (pid : ParameterId) (data : List UInt8) : Performed d (.set pid data) (d.set pid data).2
  | setAndQueue (pid : ParameterId) (data : List UInt8) :
      Performed d (.setAndQueue pid data) (d.setAndQueue pid data).2
  | popQueued : Performed d .popQueued d.popQueued.2

/-- A call that fails leads nowhere. -/
theorem perform_cases (d : Dictionary κ) (call : Call κ) :
    d.perform call = d ∨ d.Performed call (d.perform call) := by
  cases call with
  | define definition size value => exact ((atomic_allocate definition size value).cases d).imp_right .define
  | defineAlias definition target offset =>
    exact ((atomic_share definition target offset).cases d).imp_right .defineAlias
  | defineComputed definition => exact ((atomic_insert _).cases d).imp_right .defineComputed
  | setHandler pid handler => exact (update_cases (fun d => d.setHandler pid handler) d).imp_right .setHandler
  | setObserved pid observed => exact (update_cases (fun d => d.setObserved pid observed) d).imp_right .setObserved
  | set pid data => exact .inr (.set pid data)
  | setAndQueue pid data => exact .inr (.setAndQueue pid data)
  | popQueued => exact .inr .popQueued

/-- What is laid out stays in front of what is added. -/
structure Grows (d d' : Dictionary κ) : Prop where
  places : d.places <+: d'.places
  length_arena : d'.arena.length = d.arena.length

namespace Grows

theorem refl (d : Dictionary κ) : d.Grows d := ⟨List.prefix_refl _, rfl⟩

theorem trans (h : d.Grows d') (h' : d'.Grows d'') : d.Grows d'' :=
  ⟨h.places.trans h'.places, h'.length_arena.trans h.length_arena⟩

private theorem of_same (h : d.SameLayout d') : d.Grows d' := ⟨h.places ▸ List.prefix_refl _, h.length_arena⟩

private theorem of_extends (h : d.Extends d' entry) (harena : d'.arena.length = d.arena.length) : d.Grows d' :=
  ⟨h.places ▸ List.prefix_append _ _, harena⟩

end Grows

private theorem grows_define (h : d.define definition size value = .ok d') : d.Grows d' := by
  refine .of_extends (extends_define h) ?_
  obtain ⟨-, -, rfl⟩ := eq_of_define h
  exact length_arena_withStorage ..

private theorem grows_defineAlias (h : d.defineAlias definition target offset = .ok d') : d.Grows d' := by
  obtain ⟨start, length, hextends⟩ := extends_defineAlias h
  refine .of_extends hextends ?_
  obtain ⟨-, -, -, -, -, -, -, rfl⟩ := eq_of_defineAlias h
  rfl

private theorem grows_defineComputed (h : d.defineComputed definition = .ok d') : d.Grows d' := by
  refine .of_extends (extends_defineComputed h) ?_
  obtain ⟨-, rfl⟩ := eq_of_defineComputed h
  rfl

/-- A call that fails leads nowhere, and one that succeeds to a reachable dictionary that keeps what is laid out. -/
theorem Reachable.perform (hd : d.Reachable) (call : Call κ) :
    (d.perform call).Reachable ∧ d.Grows (d.perform call) := by
  rcases d.perform_cases call with hsame | hperformed
  · rw [hsame]
    exact ⟨hd, .refl d⟩
  generalize d.perform call = d' at hperformed ⊢
  cases hperformed with
  | define hcall => exact ⟨hd.define hcall, grows_define hcall⟩
  | defineAlias hcall => exact ⟨hd.defineAlias hcall, grows_defineAlias hcall⟩
  | defineComputed hcall => exact ⟨hd.defineComputed hcall, grows_defineComputed hcall⟩
  | setHandler hcall =>
    exact ⟨hd.setHandler hcall, .of_same (sameLayout_updateEntry hcall (fun _ => rfl) (fun _ => rfl))⟩
  | setObserved hcall =>
    exact ⟨hd.setObserved hcall, .of_same (sameLayout_updateEntry hcall (fun _ => rfl) (fun _ => rfl))⟩
  | set pid data => exact ⟨hd.set pid data, .of_same (d.sameLayout_set pid data)⟩
  | setAndQueue pid data => exact ⟨hd.setAndQueue pid data, .of_same (d.sameLayout_setAndQueue pid data)⟩
  | popQueued => exact ⟨hd.popQueued, .of_same d.sameLayout_popQueued⟩

/-! ### Runs -/

theorem Reachable.performAll (hd : d.Reachable) (calls : List (Call κ)) :
    (d.performAll calls).Reachable ∧ d.Grows (d.performAll calls) := by
  induction calls generalizing d with
  | nil => exact ⟨hd, .refl d⟩
  | cons call calls ih =>
    obtain ⟨hcall, hgrows⟩ := hd.perform call
    obtain ⟨hcalls, hmore⟩ := ih hcall
    exact ⟨hcalls, hgrows.trans hmore⟩

private theorem performAll_concat (d : Dictionary κ) (calls : List (Call κ)) (call : Call κ) :
    d.performAll (calls ++ [call]) = (d.performAll calls).perform call := by
  rw [performAll, List.foldl_append]
  rfl

private theorem perform_of_after (call : Call κ) (h : d.after call.run = .ok d') : d.perform call = d' := by
  obtain ⟨r, hrun⟩ := after_eq_ok_iff.1 h
  rw [perform, hrun]

private theorem runFrom_update {change : Dictionary κ → Except DictionaryError (Dictionary κ)}
    (h : change d = .ok d') :
    ((update change).runFrom d).2 = d' := by
  unfold update Run.of Run.runFrom
  dsimp only
  rw [h]

/-- The dictionaries that a program can build are those after its runs. -/
theorem reachable_iff_exists_calls : d.Reachable ↔ ∃ arena calls, (empty arena).performAll calls = d := by
  constructor
  · intro h
    have hnext {d d' : Dictionary κ} (hd : ∃ arena calls, (empty arena).performAll calls = d) (call : Call κ)
        (hcall : d.perform call = d') : ∃ arena calls, (empty arena).performAll calls = d' := by
      obtain ⟨arena, calls, rfl⟩ := hd
      exact ⟨arena, calls ++ [call], (performAll_concat _ calls call).trans hcall⟩
    induction h with
    | empty arena => exact ⟨arena, [], rfl⟩
    | @define _ _ definition size value _ hcall ih =>
      exact hnext ih (.define definition size value) (perform_of_after _ hcall)
    | @defineAlias _ _ definition target offset _ hcall ih =>
      exact hnext ih (.defineAlias definition target offset) (perform_of_after _ hcall)
    | @defineComputed _ _ definition _ hcall ih =>
      exact hnext ih (.defineComputed definition) (perform_of_after _ hcall)
    | @setHandler _ _ pid handler _ hcall ih => exact hnext ih (.setHandler pid handler) (runFrom_update hcall)
    | @setObserved _ _ pid observed _ hcall ih => exact hnext ih (.setObserved pid observed) (runFrom_update hcall)
    | set pid data _ ih => exact hnext ih (.set pid data) rfl
    | setAndQueue pid data _ ih => exact hnext ih (.setAndQueue pid data) rfl
    | popQueued _ ih => exact hnext ih .popQueued rfl
  · rintro ⟨arena, calls, rfl⟩
    exact ((Reachable.empty arena).performAll calls).1

/-- After any calls, the parameters are different and not too many, they and their places stay for good, those with
storage of their own divide what is taken of the arena among themselves, and each alias looks into the storage of one
of them.  A call that fails then leaves the dictionary as it is. -/
theorem layout_of_calls (arena : List UInt8) (calls : List (Call κ)) :
    let d : Dictionary κ := (empty arena).performAll calls
    d.parameterIds.Nodup ∧ d.entries.length ≤ dictionaryCapacity ∧
      (∀ more, d.places <+: (d.performAll more).places) ∧
      (Consecutive 0 d.ownedRanges d.used ∧ d.ownedRanges.Pairwise Apart ∧
        ∀ i, (∃ range ∈ d.ownedRanges, InRange i range) ↔ i < d.used) ∧
      (d.used ≤ d.arena.length ∧ d.arena.length = arena.length) ∧
      (∀ pid start size, (pid, .alias start size) ∈ d.places →
        ∃ owner ∈ d.ownedRanges, owner.1 ≤ start ∧ start + size ≤ owner.1 + owner.2) ∧
      ∀ (call : Call κ) (e : DictionaryError), (call.run.runFrom d).1 = .error e → (call.run.runFrom d).2 = d := by
  intro d
  obtain ⟨hreachable, hgrows⟩ := (Reachable.empty (κ := κ) arena).performAll calls
  have hlayout : d.Layout := hreachable.layout
  refine ⟨hlayout.nodup, hlayout.length_le, fun more => (hreachable.performAll more).2.places,
    ⟨hlayout.consecutive, hlayout.consecutive.pairwise_apart, fun i => ?_⟩, ⟨hlayout.used_le, hgrows.length_arena⟩,
    fun _ _ _ halias => hlayout.alias_within halias, fun call e h => call.atomic d e h⟩
  rw [hlayout.consecutive.exists_inRange_iff]
  exact and_iff_right (Nat.zero_le i)

end LightBus.Dictionary
