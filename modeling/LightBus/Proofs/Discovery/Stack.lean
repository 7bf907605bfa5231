import LightBus.Discovery.Search
import Mathlib.Algebra.Group.Nat.Defs

/-!
# Pending branches

The search keeps a stack of branches.  They lie in the address space, do not overlap, and the lower ones are above
the higher ones (`Stacked`).  A branch with `k` others below it came out of at least `k` halvings of the whole
space, so it has at most `2 ^ (48 - k)` values; this is why both halves of a branch always find a place
(`Stacked.pushSplit`).

`Course` is the loop of the search, round by round.  Every search goes through such rounds and comes to an end
(`Search.exists_course`), so what is true of all rounds is proved by induction on them.  `Search.searchAll_run` is the
rule for searches that succeed: an invariant that is `KeptByVisits` holds when no branch is left.
-/

namespace LightBus

namespace Branch

theorem contains_iff {b : Branch} {uid : Uid} :
    b.contains uid = true ↔ b.lower ≤ uid.value ∧ uid.value ≤ b.upper := by
  rw [contains, decide_eq_true_eq]

theorem isLeaf_iff {b : Branch} : b.isLeaf = true ↔ b.lower = b.upper := by
  rw [isLeaf, beq_iff_eq]

/-- The halves of a branch that is no leaf. -/
theorem split_of_not_isLeaf {b : Branch} (h : ¬b.isLeaf = true) :
    b.split = some (⟨b.lower, (b.lower + b.upper) / 2⟩, ⟨(b.lower + b.upper) / 2 + 1, b.upper⟩) := by
  rw [split, if_neg h]

/-- A value lies in one of the halves exactly if it lies in the branch. -/
theorem contains_of_split {b lower upper : Branch} (h : b.split = some (lower, upper)) (uid : Uid) :
    b.contains uid = true ↔ lower.contains uid = true ∨ upper.contains uid = true := by
  by_cases hl : b.isLeaf = true
  · rw [split, if_pos hl] at h; cases h
  · rw [split_of_not_isLeaf hl] at h
    obtain ⟨rfl, rfl⟩ := Prod.mk.inj (Option.some.inj h)
    rw [isLeaf_iff] at hl
    simp only [contains_iff]
    omega

/-- The halves lie side by side and make up the branch. -/
theorem ends_of_split {b lower upper : Branch} (h : b.split = some (lower, upper)) :
    lower.lower = b.lower ∧ upper.lower = lower.upper + 1 ∧ upper.upper = b.upper := by
  by_cases hl : b.isLeaf = true
  · rw [split, if_pos hl] at h; cases h
  · rw [split_of_not_isLeaf hl] at h
    obtain ⟨rfl, rfl⟩ := Prod.mk.inj (Option.some.inj h)
    exact ⟨rfl, rfl, rfl⟩

end Branch

/-- Pending branches, the next one first. -/
inductive Stacked : List Branch → Prop where
  | nil : Stacked []
  | cons {b : Branch} {rest : List Branch} (ordered : b.lower ≤ b.upper) (inside : b.upper ≤ maxUidValue)
      (narrow : b.upper - b.lower < 2 ^ (48 - rest.length)) (below : ∀ c ∈ rest, b.upper < c.lower)
      (others : Stacked rest) : Stacked (b :: rest)

theorem stacked_whole : Stacked [Branch.whole] :=
  .cons (Nat.zero_le _) (Nat.le_refl _) (by decide) (fun _ hc => nomatch hc) .nil

/-- Both halves of a branch that is no leaf find a place above the others. -/
theorem Stacked.pushSplit {b : Branch} {rest : List Branch} (h : Stacked (b :: rest)) (hl : ¬b.isLeaf = true) :
    ∃ lower upper, b.split = some (lower, upper) ∧ Stacked (lower :: upper :: rest) ∧
      BranchStack.pushSplit? ⟨rest⟩ b = some ⟨lower :: upper :: rest⟩ := by
  cases h with
  | cons ordered inside narrow below others =>
    have hsplit := Branch.split_of_not_isLeaf hl
    rw [Branch.isLeaf_iff] at hl
    -- a branch of two values at least is less than 48 levels deep
    have hroom : rest.length < 48 := Nat.lt_of_not_le fun hfull => by
      rw [show 48 - rest.length = 0 by omega] at narrow
      omega
    obtain ⟨k, hk⟩ : ∃ k, 48 - rest.length = k + 1 := ⟨47 - rest.length, by omega⟩
    have hk' : 48 - (rest.length + 1) = k := by omega
    rw [hk, Nat.pow_succ] at narrow
    refine ⟨_, _, hsplit, ?_, ?_⟩
    · refine .cons (by dsimp only; omega) (by dsimp only; omega) ?_ ?_ (.cons ?_ inside ?_ below others)
      · rw [List.length_cons, hk']; dsimp only; omega
      · intro c hc
        rcases List.mem_cons.1 hc with rfl | hc
        · dsimp only; omega
        · have := below c hc; dsimp only; omega
      · dsimp only; omega
      · rw [hk, Nat.pow_succ]; dsimp only; omega
    · have hfree : ¬branchStackCapacity < BranchStack.size ⟨rest⟩ + 2 := by
        rw [branchStackCapacity, BranchStack.size]; dsimp only; omega
      simp only [BranchStack.pushSplit?, hsplit, hfree, ↓reduceIte]

theorem Stacked.ordered {pending : List Branch} (h : Stacked pending) :
    ∀ b ∈ pending, b.lower ≤ b.upper ∧ b.upper ≤ maxUidValue := by
  induction h with
  | nil => exact fun _ hb => nomatch hb
  | cons ordered inside _ _ _ ih => exact List.forall_mem_cons.2 ⟨⟨ordered, inside⟩, ih⟩

theorem Stacked.ascending {pending : List Branch} (h : Stacked pending) :
    pending.Pairwise fun a b => a.upper < b.lower := by
  induction h with
  | nil => exact .nil
  | cons _ _ _ below _ ih => exact List.pairwise_cons.2 ⟨below, ih⟩

private theorem Stacked.others {b : Branch} {rest : List Branch} (h : Stacked (b :: rest)) : Stacked rest := by
  cases h; assumption

/-- What is pending after the visit of a branch, if it tells that the halves have to be searched, and if it does not.
A branch that finds no place is given up. -/
def BranchStack.afterVisit (rest : BranchStack) (branch : Branch) (again : Bool) : BranchStack :=
  if again then (rest.pushSplit? branch).getD rest else rest

/-- A visit leaves the other branches pending, and the halves of a branch that is no leaf if they have to be
searched. -/
theorem Stacked.afterVisit_cases {b : Branch} {rest : List Branch} (h : Stacked (b :: rest)) (again : Bool) :
    ((again = false ∨ b.isLeaf = true) ∧ BranchStack.afterVisit ⟨rest⟩ b again = ⟨rest⟩) ∨
      ∃ lower upper, again = true ∧ b.split = some (lower, upper) ∧ Stacked (lower :: upper :: rest) ∧
        BranchStack.afterVisit ⟨rest⟩ b again = ⟨lower :: upper :: rest⟩ := by
  cases again with
  | false => exact .inl ⟨.inl rfl, rfl⟩
  | true =>
    by_cases hl : b.isLeaf = true
    · have hnone : BranchStack.pushSplit? ⟨rest⟩ b = none := by
        rw [BranchStack.pushSplit?, Branch.split, if_pos hl]
      exact .inl ⟨.inr hl, by rw [BranchStack.afterVisit, hnone]; rfl⟩
    · obtain ⟨lower, upper, hsplit, hst, hpush⟩ := h.pushSplit hl
      exact .inr ⟨lower, upper, rfl, hsplit, hst, by rw [BranchStack.afterVisit, hpush]; rfl⟩

theorem Stacked.afterVisit {b : Branch} {rest : List Branch} (h : Stacked (b :: rest)) (again : Bool) :
    Stacked (BranchStack.afterVisit ⟨rest⟩ b again).pending := by
  obtain ⟨-, hnext⟩ | ⟨lower, upper, -, -, hst, hnext⟩ := h.afterVisit_cases again
  · rw [hnext]
    exact h.others
  · rw [hnext]
    exact hst

/-- Each visit brings the search closer to its end. -/
private theorem Stacked.pendingVisits_afterVisit {b : Branch} {rest : List Branch} (h : Stacked (b :: rest))
    (again : Bool) :
    Search.pendingVisits (BranchStack.afterVisit ⟨rest⟩ b again) < Search.pendingVisits ⟨b :: rest⟩ := by
  have hle : b.lower ≤ b.upper := by cases h; assumption
  have hp : Search.pendingVisits ⟨b :: rest⟩ = Search.visits b + Search.pendingVisits ⟨rest⟩ :=
    Search.pendingVisits_pop rfl
  have hfewer : Search.pendingVisits ⟨rest⟩ < Search.pendingVisits ⟨b :: rest⟩ := by
    rw [hp, Search.visits]
    omega
  unfold BranchStack.afterVisit
  cases again with
  | false => exact hfewer
  | true =>
    rw [if_pos rfl]
    cases hpush : BranchStack.pushSplit? ⟨rest⟩ b with
    | none => exact hfewer
    | some more => exact hp ▸ Search.pendingVisits_pushSplit hle hpush

namespace Search

variable {σ ε : Type} {config : SearchConfig} {link : ControllerLink σ ε}

/-- A visit that succeeds leaves the halves of the branch pending or gives the branch up, and the search goes on. -/
theorem searchAll_of_visit {b : Branch} {rest : List Branch} {s s' : Search σ} {again : Bool}
    (hst : Stacked (b :: rest)) (hv : (visit config link b).runFrom s = (.ok again, s')) :
    (searchAll config link ⟨b :: rest⟩).runFrom s =
      (searchAll config link (BranchStack.afterVisit ⟨rest⟩ b again)).runFrom s' := by
  have hle : ¬b.upper < b.lower := by cases hst; omega
  rw [searchAll]
  simp only [BranchStack.pop?, hle, ↓reduceDIte, Run.runFrom_bind, hv, BranchStack.afterVisit]
  cases again with
  | true =>
    simp only [↓reduceIte]
    split <;> rename_i hs <;> rw [hs] <;> rfl
  | false => rfl

/-- A visit that fails ends the search. -/
theorem searchAll_of_failure {b : Branch} {rest : List Branch} {s s' : Search σ} {e : ControllerError ε}
    (hst : Stacked (b :: rest)) (hv : (visit config link b).runFrom s = (.error e, s')) :
    (searchAll config link ⟨b :: rest⟩).runFrom s = (.error e, s') := by
  have hle : ¬b.upper < b.lower := by cases hst; omega
  rw [searchAll]
  simp only [BranchStack.pop?, hle, ↓reduceDIte, Run.runFrom_bind, hv]

/-! ### The loop -/

/-- A round of a search: the branch that is visited, those that stay pending, and the search before the visit. -/
structure Round (σ : Type) where
  branch : Branch
  rest : BranchStack
  before : Search σ

/-- The pending branches at the beginning of the round. -/
def Round.pending (round : Round σ) : List Branch := round.branch :: round.rest.pending

/-- The rounds from some pending branches on, how the search ends, and what it has become. -/
inductive Course (config : SearchConfig) (link : ControllerLink σ ε) :
    BranchStack → Search σ → List (Round σ) → Except (ControllerError ε) Unit → Search σ → Prop where
  | finished {s : Search σ} : Course config link ⟨[]⟩ s [] (.ok ()) s
  | failed {branch : Branch} {rest : List Branch} {s s' : Search σ} {e : ControllerError ε}
      (visited : (visit config link branch).runFrom s = (.error e, s')) :
      Course config link ⟨branch :: rest⟩ s [⟨branch, ⟨rest⟩, s⟩] (.error e) s'
  | further {branch : Branch} {rest : List Branch} {s s₁ s' : Search σ} {again : Bool} {rounds : List (Round σ)}
      {result : Except (ControllerError ε) Unit} (visited : (visit config link branch).runFrom s = (.ok again, s₁))
      (others : Course config link (BranchStack.afterVisit ⟨rest⟩ branch again) s₁ rounds result s') :
      Course config link ⟨branch :: rest⟩ s (⟨branch, ⟨rest⟩, s⟩ :: rounds) result s'

/-- Every search ends, whatever the link tells. -/
theorem exists_course (config : SearchConfig) (link : ControllerLink σ ε) {pending : List Branch}
    (hst : Stacked pending) (s : Search σ) :
    ∃ rounds, Course config link ⟨pending⟩ s rounds ((searchAll config link ⟨pending⟩).runFrom s).1
      ((searchAll config link ⟨pending⟩).runFrom s).2 ∧ rounds.length ≤ pendingVisits ⟨pending⟩ := by
  induction hn : pendingVisits ⟨pending⟩ using Nat.strongRecOn generalizing pending s with
  | ind n ih =>
    subst hn
    cases pending with
    | nil =>
      refine ⟨[], ?_, Nat.zero_le _⟩
      rw [searchAll]
      exact .finished
    | cons b rest =>
      rcases hv : (visit config link b).runFrom s with ⟨e | again, s₁⟩
      · rw [searchAll_of_failure hst hv]
        have hvisits : pendingVisits ⟨b :: rest⟩ = visits b + pendingVisits ⟨rest⟩ := pendingVisits_pop rfl
        refine ⟨_, .failed hv, ?_⟩
        rw [List.length_singleton, hvisits, visits]
        omega
      · rw [searchAll_of_visit hst hv]
        have hfewer := hst.pendingVisits_afterVisit again
        obtain ⟨rounds, hcourse, hcount⟩ := ih _ hfewer (hst.afterVisit again) s₁ rfl
        exact ⟨_, .further hv hcourse, Nat.succ_le_of_lt (Nat.lt_of_le_of_lt hcount hfewer)⟩

/-! ### Searches that succeed -/

/-- Every visit succeeds and keeps the invariant, of the pending branches and the search: the halves of a branch
that is split are pending after it, and else only the other branches. -/
def KeptByVisits (config : SearchConfig) (link : ControllerLink σ ε) (I : List Branch → Search σ → Prop) : Prop :=
  ∀ b rest s, Stacked (b :: rest) → I (b :: rest) s → ∃ again s', (visit config link b).runFrom s = (.ok again, s') ∧
    (again = true → ¬b.isLeaf = true ∧ ∀ lower upper, b.split = some (lower, upper) →
      lower.lower = b.lower → b.lower < upper.lower → I (lower :: upper :: rest) s') ∧
    (again = false → I rest s')

private theorem Course.of_keptByVisits {I : List Branch → Search σ → Prop} (hkept : KeptByVisits config link I)
    {stack : BranchStack} {s s' : Search σ} {rounds : List (Round σ)} {result : Except (ControllerError ε) Unit}
    (h : Course config link stack s rounds result s') (hst : Stacked stack.pending) (hI : I stack.pending s) :
    result = .ok () ∧ I [] s' := by
  induction h with
  | finished => exact ⟨rfl, hI⟩
  | @failed b rest s s' e visited =>
    obtain ⟨_, _, hv, -⟩ := hkept b rest s hst hI
    rw [visited] at hv
    cases hv
  | @further b rest s s₁ s' again rounds result visited others ih =>
    obtain ⟨_, _, hv, hagain, hdone⟩ := hkept b rest s hst hI
    rw [visited] at hv
    cases hv
    refine ih (hst.afterVisit again) ?_
    obtain ⟨hgone, hnext⟩ | ⟨lower, upper, htrue, hsplit, hst', hnext⟩ := hst.afterVisit_cases again
    · have hfalse : again = false := hgone.elim id fun hl => Bool.eq_false_iff.2 fun ha => (hagain ha).1 hl
      rw [hnext]
      exact hdone hfalse
    · obtain ⟨hfirst, hmiddle, -⟩ := Branch.ends_of_split hsplit
      have hlower := (hst'.ordered lower List.mem_cons_self).1
      rw [hnext]
      exact (hagain htrue).2 lower upper hsplit hfirst (by omega)

/-- What visits keep holds when no branch is left. -/
theorem searchAll_run {I : List Branch → Search σ → Prop} (hkept : KeptByVisits config link I)
    {pending : List Branch} {s : Search σ} (hst : Stacked pending) (h : I pending s) :
    ∃ s', (searchAll config link ⟨pending⟩).runFrom s = (.ok (), s') ∧ I [] s' := by
  obtain ⟨rounds, hcourse, -⟩ := exists_course config link hst s
  obtain ⟨hok, hI⟩ := hcourse.of_keptByVisits hkept hst h
  exact ⟨_, Prod.ext hok rfl, hI⟩

end Search

end LightBus
