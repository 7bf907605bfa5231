import LightBus.Proofs.Discovery.Stack
import LightBus.Proofs.Discovery.Visit
import LightBus.Proofs.Controller.Acceptance
import LightBus.Proofs.Port.Faults

/-!
# Rounds of a search

In each round a search takes the next pending branch and visits it.  What the link tells decides how
far the search gets and which branches it visits.  It does not decide any of the following.

* The search ends after less than `2 ^ 49` rounds (`exists_course`).
* The pending branches lie in the address space one above the other, and those that have to be searched in halves find
  a place for them (`Course.orderly`).
* The branches that are visited are nested or apart, and the search never goes back (`Orderly.nested`).
* If it ends with an error, then the last thing that the link did was to fail (`Course.linkFails`).

If each branch is answered and none is searched by name, then the leaves are all values of the address space in their
order (`Course.leaves_eq`).
-/

namespace LightBus

/-! ### Branches -/

namespace Branch

/-- All values of the branch are values of the other. -/
def Within (b outer : Branch) : Prop := outer.lower ≤ b.lower ∧ b.upper ≤ outer.upper

theorem Within.trans {a b c : Branch} (h : a.Within b) (h' : b.Within c) : a.Within c :=
  ⟨Nat.le_trans h'.1 h.1, Nat.le_trans h.2 h'.2⟩

/-- The values of the branch in their order. -/
def values (b : Branch) : List Nat := List.range' b.lower (b.upper + 1 - b.lower)

private theorem values_of_isLeaf {b : Branch} (h : b.isLeaf = true) : b.values = [b.lower] := by
  rw [isLeaf_iff] at h
  rw [values, ← h, Nat.add_sub_cancel_left]
  rfl

private theorem values_of_split {b lower upper : Branch} (h : b.split = some (lower, upper))
    (hlower : lower.lower ≤ lower.upper) (hupper : upper.lower ≤ upper.upper) :
    b.values = lower.values ++ upper.values := by
  obtain ⟨hfirst, hmiddle, hlast⟩ := ends_of_split h
  have hnext : upper.lower = lower.lower + (lower.upper + 1 - lower.lower) := by omega
  have hcount : b.upper + 1 - b.lower = (lower.upper + 1 - lower.lower) + (upper.upper + 1 - upper.lower) := by omega
  rw [values, values, values, hnext, List.range'_append_1, ← hnext, ← hcount, hfirst]

private theorem values_whole : whole.values = List.range (maxUidValue + 1) := by
  rw [values, List.range_eq_range']
  rfl

end Branch

/-! ### The stack after a visit -/

/-- What is pending after the visit of a branch was pending before, or is a part of it. -/
private theorem Stacked.within_of_afterVisit {b c : Branch} {rest : List Branch} {again : Bool}
    (h : Stacked (b :: rest)) (hc : c ∈ (BranchStack.afterVisit ⟨rest⟩ b again).pending) : c ∈ rest ∨ c.Within b := by
  obtain ⟨-, hnext⟩ | ⟨lower, upper, -, hsplit, hst, hnext⟩ := h.afterVisit_cases again
  · rw [hnext] at hc
    exact .inl hc
  · rw [hnext] at hc
    obtain ⟨hfirst, hmiddle, hlast⟩ := Branch.ends_of_split hsplit
    have hlower := hst.ordered lower (by simp)
    have hupper := hst.ordered upper (by simp)
    rcases List.mem_cons.1 hc with rfl | hc
    · exact .inr ⟨by omega, by omega⟩
    · rcases List.mem_cons.1 hc with rfl | hc
      · exact .inr ⟨by omega, by omega⟩
      · exact .inl hc

private theorem BranchStack.size_afterVisit (rest : BranchStack) (b : Branch) (again : Bool)
    (h : rest.size ≤ branchStackCapacity) :
    (rest.afterVisit b again).size ≤ branchStackCapacity := by
  unfold afterVisit
  cases again with
  | false => exact h
  | true =>
    rw [if_pos rfl]
    cases hpush : rest.pushSplit? b with
    | none => exact h
    | some more =>
      unfold pushSplit? at hpush
      split at hpush
      · cases hpush
      · split at hpush
        · cases hpush
        · obtain rfl := Option.some.inj hpush
          rename_i hroom
          exact Nat.le_of_not_lt hroom

namespace Search

variable {σ ε α β : Type} {config : SearchConfig} {link : ControllerLink σ ε} {stack : BranchStack} {s s' : Search σ}
  {rounds : List (Round σ)} {result : Except (ControllerError ε) Unit}

/-! ### Pending branches in all rounds -/

/-- What is true of the pending branches whether the halves of the next one have to be searched or not. -/
private theorem Course.forall_pending {I : List Branch → Prop}
    (hstep : ∀ b rest again, I (b :: rest) → I (BranchStack.afterVisit ⟨rest⟩ b again).pending)
    (h : Course config link stack s rounds result s') (hI : I stack.pending) : ∀ round ∈ rounds, I round.pending := by
  induction h with
  | finished => exact fun _ hr => nomatch hr
  | failed visited => exact List.forall_mem_singleton.2 hI
  | further visited others ih => exact List.forall_mem_cons.2 ⟨hI, ih (hstep _ _ _ hI)⟩

private theorem Course.stacked (h : Course config link stack s rounds result s') (hst : Stacked stack.pending) :
    ∀ round ∈ rounds, Stacked round.pending :=
  h.forall_pending (fun _ _ again hst => hst.afterVisit again) hst

private theorem Course.size_le (h : Course config link stack s rounds result s')
    (hsize : stack.size ≤ branchStackCapacity) :
    ∀ round ∈ rounds, round.pending.length ≤ branchStackCapacity :=
  h.forall_pending (I := fun pending => pending.length ≤ branchStackCapacity)
    (fun b rest again hle => BranchStack.size_afterVisit ⟨rest⟩ b again (Nat.le_of_succ_le hle)) hsize

/-- Whatever is a part of a branch or lies above it leads to such branches only. -/
private theorem Course.within_or_above {b : Branch} (h : Course config link stack s rounds result s')
    (hst : Stacked stack.pending) (hb : ∀ c ∈ stack.pending, c.Within b ∨ b.upper < c.lower) :
    ∀ round ∈ rounds, round.branch.Within b ∨ b.upper < round.branch.lower := by
  have hkept : ∀ round ∈ rounds, Stacked round.pending ∧ ∀ c ∈ round.pending, c.Within b ∨ b.upper < c.lower := by
    refine h.forall_pending (I := fun pending => Stacked pending ∧ ∀ c ∈ pending, c.Within b ∨ b.upper < c.lower) ?_
      ⟨hst, hb⟩
    rintro top rest again ⟨hst, hb⟩
    refine ⟨hst.afterVisit again, fun c hc => ?_⟩
    rcases hst.within_of_afterVisit hc with hc | hc
    · exact hb c (List.mem_cons_of_mem _ hc)
    · rcases hb top List.mem_cons_self with htop | htop
      · exact .inl (hc.trans htop)
      · exact .inr (Nat.lt_of_lt_of_le htop hc.1)
  exact fun round hr => (hkept round hr).2 round.branch List.mem_cons_self

/-- Later branches are parts of the one that is visited or lie above it. -/
private theorem Course.nested (h : Course config link stack s rounds result s') (hst : Stacked stack.pending) :
    rounds.Pairwise fun earlier later =>
      later.branch.Within earlier.branch ∨ earlier.branch.upper < later.branch.lower := by
  induction h with
  | finished => exact .nil
  | failed visited => exact List.pairwise_singleton _ _
  | @further b rest s s₁ s' again rounds result visited others ih =>
    have hnext : ∀ c ∈ (BranchStack.afterVisit ⟨rest⟩ b again).pending, c.Within b ∨ b.upper < c.lower := fun c hc =>
      (hst.within_of_afterVisit hc).elim (fun hc => .inr (List.rel_of_pairwise_cons hst.ascending hc)) .inl
    exact List.pairwise_cons.2 ⟨others.within_or_above (hst.afterVisit again) hnext, ih (hst.afterVisit again)⟩

/-- How the rounds of a search relate to the address space and to each other. -/
structure Orderly (rounds : List (Round σ)) : Prop where
  inside : ∀ round ∈ rounds, ∀ b ∈ round.pending, b.lower ≤ b.upper ∧ b.upper ≤ maxUidValue
  /-- Pending branches are apart, the lower ones on top. -/
  ascending : ∀ round ∈ rounds, round.pending.Pairwise fun a b => a.upper < b.lower
  fits : ∀ round ∈ rounds, round.pending.length ≤ branchStackCapacity
  /-- The halves of a branch that is no leaf find a place. -/
  room : ∀ round ∈ rounds, ¬round.branch.isLeaf = true → ∃ more, round.rest.pushSplit? round.branch = some more
  nested : rounds.Pairwise fun earlier later =>
    later.branch.Within earlier.branch ∨ earlier.branch.upper < later.branch.lower

theorem Course.orderly (h : Course config link stack s rounds result s') (hst : Stacked stack.pending)
    (hsize : stack.size ≤ branchStackCapacity) : Orderly rounds where
  inside round hr := (h.stacked hst round hr).ordered
  ascending round hr := (h.stacked hst round hr).ascending
  fits := h.size_le hsize
  room round hr hl := by
    obtain ⟨_, _, -, -, hpush⟩ := (h.stacked hst round hr).pushSplit hl
    exact ⟨_, hpush⟩
  nested := h.nested hst

/-! ### Leaves -/

/-- The values of the leaves that are visited. -/
def leaves (rounds : List (Round σ)) : List Nat :=
  (rounds.filter fun round => round.branch.isLeaf).map fun round => round.branch.lower

private theorem leaves_cons_of_isLeaf {round : Round σ} (h : round.branch.isLeaf = true) :
    leaves (round :: rounds) = round.branch.lower :: leaves rounds := by
  simp [leaves, h]

private theorem leaves_cons_of_not_isLeaf {round : Round σ} (h : ¬round.branch.isLeaf = true) :
    leaves (round :: rounds) = leaves rounds := by
  simp [leaves, h]

/-- The branch does not stay without an answer, however often it is probed. -/
def Round.Answered (config : SearchConfig) (link : ControllerLink σ ε) (round : Round σ) : Prop :=
  ((probe link round.branch (tries config)).runFrom round.before).1 ≠ .ok .nobody

/-- A branch is searched in halves if it is answered and nobody is searched by name. -/
private theorem again_of_answered {b : Branch} {again : Bool} (hl : ¬b.isLeaf = true)
    (hquick : config.quickFind = false) (hv : (visit config link b).runFrom s = (.ok again, s'))
    (hanswered : ((probe link b (tries config)).runFrom s).1 ≠ .ok .nobody) : again = true := by
  rcases hprobe : (probe link b (tries config)).runFrom s with ⟨e | answer, s₂⟩
  · rw [visit, if_neg hl] at hv
    simp only [Run.runFrom_bind, hprobe] at hv
    cases hv
  · rw [hprobe] at hanswered
    rw [visit_of_answer hl hprobe (fun h => hanswered (congrArg Except.ok h)) hquick] at hv
    cases hv
    rfl

/-- If each branch is answered and nobody is searched by name, then the leaves are the values of the pending branches
in their order. -/
theorem Course.leaves_eq (h : Course config link stack s rounds result s') (hst : Stacked stack.pending)
    (hquick : config.quickFind = false) (hok : result = .ok ())
    (hanswered : ∀ round ∈ rounds, ¬round.branch.isLeaf = true → round.Answered config link) :
    leaves rounds = stack.pending.flatMap Branch.values := by
  induction h with
  | finished => rfl
  | failed visited => cases hok
  | @further b rest s s₁ s' again rounds result visited others ih =>
    obtain ⟨hfirst, hlater⟩ := List.forall_mem_cons.1 hanswered
    have hothers := ih (hst.afterVisit again) hok hlater
    by_cases hl : b.isLeaf = true
    · obtain ⟨-, hnext⟩ | ⟨_, _, -, hsplit, -⟩ := hst.afterVisit_cases again
      · rw [hnext] at hothers
        rw [leaves_cons_of_isLeaf hl, hothers, List.flatMap_cons, Branch.values_of_isLeaf hl]
        rfl
      · rw [Branch.split, if_pos hl] at hsplit
        cases hsplit
    · obtain rfl := again_of_answered hl hquick visited (hfirst hl)
      obtain ⟨hnone | hnone, -⟩ | ⟨lower, upper, -, hsplit, hst', hnext⟩ := hst.afterVisit_cases true
      · cases hnone
      · exact absurd hnone hl
      · rw [hnext] at hothers
        have hvalues := Branch.values_of_split hsplit (hst'.ordered lower (by simp)).1
          (hst'.ordered upper (by simp)).1
        rw [leaves_cons_of_not_isLeaf hl, hothers, List.flatMap_cons, List.flatMap_cons, List.flatMap_cons, hvalues,
          List.append_assoc]

/-! ### Errors -/

/-- The link fails with the error, and is left in the given state. -/
def LinkFails (link : ControllerLink σ ε) (error : LinkError ε) (after : σ) : Prop :=
  ∃ request before, (link.request request).runFrom before = (.error error, after) ∨
    (link.probe request).runFrom before = (.error error, after)

/-- If the computation fails, then the last thing that the link did was to fail, and the error is the link's. -/
def FailsByLink (link : ControllerLink σ ε) (a : Run (Search σ) (ControllerError ε) α) : Prop :=
  ∀ s e s', a.runFrom s = (.error e, s') → ∃ error, e = .link error ∧ LinkFails link error s'.controller.link

private theorem failsByLink_pure (x : α) : FailsByLink link (pure x : Run (Search σ) (ControllerError ε) α) :=
  fun _ _ _ h => by cases h

private theorem failsByLink_report (uid : Uid) :
    FailsByLink link (report uid : Run (Search σ) (ControllerError ε) Unit) :=
  fun _ _ _ h => by cases h

theorem FailsByLink.bind {a : Run (Search σ) (ControllerError ε) α} {f : α → Run (Search σ) (ControllerError ε) β}
    (ha : FailsByLink link a) (hf : ∀ x, FailsByLink link (f x)) : FailsByLink link (a >>= f) := by
  intro s e s' h
  rcases Run.cases_of_bind h with hfirst | ⟨x, s₁, -, hsecond⟩
  · exact ha s e s' hfirst
  · exact hf x s₁ e s' hsecond

private theorem failsByLink_probeOnce (b : Branch) : FailsByLink link (onController (Controller.probe link b)) := by
  intro s e s' h
  rw [runFrom_onController] at h
  rcases hprobe : (link.probe (s.controller.requestOf .discovery .broadcast .discUniqueBranch 0 b.payload)).runFrom
    s.controller.link with ⟨error | answer, l⟩
  · have hfailed : (Controller.probe link b).runFrom s.controller =
        (.error (.link error), { s.controller with link := l }) := by
      simp [Controller.probe, Controller.runFrom_onLink, hprobe, Except.mapError]
    rw [hfailed] at h
    cases h
    exact ⟨error, rfl, _, _, .inr hprobe⟩
  · rw [Controller.probe_run _ hprobe] at h
    cases h

private theorem failsByLink_probe (b : Branch) (tries : Nat) : FailsByLink link (probe link b tries) := by
  induction tries with
  | zero => exact failsByLink_pure _
  | succ tries ih =>
    rw [probe]
    refine (failsByLink_probeOnce b).bind fun answer => ?_
    cases answer with
    | nobody => exact ih
    | collision => exact failsByLink_pure _
    | found uid => exact failsByLink_pure _

/-- If a mute request ends with an error of the link, then the link has failed. -/
private theorem linkFails_of_mute {uid : Uid} {c c' : Controller σ} {error : LinkError ε}
    (h : (Controller.mute link (.device uid)).runFrom c = (.error (.link error), c')) :
    LinkFails link error c'.link := by
  rcases Run.cases_of_bind h with hasked | ⟨reply, c₁, -, hreply⟩
  · exact ⟨_, _, .inl (Controller.request_of_ask hasked)⟩
  · exact absurd (congrArg Prod.fst hreply) (Controller.muteReply_ne_link reply c₁ error)

private theorem failsByLink_mute (uid : Uid) (tries : Nat) : FailsByLink link (mute link uid tries) := by
  induction tries with
  | zero => exact failsByLink_pure _
  | succ tries ih =>
    intro s e s' h
    rw [mute] at h
    rcases hmute : (Controller.mute link (.device uid)).runFrom s.controller with ⟨error | reply, c⟩
    · simp only [Run.runFrom_bind, Run.runFrom_attempt, runFrom_onController, hmute] at h
      -- only an error of the link's own is passed on
      split at h
      · rename_i heq
        cases heq
      · rename_i heq
        cases heq
        cases h
        exact ⟨_, rfl, linkFails_of_mute hmute⟩
      · exact ih _ e s' h
    · simp only [Run.runFrom_bind, Run.runFrom_attempt, runFrom_onController, hmute] at h
      cases h

private theorem failsByLink_muteLeaf (value : Nat) : FailsByLink link (muteLeaf config link value) := by
  unfold muteLeaf
  split
  · exact failsByLink_pure _
  · refine (failsByLink_mute _ _).bind fun reply => ?_
    split
    · exact failsByLink_pure _
    · split
      · exact failsByLink_pure _
      · split
        · exact failsByLink_pure _
        · exact (failsByLink_mute _ _).bind fun _ => failsByLink_pure _

private theorem failsByLink_quickFind (b : Branch) (rounds : Nat) (answer : ProbeResult) :
    FailsByLink link (quickFind config link b rounds answer) := by
  induction rounds generalizing answer with
  | zero => exact failsByLink_pure _
  | succ rounds ih =>
    cases answer with
    | nobody => exact failsByLink_pure _
    | collision => exact failsByLink_pure _
    | found uid =>
      rw [quickFind]
      refine (failsByLink_mute _ _).bind fun reply => ?_
      cases reply with
      | none => exact (failsByLink_probe _ _).bind fun answer => ih answer
      | some reply => exact (failsByLink_report _).bind fun _ => (failsByLink_probe _ _).bind fun answer => ih answer

private theorem failsByLink_visit (b : Branch) : FailsByLink link (visit config link b) := by
  unfold visit
  split
  · refine (failsByLink_muteLeaf _).bind fun found => ?_
    cases found with
    | none => exact failsByLink_pure _
    | some uid => exact (failsByLink_report uid).bind fun _ => failsByLink_pure _
  · refine (failsByLink_probe _ _).bind fun answer => ?_
    split
    · exact failsByLink_pure _
    · split
      · exact failsByLink_pure _
      · exact (failsByLink_quickFind _ _ _).bind fun _ => failsByLink_pure _

/-- A search ends with an error only if the link fails in its last round. -/
theorem Course.linkFails (h : Course config link stack s rounds result s') {e : ControllerError ε}
    (herror : result = .error e) : ∃ error, e = .link error ∧ LinkFails link error s'.controller.link := by
  induction h with
  | finished => cases herror
  | failed visited =>
    cases herror
    exact failsByLink_visit _ _ _ _ visited
  | further visited others ih => exact ih herror

end Search

namespace Controller

open Search

variable {σ ε : Type}

private theorem discover_of_error (config : SearchConfig) {link : ControllerLink σ ε} {c c' : Controller σ}
    {e : ControllerError ε} (h : (unMute link .broadcast).runFrom c = (.error e, c')) :
    discover config link c = (.error e, [], c') := by
  simp only [discover, Search.whole, Run.runFrom_bind, runFrom_onController, h]

theorem discover_of_ok (config : SearchConfig) {link : ControllerLink σ ε} {c c' : Controller σ}
    {reply : Option MuteReply} {result : Except (ControllerError ε) Unit} {s : Search σ}
    (h : (unMute link .broadcast).runFrom c = (.ok reply, c'))
    (hsearch : (searchAll config link .whole).runFrom ⟨c', []⟩ = (result, s)) :
    discover config link c = (result.map fun _ => s.found.length, s.found, s.controller) := by
  simp only [discover, Search.whole, Run.runFrom_bind, runFrom_onController, h, hsearch]
  cases result <;> rfl

/-- A search ends whatever the link tells, also if the answers contradict each other.  After the devices were made to
take part it visits branches that are nested or apart, the pending ones lie in the address space one above the other
and find a place, and it ends with an error only if the link fails.  If no branch stays without an answer and nobody
is searched by name, then the leaves are the values of the address space in their order. -/
theorem discover_orderly (config : SearchConfig) (link : ControllerLink σ ε) (c : Controller σ) :
    let ready := (unMute link .broadcast).runFrom c
    (∀ error, ready.1 = .error error → discover config link c = (.error error, [], ready.2)) ∧
    (∀ reply, ready.1 = .ok reply → ∃ rounds result s, Course config link .whole ⟨ready.2, []⟩ rounds result s ∧
      discover config link c = (result.map fun _ => s.found.length, s.found, s.controller) ∧
      rounds.length ≤ 2 * maxUidValue + 1 ∧ Orderly rounds ∧
      (∀ e, result = .error e → ∃ error, e = .link error ∧ LinkFails link error s.controller.link) ∧
      (result = .ok () → config.quickFind = false →
        (∀ round ∈ rounds, ¬round.branch.isLeaf = true → round.Answered config link) →
        leaves rounds = List.range (maxUidValue + 1))) := by
  rcases hready : (unMute link .broadcast).runFrom c with ⟨error | reply, c'⟩
  · refine ⟨fun _ h => ?_, fun _ h => by cases h⟩
    cases h
    exact discover_of_error config hready
  · refine ⟨(fun _ h => by cases h), fun _ _ => ?_⟩
    obtain ⟨rounds, hcourse, hcount⟩ := exists_course config link stacked_whole ⟨c', []⟩
    refine ⟨rounds, _, _, hcourse, discover_of_ok config hready rfl, hcount,
      hcourse.orderly stacked_whole (by decide), fun e => hcourse.linkFails, fun hok hquick hanswered => ?_⟩
    rw [hcourse.leaves_eq stacked_whole hquick hok hanswered, ← Branch.values_whole]
    exact List.append_nil _

/-- A link on which nothing is heard but collisions. -/
def crowd : ControllerLink Unit Empty where
  request _ := pure none
  probe _ := pure .collision
  sendLevels _ := pure ()
  sendSlots _ _ := pure ()

private theorem not_linkFails_crowd (error : LinkError Empty) (after : Unit) : ¬LinkFails crowd error after := by
  rintro ⟨request, before, h | h⟩
  · cases h
  · cases h

private theorem answered_crowd (config : SearchConfig) (round : Round Unit) : round.Answered config crowd := by
  obtain ⟨n, hn⟩ := tries_pos config
  rw [Round.Answered, hn]
  exact fun h => by cases h

theorem discover_orderly_crowd : ∃ rounds s,
    Course ⟨false, true, 3⟩ crowd .whole ⟨.new ⟨0x7FF0, 0⟩ 1 (), []⟩ rounds (.ok ()) s ∧
      leaves rounds = List.range (maxUidValue + 1) := by
  obtain ⟨-, hready⟩ := discover_orderly ⟨false, true, 3⟩ crowd (.new ⟨0x7FF0, 0⟩ 1 ())
  obtain ⟨rounds, result, s, hcourse, -, -, -, hfails, hleaves⟩ := hready none rfl
  cases result with
  | error e =>
    obtain ⟨error, -, hlink⟩ := hfails e rfl
    exact absurd hlink (not_linkFails_crowd error s.controller.link)
  | ok done => exact ⟨rounds, s, hcourse, hleaves rfl rfl fun round _ _ => answered_crowd _ round⟩

end Controller

end LightBus
