import LightBus.Session
import Mathlib.Algebra.Group.Nat.Defs
import Mathlib.Data.Fintype.Card

/-!
# Tasks that share a port

Any number of tasks ask for one port, try to take it and give it back, in any order, and meanwhile somebody works with
it.  Each of them does so in single steps (`Sharing.Step`): who asks takes a ticket, and looks from time to time
whether it is served.  These are the steps of `Session.lock` (`Sharing.served_of_lock`).

As long as fewer than `2 ^ 32` tickets are out, those who have one stand in a queue whose first ticket is served and
whose last one is the one before the next (`Sharing.Queued`), although both counters start again from zero.
`Sharing.Queued.step` says what one step does to the queue, and `Sharing.exclusive_and_fair` what follows for all
runs.
-/

namespace LightBus

/-- What a task has of the port. -/
inductive Place where
  | away
  /-- It has asked, and waits until its ticket is served. -/
  | waiting (ticket : UInt32)
  | holding

def Place.isWaiting : Place → Bool
  | .waiting _ => true
  | _ => false

/-- What is remembered of a task that asks. -/
inductive Remark (ι : Type) where
  | asked (task : ι)
  | obtained (task : ι)

namespace Remark

variable {ι : Type}

def asker? : Remark ι → Option ι
  | .asked i => some i
  | .obtained _ => none

def obtainer? : Remark ι → Option ι
  | .asked _ => none
  | .obtained i => some i

end Remark

/-- A port, and what each task has of it. -/
structure Sharing (ι η : Type) where
  port : Port η
  place : ι → Place

namespace Sharing

variable {ι η : Type} {s s' start : Sharing ι η} {queue : List ι} {log remarks : List (Remark ι)} {i : ι}

/-- The ticket of the task is served. -/
def CanProceed (s : Sharing ι η) (i : ι) : Prop := s.place i = .waiting s.port.tickets.serving

/-- Fewer than `2 ^ 32` tasks have a ticket. -/
def Few (s : Sharing ι η) : Prop := ∀ tasks : List ι, tasks.Nodup → (∀ i ∈ tasks, s.place i ≠ .away) →
    tasks.length < 2 ^ 32

/-- Fewer than `2 ^ 32` tasks cannot have more tickets. -/
private theorem few_of_card [Fintype ι] (h : Fintype.card ι < 2 ^ 32) (s : Sharing ι η) : s.Few :=
  fun _ hnodup _ => Nat.lt_of_le_of_lt hnodup.length_le_card h

/-- A ticket is taken from the port. -/
def ask (p : Port η) : UInt32 × Port η := (p.tickets.take.1, { p with tickets := p.tickets.take.2 })

section

variable {ε : Type} {w : World η ε} {p p' : Port η} {pauses : Nat}

private theorem served_of_awaitTurn {t : UInt32} (h : (Session.awaitTurn w t pauses).runFrom p = (.ok true, p')) :
    ∃ q : Port η, q.tickets.serving = t ∧ p' = w.between q := by
  induction pauses generalizing p with
  | zero => cases h
  | succ pauses ih =>
    rw [Session.awaitTurn, Run.runFrom_bind] at h
    change (if p.tickets.serving = t then _ else _ : Session η ε Bool).runFrom (w.between p) = _ at h
    split at h
    · cases h
      exact ⟨p, ‹_›, rfl⟩
    · exact ih h

/-- The steps of a task that asks are those of a lock: it takes a ticket, and goes on where it finds it served. -/
theorem served_of_lock (h : (Session.lock w pauses).runFrom p = (.ok true, p')) :
    ∃ q : Port η, q.tickets.serving = (ask p).1 ∧ p' = w.between q :=
  served_of_awaitTurn (p := w.between (ask p).2) h

end

/-- Nobody has the port or waits for it. -/
structure Resting (s : Sharing ι η) : Prop where
  tickets : s.port.tickets.next = s.port.tickets.serving
  away : ∀ i, s.place i = .away

/-! ### The queue -/

/-- The tasks that have a ticket, in the order of their tickets.  Only the first of them may have the port. -/
structure Queued (s : Sharing ι η) (queue : List ι) : Prop where
  nodup : queue.Nodup
  mem : ∀ i, i ∈ queue ↔ s.place i ≠ .away
  next : s.port.tickets.next = s.port.tickets.serving + .ofNat queue.length
  ticket : ∀ k i t, queue[k]? = some i → s.place i = .waiting t → t = s.port.tickets.serving + .ofNat k
  holder : ∀ k i, queue[k]? = some i → s.place i = .holding → k = 0

/-- Those in the queue that wait. -/
def waiters (s : Sharing ι η) (queue : List ι) : List ι := queue.filter fun i => (s.place i).isWaiting

private theorem waiters_cons_of_waiting {t : UInt32} (h : s.place i = .waiting t) :
    s.waiters (i :: queue) = i :: s.waiters queue :=
  List.filter_cons_of_pos (by rw [h]; rfl)

private theorem waiters_cons_of_holding (h : s.place i = .holding) : s.waiters (i :: queue) = s.waiters queue :=
  List.filter_cons_of_neg (by rw [h]; exact nofun)

private theorem add_ofNat_cancel {a : UInt32} {j k : Nat} (hj : j < 2 ^ 32) (hk : k < 2 ^ 32)
    (h : a + .ofNat j = a + .ofNat k) :
    j = k := by
  have hnat := congrArg UInt32.toNat h
  simp only [UInt32.toNat_add, UInt32.toNat_ofNat'] at hnat
  omega

theorem add_ofNat_succ (a : UInt32) (k : Nat) : a + .ofNat (k + 1) = a + .ofNat k + 1 := by
  rw [UInt32.ofNat_add, ← UInt32.add_assoc]
  rfl

private theorem add_ofNat_succ_left (a : UInt32) (k : Nat) : a + .ofNat (k + 1) = a + 1 + .ofNat k := by
  rw [Nat.add_comm, UInt32.ofNat_add, ← UInt32.add_assoc]
  rfl

theorem add_ofNat_zero (a : UInt32) : a + .ofNat 0 = a := UInt32.add_zero a

namespace Queued

private theorem of_resting (h : s.Resting) : Queued s [] where
  nodup := .nil
  mem i := ⟨nofun, fun hplace => absurd (h.away i) hplace⟩
  next := h.tickets.trans (add_ofNat_zero _).symm
  ticket := nofun
  holder := nofun

theorem of_eq (h : Queued s queue) (htickets : s'.port.tickets = s.port.tickets) (hplace : s'.place = s.place) :
    Queued s' queue := by
  refine ⟨h.nodup, ?_, ?_, ?_, ?_⟩
  · rw [hplace]
    exact h.mem
  · rw [htickets]
    exact h.next
  · rw [htickets, hplace]
    exact h.ticket
  · rw [hplace]
    exact h.holder

theorem length_lt (h : Queued s queue) (hfew : s.Few) :
    queue.length < 2 ^ 32 := hfew queue h.nodup fun i => (h.mem i).1

private theorem index_of_canProceed (h : Queued s queue) (hfew : s.Few) (hi : s.CanProceed i) {k : Nat}
    (hk : queue[k]? = some i) : k = 0 := by
  have hshort : k < queue.length := (List.getElem?_eq_some_iff.1 hk).1
  have hserved : s.port.tickets.serving + .ofNat 0 = s.port.tickets.serving + .ofNat k :=
    (add_ofNat_zero _).trans (h.ticket k i _ hk hi)
  have hlength := h.length_lt hfew
  exact (add_ofNat_cancel (by decide) (by omega) hserved).symm

/-- A task that has a ticket and can only be the first of the queue is. -/
theorem eq_cons (h : Queued s queue) (hi : s.place i ≠ .away) (hfirst : ∀ {k}, queue[k]? = some i → k = 0) :
    ∃ rest, queue = i :: rest := by
  obtain ⟨k, hk⟩ := List.mem_iff_getElem?.1 ((h.mem i).2 hi)
  obtain rfl := hfirst hk
  rw [← List.head?_eq_getElem?] at hk
  exact List.head?_eq_some_iff.1 hk

private theorem eq_cons_of_canProceed (h : Queued s queue) (hfew : s.Few) (hi : s.CanProceed i) :
    ∃ rest, queue = i :: rest :=
  h.eq_cons (by rw [hi]; exact nofun) (h.index_of_canProceed hfew hi)

private theorem eq_cons_of_holding (h : Queued s queue) (hi : s.place i = .holding) : ∃ rest, queue = i :: rest :=
  h.eq_cons (by rw [hi]; exact nofun) fun hk => h.holder _ i hk hi

/-- The next ticket is served exactly if nobody has one. -/
theorem next_eq_serving_iff (h : Queued s queue) (hfew : s.Few) :
    s.port.tickets.next = s.port.tickets.serving ↔ queue = [] := by
  refine ⟨fun hfree => ?_, fun hempty => ?_⟩
  · have hserved : s.port.tickets.serving + .ofNat queue.length = s.port.tickets.serving + .ofNat 0 :=
      h.next.symm.trans (hfree.trans (add_ofNat_zero _).symm)
    exact List.eq_nil_of_length_eq_zero (add_ofNat_cancel (h.length_lt hfew) (by decide) hserved)
  · rw [h.next, hempty]
    exact add_ofNat_zero _

/-- The port is free exactly if nobody is in the queue, and then it is taken like a ticket. -/
private theorem port_tryLock (h : Queued s queue) (hfew : s.Few) :
    s.port.tryLock = if queue = [] then (true, (Sharing.ask s.port).2) else (false, s.port) := by
  unfold Port.tryLock Tickets.tryTake
  simp only [h.next_eq_serving_iff hfew]
  split <;> rfl

theorem tryLock_iff (h : Queued s queue) (hfew : s.Few) : s.port.tryLock.1 = true ↔ queue = [] := by
  rw [h.port_tryLock hfew]
  by_cases hfree : queue = [] <;> simp [hfree]

theorem mem_waiters_iff (h : Queued s queue) : i ∈ s.waiters queue ↔ ∃ t, s.place i = .waiting t := by
  rw [waiters, List.mem_filter, h.mem]
  cases s.place i <;> simp [Place.isWaiting]

/-- As long as somebody has the port nobody else can proceed, and otherwise the first of the queue can. -/
theorem canProceed_iff (h : Queued s queue) (hfew : s.Few) :
    s.CanProceed i ↔ (∀ j, s.place j ≠ .holding) ∧ (s.waiters queue).head? = some i := by
  constructor
  · intro hi
    obtain ⟨rest, rfl⟩ := h.eq_cons_of_canProceed hfew hi
    refine ⟨fun j hj => ?_, ?_⟩
    · obtain ⟨_, heq⟩ := h.eq_cons_of_holding hj
      rw [← (List.cons.inj heq).1, hi] at hj
      cases hj
    · rw [waiters_cons_of_waiting hi]
      rfl
  · rintro ⟨hnobody, hfirst⟩
    have hall : s.waiters queue = queue := List.filter_eq_self.2 fun j hj => by
      cases hplace : s.place j with
      | away => exact absurd hplace ((h.mem j).1 hj)
      | waiting t => rfl
      | holding => exact absurd hplace (hnobody j)
    obtain ⟨t, ht⟩ := h.mem_waiters_iff.1 (List.mem_of_head? hfirst)
    rw [hall, List.head?_eq_getElem?] at hfirst
    rw [CanProceed, ht, h.ticket 0 i t hfirst ht, add_ofNat_zero]

end Queued

/-! ### Steps -/

variable [DecidableEq ι]

/-- The port changes, and one task goes to another place. -/
def moved (s : Sharing ι η) (port : Port η) (i : ι) (there : Place) : Sharing ι η :=
  ⟨port, fun j => if j = i then there else s.place j⟩

variable {port : Port η} {there : Place}

private theorem place_moved_self : (s.moved port i there).place i = there := if_pos rfl

private theorem place_moved_of_ne {j : ι} (h : j ≠ i) : (s.moved port i there).place j = s.place j := if_neg h

/-- A single step of a task, and what is remembered of it. -/
inductive Step (s : Sharing ι η) : List (Remark ι) → Sharing ι η → Prop where
  /-- The task takes a ticket. -/
  | ask (i : ι) (h : s.place i = .away) : Step s [.asked i] (s.moved (ask s.port).2 i (.waiting (ask s.port).1))
  /-- The ticket of the task is served. -/
  | obtain (i : ι) (h : s.CanProceed i) : Step s [.obtained i] (s.moved s.port i .holding)
  /-- Another ticket is served, so the task looks again later. -/
  | look (i : ι) (t : UInt32) (h : s.place i = .waiting t) (hother : s.port.tickets.serving ≠ t) : Step s [] s
  /-- The task tries to take the port, and has it at once. -/
  | tryLock (i : ι) (h : s.place i = .away) (htaken : s.port.tryLock.1 = true) : Step s []
    (s.moved s.port.tryLock.2 i .holding)
  /-- The task tries in vain. -/
  | refused (i : ι) (h : s.place i = .away) (htaken : s.port.tryLock.1 = false) : Step s []
    ⟨s.port.tryLock.2, s.place⟩
  /-- The task gives the port back. -/
  | unlock (i : ι) (h : s.place i = .holding) : Step s [] (s.moved s.port.unlock i .away)
  /-- Something else is done with the port. -/
  | work (p : Port η) (h : p.tickets = s.port.tickets) : Step s [] ⟨p, s.place⟩

/-- Steps of the tasks one after the other, in any order, with few tickets out at any time. -/
inductive Run (start : Sharing ι η) : List (Remark ι) → Sharing ι η → Prop where
  | start : Run start [] start
  | step {log remarks : List (Remark ι)} {s s' : Sharing ι η} (h : Run start log s) (hstep : Step s remarks s')
    (hfew : s'.Few) :
      Run start (log ++ remarks) s'

/-- Who is not in the queue may move without any effect on those who wait in it. -/
private theorem waiters_moved (h : i ∉ queue) : (s.moved port i there).waiters queue = s.waiters queue := by
  refine List.filter_congr fun j hj => ?_
  have hne : j ≠ i := by
    rintro rfl
    exact h hj
  rw [place_moved_of_ne hne]

namespace Queued

/-- Who asks stands at the end. -/
private theorem ask (h : Queued s queue) (hi : s.place i = .away) :
    Queued (s.moved (Sharing.ask s.port).2 i (.waiting (Sharing.ask s.port).1)) (queue ++ [i]) := by
  have hout : i ∉ queue := fun hin => (h.mem i).1 hin hi
  -- the others keep their places
  have hplace {k : Nat} {j : ι} (hj : (queue ++ [i])[k]? = some j) :
      queue[k]? = some j ∧ j ≠ i ∨ k = queue.length ∧ j = i := by
    rw [List.getElem?_append] at hj
    split at hj
    · refine .inl ⟨hj, ?_⟩
      rintro rfl
      exact hout (List.mem_of_getElem? hj)
    · rw [List.getElem?_singleton] at hj
      obtain ⟨hk, heq⟩ := Option.ite_none_right_eq_some.1 hj
      exact .inr ⟨by omega, (Option.some.inj heq).symm⟩
  refine ⟨?_, fun j => ?_, ?_, fun k j t hj hwaits => ?_, fun k j hj hholds => ?_⟩
  · refine List.nodup_append.2 ⟨h.nodup, List.pairwise_singleton _ i, fun j hj k hk heq => hout ?_⟩
    rwa [heq, List.mem_singleton.1 hk] at hj
  · rw [List.mem_append, List.mem_singleton]
    by_cases heq : j = i
    · subst heq
      rw [place_moved_self]
      exact ⟨fun _ => nofun, fun _ => .inr rfl⟩
    · rw [place_moved_of_ne heq, h.mem, or_iff_left heq]
  · show s.port.tickets.next + 1 = s.port.tickets.serving + .ofNat (queue ++ [i]).length
    rw [h.next, List.length_append, List.length_singleton, add_ofNat_succ]
  · rcases hplace hj with ⟨hold, hne⟩ | ⟨rfl, rfl⟩
    · rw [place_moved_of_ne hne] at hwaits
      exact h.ticket k j t hold hwaits
    · rw [place_moved_self] at hwaits
      exact (Place.waiting.inj hwaits).symm.trans h.next
  · rcases hplace hj with ⟨hold, hne⟩ | ⟨rfl, rfl⟩
    · rw [place_moved_of_ne hne] at hholds
      exact h.holder k j hold hholds
    · rw [place_moved_self] at hholds
      cases hholds

/-- Whose ticket is served has the port, and stays where it is in the queue. -/
private theorem obtain (h : Queued s queue) (hfew : s.Few) (hi : s.CanProceed i) :
    Queued (s.moved s.port i .holding) queue := by
  refine ⟨h.nodup, fun j => ?_, h.next, fun k j t hj hwaits => ?_, fun k j hj hholds => ?_⟩
  · by_cases heq : j = i
    · subst heq
      rw [place_moved_self, h.mem, hi]
      exact ⟨fun _ => nofun, fun _ => nofun⟩
    · rw [place_moved_of_ne heq, h.mem]
  · by_cases heq : j = i
    · subst heq
      rw [place_moved_self] at hwaits
      cases hwaits
    · rw [place_moved_of_ne heq] at hwaits
      exact h.ticket k j t hj hwaits
  · by_cases heq : j = i
    · subst heq
      exact h.index_of_canProceed hfew hi hj
    · rw [place_moved_of_ne heq] at hholds
      exact h.holder k j hj hholds

/-- Who finds nobody in the queue has the port. -/
private theorem tryLock (h : Queued s []) (i : ι) : Queued (s.moved (Sharing.ask s.port).2 i .holding) [i] := by
  have halone {k : Nat} {j : ι} (hj : [i][k]? = some j) : k = 0 ∧ j = i := by
    rw [List.getElem?_singleton] at hj
    obtain ⟨hk, heq⟩ := Option.ite_none_right_eq_some.1 hj
    exact ⟨hk, (Option.some.inj heq).symm⟩
  refine ⟨List.pairwise_singleton _ i, fun j => ?_, ?_, fun k j t hj hwaits => ?_, fun k j hj _ => (halone hj).1⟩
  · rw [List.mem_singleton]
    by_cases heq : j = i
    · subst heq
      rw [place_moved_self]
      exact ⟨fun _ => nofun, fun _ => rfl⟩
    · rw [place_moved_of_ne heq, ← h.mem]
      exact ⟨fun hin => absurd hin heq, nofun⟩
  · show s.port.tickets.next + 1 = s.port.tickets.serving + .ofNat 1
    rw [h.next, add_ofNat_succ]
    rfl
  · rw [(halone hj).2, place_moved_self] at hwaits
    cases hwaits

/-- When the first gives the port back, the next one is the first. -/
private theorem unlock (h : Queued s (i :: queue)) : Queued (s.moved s.port.unlock i .away) queue := by
  obtain ⟨hout, hnodup⟩ := List.nodup_cons.1 h.nodup
  have hother {k : Nat} {j : ι} (hj : queue[k]? = some j) : j ≠ i := by
    rintro rfl
    exact hout (List.mem_of_getElem? hj)
  refine ⟨hnodup, fun j => ?_, ?_, fun k j t hj hwaits => ?_, fun k j hj hholds => ?_⟩
  · by_cases heq : j = i
    · subst heq
      rw [place_moved_self]
      exact ⟨fun hin => absurd hin hout, fun haway => absurd rfl haway⟩
    · rw [place_moved_of_ne heq, ← h.mem, List.mem_cons, or_iff_right heq]
  · exact h.next.trans (add_ofNat_succ_left _ _)
  · rw [place_moved_of_ne (hother hj)] at hwaits
    exact (h.ticket (k + 1) j t hj hwaits).trans (add_ofNat_succ_left _ _)
  · rw [place_moved_of_ne (hother hj)] at hholds
    cases h.holder (k + 1) j hj hholds

/-- What one step does to the queue: those who waited, and who asks now, are those who get the port now, and who wait
then. -/
theorem step (h : Queued s queue) (hstep : Step s remarks s') (hfew : s.Few) :
    ∃ queue', Queued s' queue' ∧
      s.waiters queue ++ remarks.filterMap Remark.asker? = remarks.filterMap Remark.obtainer? ++
        s'.waiters queue' := by
  cases hstep with
  | ask i hi =>
    have hout : i ∉ queue := fun hin => (h.mem i).1 hin hi
    refine ⟨queue ++ [i], h.ask hi, ?_⟩
    have hlast : (s.moved (Sharing.ask s.port).2 i (.waiting (Sharing.ask s.port).1)).waiters [i] = [i] :=
      waiters_cons_of_waiting place_moved_self
    show s.waiters queue ++ [i] = List.filter _ (queue ++ [i])
    rw [List.filter_append]
    exact congr (congrArg _ (waiters_moved hout).symm) hlast.symm
  | obtain i hi =>
    obtain ⟨rest, rfl⟩ := h.eq_cons_of_canProceed hfew hi
    have hout := (List.nodup_cons.1 h.nodup).1
    refine ⟨i :: rest, h.obtain hfew hi, ?_⟩
    rw [waiters_cons_of_waiting hi, waiters_cons_of_holding place_moved_self, waiters_moved hout]
    exact List.append_nil _
  | look i t hi hother => exact ⟨queue, h, List.append_nil _⟩
  | tryLock i hi htaken =>
    obtain rfl := (h.tryLock_iff hfew).1 htaken
    rw [h.port_tryLock hfew, if_pos rfl]
    refine ⟨[i], h.tryLock i, ?_⟩
    rw [waiters_cons_of_holding place_moved_self]
    rfl
  | refused i hi htaken =>
    rw [h.port_tryLock hfew] at htaken ⊢
    split at htaken
    · cases htaken
    · exact ⟨queue, h.of_eq (by rw [if_neg ‹_›]) rfl, List.append_nil _⟩
  | unlock i hi =>
    obtain ⟨rest, rfl⟩ := h.eq_cons_of_holding hi
    have hout := (List.nodup_cons.1 h.nodup).1
    refine ⟨rest, h.unlock, ?_⟩
    rw [waiters_cons_of_holding hi, waiters_moved hout]
    exact List.append_nil _
  | work p hp => exact ⟨queue, h.of_eq hp rfl, List.append_nil _⟩

/-- The tasks that have a ticket stand in a queue after every run, and those who asked are those who got the port, and
then those who wait. -/
private theorem run (hstart : start.Resting) (h : Run start log s) :
    s.Few ∧ ∃ queue, Queued s queue ∧ log.filterMap Remark.asker? = log.filterMap Remark.obtainer? ++
      s.waiters queue := by
  induction h with
  | start =>
    refine ⟨fun tasks _ hticket => ?_, [], .of_resting hstart, rfl⟩
    have hnobody : tasks = [] := List.eq_nil_iff_forall_not_mem.2 fun i hi => hticket i hi (hstart.away i)
    rw [hnobody]
    exact Nat.two_pow_pos 32
  | step _ hstep hfew ih =>
    obtain ⟨hbefore, queue, hqueue, horder⟩ := ih
    obtain ⟨queue', hqueue', hkept⟩ := hqueue.step hstep hbefore
    refine ⟨hfew, queue', hqueue', ?_⟩
    rw [List.filterMap_append, List.filterMap_append, horder, List.append_assoc, hkept, List.append_assoc]

end Queued

/-- Whatever the tasks do, and in whatever order: one of them has the port at most; those who asked get it in the
order in which they asked, and the others wait; the port can be taken at once exactly if nobody has it or waits for
it; and if nobody has it then the one who has waited the longest can proceed, and no other. -/
theorem exclusive_and_fair (hstart : start.Resting) (h : Run start log s) :
    (∀ i j, s.place i = .holding → s.place j = .holding → i = j) ∧
    (s.port.tryLock.1 = true ↔ ∀ i, s.place i ≠ .holding ∧ ∀ t, s.place i ≠ .waiting t) ∧
    ∃ waiting : List ι, waiting.Nodup ∧ (∀ i, i ∈ waiting ↔ ∃ t, s.place i = .waiting t) ∧
      log.filterMap Remark.asker? = log.filterMap Remark.obtainer? ++ waiting ∧
      ∀ i, s.CanProceed i ↔ (∀ j, s.place j ≠ .holding) ∧ waiting.head? = some i := by
  obtain ⟨hfew, queue, hqueue, horder⟩ := Queued.run hstart h
  refine ⟨fun i j hi hj => ?_, ?_, s.waiters queue, hqueue.nodup.filter _, fun i => hqueue.mem_waiters_iff, horder,
    fun i => hqueue.canProceed_iff hfew⟩
  · obtain ⟨_, hfirst⟩ := hqueue.eq_cons_of_holding hi
    obtain ⟨_, hfirst'⟩ := hqueue.eq_cons_of_holding hj
    exact (List.cons.inj (hfirst.symm.trans hfirst')).1
  · rw [hqueue.tryLock_iff hfew, List.eq_nil_iff_forall_not_mem]
    refine forall_congr' fun i => ?_
    rw [hqueue.mem]
    cases s.place i <;> simp

/-- One task has the port while two others ask for it, and the counters start again from zero meanwhile. -/
theorem exclusive_and_fair_wrapping :
    let port : Port Unit := ⟨(), .new .controller .standard, .new, .new, false, false, 250000, 0, .idle, none,
      ⟨0xFFFFFFFF, 0xFFFFFFFF⟩⟩
    let start : Sharing (Fin 3) Unit := ⟨port, fun _ => .away⟩
    let taken := start.moved start.port.tryLock.2 0 .holding
    let asked := taken.moved (ask taken.port).2 1 (.waiting (ask taken.port).1)
    let crowded := asked.moved (ask asked.port).2 2 (.waiting (ask asked.port).1)
    let left := crowded.moved crowded.port.unlock 0 .away
    left.port.tickets = ⟨2, 0⟩ ∧ (left.port.tryLock.1 = true ↔ ∀ i, left.place i ≠ .holding ∧ ∀ t,
      left.place i ≠ .waiting t) ∧
      ∀ i, left.CanProceed i ↔ (∀ j, left.place j ≠ .holding) ∧ some 1 = some i := by
  intro port start taken asked crowded left
  have hfew (s : Sharing (Fin 3) Unit) : s.Few := few_of_card (by decide) s
  have hrun : Run start [.asked 1, .asked 2] left :=
    .step (.step (.step (.step .start (.tryLock 0 rfl rfl) (hfew _)) (.ask 1 rfl) (hfew _)) (.ask 2 rfl) (hfew _))
      (.unlock 0 rfl) (hfew _)
  obtain ⟨-, htry, waiting, -, -, horder, hnext⟩ := exclusive_and_fair ⟨rfl, fun _ => rfl⟩ hrun
  obtain rfl : [1, 2] = waiting := horder
  have htickets : left.port.tickets = ⟨2, 0⟩ :=
    congrArg₂ Tickets.mk (by decide : (0xFFFFFFFF : UInt32) + 1 + 1 + 1 = 2)
      (by decide : (0xFFFFFFFF : UInt32) + 1 = 0)
  exact ⟨htickets, htry, hnext⟩

end Sharing

end LightBus
