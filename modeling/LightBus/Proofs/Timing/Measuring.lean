import LightBus.Timing.Measure
import Mathlib.Data.List.Induction

/-!
# What a measurement tells

A measurement is complete when the line falls after a break and the mark behind it.  It tells the lengths of both as
they have passed on the line, whatever came before (`measured_durations`).

* (edges) Since the line last fell, the meter knows when it fell and when it last rose (`EdgeMeter.Risen`).  That is
  all that the next fall looks at, so the edges in front do not matter.
* (interrupts) The estimator keeps a break until the first slots behind it are read (`BreakEstimator.breakAt_run`).
* The counters of both lengths have 32 bits.  That of a break stays at its highest value, that of a mark begins anew
  (`marks_wrapped`).
-/

namespace LightBus

/-! ### Edges -/

/-- The line changes to `level`. -/
structure Edge where
  level : LineLevel
  time : Nat
deriving DecidableEq

/-- No edge comes before one in front of it. -/
def InOrder (edges : List Edge) : Prop := edges.Pairwise fun first second => first.time ≤ second.time

instance (edges : List Edge) : Decidable (InOrder edges) := inferInstanceAs (Decidable (edges.Pairwise _))

/-- The line has last fallen at `fall` and last risen at `rise`, and it was low for as long as a break takes. -/
def EndsWithBreak (edges : List Edge) (fall rise : Nat) : Prop :=
  ∃ front rises, edges = front ++ ⟨.low, fall⟩ :: (rises ++ [⟨.high, rise⟩]) ∧ (∀ e ∈ rises, e.level = .high) ∧
    minBreak.toNat ≤ rise - fall

/-- A line that has fallen has not fallen again since some time. -/
private theorem exists_lastFall (edges : List Edge) : (∀ e ∈ edges, e.level = .high) ∨
    ∃ front fall rises, edges = front ++ ⟨.low, fall⟩ :: rises ∧ ∀ e ∈ rises, e.level = .high := by
  induction edges with
  | nil => exact .inl fun e he => nomatch he
  | cons e edges ih =>
    obtain ⟨level, time⟩ := e
    rcases ih with hhigh | ⟨front, fall, rises, rfl, hrises⟩
    · cases level with
      | low => exact .inr ⟨[], time, edges, rfl, hhigh⟩
      | high => exact .inl (List.forall_mem_cons.2 ⟨rfl, hhigh⟩)
    · exact .inr ⟨⟨level, time⟩ :: front, fall, rises, rfl, hrises⟩

/-- As much of a time as a counter of 32 bits that stops at its highest value can tell. -/
def saturated (micros : Nat) : UInt32 := UInt32.ofNat (min micros 0xFFFFFFFF)

private theorem saturated_of_le {micros : Nat} (h : micros ≤ 0xFFFFFFFF) :
    saturated micros = UInt32.ofNat micros := by
  rw [saturated, Nat.min_eq_left h]

theorem saturated_toNat (micros : UInt32) : saturated micros.toNat = micros := by
  rw [saturated_of_le (Nat.le_of_lt_succ micros.toNat_lt), UInt32.ofNat_toNat]

namespace EdgeMeter

variable {m : EdgeMeter} {fall rise : Nat}

/-- The line changes at each of the edges. -/
def run (m : EdgeMeter) (edges : List Edge) : EdgeMeter := edges.foldl (fun m e => m.onEdge e.level e.time) m

theorem run_append (m : EdgeMeter) (front edges : List Edge) : m.run (front ++ edges) = (m.run front).run edges :=
  List.foldl_append ..

/-- The line has fallen at `fall` and last risen at `rise`. -/
structure Risen (m : EdgeMeter) (fall rise : Nat) : Prop where
  lastFall : m.lastFall = some fall
  lastRise : m.lastRise = some rise
  pendingBreak : m.pendingBreak = if minBreak.toNat ≤ rise - fall then some (saturated (rise - fall)) else none

theorem risen_of_fallen (hfall : m.lastFall = some fall) (hpending : m.pendingBreak = none) (rise : Nat) :
    (m.onEdge .high rise).Risen fall rise := by
  refine ⟨hfall, rfl, ?_⟩
  simp only [onEdge, hfall, hpending, saturated]

/-- A line that rises again has been low for longer. -/
private theorem Risen.again (h : m.Risen fall rise) {again : Nat} (hle : rise ≤ again) :
    (m.onEdge .high again).Risen fall again := by
  refine ⟨h.lastFall, rfl, ?_⟩
  simp only [onEdge, h.lastFall, h.pendingBreak, saturated]
  split
  · rfl
  · rename_i hshort
    rw [if_neg (by omega)]

private theorem risen_run (hfall : m.lastFall = some fall) (hpending : m.pendingBreak = none) {rises : List Edge}
    (hhigh : ∀ e ∈ rises, e.level = .high) (horder : InOrder (rises ++ [⟨.high, rise⟩])) :
    (m.run (rises ++ [⟨.high, rise⟩])).Risen fall rise := by
  induction rises using List.reverseRecOn generalizing rise with
  | nil => exact risen_of_fallen hfall hpending rise
  | append_singleton rises e ih =>
    obtain ⟨level, time⟩ := e
    obtain rfl : level = .high := hhigh ⟨level, time⟩ (by simp)
    have hle : time ≤ rise := (List.pairwise_append.1 horder).2.2 (Edge.mk .high time) (by simp)
      (Edge.mk .high rise) (by simp)
    have hrisen := ih (fun e he => hhigh e (List.mem_append_left _ he)) (List.pairwise_append.1 horder).1
    rw [run_append]
    exact hrisen.again hle

/-- Where the line fell in `front ++ ⟨.low, fall⟩ :: …`, only what comes behind matters to the next fall. -/
private theorem risen_run_of_fall (m : EdgeMeter) {front rises : List Edge} (hhigh : ∀ e ∈ rises, e.level = .high)
    (horder : InOrder (front ++ ⟨.low, fall⟩ :: (rises ++ [⟨.high, rise⟩]))) :
    (m.run (front ++ ⟨.low, fall⟩ :: (rises ++ [⟨.high, rise⟩]))).Risen fall rise := by
  have hsuffix : List.Sublist (rises ++ [⟨.high, rise⟩]) (front ++ ⟨.low, fall⟩ :: (rises ++ [⟨.high, rise⟩])) :=
    (List.sublist_cons_self ..).trans (List.sublist_append_right ..)
  rw [run_append]
  exact risen_run (m := (m.run front).onEdge .low fall) rfl rfl hhigh (horder.sublist hsuffix)

/-- The fall behind a break completes a measurement. -/
theorem Risen.latest_fall (h : m.Risen fall rise) (hlong : minBreak.toNat ≤ rise - fall) (now : Nat) :
    (m.onEdge .low now).latest = some ⟨saturated (rise - fall), UInt32.ofNat (now - rise)⟩ := by
  have hpending := h.pendingBreak
  rw [if_pos hlong] at hpending
  simp only [onEdge, hpending, h.lastRise]

theorem latest_fall_of_none (h : m.pendingBreak = none) (now : Nat) : (m.onEdge .low now).latest = m.latest := by
  simp only [onEdge, h]

/-- A line that has not fallen has no break. -/
private theorem pendingBreak_run_of_high {rises : List Edge} (hhigh : ∀ e ∈ rises, e.level = .high) :
    (new.run rises).lastFall = none ∧ (new.run rises).pendingBreak = none := by
  induction rises using List.reverseRecOn with
  | nil => exact ⟨rfl, rfl⟩
  | append_singleton rises e ih =>
    obtain ⟨level, time⟩ := e
    obtain rfl : level = .high := hhigh ⟨level, time⟩ (by simp)
    obtain ⟨hfall, hpending⟩ := ih fun e he => hhigh e (List.mem_append_left _ he)
    rw [run_append]
    refine ⟨hfall, ?_⟩
    simp only [run, List.foldl_cons, List.foldl_nil, onEdge] at hfall hpending ⊢
    rw [hfall]
    exact hpending

/-- No break is kept unless one has passed since the line last fell. -/
private theorem pendingBreak_run_eq_none {edges : List Edge} (horder : InOrder edges)
    (h : ∀ fall rise, ¬EndsWithBreak edges fall rise) :
    (new.run edges).pendingBreak = none := by
  rcases exists_lastFall edges with hhigh | ⟨front, fall, rises, rfl, hhigh⟩
  · exact (pendingBreak_run_of_high hhigh).2
  rcases List.eq_nil_or_concat rises with rfl | ⟨rises, last, rfl⟩
  · rw [run_append]
    rfl
  · rw [List.concat_eq_append] at *
    obtain ⟨level, rise⟩ := last
    obtain rfl : level = .high := hhigh ⟨level, rise⟩ (by simp)
    have hrises : ∀ e ∈ rises, e.level = .high := fun e he => hhigh e (List.mem_append_left _ he)
    rw [(risen_run_of_fall new hrises horder).pendingBreak]
    exact if_neg fun hlong => h fall rise ⟨front, rises, rfl, hrises, hlong⟩

end EdgeMeter

namespace EndsWithBreak

variable {edges : List Edge} {fall rise : Nat}

private theorem risen (h : EndsWithBreak edges fall rise) (m : EdgeMeter) (horder : InOrder edges) :
    (m.run edges).Risen fall rise := by
  obtain ⟨front, rises, rfl, hhigh, -⟩ := h
  exact m.risen_run_of_fall hhigh horder

private theorem minBreak_le (h : EndsWithBreak edges fall rise) : minBreak.toNat ≤ rise - fall := by
  obtain ⟨-, -, -, -, hlong⟩ := h
  exact hlong

end EndsWithBreak

/-! ### Interrupts -/

namespace BreakEstimator

/-- What the receiver tells. -/
inductive Call where
  | heardBreak (now : Nat)
  | readSlots (now slots : Nat)
deriving DecidableEq

def call (e : BreakEstimator) : Call → BreakEstimator
  | .heardBreak now => e.onBreak now
  | .readSlots now slots => e.onData now slots

def run (e : BreakEstimator) (calls : List Call) : BreakEstimator := calls.foldl call e

/-- A break is kept until slots are read. -/
theorem breakAt_run (calls : List Call) (start : Nat) :
    (new.run calls).breakAt = some start ↔ calls.getLast? = some (.heardBreak start) := by
  rcases List.eq_nil_or_concat calls with rfl | ⟨calls, last, rfl⟩
  · exact ⟨fun h => (nomatch h), fun h => (nomatch h)⟩
  rw [List.concat_eq_append, List.getLast?_concat, run, List.foldl_append]
  cases last with
  | heardBreak now =>
    show some now = some start ↔ _
    simp
  | readSlots now slots =>
    have htaken : ((calls.foldl call new).onData now slots).breakAt = none := by
      unfold onData
      split
      · assumption
      · rfl
    show ((calls.foldl call new).onData now slots).breakAt = some start ↔ _
    simp [htaken]

private theorem latest_data {e : BreakEstimator} {start : Nat} (h : e.breakAt = some start) (now slots : Nat) :
    (e.onData now slots).latest =
      some ⟨UInt32.ofNat slotMicros, UInt32.ofNat (now - slots * slotMicros - start)⟩ := by
  simp only [onData, h]

private theorem latest_data_of_none {e : BreakEstimator} (h : e.breakAt = none) (now slots : Nat) :
    (e.onData now slots).latest = e.latest := by
  simp only [onData, h]

end BreakEstimator

/-! ### Both -/

/-- A measurement is complete when the line falls behind a break, or when the first slots behind a break are read, and
it tells the lengths that have passed: that of the break as far as its counter goes, and that of the mark modulo
`2 ^ 32`, so that it is right for all marks below that.  Nothing else changes what was measured last. -/
theorem measured_durations (edges : List Edge) (calls : List BreakEstimator.Call) (now : Nat) :
    (InOrder (edges ++ [⟨.low, now⟩]) →
      (∀ fall rise, EndsWithBreak edges fall rise →
        ((EdgeMeter.new.run edges).onEdge .low now).latest =
          some ⟨saturated (rise - fall), UInt32.ofNat (now - rise)⟩ ∧
        (now - rise ≤ 0xFFFFFFFF →
          ((EdgeMeter.new.run edges).onEdge .low now).latest =
            some ⟨saturated (rise - fall), saturated (now - rise)⟩)) ∧
      ((∀ fall rise, ¬EndsWithBreak edges fall rise) →
        ((EdgeMeter.new.run edges).onEdge .low now).latest = (EdgeMeter.new.run edges).latest)) ∧
    ((EdgeMeter.new.run edges).onEdge .high now).latest = (EdgeMeter.new.run edges).latest ∧
    (∀ slots,
      (∀ start, calls.getLast? = some (.heardBreak start) →
        ((BreakEstimator.new.run calls).onData now slots).latest =
          some ⟨UInt32.ofNat slotMicros, UInt32.ofNat (now - slots * slotMicros - start)⟩ ∧
        (now - slots * slotMicros - start ≤ 0xFFFFFFFF → ((BreakEstimator.new.run calls).onData now slots).latest =
          some ⟨UInt32.ofNat slotMicros, saturated (now - slots * slotMicros - start)⟩)) ∧
      ((∀ start, calls.getLast? ≠ some (.heardBreak start)) →
        ((BreakEstimator.new.run calls).onData now slots).latest = (BreakEstimator.new.run calls).latest)) ∧
    ((BreakEstimator.new.run calls).onBreak now).latest = (BreakEstimator.new.run calls).latest := by
  refine ⟨fun horder => ⟨?_, fun hnone => ?_⟩, rfl, fun slots => ⟨?_, fun hnone => ?_⟩, rfl⟩
  · intro fall rise hbreak
    have hrisen := hbreak.risen .new (List.pairwise_append.1 horder).1
    have hlatest := hrisen.latest_fall hbreak.minBreak_le now
    refine ⟨hlatest, fun hmark => ?_⟩
    rw [hlatest, saturated_of_le hmark]
  · exact EdgeMeter.latest_fall_of_none (EdgeMeter.pendingBreak_run_eq_none (List.pairwise_append.1 horder).1 hnone)
      now
  · intro start hlast
    have hlatest := BreakEstimator.latest_data ((BreakEstimator.breakAt_run calls start).2 hlast) now slots
    refine ⟨hlatest, fun hmark => ?_⟩
    rw [hlatest, saturated_of_le hmark]
  · apply BreakEstimator.latest_data_of_none
    rw [Option.eq_none_iff_forall_ne_some]
    exact fun start hstart => hnone start ((BreakEstimator.breakAt_run calls start).1 hstart)

/-- A line that rises twice behind a break, and a low period that is too short for one.  A break is over once slots
were read. -/
theorem measured_durations_bounce :
    let edges : List Edge := [⟨.low, 0⟩, ⟨.high, 200⟩, ⟨.high, 250⟩]
    let glitch : List Edge := edges ++ [⟨.low, 270⟩, ⟨.high, 300⟩]
    InOrder (glitch ++ [⟨.low, 320⟩]) ∧ EndsWithBreak edges 0 250 ∧
      ((EdgeMeter.new.run edges).onEdge .low 270).latest = some ⟨250, 20⟩ ∧
      (∀ fall rise, ¬EndsWithBreak glitch fall rise) ∧
      ((EdgeMeter.new.run glitch).onEdge .low 320).latest = (EdgeMeter.new.run glitch).latest ∧
      ((BreakEstimator.new.run [.heardBreak 1000]).onData 1064 1).latest = some ⟨44, 20⟩ ∧
      ((BreakEstimator.new.run [.heardBreak 1000, .readSlots 1064 1]).onData 1200 2).latest =
        (BreakEstimator.new.run [.heardBreak 1000, .readSlots 1064 1]).latest := by
  intro edges glitch
  have hbreak : EndsWithBreak edges 0 250 := ⟨[], [⟨.high, 200⟩], rfl, by decide, by decide⟩
  have hglitch : ∀ fall rise, ¬EndsWithBreak glitch fall rise := by
    intro fall rise h
    have hrisen := h.risen .new (by decide)
    obtain rfl : 270 = fall := Option.some.inj hrisen.lastFall
    obtain rfl : 300 = rise := Option.some.inj hrisen.lastRise
    exact absurd h.minBreak_le (by decide)
  refine ⟨by decide, hbreak, ?_, hglitch, ?_, ?_, ?_⟩
  · exact (((measured_durations edges [] 270).1 (by decide)).1 0 250 hbreak).2 (by decide)
  · exact ((measured_durations glitch [] 320).1 (by decide)).2 hglitch
  · exact (((measured_durations [] [.heardBreak 1000] 1064).2.2.1 1).1 1000 rfl).2 (by decide)
  · exact ((measured_durations [] [.heardBreak 1000, .readSlots 1064 1] 1200).2.2.1 2).2 (fun _ h => nomatch h)

/-- A line that stays high for more than 71 minutes behind a break of 200 microseconds seems to have done so for 12 of
them, and so it does to the estimator. -/
theorem marks_wrapped :
    let edges : List Edge := [⟨.low, 0⟩, ⟨.high, 200⟩]
    let now := 200 + (0x100000000 + 12)
    InOrder (edges ++ [⟨.low, now⟩]) ∧ EndsWithBreak edges 0 200 ∧
      ((EdgeMeter.new.run edges).onEdge .low now).latest = some ⟨200, 12⟩ ∧
      ((EdgeMeter.new.run edges).onEdge .low now).latest ≠ some ⟨saturated (200 - 0), saturated (now - 200)⟩ ∧
      ((BreakEstimator.new.run [.heardBreak 200]).onData (now + slotMicros) 1).latest = some ⟨44, 12⟩ ∧
      ((BreakEstimator.new.run [.heardBreak 200]).onData (now + slotMicros) 1).latest ≠
        some ⟨UInt32.ofNat slotMicros, saturated (now - 200)⟩ := by
  intro edges now
  exact ⟨by decide, ⟨[], [], rfl, by decide, by decide⟩, by decide, by decide, by decide, by decide⟩

end LightBus
