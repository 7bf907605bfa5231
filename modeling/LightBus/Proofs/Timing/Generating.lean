import LightBus.Proofs.Timing.Measuring

/-!
# Breaks are measured as they were set

What a break sequence does to the line at each alarm is measured as the break and the mark of its timing, to the
microsecond (`BreakTiming.latest_of_generated`).

* (timings) Every setting is clamped, so a break that is sent is never too short for the meter
  (`BreakTiming.Legal.setAll`).
* (slots) The bits of the slots behind the mark are too short for breaks, so they do not disturb what was measured
  (`ShortLows.latest_run`).
-/

namespace LightBus

/-! ### Timings -/

private theorem le_clampTo {low high : UInt32} (h : low ≤ high) (value : UInt32) :
    low ≤ clampTo low high value ∧ clampTo low high value ≤ high := by
  have hclamp : clampTo low high value =
      if low ≤ (if value ≤ high then value else high) then (if value ≤ high then value else high) else low := rfl
  simp only [UInt32.le_iff_toNat_le] at h hclamp ⊢
  rw [hclamp]
  by_cases hhigh : value.toNat ≤ high.toNat
  · rw [if_pos hhigh]
    split <;> omega
  · rw [if_neg hhigh, if_pos h]
    omega

namespace BreakTiming

/-- One length is set anew. -/
inductive Setting where
  | breakLength (micros : UInt32)
  | markLength (micros : UInt32)
deriving DecidableEq

def set (t : BreakTiming) : Setting → BreakTiming
  | .breakLength micros => t.setBreak micros
  | .markLength micros => t.setMark micros

def setAll (t : BreakTiming) (settings : List Setting) : BreakTiming := settings.foldl set t

/-- Both lengths are within the limits of the bus. -/
structure Legal (t : BreakTiming) : Prop where
  breakLength : minBreak ≤ t.breakLength ∧ t.breakLength ≤ maxBreak
  markLength : minMark ≤ t.markLength ∧ t.markLength ≤ maxMark

private theorem legal_clamped (breakLength markLength : UInt32) : (clamped breakLength markLength).Legal :=
  ⟨le_clampTo (by decide) _, le_clampTo (by decide) _⟩

private theorem Legal.set {t : BreakTiming} (h : t.Legal) (setting : Setting) : (t.set setting).Legal := by
  cases setting with
  | breakLength micros => exact ⟨le_clampTo (by decide) _, h.markLength⟩
  | markLength micros => exact ⟨h.breakLength, le_clampTo (by decide) _⟩

theorem Legal.setAll {t : BreakTiming} (h : t.Legal) (settings : List Setting) : (t.setAll settings).Legal := by
  induction settings generalizing t with
  | nil => exact h
  | cons setting settings ih => exact ih (h.set setting)

end BreakTiming

/-! ### Slots -/

/-- The line rises and falls in turn behind a fall at `fall`, and is never low for as long as a break takes. -/
inductive ShortLows : Nat → List Edge → Prop
  | nil {fall : Nat} : ShortLows fall []
  | rise {fall rise : Nat} (hshort : rise < fall + minBreak.toNat) : ShortLows fall [⟨.high, rise⟩]
  | slot {fall rise next : Nat} {edges : List Edge} (hshort : rise < fall + minBreak.toNat)
    (hrest : ShortLows next edges) :
      ShortLows fall (⟨.high, rise⟩ :: ⟨.low, next⟩ :: edges)

/-- Low periods that are too short for breaks change nothing that was measured. -/
theorem ShortLows.latest_run {fall : Nat} {edges : List Edge} (h : ShortLows fall edges) {m : EdgeMeter}
    (hfall : m.lastFall = some fall) (hpending : m.pendingBreak = none) : (m.run edges).latest = m.latest := by
  induction h generalizing m with
  | nil | rise => rfl
  | @slot fall rise next edges hshort _ ih =>
    have hnone : (m.onEdge .high rise).pendingBreak = none := by
      have hpos : 0 < minBreak.toNat := by decide
      rw [(EdgeMeter.risen_of_fallen hfall hpending rise).pendingBreak]
      exact if_neg (by omega)
    calc (((m.onEdge .high rise).onEdge .low next).run edges).latest
        = ((m.onEdge .high rise).onEdge .low next).latest := ih rfl rfl
      _ = (m.onEdge .high rise).latest := EdgeMeter.latest_fall_of_none hnone next
      _ = m.latest := rfl

/-! ### Breaks -/

namespace BreakTiming

/-- The falls and the rise of a break and a mark, however the meter was before. -/
private theorem latest_of_break {t : BreakTiming} (h : t.Legal) (m : EdgeMeter) (start : Nat) :
    (m.run [⟨.low, start⟩, ⟨.high, start + t.breakLength.toNat⟩,
      ⟨.low, start + t.breakLength.toNat + t.markLength.toNat⟩]).latest = some ⟨t.breakLength, t.markLength⟩ := by
  have hrisen :
      ((m.onEdge .low start).onEdge .high (start + t.breakLength.toNat)).Risen start (start + t.breakLength.toNat) :=
    EdgeMeter.risen_of_fallen rfl rfl _
  have hlong : minBreak.toNat ≤ start + t.breakLength.toNat - start := by
    have hlegal := UInt32.le_iff_toNat_le.1 h.breakLength.1
    omega
  have hmeasured := hrisen.latest_fall hlong (start + t.breakLength.toNat + t.markLength.toNat)
  rwa [Nat.add_sub_cancel_left, Nat.add_sub_cancel_left, saturated_toNat, UInt32.ofNat_toNat] at hmeasured

/-- A break of any timing that can be set, sent from any time on and seen by a meter in any state: the alarms of the
sequence are those of the timing, the first slot follows the second, and what the meter tells from then on is the
timing, whatever slots are sent. -/
theorem latest_of_generated (breakLength markLength : UInt32) (settings : List Setting) (m : EdgeMeter)
    (start : Nat) :
    let timing := (clamped breakLength markLength).setAll settings
    ∃ (low mark : UInt32) (begun released ended : BreakSequence),
      BreakSequence.start timing = (.holdLow low, begun) ∧ begun.onAlarm = (.release mark, released) ∧
      released.onAlarm = (.startData, ended) ∧
      ∀ slots, ShortLows (start + low.toNat + mark.toNat) slots →
        (m.run ([⟨.low, start⟩, ⟨.high, start + low.toNat⟩, ⟨.low, start + low.toNat + mark.toNat⟩] ++
          slots)).latest = some ⟨timing.breakLength, timing.markLength⟩ := by
  intro timing
  have hlegal : timing.Legal := (legal_clamped breakLength markLength).setAll settings
  refine ⟨timing.breakLength, timing.markLength, _, _, _, rfl, rfl, rfl, fun slots hslots => ?_⟩
  rw [EdgeMeter.run_append, hslots.latest_run rfl rfl]
  exact latest_of_break hlegal m start

/-- A break that was set too short and a mark that was set anew, behind an unfinished break of long ago. -/
theorem latest_of_generated_clamped :
    let stale : EdgeMeter := ⟨some 3, some 500, some 497, some ⟨92, 12⟩⟩
    let slots : List Edge := [⟨.high, 1148⟩, ⟨.low, 1156⟩, ⟨.high, 1192⟩]
    ShortLows 1112 slots ∧
      (stale.run ([⟨.low, 1000⟩, ⟨.high, 1092⟩, ⟨.low, 1112⟩] ++ slots)).latest = some ⟨92, 20⟩ := by
  intro stale slots
  have hslots : ShortLows 1112 slots := .slot (by decide) (.rise (by decide))
  obtain ⟨low, mark, begun, released, ended, hstart, halarm, -, hlatest⟩ :=
    latest_of_generated 50 12 [.markLength 20] stale 1000
  obtain ⟨rfl, rfl⟩ : low = 92 ∧ begun = ⟨.low, 20⟩ := by cases hstart; decide
  obtain rfl : mark = 20 := by cases halarm; rfl
  exact ⟨hslots, hlatest slots hslots⟩

end BreakTiming

end LightBus
