import LightBus.Proofs.Dictionary.Overlap
import LightBus.Proofs.Dictionary.Queue

/-!
# Changes that controllers hear of

A parameter that a program stores data for is put into the queue if there was room for a part of the data.  So a value
that has changed waits to be fetched, and the queue has a place for it (`announced_of_changed`).

There is one change that no controller hears of: storing no data for a text clears it (`Clears`), but as no byte of
them was stored, the parameter does not wait (`cleared_in_silence`).
-/

namespace LightBus.Dictionary

variable {κ : Type} {d : Dictionary κ} {pid : ParameterId} {data : List UInt8}

/-- There are no data for a parameter that is a text. -/
def Clears (d : Dictionary κ) (pid : ParameterId) (data : List UInt8) : Prop :=
  data = [] ∧ ∃ definition, d.definition? pid = some definition ∧ definition.description.dataType = .text

private theorem count_setAndQueue (d : Dictionary κ) (pid : ParameterId) (data : List UInt8) :
    (d.setAndQueue pid data).1 = (d.set pid data).1 := by
  unfold setAndQueue
  dsimp only
  split
  · rfl
  · rfl

/-- Queueing changes no value. -/
private theorem get?_setAndQueue (d : Dictionary κ) (pid : ParameterId) (data : List UInt8) (other : ParameterId) :
    (d.setAndQueue pid data).2.get? other = (d.set pid data).2.get? other := by
  obtain ⟨hentries, harena, -⟩ := d.setAndQueue_frame pid data
  exact get?_of_same hentries harena other

/-- Where there was room for no byte, none is written, unless a text is cleared. -/
theorem set_of_count_zero (hkeeps : ¬d.Clears pid data) (hcount : (d.set pid data).1 = 0) :
    (d.set pid data).2 = d := by
  cases hrange : d.range? pid with
  | none => rw [set_of_no_range hrange]
  | some range =>
    obtain ⟨start, size⟩ := range
    obtain ⟨entry, hentry, -⟩ := Option.bind_eq_some_iff.1 hrange
    have hdefinition := definition?_of_entry? hentry
    by_cases hdata : data = []
    · have hbytes : entry.definition.description.dataType ≠ .text :=
        fun htext => hkeeps ⟨hdata, _, hdefinition, htext⟩
      rw [hdata, set_nil hdefinition hrange, if_neg hbytes]
    · rw [set_eq hdefinition hrange] at hcount ⊢
      have hlength := List.length_pos_of_ne_nil hdata
      have hsize : size = 0 := by
        dsimp only at hcount
        omega
      have hstored := length_storedForm_le entry.definition.description.dataType size data
      have hnothing : storedForm entry.definition.description.dataType size data = [] :=
        List.length_eq_zero_iff.1 (by omega)
      dsimp only
      rw [hnothing, overwrite_nil]

/-- A text that is cleared is all zeros, and is not queued for that. -/
private theorem setAndQueue_of_clears (hd : d.Reachable) (hclears : d.Clears pid data) :
    (d.set pid data).1 = 0 ∧ (d.setAndQueue pid data).2.queue = d.queue ∧
      (d.setAndQueue pid data).2.get? pid = (d.get? pid).map fun value => List.replicate value.length 0 := by
  obtain ⟨rfl, definition, hdefinition, htext⟩ := hclears
  have hcount : (d.set pid []).1 = 0 := by
    cases hrange : d.range? pid with
    | none => rw [set_of_no_range hrange]
    | some range => rw [set_nil hdefinition hrange]
  refine ⟨hcount, ?_, ?_⟩
  · unfold setAndQueue
    dsimp only
    rw [if_neg (fun hqueues => absurd hqueues.1 (by omega))]
    exact (d.set_frame pid []).2.1
  · rw [get?_setAndQueue]
    cases hrange : d.range? pid with
    | none =>
      rw [set_of_no_range hrange, get?, hrange]
      rfl
    | some range =>
      obtain ⟨start, size⟩ := range
      have hold := hd.length_slice hrange
      rw [get?_set_self hd hdefinition hrange, get?_of_range? hrange, htext, value_of_text hold,
        Option.map_some, hold]
      simp

/-- A value that has changed waits to be fetched, and storing tells that there was room for nothing only if nothing
has changed.  The one exception is a text that is cleared by no data: this is told as nothing, and it does not
wait. -/
theorem announced_of_changed (hd : d.Reachable) (pid : ParameterId) (data : List UInt8) :
    (¬d.Clears pid data →
      ((d.setAndQueue pid data).2.get? pid ≠ d.get? pid → pid ∈ (d.setAndQueue pid data).2.queue) ∧
      ((d.set pid data).1 = 0 → (d.set pid data).2 = d)) ∧
    (d.Clears pid data →
      (d.set pid data).1 = 0 ∧ (d.setAndQueue pid data).2.queue = d.queue ∧
      (d.setAndQueue pid data).2.get? pid = (d.get? pid).map fun value => List.replicate value.length 0) := by
  refine ⟨fun hkeeps => ⟨fun hchanged => ?_, set_of_count_zero hkeeps⟩, setAndQueue_of_clears hd⟩
  refine hd.queueSparse.mem_setAndQueue hd (Nat.pos_of_ne_zero fun hcount => hchanged ?_)
  rw [count_setAndQueue] at hcount
  rw [get?_setAndQueue, set_of_count_zero hkeeps hcount]

/-- A note of four letters. -/
def noteCalls : List (Call Empty) := [.define (plainBytes 0x8001 .text) 4 [0x6E, 0x6F, 0x74, 0x65]]

/-- A shorter note is told to controllers. -/
theorem announced_of_changed_note :
    let d : Dictionary Empty := (empty (List.replicate 4 0)).performAll noteCalls
    (d.setAndQueue 0x8001 [0x68, 0x69]).2.get? 0x8001 = some [0x68, 0x69, 0, 0] ∧
      0x8001 ∈ (d.setAndQueue 0x8001 [0x68, 0x69]).2.queue := by
  intro d
  have hd : d.Reachable := reachable_iff_exists_calls.2 ⟨_, noteCalls, rfl⟩
  have hold : d.get? 0x8001 = some [0x6E, 0x6F, 0x74, 0x65] := rfl
  have hnew : (d.setAndQueue 0x8001 [0x68, 0x69]).2.get? 0x8001 = some [0x68, 0x69, 0, 0] := rfl
  refine ⟨hnew, ((announced_of_changed hd 0x8001 [0x68, 0x69]).1 ?_).1 ?_⟩
  · rintro ⟨hdata, -⟩
    cases hdata
  · rw [hnew, hold]
    decide

/-- The note is gone, and no controller hears of it. -/
theorem cleared_in_silence :
    let d : Dictionary Empty := (empty (List.replicate 4 0)).performAll noteCalls
    d.Reachable ∧ d.get? 0x8001 = some [0x6E, 0x6F, 0x74, 0x65] ∧
      (d.setAndQueue 0x8001 []).2.get? 0x8001 = some [0, 0, 0, 0] ∧ 0x8001 ∉ (d.setAndQueue 0x8001 []).2.queue ∧
      (d.set 0x8001 []).1 = 0 ∧ (d.set 0x8001 []).2.arena ≠ d.arena :=
  ⟨reachable_iff_exists_calls.2 ⟨_, noteCalls, rfl⟩, rfl, rfl, List.not_mem_nil, rfl, by decide +kernel⟩

end LightBus.Dictionary
