import LightBus.Proofs.Bus.Reachable

/-!
# Reception after a break

The slots that follow a break come in chunks of any sizes.  What the bus tells of them depends on the slots alone,
and on the size that it expects of a frame (`expectedNotice`), but not on the chunks and not on what the bus did
before.

While the slots do not make up a frame the bus is `Pending`, and then it is `Finished`.  `Pending.receive` and
`Finished.receive` say what one chunk does, `Bus.reception_of_chunks` is the result for a whole reception.
-/

namespace LightBus

/-- The notice that an effect brings to the task. -/
def Effect.notice? : Effect → Option Notice
  | .notify n => some n
  | _ => none

/-- All notices, in their order. -/
def notices (effects : List Effect) : List Notice := effects.filterMap Effect.notice?

theorem notices_append (first second : List Effect) : notices (first ++ second) = notices first ++ notices second :=
  List.filterMap_append

/-! ### What the slots tell -/

/-- The size of a package by its third slot: the slots that it announces, but a header at least, and the
checksum. -/
def announcedSize (length : UInt8) : Nat := max length.toNat rdmHeaderSize + 2

/-- The notice that slots after a break lead to, if frames of an unknown length are expected to have `guess`
slots. -/
def expectedNotice (slots : List UInt8) (guess : Nat) : Option Notice :=
  match slots with
  | [] => none
  | startCode :: _ =>
    if startCode = rdmStart then
      match slots[2]? with
      | none => none
      | some length =>
        if announcedSize length ≤ slots.length then
          some ⟨if checksumValid (slots.take (announcedSize length)) then .ok else .wrongChecksum, .receive, .package,
            announcedSize length, none⟩
        else none
    else if guess ≤ slots.length then some ⟨.ok, .receive, .levels startCode, guess, none⟩
    else none

/-- Every package that can be announced fits into the largest one. -/
private theorem packageSize_eq (length : UInt8) : packageSize length = announcedSize length := by
  have := length.toNat_lt
  rw [packageSize, announcedSize, maxPackageSize, rdmHeaderSize]
  omega

theorem announcedSize_le (length : UInt8) : announcedSize length ≤ maxPackageSize := by
  rw [← packageSize_eq]
  exact Nat.min_le_right _ _

variable {p c : List UInt8} {g : Nat} {n : Notice}

/-- The two ways in which slots make up a frame. -/
theorem expectedNotice_eq_some_iff : expectedNotice p g = some n ↔
    (∃ length, p.head? = some rdmStart ∧ p[2]? = some length ∧ announcedSize length ≤ p.length ∧
      n = ⟨Bus.packageStatus (p.take (announcedSize length)), .receive, .package, announcedSize length, none⟩) ∨
    (∃ startCode, p.head? = some startCode ∧ startCode ≠ rdmStart ∧ g ≤ p.length ∧
      n = ⟨.ok, .receive, .levels startCode, g, none⟩) := by
  constructor
  · intro h
    cases p with
    | nil => cases h
    | cons startCode rest =>
      rw [expectedNotice] at h
      by_cases hstart : startCode = rdmStart
      · rw [if_pos hstart] at h
        cases hlength : (startCode :: rest)[2]? with
        | none => rw [hlength] at h; cases h
        | some length =>
          rw [hlength] at h
          obtain ⟨hle, heq⟩ := Option.ite_none_right_eq_some.1 h
          exact .inl ⟨length, congrArg some hstart, rfl, hle, (Option.some.inj heq).symm⟩
      · rw [if_neg hstart] at h
        obtain ⟨hle, heq⟩ := Option.ite_none_right_eq_some.1 h
        exact .inr ⟨startCode, rfl, hstart, hle, (Option.some.inj heq).symm⟩
  · rintro (⟨length, hhead, hlength, hle, rfl⟩ | ⟨startCode, hhead, hstart, hle, rfl⟩)
    · obtain ⟨rest, rfl⟩ := List.head?_eq_some_iff.1 hhead
      rw [expectedNotice, if_pos rfl, hlength]
      exact if_pos hle
    · obtain ⟨rest, rfl⟩ := List.head?_eq_some_iff.1 hhead
      rw [expectedNotice, if_neg hstart]
      exact if_pos hle

/-- Further slots do not change what was told. -/
theorem expectedNotice_append (h : expectedNotice p g = some n) (c : List UInt8) :
    expectedNotice (p ++ c) g = some n := by
  rw [expectedNotice_eq_some_iff] at h ⊢
  rcases h with ⟨length, hhead, hlength, hle, rfl⟩ | ⟨startCode, hhead, hne, hle, rfl⟩
  · refine .inl ⟨length, ?_, ?_, ?_, ?_⟩
    · rw [List.head?_append, hhead]; rfl
    · rw [List.getElem?_append_left (List.getElem?_eq_some_iff.1 hlength).1, hlength]
    · rw [List.length_append]; omega
    · rw [List.take_append_of_le_length hle]
  · refine .inr ⟨startCode, ?_, hne, ?_, rfl⟩
    · rw [List.head?_append, hhead]; rfl
    · rw [List.length_append]; omega

/-- A full buffer always makes up a frame. -/
private theorem expectedNotice_ne_none (hg : g ≤ maxFrameSize) (hp : p.length = maxFrameSize) :
    expectedNotice p g ≠ none := by
  have hsome : ∃ n, expectedNotice p g = some n := by
    have hlong : 2 < p.length := by rw [hp, maxFrameSize]; omega
    have hhead : p.head? = some p[0] := by rw [List.head?_eq_getElem?, List.getElem?_eq_getElem]
    by_cases hstart : p[0] = rdmStart
    · have hle := announcedSize_le p[2]
      rw [maxPackageSize] at hle
      exact ⟨_, expectedNotice_eq_some_iff.2 (.inl ⟨p[2], hhead.trans (congrArg some hstart),
        List.getElem?_eq_getElem hlong, by rw [hp, maxFrameSize]; omega, rfl⟩)⟩
    · exact ⟨_, expectedNotice_eq_some_iff.2 (.inr ⟨p[0], hhead, hstart, hp ▸ hg, rfl⟩)⟩
  obtain ⟨n, hn⟩ := hsome
  rw [hn]
  exact nofun

/-! ### Telling the slots apart -/

/-- As long as nothing is told more slots are needed. -/
theorem classify_of_none (h : expectedNotice p g = none) : classify p true g = .incomplete := by
  cases p with
  | nil => rfl
  | cons startCode rest =>
    rw [expectedNotice] at h
    simp only [classify, packageSize_eq, Bool.not_true, Bool.false_eq_true, ↓reduceIte]
    by_cases hstart : startCode = rdmStart
    · rw [if_pos hstart] at h ⊢
      cases hlength : (startCode :: rest)[2]? with
      | none => rfl
      | some length =>
        rw [hlength] at h
        dsimp only at h
        exact if_neg fun hle => by rw [if_pos hle] at h; cases h
    · rw [if_neg hstart] at h ⊢
      exact if_neg fun hle => by rw [if_pos hle] at h; cases h

theorem classify_package {length : UInt8} (hhead : p.head? = some rdmStart) (hlength : p[2]? = some length)
    (hle : announcedSize length ≤ p.length) : classify p true g = .complete .package (announcedSize length) := by
  obtain ⟨rest, rfl⟩ := List.head?_eq_some_iff.1 hhead
  simp only [classify, packageSize_eq, Bool.not_true, Bool.false_eq_true, ↓reduceIte, hlength, hle]

theorem classify_levels {startCode : UInt8} (hhead : p.head? = some startCode) (hstart : startCode ≠ rdmStart)
    (hle : g ≤ p.length) : classify p true g = .complete (.levels startCode) g := by
  obtain ⟨rest, rfl⟩ := List.head?_eq_some_iff.1 hhead
  simp only [classify, Bool.not_true, Bool.false_eq_true, ↓reduceIte, hstart, hle]

namespace Bus

variable {b : Bus}

/-- Slots are read, and the bus is told how many there were. -/
def receive (b : Bus) (slots : List UInt8) (now : Nat) : List Effect × Bus :=
  (b.fill slots).handle (.received slots.length) now

/-- Chunks are read one after the other, each at its time. -/
def receiveAll (b : Bus) : List (List UInt8 × Nat) → List Effect × Bus
  | [] => ([], b)
  | (slots, now) :: rest =>
    let (effects, b) := b.receive slots now
    let (more, b) := b.receiveAll rest
    (effects ++ more, b)

/-! ### What one event does -/

theorem notices_finish (status : Status) (kind : FrameKind) (size now : Nat) :
    notices (b.finish status kind size now).1 = [⟨status, .receive, kind, size, none⟩] := by
  unfold finish
  dsimp only
  split <;> rfl

theorem Over.notices {status : Status} {kind : FrameKind} {size now : Nat} {result : List Effect × Bus}
    (h : Over b status kind size now result) : notices result.1 = [⟨status, .receive, kind, size, none⟩] := by
  cases h with
  | stays => exact notices_finish _ _ _ _
  | turns =>
    rw [notices_append, notices_finish]
    rfl

/-- Before the end of a frame all slots are looked at anew. -/
theorem onReceived_of_not_finished (h : b.frameFinished = false) (count now : Nat) :
    b.onReceived count now = { b.advance count with rx := .receiving }.conclude (b.window < count) now := by
  unfold onReceived
  unfold frameFinished at h
  cases hrx : b.rx with
  | complete => rw [hrx] at h; cases h
  | failed => rw [hrx] at h; cases h
  | idle => rfl
  | inBreak => rfl
  | inMark => rfl
  | receiving => rfl

/-- After the end of a frame slots that fit the buffer are counted at most. -/
private theorem onReceived_of_complete (h : b.rx = .complete) {count : Nat} (hroom : count ≤ b.window) (now : Nat) :
    b.onReceived count now = ([], b.advance count) ∨ b.onReceived count now = ([], b) := by
  have hfits : ¬b.window < count := Nat.not_lt_of_le hroom
  unfold onReceived
  rw [h]
  dsimp only
  split
  · left
    simp only [hfits, decide_false, Bool.false_eq_true, ↓reduceIte]
  · exact .inr rfl

/-! ### Chunk by chunk -/

/-- The slots `p` lie at the front of the buffer, and the reception is not over. -/
structure Gathered (p : List UInt8) (b : Bus) : Prop where
  unfinished : b.frameFinished = false
  buffer : b.frame.length = maxFrameSize
  cursor : b.cursor = p.length
  slots : b.frame.take p.length = p

theorem window_fill (b : Bus) (slots : List UInt8) : (b.fill slots).window = b.window := by
  rw [window, window, fill, length_overwrite]

/-- A chunk that fits is put behind the slots that came before. -/
theorem Gathered.advance (h : Gathered p b) (hfits : (p ++ c).length ≤ maxFrameSize) :
    Gathered (p ++ c) { (b.fill c).advance c.length with rx := .receiving } := by
  rw [List.length_append] at hfits
  refine ⟨rfl, (length_overwrite _ _ _).trans h.buffer, ?_, ?_⟩
  · show b.cursor + min c.length (b.fill c).window = (p ++ c).length
    rw [window_fill, window, h.buffer, h.cursor, List.length_append]
    omega
  · show (overwrite b.frame b.cursor c).take (p ++ c).length = p ++ c
    rw [h.cursor, List.length_append, take_overwrite (by rw [h.buffer]; omega), h.slots]

/-- A chunk that fits is looked at together with the slots that came before. -/
theorem Gathered.receive (h : Gathered p b) (hfits : (p ++ c).length ≤ maxFrameSize) (now : Nat) :
    b.receive c now = { (b.fill c).advance c.length with rx := .receiving }.conclude false now := by
  have hroom : decide ((b.fill c).window < c.length) = false := by
    rw [window_fill, window, h.buffer, h.cursor, decide_eq_false_iff_not]
    rw [List.length_append] at hfits
    omega
  rw [← hroom]
  exact onReceived_of_not_finished (b := b.fill c) h.unfinished c.length now

/-- The slots `p` have come after a break, and the reception is not over. -/
structure Collected (g : Nat) (p : List UInt8) (b : Bus) : Prop where
  unfinished : b.frameFinished = false
  afterBreak : b.afterBreak = true
  guess : b.sizeGuess = g
  buffer : b.frame.length = maxFrameSize
  cursor : b.cursor = p.length
  slots : b.frame.take p.length = p

/-- The slots `p` have come after a break, and they do not make up a frame yet. -/
structure Pending (g : Nat) (p : List UInt8) (b : Bus) : Prop extends Collected g p b where
  untold : expectedNotice p g = none

/-- The slots `p` have come after a break, and the frame of the notice lies at their beginning. -/
structure Finished (n : Notice) (p : List UInt8) (b : Bus) : Prop where
  complete : b.rx = .complete
  buffer : b.frame.length = maxFrameSize
  size_le : n.size ≤ b.cursor
  cursor_le : b.cursor ≤ p.length
  slots : b.frame.take n.size = p.take n.size

/-- After a break nothing has come. -/
theorem pending_onBreak (h : b.Bounded) : Pending b.onBreak.2.sizeGuess [] b.onBreak.2 :=
  ⟨⟨rfl, rfl, rfl, h.frame, rfl, rfl⟩, rfl⟩

theorem Collected.gathered (h : Collected g p b) : Gathered p b := ⟨h.unfinished, h.buffer, h.cursor, h.slots⟩

theorem Collected.advance (h : Collected g p b) (hfits : (p ++ c).length ≤ maxFrameSize) :
    Collected g (p ++ c) { (b.fill c).advance c.length with rx := .receiving } := by
  obtain ⟨hunfinished, hbuffer, hcursor, hslots⟩ := h.gathered.advance hfits
  exact ⟨hunfinished, h.afterBreak, h.guess, hbuffer, hcursor, hslots⟩

/-- A frame is looked up in the buffer, which begins with the slots. -/
theorem Collected.take (h : Collected g p b) {size : Nat} (hle : size ≤ p.length) :
    b.frame.take size = p.take size := by
  calc b.frame.take size = (b.frame.take p.length).take size := by rw [List.take_take, Nat.min_eq_left hle]
    _ = p.take size := by rw [h.slots]

/-- The slots that were collected are told as soon as they make up a frame. -/
theorem Collected.conclude (h : Collected g p b) (hg : g ≤ maxFrameSize) (now : Nat) :
    (expectedNotice p g = none ∧ b.conclude false now = ([], b)) ∨
    ∃ n, expectedNotice p g = some n ∧ notices (b.conclude false now).1 = [n] ∧
      Finished n p (b.conclude false now).2 := by
  rw [Bus.conclude, h.afterBreak, h.guess, h.cursor, h.slots]
  cases hexpected : expectedNotice p g with
  | none =>
    -- a full buffer is a frame, so there is room for more
    have hroom : ¬p.length = maxFrameSize := fun hfull => expectedNotice_ne_none hg hfull hexpected
    simp only [classify_of_none hexpected, hroom, ↓reduceIte]
    exact .inl ⟨trivial, trivial⟩
  | some n =>
    refine .inr ⟨n, rfl, ?_⟩
    rcases expectedNotice_eq_some_iff.1 hexpected with ⟨length, hhead, hlength, hle, rfl⟩ |
      ⟨startCode, hhead, hstart, hle, rfl⟩
    · have hover := b.over_finishPackage (announcedSize length) now
      simp only [classify_package hhead hlength hle, hover.notices, h.take hle]
      obtain ⟨hrx, -, hframe, hcursor, -⟩ := hover.after
      rw [h.cursor] at hcursor
      exact ⟨trivial, hrx, hframe ▸ h.buffer, by rw [hcursor]; exact hle, Nat.le_of_eq hcursor,
        by rw [hframe]; exact h.take hle⟩
    · simp only [classify_levels hhead hstart hle, Bool.false_eq_true, ↓reduceIte, notices_finish]
      exact ⟨trivial, rfl, h.buffer, h.cursor ▸ hle, Nat.le_of_eq h.cursor, h.take hle⟩

/-- A chunk that fits leads to the notice that is expected by then, if there is one. -/
theorem Pending.receive (h : Pending g p b) (hg : g ≤ maxFrameSize) (hfits : (p ++ c).length ≤ maxFrameSize)
    (now : Nat) :
    (expectedNotice (p ++ c) g = none ∧ notices (b.receive c now).1 = [] ∧ Pending g (p ++ c) (b.receive c now).2) ∨
    ∃ n, expectedNotice (p ++ c) g = some n ∧ notices (b.receive c now).1 = [n] ∧
      Finished n (p ++ c) (b.receive c now).2 := by
  have hcollected := h.advance hfits
  rw [h.gathered.receive hfits now]
  rcases hcollected.conclude hg now with ⟨hnone, hquiet⟩ | htold
  · rw [hquiet]
    exact .inl ⟨hnone, rfl, hcollected, hnone⟩
  · exact .inr htold

/-- Further chunks lead to nothing, and leave the frame where it is. -/
theorem Finished.receive (h : Finished n p b) (hfits : (p ++ c).length ≤ maxFrameSize) (now : Nat) :
    (b.receive c now).1 = [] ∧ Finished n (p ++ c) (b.receive c now).2 := by
  rw [List.length_append] at hfits
  have hcursor := h.cursor_le
  have hsize := h.size_le
  have hbuffer : (b.fill c).frame.length = maxFrameSize := (length_overwrite _ _ _).trans h.buffer
  have hroom : c.length ≤ (b.fill c).window := by
    rw [window, hbuffer]
    show c.length ≤ maxFrameSize - b.cursor
    omega
  have hslots : (b.fill c).frame.take n.size = (p ++ c).take n.size := by
    show (overwrite b.frame b.cursor c).take n.size = _
    rw [take_overwrite_of_le hsize (by rw [h.buffer]; omega), h.slots, List.take_append_of_le_length (by omega)]
  rcases (b.fill c).onReceived_of_complete h.complete hroom now with hrun | hrun
  · rw [show b.receive c now = _ from hrun]
    refine ⟨rfl, h.complete, hbuffer, ?_, ?_, hslots⟩
    · show n.size ≤ b.cursor + min c.length (b.fill c).window
      omega
    · show b.cursor + min c.length (b.fill c).window ≤ (p ++ c).length
      rw [List.length_append]
      omega
  · rw [show b.receive c now = _ from hrun]
    refine ⟨rfl, h.complete, hbuffer, hsize, ?_, hslots⟩
    rw [List.length_append]
    exact Nat.le_trans hcursor (Nat.le_add_right _ _)

/-! ### Whole receptions -/

variable {chunks : List (List UInt8 × Nat)}

/-- All slots of the chunks. -/
def slotsOf (chunks : List (List UInt8 × Nat)) : List UInt8 := chunks.flatMap Prod.fst

theorem slotsOf_cons (c : List UInt8) (now : Nat) (rest : List (List UInt8 × Nat)) :
    slotsOf ((c, now) :: rest) = c ++ slotsOf rest :=
  List.flatMap_cons

theorem slotsOf_append (first second : List (List UInt8 × Nat)) :
    slotsOf (first ++ second) = slotsOf first ++ slotsOf second :=
  List.flatMap_append

theorem Finished.receiveAll (h : Finished n p b) (hfits : (p ++ slotsOf chunks).length ≤ maxFrameSize) :
    (b.receiveAll chunks).1 = [] ∧ Finished n (p ++ slotsOf chunks) (b.receiveAll chunks).2 := by
  induction chunks generalizing p b with
  | nil =>
    rw [slotsOf, List.flatMap_nil, List.append_nil]
    exact ⟨rfl, h⟩
  | cons chunk rest ih =>
    obtain ⟨c, now⟩ := chunk
    rw [slotsOf_cons, ← List.append_assoc] at hfits ⊢
    obtain ⟨hquiet, hnext⟩ := h.receive (c := c) (by rw [List.length_append] at hfits; omega) now
    obtain ⟨hrest, hend⟩ := ih hnext hfits
    rw [Bus.receiveAll]
    dsimp only
    exact ⟨by rw [hquiet, hrest]; rfl, hend⟩

/-- A whole reception leads to the expected notice, whatever the chunks are, and then the frame lies in the
buffer. -/
theorem Pending.receiveAll (h : Pending g p b) (chunks : List (List UInt8 × Nat)) (hg : g ≤ maxFrameSize)
    (hfits : (p ++ slotsOf chunks).length ≤ maxFrameSize) :
    notices (b.receiveAll chunks).1 = (expectedNotice (p ++ slotsOf chunks) g).toList ∧
      ∀ n, expectedNotice (p ++ slotsOf chunks) g = some n →
        Finished n (p ++ slotsOf chunks) (b.receiveAll chunks).2 := by
  induction chunks generalizing p b with
  | nil =>
    rw [slotsOf, List.flatMap_nil, List.append_nil, h.untold]
    exact ⟨rfl, nofun⟩
  | cons chunk rest ih =>
    obtain ⟨c, now⟩ := chunk
    rw [slotsOf_cons, ← List.append_assoc] at hfits ⊢
    rw [Bus.receiveAll]
    dsimp only
    rcases h.receive (c := c) hg (by rw [List.length_append] at hfits; omega) now with
      ⟨-, hquiet, hnext⟩ | ⟨n, hn, htold, hnext⟩
    · rw [notices_append, hquiet, List.nil_append]
      exact ih hnext hfits
    · -- the rest of the chunks cannot change what was told
      have hend := expectedNotice_append hn (slotsOf rest)
      obtain ⟨hquiet, hframe⟩ := hnext.receiveAll hfits
      rw [notices_append, htold, hquiet, hend]
      refine ⟨rfl, fun m hm => ?_⟩
      rw [← Option.some.inj hm]
      exact hframe

/-- After a break, from any state that can be reached, the slots of the chunks lead to the notice that is expected
of them and to no other; from then on the frame lies in the buffer. -/
theorem reception_of_chunks (hb : b.Reachable) (breakAt : Nat) (chunks : List (List UInt8 × Nat))
    (hfits : (slotsOf chunks).length ≤ maxFrameSize) :
    let start := b.handle .break breakAt
    notices (start.1 ++ (start.2.receiveAll chunks).1) =
      (expectedNotice (slotsOf chunks) start.2.sizeGuess).toList ∧
    ∀ done rest, chunks = done ++ rest → ∀ n ∈ notices (start.2.receiveAll done).1,
      (start.2.receiveAll done).2.frame.take n.size = (slotsOf chunks).take n.size := by
  have hbounded : (b.handle .break breakAt).2.Bounded := hb.bounded.handle .break breakAt
  have hpending : Pending (b.handle .break breakAt).2.sizeGuess [] (b.handle .break breakAt).2 :=
    pending_onBreak hb.bounded
  refine ⟨?_, ?_⟩
  · rw [notices_append]
    exact (hpending.receiveAll chunks hbounded.guess_le hfits).1
  · -- a notice among the first chunks is what their slots lead to, and the frame lies in them
    rintro done rest rfl n hn
    rw [slotsOf_append, List.length_append] at hfits
    obtain ⟨htold, hframe⟩ := hpending.receiveAll done hbounded.guess_le
      (by rw [List.nil_append]; omega)
    rw [htold, Option.mem_toList] at hn
    have hdone := hframe n hn
    rw [hdone.slots, slotsOf_append, List.nil_append, List.take_append_of_le_length]
    exact Nat.le_trans hdone.size_le hdone.cursor_le

/-- A frame of three slots was seen before, so four slots in two chunks are one of three, and one too many. -/
theorem reception_of_two_chunks :
    let b := (((new .controller .standard).handle .break 0).2.receive [0, 1, 2] 10).2
    let start := b.handle .break 20
    let chunks := [([0, 10], 30), ([20, 30], 40)]
    notices (start.1 ++ (start.2.receiveAll chunks).1) = [⟨.ok, .receive, .levels 0, 3, none⟩] ∧
      ∀ n ∈ notices (start.2.receiveAll chunks).1,
        (start.2.receiveAll chunks).2.frame.take n.size = [0, 10, 20, 30].take n.size := by
  intro b
  have hreachable : b.Reachable :=
    (((Reachable.new .controller .standard).handle .break 0).fill [0, 1, 2]).handle (.received 3) 10
  have hguess : (b.handle .break 20).2.sizeGuess = 3 := by decide +kernel
  clear_value b
  intro start chunks
  obtain ⟨htold, hframe⟩ := reception_of_chunks hreachable 20 chunks (by decide)
  rw [hguess] at htold
  exact ⟨htold, hframe chunks [] rfl⟩

end Bus

end LightBus
