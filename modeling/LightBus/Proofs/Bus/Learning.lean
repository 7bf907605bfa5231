import LightBus.Proofs.Bus.Reception

/-!
# Frame sizes are learned

A frame of levels does not tell its size, so the bus expects that it is as long as the last one was.  The size of a
frame is learned at the break after it, from the slots that were counted: also from slots that came after the expected
end, and from a frame that did not fit the buffer.

* `Measured.receive`: what one chunk does after a break, by the slots that came before it and with it.
* `Measured.sizeGuess_onBreak`: what the next break makes of them.
* `Bus.size_learned`: one frame is enough, whatever was expected before.
-/

namespace LightBus

/-- The first of the slots in the buffer are those that were there before, or the new ones. -/
private theorem head?_overwrite_of_pos {buffer bytes : List UInt8} {start : Nat} (hstart : 0 < start)
    (hb : buffer ≠ []) :
    (overwrite buffer start bytes).head? = buffer.head? := by
  obtain ⟨first, rest, rfl⟩ := List.exists_cons_of_ne_nil hb
  obtain ⟨start, rfl⟩ := Nat.exists_eq_succ_of_ne_zero (Nat.ne_of_gt hstart)
  rfl

theorem head?_overwrite_zero {buffer bytes : List UInt8} (hb : buffer ≠ []) (hbytes : bytes ≠ []) :
    (overwrite buffer 0 bytes).head? = bytes.head? := by
  obtain ⟨first, rest, rfl⟩ := List.exists_cons_of_ne_nil hb
  obtain ⟨byte, more, rfl⟩ := List.exists_cons_of_ne_nil hbytes
  rfl

private theorem classify_levels_open {slots : List UInt8} {code : UInt8} {g : Nat}
    (hhead : ∀ first ∈ slots.head?, first = code) (hcode : code ≠ rdmStart) (hless : slots.length < g) :
    classify slots true g = .incomplete := by
  cases slots with
  | nil => rfl
  | cons first rest =>
    obtain rfl := hhead first rfl
    refine classify_of_none ?_
    rw [expectedNotice, if_neg hcode, if_neg (Nat.not_le_of_lt hless)]

namespace Bus

variable {b : Bus} {g k : Nat} {code : UInt8} {c : List UInt8}

/-- Less slots than expected are no frame of levels yet. -/
private theorem conclude_open (hafter : b.afterBreak = true) (hhead : 0 < b.cursor → b.frame.head? = some code)
    (hcode : code ≠ rdmStart) (hless : b.cursor < b.sizeGuess) (hguess : b.sizeGuess ≤ maxFrameSize)
    (overflow : Bool) (now : Nat) :
    b.conclude overflow now = ([], b) := by
  have hopen : classify (b.frame.take b.cursor) true b.sizeGuess = .incomplete := by
    refine classify_levels_open (fun first hfirst => ?_) hcode (Nat.lt_of_le_of_lt (List.length_take_le _ _) hless)
    rw [List.head?_take] at hfirst
    split at hfirst
    · cases hfirst
    · rw [hhead (by omega)] at hfirst
      exact (Option.some.inj hfirst).symm
  rw [conclude, hafter, hopen]
  dsimp only
  rw [if_neg (by omega)]

/-- As many slots as expected are a frame of levels, unless further ones were lost. -/
private theorem conclude_levels (hafter : b.afterBreak = true) (hhead : b.frame.head? = some code)
    (hcode : code ≠ rdmStart) (hpos : 0 < b.cursor) (hle : b.sizeGuess ≤ b.cursor)
    (hcursor : b.cursor ≤ b.frame.length) (overflow : Bool) (now : Nat) :
    b.conclude overflow now = if overflow then b.fail .tooLarge (.levels code) now else b.finish .ok (.levels code)
      b.sizeGuess now := by
  have hcomplete : classify (b.frame.take b.cursor) true b.sizeGuess = .complete (.levels code) b.sizeGuess := by
    refine classify_levels ?_ hcode (by rw [List.length_take]; omega)
    rw [List.head?_take, if_neg (Nat.ne_of_gt hpos), hhead]
  rw [conclude, hafter, hcomplete]

/-- The notice of a frame of levels. -/
def levelsNotice (status : Status) (code : UInt8) (size : Nat) : Notice :=
  ⟨status, .receive, .levels code, size, none⟩

/-- What slots of a frame of levels lead to when `k` of them have become `total`: the frame is complete at its
expected size, unless it does not fit the buffer by then, and it is too long as soon as it does not fit. -/
def levelsNotices (code : UInt8) (g k total : Nat) : List Notice :=
  (if k < g ∧ g ≤ total ∧ total ≤ maxFrameSize then [levelsNotice .ok code g] else []) ++
    if k ≤ maxFrameSize ∧ maxFrameSize < total then [levelsNotice .tooLarge code maxFrameSize] else []

/-- So many slots of a frame of levels have come after a break. -/
structure Measured (g : Nat) (code : UInt8) (k : Nat) (b : Bus) : Prop where
  afterBreak : b.afterBreak = true
  guess : b.sizeGuess = g
  buffer : b.frame.length = maxFrameSize
  cursor : b.cursor = min k maxFrameSize
  head : 0 < k → b.frame.head? = some code
  unfinished : k < g → b.frameFinished = false
  complete : g ≤ k → k ≤ maxFrameSize → b.rx = .complete ∧ b.rxKind = .levels code
  failed : maxFrameSize < k → b.rx = .failed

private theorem measured_onBreak (h : b.Bounded) (code : UInt8) :
    Measured b.onBreak.2.sizeGuess code 0 b.onBreak.2 where
  afterBreak := rfl
  guess := rfl
  buffer := h.frame
  cursor := rfl
  head := nofun
  unfinished _ := rfl
  complete hle := absurd h.onBreak.guess_pos (Nat.not_lt_of_le hle)
  failed := nofun

/-- A chunk that goes on with the frame of the slots that came before. -/
def Continues (code : UInt8) (k : Nat) (slots : List UInt8) : Prop := k = 0 → ∀ first ∈ slots.head?, first = code

private theorem Continues.left {rest : List UInt8} (h : Continues code k (c ++ rest)) : Continues code k c := by
  intro hk first hfirst
  refine h hk first ?_
  rw [List.head?_append, Option.mem_def.1 hfirst]
  rfl

private theorem Continues.right {rest : List UInt8} (h : Continues code k (c ++ rest)) :
    Continues code (k + c.length) rest := by
  intro hk first hfirst
  obtain ⟨hk, hempty⟩ := Nat.add_eq_zero_iff.1 hk
  obtain rfl := List.eq_nil_of_length_eq_zero hempty
  exact h hk first hfirst

namespace Measured

private theorem window_fill (h : Measured g code k b) (c : List UInt8) : (b.fill c).window = maxFrameSize - k := by
  rw [Bus.window_fill, window, h.buffer, h.cursor]
  omega

private theorem cursor_advance (h : Measured g code k b) (c : List UInt8) :
    ((b.fill c).advance c.length).cursor = min (k + c.length) maxFrameSize := by
  show b.cursor + min c.length (b.fill c).window = _
  rw [h.window_fill, h.cursor]
  omega

private theorem head_fill (h : Measured g code k b) (hc : Continues code k c) (hpos : 0 < k + c.length) :
    (b.fill c).frame.head? = some code := by
  have hbuffer : b.frame ≠ [] := List.ne_nil_of_length_pos (by rw [h.buffer]; decide)
  show (overwrite b.frame b.cursor c).head? = some code
  by_cases hk : 0 < k
  · rw [head?_overwrite_of_pos (by rw [h.cursor, maxFrameSize]; omega) hbuffer]
    exact h.head hk
  · obtain rfl : k = 0 := Nat.eq_zero_of_not_pos hk
    have hne : c ≠ [] := List.ne_nil_of_length_pos (by omega)
    rw [h.cursor, Nat.zero_min, head?_overwrite_zero hbuffer hne, List.head?_eq_some_head hne]
    exact congrArg some (hc rfl _ (List.head?_eq_some_head hne))

/-- A chunk within the expected size makes no frame yet; the one that reaches it does, and one that does not fit
spoils it. -/
private theorem receive_of_unfinished (h : Measured g code k b) (hg : g ≤ maxFrameSize) (hcode : code ≠ rdmStart)
    (hc : Continues code k c) (hk : k < g) (now : Nat) :
    notices (b.receive c now).1 = levelsNotices code g k (k + c.length) ∧
      Measured g code (k + c.length) (b.receive c now).2 := by
  let counted : Bus := { (b.fill c).advance c.length with rx := .receiving }
  have hcursor : counted.cursor = min (k + c.length) maxFrameSize := h.cursor_advance c
  have hbuffer : counted.frame.length = maxFrameSize := (length_overwrite _ _ _).trans h.buffer
  have hguess : counted.sizeGuess = g := h.guess
  have hafter : counted.afterBreak = true := h.afterBreak
  have hhead : 0 < k + c.length → counted.frame.head? = some code := h.head_fill hc
  have hrun : b.receive c now = counted.conclude ((b.fill c).window < c.length) now :=
    onReceived_of_not_finished (b := b.fill c) (h.unfinished hk) c.length now
  rw [hrun, h.window_fill]
  by_cases hless : k + c.length < g
  · rw [conclude_open hafter (fun hpos => hhead (by omega)) hcode (by omega) (by omega), levelsNotices,
      if_neg (by omega), if_neg (by omega)]
    refine ⟨rfl, h.afterBreak, h.guess, hbuffer, hcursor, hhead, fun _ => rfl, fun hle => ?_, fun hlt => ?_⟩
    · omega
    · omega
  · have hhead := hhead (by omega)
    rw [conclude_levels hafter hhead hcode (by omega) (by omega) (by omega), hguess]
    by_cases hfits : k + c.length ≤ maxFrameSize
    · rw [decide_eq_false (by omega), if_neg Bool.false_ne_true, notices_finish, levelsNotices, if_pos (by omega),
        if_neg (by omega)]
      refine ⟨rfl, h.afterBreak, h.guess, hbuffer, hcursor, fun _ => hhead, fun hlt => ?_, fun _ _ => ⟨rfl, rfl⟩,
        fun hlt => ?_⟩
      · omega
      · omega
    · have hfull : counted.cursor = maxFrameSize := by omega
      rw [decide_eq_true (by omega), if_pos rfl, fail, notices_finish, levelsNotices, if_neg (by omega),
        if_pos (by omega), hfull]
      refine ⟨rfl, h.afterBreak, h.guess, hbuffer, hcursor, fun _ => hhead, fun hlt => ?_,
        fun _ hle => ?_, fun _ => rfl⟩
      · omega
      · omega

/-- After the expected size the slots are counted as far as there is room for them. -/
private theorem receive_of_complete (h : Measured g code k b) (hc : Continues code k c) (hpos : 0 < g) (hk : g ≤ k)
    (hle : k ≤ maxFrameSize) (now : Nat) : notices (b.receive c now).1 = levelsNotices code g k (k + c.length) ∧
      Measured g code (k + c.length) (b.receive c now).2 := by
  have hcursor := h.cursor_advance c
  have hbuffer : (b.fill c).frame.length = maxFrameSize := (length_overwrite _ _ _).trans h.buffer
  have hhead := h.head_fill hc (by omega)
  obtain ⟨hrx, hkind⟩ := h.complete hk hle
  have hrun : b.receive c now = if (b.fill c).window < c.length
      then ((b.fill c).advance c.length).fail .tooLarge (.levels code)
        now else ([], (b.fill c).advance c.length) := by
    show (b.fill c).onReceived c.length now = _
    unfold onReceived
    simp only [show (b.fill c).rx = .complete from hrx, show (b.fill c).rxKind = .levels code from hkind,
      decide_eq_true_eq]
  rw [hrun, h.window_fill]
  by_cases hfits : k + c.length ≤ maxFrameSize
  · rw [if_neg (by omega)]
    refine ⟨?_, h.afterBreak, h.guess, hbuffer, hcursor, fun _ => hhead, fun hlt => ?_, fun _ _ => ⟨hrx, hkind⟩,
      fun hlt => ?_⟩
    · rw [levelsNotices, if_neg (by omega), if_neg (by omega)]
      rfl
    · omega
    · omega
  · rw [if_pos (by omega)]
    refine ⟨?_, h.afterBreak, h.guess, hbuffer, hcursor, fun _ => hhead, fun hlt => ?_, fun _ hle => ?_, fun _ => rfl⟩
    · have hfull : min (k + c.length) maxFrameSize = maxFrameSize := by omega
      rw [fail, notices_finish, levelsNotices, if_neg (by omega), if_pos (by omega), hcursor, hfull]
      rfl
    · omega
    · omega

/-- After a slot that did not fit nothing is looked at any more. -/
private theorem receive_of_failed (h : Measured g code k b) (hc : Continues code k c) (hg : g ≤ maxFrameSize)
    (hk : maxFrameSize < k) (now : Nat) :
    notices (b.receive c now).1 = levelsNotices code g k (k + c.length) ∧
    Measured g code (k + c.length) (b.receive c now).2 := by
  have hrun : b.receive c now = ([], b.fill c) := by
    show (b.fill c).onReceived c.length now = _
    unfold onReceived
    simp only [show (b.fill c).rx = .failed from h.failed hk]
  rw [hrun, levelsNotices, if_neg (by omega), if_neg (by omega)]
  refine ⟨rfl, h.afterBreak, h.guess, (length_overwrite _ _ _).trans h.buffer, ?_, h.head_fill hc, fun hlt => ?_,
    fun _ hle => ?_, fun _ => h.failed hk⟩
  · show b.cursor = _
    rw [h.cursor]
    omega
  · omega
  · omega

/-- What one chunk does. -/
theorem receive (h : Measured g code k b) (hpos : 0 < g) (hg : g ≤ maxFrameSize) (hcode : code ≠ rdmStart)
    (hc : Continues code k c) (now : Nat) : notices (b.receive c now).1 = levelsNotices code g k (k + c.length) ∧
      Measured g code (k + c.length) (b.receive c now).2 := by
  by_cases hless : k < g
  · exact h.receive_of_unfinished hg hcode hc hless now
  · by_cases hle : k ≤ maxFrameSize
    · exact h.receive_of_complete hc hpos (Nat.le_of_not_lt hless) hle now
    · exact h.receive_of_failed hc hg (Nat.lt_of_not_le hle) now

/-- The chunks tell of a complete frame at most, and then once that there were too many slots for the buffer. -/
private theorem receiveAll {chunks : List (List UInt8 × Nat)} (h : Measured g code k b) (hpos : 0 < g)
    (hg : g ≤ maxFrameSize) (hcode : code ≠ rdmStart) (hc : Continues code k (slotsOf chunks)) :
    Measured g code (k + (slotsOf chunks).length) (b.receiveAll chunks).2 ∧
    ∃ front, notices (b.receiveAll chunks).1 = front ++
        (if k ≤ maxFrameSize ∧ maxFrameSize < k + (slotsOf chunks).length then
          [levelsNotice .tooLarge code maxFrameSize] else []) ∧
      (front = [] ∨ k < g ∧ front = [levelsNotice .ok code g]) ∧
      (k + (slotsOf chunks).length ≤ maxFrameSize →
        front = levelsNotices code g k (k + (slotsOf chunks).length)) := by
  induction chunks generalizing k b with
  | nil =>
    have hnone : (slotsOf []).length = 0 := rfl
    rw [hnone, Nat.add_zero]
    refine ⟨h, [], ?_, .inl rfl, fun _ => ?_⟩
    · rw [if_neg (by omega)]
      rfl
    · rw [levelsNotices, if_neg (by omega), if_neg (by omega)]
      rfl
  | cons chunk rest ih =>
    obtain ⟨c, now⟩ := chunk
    rw [slotsOf_cons] at hc ⊢
    obtain ⟨htold, hnext⟩ := h.receive hpos hg hcode hc.left now
    obtain ⟨hend, front, hrest, hfront, hexact⟩ := ih hnext hc.right
    rw [List.length_append, ← Nat.add_assoc]
    refine ⟨hend, ?_⟩
    rw [Bus.receiveAll]
    dsimp only
    rw [notices_append, htold, hrest, levelsNotices]
    have hgrows := Nat.le_add_right k c.length
    have htotal := Nat.le_add_right (k + c.length) (slotsOf rest).length
    generalize k + c.length + (slotsOf rest).length = total at *
    generalize k + c.length = reached at *
    by_cases hfits : reached ≤ maxFrameSize
    · rw [if_neg (by omega : ¬(k ≤ maxFrameSize ∧ maxFrameSize < reached)), List.append_nil, ← List.append_assoc]
      have htail : (reached ≤ maxFrameSize ∧ maxFrameSize < total) ↔ (k ≤ maxFrameSize ∧ maxFrameSize < total) := by
        omega
      simp only [htail]
      refine ⟨_, rfl, ?_⟩
      by_cases hnow : k < g ∧ g ≤ reached
      · -- complete with this chunk, so the rest tells of no complete frame
        obtain rfl : front = [] := hfront.resolve_right fun hopen => by omega
        rw [if_pos (by omega)]
        refine ⟨.inr ⟨hnow.1, rfl⟩, fun hle => ?_⟩
        rw [levelsNotices, if_pos (by omega), if_neg (by omega)]
      · rw [if_neg (by omega)]
        refine ⟨hfront.imp_right fun hopen => ⟨by omega, hopen.2⟩, fun hle => ?_⟩
        rw [List.nil_append, hexact hle, levelsNotices, levelsNotices]
        have hfront : (reached < g ∧ g ≤ total ∧ total ≤ maxFrameSize) ↔
          (k < g ∧ g ≤ total ∧ total ≤ maxFrameSize) := by omega
        simp only [htail, hfront]
    · -- too long with this chunk at the latest, so nothing is looked at any more
      obtain rfl : front = [] := hfront.resolve_right fun hopen => by omega
      rw [if_neg (by omega : ¬(k < g ∧ g ≤ reached ∧ reached ≤ maxFrameSize)),
        if_neg (by omega : ¬(reached ≤ maxFrameSize ∧ maxFrameSize < total))]
      have htail : (k ≤ maxFrameSize ∧ maxFrameSize < reached) ↔ (k ≤ maxFrameSize ∧ maxFrameSize < total) := by omega
      refine ⟨[], by simp only [htail, List.nil_append, List.append_nil], .inl rfl, fun hle => ?_⟩
      omega

/-- The next break makes the slots that came the size that is expected, as far as they fit the buffer. -/
theorem sizeGuess_onBreak (h : Measured g code k b) (hg : g ≤ maxFrameSize) (hcode : code ≠ rdmStart) (hk : 0 < k) :
    b.onBreak.2.sizeGuess = min k maxFrameSize := by
  have hkind : b.kindByStart ≠ .package := by
    obtain ⟨rest, hframe⟩ := List.head?_eq_some_iff.1 (h.head hk)
    rw [kindByStart, hframe]
    dsimp only
    rw [if_neg hcode]
    exact nofun
  have hcursor := h.cursor
  have hguess := h.guess
  show (if 0 < b.cursor ∧ b.afterBreak ∧ b.kindByStart ≠ .package ∧ (!b.frameFinished ∨ b.sizeGuess < b.cursor)
    then b.cursor else b.sizeGuess) = _
  rw [h.afterBreak]
  by_cases hless : k < g
  · rw [h.unfinished hless, if_pos ⟨by omega, rfl, hkind, .inl rfl⟩, hcursor]
  · by_cases hmore : b.sizeGuess < b.cursor
    · rw [if_pos ⟨by omega, rfl, hkind, .inr hmore⟩, hcursor]
    · -- the frame is as long as expected, or both are as long as the buffer
      have hfinished : b.frameFinished = true := by
        unfold frameFinished
        by_cases hle : k ≤ maxFrameSize
        · rw [(h.complete (by omega) hle).1]
        · rw [h.failed (by omega)]
      rw [if_neg fun hlearn => hlearn.2.2.2.elim (fun hopen => by rw [hfinished] at hopen; cases hopen) hmore]
      omega

end Measured

private theorem Reachable.receiveAll (h : b.Reachable) (chunks : List (List UInt8 × Nat)) :
    (b.receiveAll chunks).2.Reachable := by
  induction chunks generalizing b with
  | nil => exact h
  | cons chunk rest ih => exact ih ((h.fill chunk.1).handle (.received chunk.1.length) chunk.2)

private theorem continues_of_head {slots : List UInt8} (hhead : slots.head? = some code) :
    Continues code 0 slots := by
  intro _ first hfirst
  rw [hhead] at hfirst
  exact (Option.some.inj hfirst).symm

/-- The slots between two breaks make their number the size that is expected, whatever was expected before and
whatever the chunks are.  A frame of that size is then told once, with the chunk that has its last slot.  If the slots
do not fit the buffer, this is told once, after a frame of the size that was expected before at most. -/
theorem size_learned (hb : b.Reachable) (breakAt againAt : Nat) {chunks : List (List UInt8 × Nat)}
    (hhead : (slotsOf chunks).head? = some code) (hcode : code ≠ rdmStart) :
    let start := b.handle .break breakAt
    let run := start.2.receiveAll chunks
    let again := run.2.handle .break againAt
    let size := (slotsOf chunks).length
    (size ≤ maxFrameSize → again.2.sizeGuess = size ∧
      ∀ (more : List (List UInt8 × Nat)) (next : UInt8), (slotsOf more).head? = some next → next ≠ rdmStart →
        (slotsOf more).length = size →
          notices (again.1 ++ (again.2.receiveAll more).1) = [⟨.ok, .receive, .levels next, size, none⟩] ∧
          ∀ done c now rest, more = done ++ (c, now) :: rest →
            notices ((again.2.receiveAll done).2.receive c now).1 =
              if (slotsOf done).length < size ∧ size ≤ (slotsOf done).length + c.length
                then [⟨.ok, .receive, .levels next, size, none⟩] else []) ∧
    (maxFrameSize < size → again.2.sizeGuess = maxFrameSize ∧
      ∃ front, notices (start.1 ++ run.1) = front ++ [⟨.tooLarge, .receive, .levels code, maxFrameSize, none⟩] ∧
        (front = [] ∨ front = [⟨.ok, .receive, .levels code, start.2.sizeGuess, none⟩])) := by
  intro start run again size
  have hbounded : start.2.Bounded := hb.bounded.handle .break breakAt
  have hstart : Measured start.2.sizeGuess code 0 start.2 := measured_onBreak hb.bounded code
  obtain ⟨hrun, front, htold, hfront, -⟩ :=
    hstart.receiveAll hbounded.guess_pos hbounded.guess_le hcode (continues_of_head hhead)
  rw [Nat.zero_add] at hrun htold
  have hsize : 0 < size := List.length_pos_iff.2 fun hnone => by rw [hnone] at hhead; cases hhead
  have hguess : again.2.sizeGuess = min size maxFrameSize := hrun.sizeGuess_onBreak hbounded.guess_le hcode hsize
  refine ⟨fun hfits => ?_, fun hlong => ⟨by omega, front, ?_, hfront.imp_right And.right⟩⟩
  · have hguess : again.2.sizeGuess = size := by omega
    refine ⟨hguess, fun more next hnext hnextCode hlength => ?_⟩
    have hrunBounded : run.2.Bounded := (((hb.handle .break breakAt).receiveAll chunks)).bounded
    have hagain : Measured size next 0 again.2 := hguess ▸ measured_onBreak hrunBounded next
    have hcontinues := continues_of_head hnext
    refine ⟨?_, ?_⟩
    · obtain ⟨-, told, hmore, -, hexact⟩ := hagain.receiveAll hsize hfits hnextCode hcontinues
      rw [Nat.zero_add, hlength] at hmore hexact
      rw [notices_append, hmore, hexact hfits, levelsNotices, if_pos (by omega), if_neg (by omega)]
      rfl
    · rintro done c now rest rfl
      rw [slotsOf_append, slotsOf_cons] at hcontinues hlength
      obtain ⟨hdone, -⟩ := hagain.receiveAll hsize hfits hnextCode hcontinues.left
      rw [List.length_append, List.length_append] at hlength
      have hchunk := (hdone.receive hsize hfits hnextCode hcontinues.right.left now).1
      rw [Nat.zero_add] at hchunk
      rw [hchunk, levelsNotices, if_neg (by omega : ¬((slotsOf done).length ≤ maxFrameSize ∧ _)), List.append_nil]
      have hreached : (slotsOf done).length + c.length ≤ maxFrameSize := by omega
      simp only [hreached, and_true, levelsNotice]
  · rw [notices_append, htold, if_pos (by omega)]
    rfl

/-- The first frame has three slots, so the next one of three slots is complete with its second chunk; and one slot
too many for the buffer is told in its own chunk. -/
theorem size_learned_three :
    let start := (new .controller .standard).handle .break 0
    let again := (start.2.receiveAll [([0, 1], 10), ([2], 20)]).2.handle .break 30
    let long := start.2.receiveAll [(List.replicate 513 0, 10), ([7], 20)]
    (again.2.sizeGuess = 3 ∧
      notices (again.1 ++ (again.2.receiveAll [([5], 40), ([6, 7], 50)]).1) = [⟨.ok, .receive, .levels 5, 3, none⟩] ∧
      notices ((again.2.receiveAll [([5], 40)]).2.receive [6, 7] 50).1 = [⟨.ok, .receive, .levels 5, 3, none⟩]) ∧
    (long.2.handle .break 30).2.sizeGuess = 513 ∧
      ∃ front, notices (start.1 ++ long.1) = front ++ [⟨.tooLarge, .receive, .levels 0, 513, none⟩] ∧
        (front = [] ∨ front = [⟨.ok, .receive, .levels 0, start.2.sizeGuess, none⟩]) := by
  have hb : (new .controller .standard).Reachable := .new _ _
  have hthree : (slotsOf [([0, 1], 10), ([2], 20)]).head? = some 0 := rfl
  have hlong : (slotsOf [(List.replicate 513 0, 10), ([7], 20)]).head? = some 0 := rfl
  have hlength : (slotsOf [(List.replicate 513 0, 10), ([7], 20)]).length = 514 := by
    rw [slotsOf_cons, slotsOf_cons, List.length_append, List.length_replicate]
    rfl
  refine ⟨?_, (size_learned hb 0 30 hlong (by decide)).2 (by rw [hlength]; decide)⟩
  obtain ⟨hguess, hnext⟩ := (size_learned hb 0 30 hthree (by decide)).1 (by decide)
  obtain ⟨htold, hchunk⟩ := hnext [([5], 40), ([6, 7], 50)] 5 rfl (by decide) rfl
  exact ⟨hguess, htold, hchunk [([5], 40)] [6, 7] 50 [] rfl⟩

end Bus

end LightBus
