import LightBus.Proofs.Bus.Answers

/-!
# Frames in the buffer

While a frame comes in after a break, the slots that were counted are the slots of the frame so far (`Bus.Tracks`).
When the notice of a whole frame is given (`Notice.isFrame`), the slots that it tells lie at the beginning of the
buffer (`Bus.Tracks.received`).  No event but the slots that are read brings such a notice or touches the buffer
(`Bus.Passes`).
-/

namespace LightBus

/-- A whole frame was received after a break. -/
def Notice.isFrame (n : Notice) : Bool :=
  n.status == .ok && n.origin == .receive && n.kind != .discoveryReply && n.kind != .empty

private theorem Notice.not_isFrame_of_status {n : Notice} (h : n.status ≠ .ok) : n.isFrame = false := by
  simp [isFrame, h]

private theorem Notice.not_isFrame_of_kind {n : Notice} (h : n.kind = .discoveryReply) : n.isFrame = false := by
  simp [isFrame, h]

private theorem Notice.not_isFrame_of_origin {n : Notice} (h : n.origin = .transmit) : n.isFrame = false := by
  simp [isFrame, h]

namespace Bus

variable {b b' : Bus} {f : Option (List UInt8)} {effects : List Effect} {result : List Effect × Bus}

/-! ### The end of a frame -/

/-- Among the counted slots a reception ends with a notice. -/
structure Ends (b : Bus) (n : Notice) (result : List Effect × Bus) : Prop where
  told : notices result.1 = [n]
  finished : result.2.frameFinished = true
  frame : result.2.frame = b.frame
  size_le : n.size ≤ b.cursor
  whole : n.isFrame = true → b.afterBreak = true

private theorem ends_finish (status : Status) (kind : FrameKind) {size : Nat} (hsize : size ≤ b.cursor)
    (hwhole : status ≠ .ok ∨ kind = .discoveryReply ∨ b.afterBreak = true) (now : Nat) :
    Ends b ⟨status, .receive, kind, size, none⟩ (b.finish status kind size now) := by
  refine ⟨notices_finish _ _ _ _, rfl, rfl, hsize, fun hframe => ?_⟩
  rcases hwhole with hstatus | hkind | hbreak
  · rw [Notice.not_isFrame_of_status hstatus] at hframe
    cases hframe
  · rw [Notice.not_isFrame_of_kind hkind] at hframe
    cases hframe
  · exact hbreak

private theorem ends_fail (status : Status) (hstatus : status ≠ .ok) (kind : FrameKind) (now : Nat) :
    Ends b ⟨status, .receive, kind, b.cursor, none⟩ (b.fail status kind now) := by
  have h := ends_finish status kind (Nat.le_refl b.cursor) (.inl hstatus) now
  exact ⟨h.told, rfl, rfl, h.size_le, h.whole⟩

private theorem Ends.turnAround {n : Notice} (h : Ends b n result) :
    Ends b n (result.1 ++ result.2.turnAround.1, result.2.turnAround.2) := by
  refine ⟨?_, h.finished, h.frame, h.size_le, h.whole⟩
  rw [notices_append, h.told]
  rfl

private theorem Over.ends {status : Status} {kind : FrameKind} {size now : Nat}
    (h : Over b status kind size now result) (hsize : size ≤ b.cursor)
    (hwhole : status ≠ .ok ∨ kind = .discoveryReply ∨ b.afterBreak = true) :
    Ends b ⟨status, .receive, kind, size, none⟩ result := by
  cases h with
  | stays => exact ends_finish status kind hsize hwhole now
  | turns => exact (ends_finish status kind hsize hwhole now).turnAround

theorem Bounded.length_take_cursor (h : b.Bounded) : (b.frame.take b.cursor).length = b.cursor := by
  rw [List.length_take, h.frame, Nat.min_eq_left h.cursor]

private theorem conclude_without_break (hb : b.Bounded) (hbreak : b.afterBreak = false)
    (overflow : Bool) (now : Nat) :
    (b.conclude overflow now = ([], b) ∧ b.cursor ≠ maxFrameSize) ∨ ∃ n, Ends b n (b.conclude overflow now) := by
  have hlength := hb.length_take_cursor
  unfold conclude
  rw [hbreak]
  rcases reply_cases (b.frame.take b.cursor) with hopen | ⟨p, hholds⟩ | hspoilt
  · have hshort := hopen.length_lt
    -- What can still become an answer is far shorter than the buffer.
    have hroom : b.cursor ≠ maxFrameSize := by
      rw [hlength, maxPreambleLength, discoveryBodySize] at hshort
      rw [maxFrameSize]
      omega
    rw [classify_of_unfinished hopen]
    dsimp only
    rw [if_neg hroom]
    exact .inl ⟨rfl, hroom⟩
  · rw [classify_of_holdsReply hholds]
    exact .inr ⟨_, (b.over_finishReply _ now).ends (hlength ▸ hholds.size_le) (.inr (.inl rfl))⟩
  · rw [classify_of_spoilt hspoilt]
    exact .inr ⟨_, ends_fail .collision (by decide) .discoveryReply now⟩

private theorem conclude_after_break (hb : b.Bounded) (hbreak : b.afterBreak = true) (overflow : Bool) (now : Nat) :
    (b.conclude overflow now = ([], b) ∧ b.cursor ≠ maxFrameSize) ∨ ∃ n, Ends b n (b.conclude overflow now) := by
  have hlength := hb.length_take_cursor
  unfold conclude
  rw [hbreak]
  cases hexpected : expectedNotice (b.frame.take b.cursor) b.sizeGuess with
  | none =>
    rw [classify_of_none hexpected]
    dsimp only
    split
    · split
      · exact .inr ⟨_, ends_fail .tooLarge (by decide) _ now⟩
      · exact .inr ⟨_, ends_finish _ _ (Nat.le_refl _) (.inr (.inr hbreak)) now⟩
    · rename_i hroom
      exact .inl ⟨rfl, hroom⟩
  | some n =>
    right
    rcases expectedNotice_eq_some_iff.1 hexpected with ⟨length, hhead, hsize, hle, -⟩
      | ⟨startCode, hhead, hstart, hle, -⟩
    · rw [classify_package hhead hsize hle]
      exact ⟨_, (b.over_finishPackage _ now).ends (hlength ▸ hle) (.inr (.inr hbreak))⟩
    · rw [classify_levels hhead hstart hle]
      dsimp only
      split
      · exact ⟨_, ends_fail .tooLarge (by decide) _ now⟩
      · exact ⟨_, ends_finish _ _ (hlength ▸ hle) (.inr (.inr hbreak)) now⟩

/-- Slots that do not make up a frame leave the bus as it is, and there is room for more. -/
private theorem conclude_cases (hb : b.Bounded) (overflow : Bool) (now : Nat) :
    (b.conclude overflow now = ([], b) ∧ b.cursor ≠ maxFrameSize) ∨ ∃ n, Ends b n (b.conclude overflow now) := by
  cases hbreak : b.afterBreak with
  | false => exact conclude_without_break hb hbreak overflow now
  | true => exact conclude_after_break hb hbreak overflow now

/-! ### The slots of a frame -/

/-- The slots that were counted since the break are the slots of the frame that is coming in, which is `f`. -/
def Tracks (f : Option (List UInt8)) (b : Bus) : Prop :=
  b.receiving = true → b.afterBreak = true → b.frameFinished = false → f = some (b.frame.take b.cursor)

/-- The notices of whole frames tell slots that are the first ones of the frame `f`. -/
def Tells (f : Option (List UInt8)) (result : List Effect × Bus) : Prop :=
  ∀ n ∈ notices result.1, n.isFrame = true → ∃ slots, f = some slots ∧ result.2.frame.take n.size <+: slots

/-- No whole frame is told. -/
def Quiet (effects : List Effect) : Prop := ∀ n ∈ notices effects, n.isFrame = false

theorem quiet_of_nil (h : notices effects = []) : Quiet effects := by
  intro n hn
  rw [h] at hn
  cases hn

private theorem quiet_of_told {n : Notice} (htold : notices effects = [n]) (hn : n.isFrame = false) :
    Quiet effects := by
  intro m hm
  rw [htold, List.mem_singleton] at hm
  rwa [hm]

theorem Quiet.tells (h : Quiet result.1) : Tells f result := by
  intro n hn hframe
  rw [h n hn] at hframe
  cases hframe

private theorem Tells.of_told {n : Notice} (htold : notices result.1 = [n])
    (hn : n.isFrame = true → ∃ slots, f = some slots ∧ result.2.frame.take n.size <+: slots) : Tells f result := by
  intro m hm hframe
  rw [htold, List.mem_singleton] at hm
  subst hm
  exact hn hframe

private theorem Tracks.of_finished (h : b.frameFinished = true) : Tracks f b := by
  intro _ _ hopen
  rw [h] at hopen
  cases hopen

theorem Tracks.of_deaf (h : b.receiving = false) : Tracks f b := by
  intro hreceiving
  rw [h] at hreceiving
  cases hreceiving

theorem Tracks.of_eq (h : Tracks f b) (hframe : b'.frame = b.frame) (hcursor : b'.cursor = b.cursor)
    (hreceiving : b'.receiving = b.receiving) (hbreak : b'.afterBreak = b.afterBreak)
    (hfinished : b'.frameFinished = b.frameFinished) : Tracks f b' := by
  intro hlistens hafter hopen
  rw [hframe, hcursor]
  exact h (hreceiving ▸ hlistens) (hbreak ▸ hafter) (hfinished ▸ hopen)

theorem fill_nil : b.fill [] = b := by
  unfold fill overwrite
  simp

theorem Tracks.filled (h : Tracks f b) (hb : b.Bounded) (slots : List UInt8) : Tracks f (b.fill slots) := by
  intro hreceiving hafter hopen
  have hkept : (b.fill slots).frame.take b.cursor = b.frame.take b.cursor :=
    take_overwrite_of_le (Nat.le_refl _) (hb.frame ▸ hb.cursor)
  exact (h hreceiving hafter hopen).trans (congrArg some hkept.symm)

/-- After the end of a frame no other frame is told. -/
private theorem onReceived_of_finished (h : b.frameFinished = true) (count now : Nat) :
    (b.onReceived count now).2.frameFinished = true ∧ Quiet (b.onReceived count now).1 := by
  have hkept : b.frameFinished = true ∧ Quiet [] := ⟨h, quiet_of_nil rfl⟩
  unfold onReceived
  dsimp only
  split
  · split
    · split
      · have hends := ends_fail (b := b.advance count) .tooLarge (by decide) b.rxKind now
        exact ⟨hends.finished, quiet_of_told hends.told (Notice.not_isFrame_of_status nofun)⟩
      · exact hkept
    · exact hkept
  · exact hkept
  · rename_i hcomplete hfailed
    unfold frameFinished at h
    cases hrx : b.rx <;> simp_all

/-- All slots of the fifo are read as far as there is room for them, and counted. -/
theorem Tracks.received (h : Tracks f b) (hb : b.Bounded) (hreceiving : b.receiving = true)
    (bytes : List UInt8) (now : Nat) :
    Tracks (f.map (· ++ bytes)) ((b.fill (bytes.take b.window)).onReceived bytes.length now).2 ∧
      Tells (f.map (· ++ bytes)) ((b.fill (bytes.take b.window)).onReceived bytes.length now) := by
  have hwindow : (b.fill (bytes.take b.window)).window = b.window := by
    unfold window fill
    rw [length_overwrite]
  cases hfinished : b.frameFinished with
  | true =>
    obtain ⟨hstill, hquiet⟩ := onReceived_of_finished (b := b.fill (bytes.take b.window)) hfinished bytes.length now
    exact ⟨.of_finished hstill, hquiet.tells⟩
  | false =>
    rw [onReceived_of_not_finished (b := b.fill (bytes.take b.window)) hfinished]
    generalize hnext : ({ (b.fill (bytes.take b.window)).advance bytes.length with rx := .receiving } : Bus) = next
    have hbounded : next.Bounded := by
      rw [← hnext]
      exact ((hb.write b.cursor _).advance bytes.length).keep rfl (.inl rfl) rfl
    have hcursor : next.cursor = b.cursor + (bytes.take b.window).length := by
      rw [← hnext, List.length_take, Nat.min_comm]
      exact congrArg (fun room => b.cursor + min bytes.length room) hwindow
    have hbreak : next.afterBreak = b.afterBreak := by
      rw [← hnext]
      rfl
    have hslots (hafter : next.afterBreak = true) :
        ∃ slots, f = some slots ∧ next.frame.take next.cursor = slots ++ bytes.take b.window := by
      have hfits : b.cursor + (bytes.take b.window).length ≤ b.frame.length := by
        have := hb.frame
        have := hb.cursor
        rw [List.length_take, window]
        omega
      refine ⟨_, h hreceiving (hbreak ▸ hafter) hfinished, ?_⟩
      rw [hcursor, ← hnext]
      exact take_overwrite hfits
    rcases conclude_cases hbounded (decide ((b.fill (bytes.take b.window)).window < bytes.length)) now with
      ⟨hquiet, hroom⟩ | ⟨n, hends⟩
    · -- Since there is room for more, no slot was lost.
      have hall : bytes.take b.window = bytes := by
        apply List.take_of_length_le
        have := hb.frame
        have := hb.cursor
        rw [hcursor, List.length_take, window] at hroom
        rw [window]
        omega
      rw [hquiet]
      refine ⟨fun _ hafter _ => ?_, (quiet_of_nil rfl).tells⟩
      obtain ⟨slots, rfl, htaken⟩ := hslots hafter
      rw [htaken, hall]
      rfl
    · refine ⟨.of_finished hends.finished, .of_told hends.told fun hframe => ?_⟩
      obtain ⟨slots, rfl, htaken⟩ := hslots (hends.whole hframe)
      have hfirst : next.frame.take n.size = (slots ++ bytes.take b.window).take n.size := by
        rw [← htaken, List.take_take, Nat.min_eq_left hends.size_le]
      refine ⟨slots ++ bytes, rfl, ?_⟩
      rw [hends.frame, hfirst]
      exact (List.take_prefix _ _).trans ((List.prefix_append_right_inj slots).2 (List.take_prefix _ _))

private theorem quiet_fail {status : Status} (hstatus : status ≠ .ok) (kind : FrameKind) (now : Nat) :
    Quiet ((b.fail status kind now).1 ++ [.resetRxFifo]) := by
  refine quiet_of_told (n := ⟨status, .receive, kind, b.cursor, none⟩) ?_ (Notice.not_isFrame_of_status hstatus)
  rw [notices_append, (ends_fail status hstatus kind now).told]
  rfl

theorem tracks_lineFault (f : Option (List UInt8)) (fault : LineFault) (count now : Nat) :
    Tracks f (b.onLineFault fault count now).2 ∧ Quiet (b.onLineFault fault count now).1 ∧
      (b.onLineFault fault count now).2.frame = b.frame := by
  unfold onLineFault
  split
  · rename_i hfinished
    exact ⟨.of_finished hfinished, quiet_of_nil rfl, rfl⟩
  · refine ⟨.of_finished rfl, quiet_fail ?_ _ now, rfl⟩
    cases fault <;> exact nofun

/-! ### Other events -/

/-- The step has nothing to do with the slots of a frame. -/
structure Passes (b : Bus) (result : List Effect × Bus) : Prop where
  frame : result.2.frame = b.frame
  tracks {f : Option (List UInt8)} (h : Tracks f b) : Tracks f result.2
  quiet : Quiet result.1

/-- With a break a new frame begins, and nothing is told of the last one. -/
theorem tracks_onBreak : Tracks (some []) b.onBreak.2 := fun _ _ _ => rfl

private theorem passes_unchanged : Passes b ([], b) := ⟨rfl, fun h => h, quiet_of_nil rfl⟩

private theorem passes_writeChunk (space : Nat) : Passes b (b.writeChunk space) := by
  refine ⟨rfl, fun h => h.of_eq rfl rfl rfl rfl rfl, quiet_of_nil ?_⟩
  unfold writeChunk
  dsimp only
  split <;> split <;> rfl

theorem passes_onAlarm (space : Nat) : Passes b (b.onAlarm space) := by
  cases hphase : b.sequence.phase with
  | low =>
    rw [onAlarm_low hphase]
    exact ⟨rfl, fun h => h.of_eq rfl rfl rfl rfl rfl, quiet_of_nil rfl⟩
  | mark =>
    rw [onAlarm_mark hphase]
    have hsent := passes_writeChunk (b := { b with sequence := { b.sequence with phase := .idle }, tx := .sending })
      space
    exact ⟨rfl, fun h => h.of_eq rfl rfl rfl rfl rfl, hsent.quiet⟩
  | idle =>
    rw [onAlarm_idle hphase]
    split
    · refine ⟨rfl, fun h => h.of_eq rfl rfl rfl rfl rfl, ?_⟩
      dsimp only
      split
      · exact quiet_of_told rfl rfl
      · exact quiet_of_nil rfl
    · exact passes_unchanged

theorem passes_txReady (space now : Nat) : Passes b (b.handle (.txReady space) now) := by
  simp only [handle]
  split
  · exact passes_writeChunk space
  · exact passes_unchanged

theorem passes_onTxDone (now : Nat) : Passes b (b.onTxDone now) := by
  -- When the bus begins to receive, no break has come yet.
  rcases onTxDone_cases b now with heq | ⟨-, -, ⟨-, heq⟩ | ⟨-, heq⟩⟩ <;> rw [heq]
  · exact passes_unchanged
  · exact ⟨rfl, fun _ _ => nofun, quiet_of_nil rfl⟩
  · exact ⟨rfl, fun _ _ => nofun, quiet_of_told rfl (Notice.not_isFrame_of_origin rfl)⟩

theorem passes_listen : Passes b b.listen := ⟨rfl, fun _ _ => nofun, quiet_of_nil rfl⟩

theorem passes_receiveRequested (now : Nat) : Passes b (b.handle .receiveRequested now) := by
  simp only [handle]
  split
  · exact passes_listen
  · exact passes_unchanged

theorem passes_onCollision (now : Nat) : Passes b (b.onCollision now) := by
  unfold onCollision
  split
  · exact ⟨rfl, fun _ => .of_finished rfl, quiet_fail (by decide : Status.collision ≠ .ok) .discoveryReply now⟩
  · exact ⟨rfl, fun h => h, quiet_of_nil rfl⟩

theorem passes_lineRising (now : Nat) : Passes b (b.handle .lineRising now) := by
  simp only [handle]
  split
  · rename_i hrx
    refine ⟨rfl, fun h => h.of_eq rfl rfl rfl rfl ?_, quiet_of_nil rfl⟩
    simp [frameFinished, hrx]
  · exact passes_unchanged

end Bus

end LightBus
