import LightBus.Proofs.Bus.Conclusion

/-!
# Reachable states of a bus

A port changes the state of its bus by events, by writes to the frame buffer and by its settings
(`Bus.Reachable`).  In every state that it can reach this way the buffer has its full length, the cursor stays
inside it, and the guess is a possible size of a frame (`Bus.Reachable.bounded`).
-/

namespace LightBus.Bus

/-- The states that a port can bring a bus into. -/
inductive Reachable : Bus → Prop where
  | new (mode : Mode) (timing : BreakTiming) : Reachable (.new mode timing)
  | handle {b : Bus} (h : Reachable b) (event : BusEvent) (now : Nat) : Reachable (b.handle event now).2
  | start {b : Bus} (h : Reachable b) : Reachable b.start.2
  | stop {b : Bus} (h : Reachable b) : Reachable b.stop.2
  | write {b : Bus} (h : Reachable b) (start : Nat) (bytes : List UInt8) : Reachable (b.write start bytes)
  | setMode {b : Bus} (h : Reachable b) (mode : Mode) : Reachable { b with mode }
  | setTiming {b : Bus} (h : Reachable b) (timing : BreakTiming) : Reachable { b with timing }

/-- The received slots lie in the frame buffer, and frames of the guessed size fit it. -/
structure Bounded (b : Bus) : Prop where
  frame : b.frame.length = maxFrameSize
  cursor : b.cursor ≤ maxFrameSize
  guess_pos : 0 < b.sizeGuess
  guess_le : b.sizeGuess ≤ maxFrameSize

variable {b b' : Bus}

/-- Slots that are read go behind the others, which is a write at the cursor. -/
theorem Reachable.fill (h : b.Reachable) (slots : List UInt8) : (b.fill slots).Reachable :=
  h.write b.cursor slots

theorem bounded_new (mode : Mode) (timing : BreakTiming) : (Bus.new mode timing).Bounded :=
  ⟨List.length_replicate, Nat.zero_le _, Nat.succ_pos _, Nat.le_refl _⟩

/-- What leaves the buffer and the guess alone, and forgets the received slots at most, keeps the bounds. -/
theorem Bounded.keep (h : b.Bounded) (hf : b'.frame = b.frame) (hc : b'.cursor = b.cursor ∨ b'.cursor = 0)
    (hg : b'.sizeGuess = b.sizeGuess) : b'.Bounded := by
  refine ⟨hf ▸ h.frame, ?_, hg ▸ h.guess_pos, hg ▸ h.guess_le⟩
  have := h.cursor
  omega

theorem Bounded.write (h : b.Bounded) (start : Nat) (bytes : List UInt8) : (b.write start bytes).Bounded :=
  ⟨(length_overwrite _ _ _).trans h.frame, h.cursor, h.guess_pos, h.guess_le⟩

/-- Slots are counted only as far as the buffer has room. -/
theorem Bounded.advance (h : b.Bounded) (count : Nat) : (b.advance count).Bounded := by
  refine ⟨h.frame, ?_, h.guess_pos, h.guess_le⟩
  have hframe := h.frame
  have hcursor := h.cursor
  rw [Bus.advance, window]
  dsimp only
  omega

/-! ### Events -/

private theorem Bounded.startTransmit (h : b.Bounded) (length : Nat) (expectsReply withBreak : Bool) (space : Nat) :
    (b.startTransmit length expectsReply withBreak space).2.Bounded := by
  unfold Bus.startTransmit
  split
  · exact h
  split
  · dsimp only
    split
    · exact h.keep rfl (.inr rfl) rfl
    · exact h.keep rfl (.inr rfl) rfl
  · exact h.keep rfl (.inr rfl) rfl

private theorem Bounded.onAlarm (h : b.Bounded) (space : Nat) : (b.onAlarm space).2.Bounded := by
  unfold Bus.onAlarm
  dsimp only
  split
  · exact h.keep rfl (.inl rfl) rfl
  · exact h.keep rfl (.inl rfl) rfl
  · exact h.keep rfl (.inl rfl) rfl
  · split
    · exact h.keep rfl (.inl rfl) rfl
    · exact h.keep rfl (.inl rfl) rfl

theorem Bounded.onTxDone (h : b.Bounded) (now : Nat) : (b.onTxDone now).2.Bounded := by
  unfold Bus.onTxDone
  split
  · exact h
  · dsimp only
    split
    · exact h.keep rfl (.inr rfl) rfl
    · exact h.keep rfl (.inr rfl) rfl

/-- The learned size is that of a frame that fitted the buffer, and not zero. -/
theorem Bounded.onBreak (h : b.Bounded) : b.onBreak.2.Bounded := by
  unfold Bus.onBreak
  dsimp only
  split
  · rename_i hlearn
    exact ⟨h.frame, Nat.zero_le _, hlearn.1, h.cursor⟩
  · exact ⟨h.frame, Nat.zero_le _, h.guess_pos, h.guess_le⟩

private theorem Bounded.fail (h : b.Bounded) (status : Status) (kind : FrameKind) (now : Nat) :
    (b.fail status kind now).2.Bounded :=
  h.keep rfl (.inl rfl) rfl

private theorem Bounded.conclude (h : b.Bounded) (overflow : Bool) (now : Nat) :
    (b.conclude overflow now).2.Bounded := by
  have hconcluded := b.concluded_conclude overflow now
  generalize b.conclude overflow now = result at hconcluded ⊢
  cases hconcluded with
  | goesOn => exact h
  | failed => exact h.fail _ _ now
  | ended _ _ hover =>
    obtain ⟨-, -, hframe, hcursor, hguess⟩ := hover.after
    exact h.keep hframe (.inl hcursor) hguess

private theorem Bounded.onReceived (h : b.Bounded) (count now : Nat) : (b.onReceived count now).2.Bounded := by
  have hmore := h.advance count
  unfold Bus.onReceived
  dsimp only
  split
  · split
    · split
      · exact hmore.fail _ _ now
      · exact hmore
    · exact h
  · exact h
  · exact (hmore.keep rfl (.inl rfl) rfl : { b.advance count with rx := .receiving }.Bounded).conclude _ now

private theorem Bounded.onLineFault (h : b.Bounded) (fault : LineFault) (count now : Nat) :
    (b.onLineFault fault count now).2.Bounded := by
  unfold Bus.onLineFault
  split
  · exact h
  · exact (h.advance count).keep rfl (.inl rfl) rfl

private theorem Bounded.onCollision (h : b.Bounded) (now : Nat) : (b.onCollision now).2.Bounded := by
  unfold Bus.onCollision
  split
  · exact h.fail .collision .discoveryReply now
  · exact h

/-- Every event keeps the bounds. -/
theorem Bounded.handle (h : b.Bounded) (event : BusEvent) (now : Nat) : (b.handle event now).2.Bounded := by
  cases event with
  | startTransmit length expectsReply withBreak space => exact h.startTransmit length expectsReply withBreak space
  | alarm space => exact h.onAlarm space
  | txReady space =>
    unfold Bus.handle
    dsimp only
    split
    · exact h.keep rfl (.inl rfl) rfl
    · exact h
  | txDone => exact h.onTxDone now
  | «break» => exact h.onBreak
  | lineRising =>
    unfold Bus.handle
    dsimp only
    split
    · exact h.keep rfl (.inl rfl) rfl
    · exact h
  | received count => exact h.onReceived count now
  | lineFault fault count => exact h.onLineFault fault count now
  | collision => exact h.onCollision now
  | receiveRequested =>
    unfold Bus.handle
    dsimp only
    split
    · exact h.keep rfl (.inr rfl) rfl
    · exact h

/-- The bounds hold in every state that can be reached. -/
theorem Reachable.bounded (h : b.Reachable) : b.Bounded := by
  induction h with
  | new mode timing => exact bounded_new mode timing
  | handle _ event now ih => exact ih.handle event now
  | start _ ih => exact ih.keep rfl (.inr rfl) rfl
  | stop _ ih => exact ih.keep rfl (.inl rfl) rfl
  | write _ start bytes ih => exact ih.write start bytes
  | setMode _ mode ih => exact ih.keep rfl (.inl rfl) rfl
  | setTiming _ timing ih => exact ih.keep rfl (.inl rfl) rfl

end LightBus.Bus
