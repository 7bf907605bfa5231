import LightBus.Proofs.Bus.Steps

/-!
# The numbers of a bus

The numbers that a bus keeps and tells stay within the frame buffer, since those that use them do not look at them
again.

* `Bus.Sound`: the numbers of the state, and what else belongs together; `Bus.Reachable.sound`.
* `Effect.Fits`: the numbers of an effect.  `Bus.FitsWithin` also counts the effects of a step, and there are
  `maxEffects` at most (`Bus.Sound.fits_handle`).
-/

namespace LightBus

variable {slots : List UInt8} {afterBreak : Bool} {g size : Nat} {kind : FrameKind}

namespace Bus

/-- A single event never causes more effects than this. -/
def maxEffects : Nat := 8

end Bus

/-- The numbers of an effect: a notice tells of slots in the buffer, and of received ones if it is about a reception,
and the transmit fifo is filled with slots of the buffer. -/
def Effect.Fits (cursor : Nat) : Effect → Prop
  | .notify n => n.size ≤ maxFrameSize ∧ (n.origin = .receive → n.size ≤ cursor)
  | .writeFifo first last => first < last ∧ last ≤ maxFrameSize
  | _ => True

/-- The effect has no slots. -/
def Effect.isPlain : Effect → Bool
  | .notify _ | .writeFifo _ _ => false
  | _ => true

private theorem Effect.fits_of_isPlain {effect : Effect} (h : effect.isPlain = true) (cursor : Nat) :
    effect.Fits cursor := by
  cases effect with
  | notify | writeFifo => cases h
  | _ => trivial

namespace Bus

/-- The numbers of a state.  A response is awaited only after everything was sent and before a frame has come. -/
structure Sound (b : Bus) : Prop extends Bounded b where
  sent_le : b.txCursor ≤ b.txSize
  size_le : b.txSize ≤ maxFrameSize
  waits : b.awaiting = true → b.tx = .done ∧ b.frameFinished = false

variable {b b' : Bus} {space now : Nat}

private theorem sound_new (mode : Mode) (timing : BreakTiming) : (Bus.new mode timing).Sound :=
  ⟨bounded_new mode timing, Nat.le_refl 0, Nat.zero_le _, nofun⟩

/-- Nothing that belongs together changes. -/
theorem Sound.of_eq (h : b.Sound) (hb : b'.Bounded) (hsent : b'.txCursor = b.txCursor)
    (hsize : b'.txSize = b.txSize) (hawaiting : b'.awaiting = b.awaiting) (htx : b'.tx = b.tx) (hrx : b'.rx = b.rx) :
    b'.Sound := by
  refine ⟨hb, ?_, ?_, ?_⟩
  · rw [hsent, hsize]
    exact h.sent_le
  · rw [hsize]
    exact h.size_le
  · unfold frameFinished
    rw [hawaiting, htx, hrx]
    exact h.waits

/-! ### The transmitter -/

/-- The chunk ends with the frame at the latest. -/
private theorem Sound.writeChunk (h : b.Sound) (space : Nat) : (b.writeChunk space).2.Sound := by
  have hsent := h.sent_le
  refine ⟨h.toBounded.keep rfl (.inl rfl) rfl, ?_, h.size_le, h.waits⟩
  rw [writeChunk_state, chunkEnd]
  dsimp only
  omega

private theorem Sound.prepared (h : b.Sound) (length : Nat) (expectsReply withBreak : Bool) :
    (b.prepared length expectsReply withBreak).Sound :=
  ⟨h.toBounded.keep rfl (.inr rfl) rfl, Nat.zero_le _, Nat.min_le_right _ _, nofun⟩

/-- A bus that does not wait may begin to send. -/
private theorem Sound.sending (h : b.Sound) (hawaiting : b.awaiting = false) (sequence : BreakSequence)
    (tx : TxState) :
    { b with sequence, tx }.Sound := by
  refine ⟨h.toBounded.keep rfl (.inl rfl) rfl, h.sent_le, h.size_le, fun hwaits => ?_⟩
  rw [hawaiting] at hwaits
  cases hwaits

private theorem Sound.startTransmit (h : b.Sound) (length : Nat) (expectsReply withBreak : Bool) (space : Nat) :
    (b.startTransmit length expectsReply withBreak space).2.Sound := by
  by_cases hidle : b.isSending = true ∨ length = 0
  · rw [Bus.startTransmit, if_pos hidle]
    exact h
  obtain ⟨hsending, hlength⟩ := not_or.1 hidle
  have hprepared := h.prepared length expectsReply withBreak
  cases withBreak with
  | true =>
    rw [startTransmit_withBreak (eq_false_of_ne_true hsending) hlength]
    exact hprepared.sending rfl _ _
  | false =>
    rw [startTransmit_bare (eq_false_of_ne_true hsending) hlength]
    exact (hprepared.sending rfl b.sequence .sending).writeChunk space

/-- Whoever waits for a response has sent everything. -/
private theorem Sound.awaiting_of_phase (h : b.Sound) (hstep : b.InStep) (hphase : b.sequence.phase ≠ .idle) :
    b.awaiting = false := by
  refine eq_false_of_ne_true fun hawaiting => hphase ?_
  unfold InStep at hstep
  rwa [(h.waits hawaiting).1] at hstep

private theorem Sound.onAlarm (h : b.Sound) (hstep : b.InStep) (space : Nat) : (b.onAlarm space).2.Sound := by
  cases hphase : b.sequence.phase with
  | low =>
    rw [onAlarm_low hphase]
    exact h.sending (h.awaiting_of_phase hstep (by rw [hphase]; exact nofun)) _ _
  | mark =>
    rw [onAlarm_mark hphase]
    exact (h.sending (h.awaiting_of_phase hstep (by rw [hphase]; exact nofun)) _ .sending).writeChunk space
  | idle =>
    rw [onAlarm_idle hphase]
    split
    · exact ⟨h.toBounded.keep rfl (.inl rfl) rfl, h.sent_le, h.size_le, nofun⟩
    · exact h

private theorem Sound.onTxDone (h : b.Sound) (now : Nat) : (b.onTxDone now).2.Sound := by
  have hbounded := h.toBounded.onTxDone now
  rcases onTxDone_cases b now with heq | ⟨hsending, -, ⟨-, heq⟩ | ⟨-, heq⟩⟩ <;> rw [heq] at hbounded ⊢
  · exact h
  · exact ⟨hbounded, h.sent_le, h.size_le, fun _ => ⟨rfl, rfl⟩⟩
  · exact ⟨hbounded, h.sent_le, h.size_le, fun _ => ⟨rfl, rfl⟩⟩

/-! ### The receiver -/

private theorem Sound.heard (h : b.Sound) {event : BusEvent} (hevent : event.isHeard = true) (now : Nat) :
    (b.handle event now).2.Sound := by
  have hbounded := h.toBounded.handle event now
  rcases takesIn_handle (b := b) hevent now with ⟨_, _, _, _, heq, hrx⟩ | ⟨_, _, _, _, _, heq⟩
  · rw [heq] at hbounded hrx ⊢
    refine ⟨hbounded, h.sent_le, h.size_le,
      fun hwaits => ⟨(h.waits hwaits).1, eq_false_of_ne_true fun hfinished => ?_⟩⟩
    have hrx := hrx hfinished
    have hopen := (h.waits hwaits).2
    unfold frameFinished at hfinished hopen
    dsimp only at hfinished
    rw [hrx, hopen] at hfinished
    cases hfinished
  · rw [heq] at hbounded ⊢
    exact ⟨hbounded, h.sent_le, h.size_le, nofun⟩

/-! ### All steps -/

private theorem Sound.listen (h : b.Sound) : b.listen.2.Sound :=
  ⟨h.toBounded.keep rfl (.inr rfl) rfl, h.sent_le, h.size_le, fun hwaits => ⟨(h.waits hwaits).1, rfl⟩⟩

/-- Every event keeps what belongs together. -/
private theorem Sound.handle (h : b.Sound) (hstep : b.InStep) (event : BusEvent) (now : Nat) :
    (b.handle event now).2.Sound := by
  cases event with
  | startTransmit length expectsReply withBreak space => exact h.startTransmit length expectsReply withBreak space
  | alarm space => exact h.onAlarm hstep space
  | txReady space =>
    simp only [Bus.handle]
    split
    · exact h.writeChunk space
    · exact h
  | txDone => exact h.onTxDone now
  | «break» | lineRising | received | lineFault | collision => exact h.heard rfl now
  | receiveRequested =>
    simp only [Bus.handle]
    split
    · exact h.listen
    · exact h

/-- What belongs together does so in every state that can be reached. -/
theorem Reachable.sound (h : b.Reachable) : b.Sound := by
  induction h with
  | new mode timing => exact sound_new mode timing
  | handle h event now ih => exact ih.handle h.inStep event now
  | start _ ih => exact ih.listen
  | stop _ ih => exact ⟨ih.toBounded.keep rfl (.inl rfl) rfl, ih.sent_le, ih.size_le, nofun⟩
  | write _ start bytes ih => exact ih.of_eq (ih.toBounded.write start bytes) rfl rfl rfl rfl rfl
  | setMode _ mode ih => exact ih.of_eq (ih.toBounded.keep rfl (.inl rfl) rfl) rfl rfl rfl rfl rfl
  | setTiming _ timing ih => exact ih.of_eq (ih.toBounded.keep rfl (.inl rfl) rfl) rfl rfl rfl rfl rfl

/-! ### Effects -/

/-- There are so many effects at most, and their numbers fit the state after them. -/
structure FitsWithin (limit : Nat) (result : List Effect × Bus) : Prop where
  count : result.1.length ≤ limit
  fits : ∀ effect ∈ result.1, effect.Fits result.2.cursor

variable {limit total size : Nat} {status : Status} {kind : FrameKind} {result : List Effect × Bus}
  {effects : List Effect}

theorem FitsWithin.mono (h : FitsWithin limit result) (hle : limit ≤ total) : FitsWithin total result :=
  ⟨Nat.le_trans h.count hle, h.fits⟩

theorem fitsWithin_plain (hplain : effects.all Effect.isPlain = true) (hcount : effects.length ≤ limit) :
    FitsWithin limit (effects, b) :=
  ⟨hcount, fun effect heffect => effect.fits_of_isPlain (List.all_eq_true.1 hplain effect heffect) _⟩

/-- Further effects are told of the same slots. -/
theorem FitsWithin.append (h : FitsWithin limit result) (hplain : effects.all Effect.isPlain = true)
    (hcount : limit + effects.length ≤ total) (hcursor : b'.cursor = result.2.cursor) :
    FitsWithin total (result.1 ++ effects, b') := by
  refine ⟨?_, fun effect heffect => ?_⟩
  · rw [List.length_append]
    exact Nat.le_trans (Nat.add_le_add_right h.count _) hcount
  · rcases List.mem_append.1 heffect with hfirst | hlast
    · exact hcursor ▸ h.fits effect hfirst
    · exact effect.fits_of_isPlain (List.all_eq_true.1 hplain effect hlast) _

private theorem FitsWithin.prepend (h : FitsWithin limit result) (effects : List Effect)
    (hplain : effects.all Effect.isPlain = true) (hcount : effects.length + limit ≤ total) :
    FitsWithin total (effects ++ result.1, result.2) := by
  refine ⟨?_, fun effect heffect => ?_⟩
  · rw [List.length_append]
    exact Nat.le_trans (Nat.add_le_add_left h.count _) hcount
  · rcases List.mem_append.1 heffect with hfirst | hlast
    · exact effect.fits_of_isPlain (List.all_eq_true.1 hplain effect hfirst) _
    · exact h.fits effect hlast

private theorem fitsWithin_notice {n : Notice} (hsize : n.size ≤ maxFrameSize)
    (hcursor : n.origin = .receive → n.size ≤ b.cursor) :
    FitsWithin 1 ([.notify n], b) := by
  refine ⟨Nat.le_refl 1, fun effect heffect => ?_⟩
  obtain rfl := List.mem_singleton.1 heffect
  exact ⟨hsize, hcursor⟩

private theorem fitsWithin_finish (hb : b.Bounded) (hsize : size ≤ b.cursor) :
    FitsWithin 2 (b.finish status kind size now) := by
  have hnotice : FitsWithin 1 ([.notify ⟨status, .receive, kind, size, none⟩], (b.finish status kind size now).2) :=
    fitsWithin_notice (Nat.le_trans hsize hb.cursor) fun _ => hsize
  unfold finish
  cases b.awaiting with
  | false => exact hnotice.mono (by decide)
  | true => exact hnotice.prepend [.cancelAlarm] rfl (by decide)

private theorem fitsWithin_fail (hb : b.Bounded) : FitsWithin 2 (b.fail status kind now) :=
  have h : FitsWithin 2 (b.finish status kind b.cursor now) := fitsWithin_finish hb (Nat.le_refl b.cursor)
  ⟨h.count, h.fits⟩

private theorem fitsWithin_conclude (hb : b.Bounded) (overflow : Bool) (now : Nat) :
    FitsWithin 4 (b.conclude overflow now) := by
  have hconcluded := b.concluded_conclude overflow now
  generalize b.conclude overflow now = result at hconcluded ⊢
  cases hconcluded with
  | goesOn => exact fitsWithin_plain rfl (Nat.zero_le 4)
  | failed => exact (fitsWithin_fail hb).mono (by decide)
  | ended _ hsize hover =>
    cases hover with
    | stays => exact (fitsWithin_finish hb hsize).mono (by decide)
    | turns => exact (fitsWithin_finish hb hsize).append rfl (Nat.le_refl 4) rfl

private theorem fitsWithin_onReceived (hb : b.Bounded) (count now : Nat) : FitsWithin 4 (b.onReceived count now) := by
  have hmore := hb.advance count
  have hcounted : { b.advance count with rx := .receiving }.Bounded := hmore.keep rfl (.inl rfl) rfl
  unfold onReceived
  dsimp only
  split
  · split
    · split
      · exact (fitsWithin_fail hmore).mono (by decide)
      · exact fitsWithin_plain rfl (Nat.zero_le 4)
    · exact fitsWithin_plain rfl (Nat.zero_le 4)
  · exact fitsWithin_plain rfl (Nat.zero_le 4)
  · exact fitsWithin_conclude hcounted _ now

private theorem fitsWithin_onLineFault (hb : b.Bounded) (fault : LineFault) (count now : Nat) :
    FitsWithin 3 (b.onLineFault fault count now) := by
  unfold onLineFault
  split
  · exact fitsWithin_plain rfl (by decide)
  · exact (fitsWithin_fail (hb.advance count)).append rfl (Nat.le_refl 3) rfl

private theorem fitsWithin_onCollision (hb : b.Bounded) (now : Nat) : FitsWithin 3 (b.onCollision now) := by
  unfold onCollision
  split
  · exact (fitsWithin_fail hb).append rfl (Nat.le_refl 3) rfl
  · exact fitsWithin_plain rfl (by decide)

/-- A chunk lies in the frame that is sent. -/
private theorem fitsWithin_writeChunk (hsize : b.txSize ≤ maxFrameSize) (space : Nat) :
    FitsWithin 2 (b.writeChunk space) := by
  have hchunk : FitsWithin 1 ((if b.txCursor < min (b.txCursor + space) b.txSize
      then [Effect.writeFifo b.txCursor (min (b.txCursor + space) b.txSize)] else []), (b.writeChunk space).2) := by
    split
    · rename_i hsome
      refine ⟨Nat.le_refl 1, fun effect heffect => ?_⟩
      obtain rfl := List.mem_singleton.1 heffect
      exact ⟨hsome, Nat.le_trans (Nat.min_le_right _ _) hsize⟩
    · exact fitsWithin_plain rfl (Nat.zero_le 1)
  unfold writeChunk
  dsimp only
  split
  · exact hchunk.append rfl (Nat.le_refl 2) rfl
  · exact hchunk.mono (by decide)

private theorem fitsWithin_startTransmit (length : Nat) (expectsReply withBreak : Bool) (space : Nat) :
    FitsWithin 6 (b.startTransmit length expectsReply withBreak space) := by
  by_cases hidle : b.isSending = true ∨ length = 0
  · rw [startTransmit, if_pos hidle]
    exact fitsWithin_plain rfl (Nat.zero_le 6)
  obtain ⟨hsending, hlength⟩ := not_or.1 hidle
  cases withBreak with
  | true =>
    rw [startTransmit_withBreak (eq_false_of_ne_true hsending) hlength]
    exact fitsWithin_plain rfl (Nat.le_of_ble_eq_true rfl)
  | false =>
    rw [startTransmit_bare (eq_false_of_ne_true hsending) hlength]
    exact (fitsWithin_writeChunk (Nat.min_le_right length maxFrameSize) space).prepend _ rfl (Nat.le_refl 6)

private theorem Sound.fits_onAlarm (h : b.Sound) (space : Nat) : FitsWithin 3 (b.onAlarm space) := by
  cases hphase : b.sequence.phase with
  | low =>
    rw [onAlarm_low hphase]
    exact fitsWithin_plain rfl (Nat.le_of_ble_eq_true rfl)
  | mark =>
    rw [onAlarm_mark hphase]
    have hchunk : FitsWithin 2 ({ b with sequence := { b.sequence with phase := .idle }, tx := .sending }.writeChunk
        space) := by
      refine fitsWithin_writeChunk ?_ space
      exact h.size_le
    exact hchunk.prepend [.enableTx] rfl (Nat.le_refl 3)
  | idle =>
    rw [onAlarm_idle hphase]
    split
    · split
      · exact (fitsWithin_notice (Nat.zero_le _) fun _ => Nat.zero_le _).mono (by decide)
      · exact fitsWithin_plain rfl (Nat.zero_le 3)
    · exact fitsWithin_plain rfl (Nat.zero_le 3)

private theorem Sound.fits_onTxDone (h : b.Sound) (now : Nat) : FitsWithin 5 (b.onTxDone now) := by
  rcases onTxDone_cases b now with heq | ⟨-, -, ⟨-, heq⟩ | ⟨-, heq⟩⟩ <;> rw [heq]
  · exact fitsWithin_plain rfl (Nat.zero_le 5)
  · exact fitsWithin_plain rfl (Nat.le_of_ble_eq_true rfl)
  · have hnotice : FitsWithin 1 ([.notify ⟨.ok, .transmit, b.txKind, b.txSize, none⟩], b.sent now) :=
      fitsWithin_notice h.size_le nofun
    exact hnotice.prepend [.disableTx, .turn .receive, .resetRxFifo, .enableRx] rfl (Nat.le_refl 5)

/-- The effects of every event fit the state after it, and there are not too many of them. -/
theorem Sound.fits_handle (h : b.Sound) (event : BusEvent) (now : Nat) :
    FitsWithin maxEffects (b.handle event now) := by
  cases event with
  | startTransmit length expectsReply withBreak space =>
    exact (fitsWithin_startTransmit length expectsReply withBreak space).mono (by decide)
  | alarm space => exact (h.fits_onAlarm space).mono (by decide)
  | txReady space =>
    simp only [Bus.handle]
    split
    · exact (fitsWithin_writeChunk h.size_le space).mono (by decide)
    · exact fitsWithin_plain rfl (Nat.zero_le _)
  | txDone => exact (h.fits_onTxDone now).mono (by decide)
  | «break» => exact fitsWithin_plain rfl (by decide)
  | lineRising => exact fitsWithin_plain rfl (Nat.zero_le _)
  | received count => exact (fitsWithin_onReceived h.toBounded count now).mono (by decide)
  | lineFault fault count => exact (fitsWithin_onLineFault h.toBounded fault count now).mono (by decide)
  | collision => exact (fitsWithin_onCollision h.toBounded now).mono (by decide)
  | receiveRequested =>
    simp only [Bus.handle]
    split
    · exact fitsWithin_plain rfl (by decide)
    · exact fitsWithin_plain rfl (Nat.zero_le _)

end Bus

end LightBus
