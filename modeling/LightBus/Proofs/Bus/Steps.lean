import LightBus.Proofs.Bus.Reachable

/-!
# The steps of a bus

What each event does, so that later modules need not look into it.

* A transmission begins with a break (`Bus.startTransmit_withBreak`) or at once (`Bus.startTransmit_bare`).  Two
  alarms lead from the break to the slots (`Bus.onAlarm_low`, `Bus.onAlarm_mark`), and it is over when the last slot
  has left (`Bus.onTxDone_cases`).
* All that the receiver does to the transmission, the alarm and the transceiver is to end the wait for a response and
  to turn the bus around (`Bus.Received`).
* The break that is sent and its timer are in step in every state that can be reached (`Bus.Reachable.inStep`).
* Slots get into the buffer before the event that counts them, and no event touches it (`Bus.frame_handle`).
* The event of a receiver changes nothing but what is known of the reception (`Bus.takesIn_handle`), and the time of
  the last frame tells when a transmission or a reception has ended (`Bus.timed_handle`).
-/

namespace LightBus

/-- The effect sets an interrupt, a pin or the alarm, or fills the transmit fifo. -/
def Effect.isControl : Effect → Bool
  | .resetRxFifo | .notify _ => false
  | _ => true

/-- The effects without the notices and without what only the received bytes see. -/
def controls (effects : List Effect) : List Effect := effects.filter Effect.isControl

theorem controls_append (first second : List Effect) :
    controls (first ++ second) = controls first ++ controls second :=
  List.filter_append ..

/-- The timer rings. -/
def BusEvent.isAlarm : BusEvent → Bool
  | .alarm _ => true
  | _ => false

/-- A task wants a frame sent. -/
def BusEvent.isStart : BusEvent → Bool
  | .startTransmit _ _ _ _ => true
  | _ => false

/-- The event comes from the receiver, or from an edge of the line. -/
def BusEvent.isHeard : BusEvent → Bool
  | .break | .lineRising | .received _ | .lineFault _ _ | .collision => true
  | _ => false

namespace Bus

variable {b b' : Bus} {length space now : Nat} {expectsReply withBreak : Bool}

theorem isSending_of_tx (h : b.tx = .sending) : b.isSending = true := by
  unfold isSending
  rw [h]

/-! ### The beginning -/

/-- The first `length` slots are to be sent, and nothing has been received. -/
def prepared (b : Bus) (length : Nat) (expectsReply withBreak : Bool) : Bus :=
  { b with
    txSize := min length maxFrameSize
    txCursor := 0
    txKind := if withBreak then b.kindByStart else .discoveryReply
    expectsReply := expectsReply
    awaiting := false
    receiving := false
    rx := .idle
    cursor := 0
    afterBreak := false }

theorem startTransmit_of_sending (h : b.isSending = true) :
    b.startTransmit length expectsReply withBreak space = ([], b) := by
  rw [startTransmit, if_pos (.inl h)]

theorem startTransmit_zero : b.startTransmit 0 expectsReply withBreak space = ([], b) := by
  rw [startTransmit, if_pos (.inr rfl)]

theorem startTransmit_withBreak (h : b.isSending = false) (hlength : length ≠ 0) :
    b.startTransmit length expectsReply true space =
      ([.disableRx, .cancelAlarm, .turn .transmit, .invert true, .setAlarm b.timing.breakLength],
        { b.prepared length expectsReply true with
          sequence := ⟨.low, b.timing.markLength⟩, tx := .inBreak }) := by
  rw [startTransmit, if_neg (by simp [h, hlength])]
  rfl

theorem startTransmit_bare (h : b.isSending = false) (hlength : length ≠ 0) :
    b.startTransmit length expectsReply false space =
      ([.disableRx, .cancelAlarm, .turn .transmit, .enableTx] ++
          ({ b.prepared length expectsReply false with tx := .sending }.writeChunk space).1,
        ({ b.prepared length expectsReply false with tx := .sending }.writeChunk space).2) := by
  rw [startTransmit, if_neg (by simp [h, hlength])]
  rfl

/-! ### The slots -/

/-- Where the next chunk ends. -/
def chunkEnd (b : Bus) (space : Nat) : Nat := max b.txCursor (min (b.txCursor + space) b.txSize)

theorem writeChunk_state : (b.writeChunk space).2 = { b with txCursor := b.chunkEnd space } := rfl

theorem not_notify_writeChunk (n : Notice) : .notify n ∉ (b.writeChunk space).1 := by
  unfold writeChunk
  dsimp only
  split <;> split <;> simp

/-- A bus that is asked to send something sends. -/
theorem isSending_startTransmit (hlength : length ≠ 0) :
    (b.startTransmit length expectsReply withBreak space).2.isSending = true := by
  cases hsending : b.isSending with
  | true => rwa [startTransmit_of_sending hsending]
  | false =>
    cases withBreak with
    | true =>
      rw [startTransmit_withBreak hsending hlength]
      rfl
    | false =>
      rw [startTransmit_bare hsending hlength]
      rfl

theorem not_notify_startTransmit (n : Notice) :
    .notify n ∉ (b.startTransmit length expectsReply withBreak space).1 := by
  by_cases hidle : b.isSending = true ∨ length = 0
  · rw [startTransmit, if_pos hidle]
    exact List.not_mem_nil
  obtain ⟨hsending, hlength⟩ := not_or.1 hidle
  cases withBreak with
  | true =>
    rw [startTransmit_withBreak (eq_false_of_ne_true hsending) hlength]
    simp
  | false =>
    rw [startTransmit_bare (eq_false_of_ne_true hsending) hlength]
    simp [not_notify_writeChunk]

theorem kindByStart_ne_discoveryReply (b : Bus) : b.kindByStart ≠ .discoveryReply := by
  unfold kindByStart
  split
  · split <;> simp
  · simp

theorem startTransmit_state (h : b.isSending = false) (hlength : length ≠ 0) (expectsReply withBreak : Bool)
    (space : Nat) :
    ∃ sequence tx txCursor, (b.startTransmit length expectsReply withBreak space).2 =
      { b.prepared length expectsReply withBreak with sequence, tx, txCursor } := by
  cases withBreak with
  | true =>
    rw [startTransmit_withBreak h hlength]
    exact ⟨_, _, _, rfl⟩
  | false =>
    rw [startTransmit_bare h hlength]
    exact ⟨_, _, _, rfl⟩

/-! ### The alarms -/

theorem onAlarm_low (h : b.sequence.phase = .low) :
    b.onAlarm space = ([.invert false, .setAlarm b.sequence.markLength],
      { b with sequence := { b.sequence with phase := .mark }, tx := .inMark }) := by
  simp only [onAlarm, BreakSequence.onAlarm, h]

theorem onAlarm_mark (h : b.sequence.phase = .mark) :
    b.onAlarm space =
      (.enableTx :: ({ b with sequence := { b.sequence with phase := .idle }, tx := .sending }.writeChunk space).1,
        ({ b with sequence := { b.sequence with phase := .idle }, tx := .sending }.writeChunk space).2) := by
  simp only [onAlarm, BreakSequence.onAlarm, h]

theorem onAlarm_idle (h : b.sequence.phase = .idle) :
    b.onAlarm space = if b.awaiting then
      (if b.rx = .idle then [.notify .timeout] else [], { b with awaiting := false }) else ([], b) := by
  simp only [onAlarm, BreakSequence.onAlarm, h]

/-! ### The end -/

/-- The last slot has left, and the bus listens. -/
def sent (b : Bus) (now : Nat) : Bus :=
  { b with tx := .done, lastFrameAt := now, receiving := true, rx := .idle, cursor := 0, afterBreak := false }

theorem onTxDone_early (h : b.tx ≠ .sending ∨ b.txCursor < b.txSize) : b.onTxDone now = ([], b) := by
  rw [onTxDone, if_pos h]

theorem onTxDone_of_asked (hsending : b.tx = .sending) (hall : b.txSize ≤ b.txCursor)
    (hreply : b.expectsReply = true) :
    b.onTxDone now =
      ([.disableTx, .resetRxFifo, .turn .receive, .enableRx, .setAlarm (UInt32.ofNat responseTimeout)],
        { b.sent now with awaiting := true }) := by
  rw [onTxDone, if_neg (by simp [hsending, hall])]
  exact if_pos hreply

private theorem onTxDone_of_told (hsending : b.tx = .sending) (hall : b.txSize ≤ b.txCursor)
    (hreply : b.expectsReply = false) :
    b.onTxDone now =
      ([.disableTx, .turn .receive, .resetRxFifo, .enableRx, .notify ⟨.ok, .transmit, b.txKind, b.txSize, none⟩],
        b.sent now) := by
  rw [onTxDone, if_neg (by simp [hsending, hall])]
  exact if_neg (ne_true_of_eq_false hreply)

theorem onTxDone_cases (b : Bus) (now : Nat) :
    b.onTxDone now = ([], b) ∨ b.tx = .sending ∧ b.txSize ≤ b.txCursor ∧
      (b.expectsReply = true ∧ b.onTxDone now =
          ([.disableTx, .resetRxFifo, .turn .receive, .enableRx, .setAlarm (UInt32.ofNat responseTimeout)],
            { b.sent now with awaiting := true }) ∨
        b.expectsReply = false ∧ b.onTxDone now =
          ([.disableTx, .turn .receive, .resetRxFifo, .enableRx, .notify ⟨.ok, .transmit, b.txKind, b.txSize, none⟩],
            b.sent now)) := by
  by_cases hearly : b.tx ≠ .sending ∨ b.txCursor < b.txSize
  · exact .inl (onTxDone_early hearly)
  · obtain ⟨hsending, hall⟩ : b.tx = .sending ∧ b.txSize ≤ b.txCursor := by
      simpa only [ne_eq, not_or, Decidable.not_not, Nat.not_lt] using hearly
    refine .inr ⟨hsending, hall, ?_⟩
    cases hreply : b.expectsReply with
    | true => exact .inl ⟨rfl, onTxDone_of_asked hsending hall hreply⟩
    | false => exact .inr ⟨rfl, onTxDone_of_told hsending hall hreply⟩

/-! ### The receiver -/

/-- A step of the receiver.  It may end the wait for a response (`ended`) and turn the bus around (`turned`). -/
structure Received (b : Bus) (ended turned : Bool) (result : List Effect × Bus) : Prop where
  tx : result.2.tx = b.tx
  sequence : result.2.sequence = b.sequence
  txCursor : result.2.txCursor = b.txCursor
  txSize : result.2.txSize = b.txSize
  awaiting : result.2.awaiting = (b.awaiting && !ended)
  receiving : result.2.receiving = (b.receiving && !turned)
  controls : controls result.1 = (if ended && b.awaiting then [.cancelAlarm] else []) ++
    if turned then [.disableRx, .turn .transmit] else []
  origin : ∀ n, .notify n ∈ result.1 → n.origin = .receive

variable {ended turned : Bool} {effects : List Effect} {result : List Effect × Bus}

private theorem received_of_quiet (htx : b'.tx = b.tx) (hsequence : b'.sequence = b.sequence)
    (hcursor : b'.txCursor = b.txCursor) (hsize : b'.txSize = b.txSize) (hawaiting : b'.awaiting = b.awaiting)
    (hreceiving : b'.receiving = b.receiving) (heffects : effects = [] ∨ effects = [.resetRxFifo]) :
    Received b false false (effects, b') := by
  refine ⟨htx, hsequence, hcursor, hsize, by simp [hawaiting], by simp [hreceiving], ?_, ?_⟩
  · rcases heffects with rfl | rfl <;> rfl
  · rintro n hn
    rcases heffects with rfl | rfl <;> simp at hn

private theorem Received.resetRxFifo (h : Received b ended turned result) :
    Received b ended turned (result.1 ++ [.resetRxFifo], result.2) := by
  refine ⟨h.tx, h.sequence, h.txCursor, h.txSize, h.awaiting, h.receiving, ?_, fun n hn => ?_⟩
  · rw [controls_append, h.controls]
    exact List.append_nil _
  · rcases List.mem_append.1 hn with hn | hn
    · exact h.origin n hn
    · simp at hn

private theorem Received.after (h : Received b' ended turned result) (htx : b'.tx = b.tx)
    (hsequence : b'.sequence = b.sequence) (hcursor : b'.txCursor = b.txCursor) (hsize : b'.txSize = b.txSize)
    (hawaiting : b'.awaiting = b.awaiting) (hreceiving : b'.receiving = b.receiving) :
    Received b ended turned result :=
  ⟨h.tx.trans htx, h.sequence.trans hsequence, h.txCursor.trans hcursor, h.txSize.trans hsize,
    by rw [h.awaiting, hawaiting], by rw [h.receiving, hreceiving], by rw [h.controls, hawaiting], h.origin⟩

private theorem received_finish (status : Status) (kind : FrameKind) (size now : Nat) :
    Received b true false (b.finish status kind size now) := by
  refine ⟨rfl, rfl, rfl, rfl, (Bool.and_false _).symm, (Bool.and_true _).symm, ?_, fun n hn => ?_⟩
  · unfold finish
    cases b.awaiting <;> rfl
  · unfold finish at hn
    cases hawaiting : b.awaiting <;> simp [hawaiting] at hn <;> rw [hn]

private theorem received_fail (status : Status) (kind : FrameKind) (now : Nat) :
    Received b true false (b.fail status kind now) := by
  have h := received_finish (b := b) status kind b.cursor now
  exact ⟨h.tx, h.sequence, h.txCursor, h.txSize, h.awaiting, h.receiving, h.controls, h.origin⟩

private theorem Received.turnAround (h : Received b ended false result) :
    Received b ended true (result.1 ++ result.2.turnAround.1, result.2.turnAround.2) := by
  refine ⟨h.tx, h.sequence, h.txCursor, h.txSize, h.awaiting, (Bool.and_false _).symm, ?_, fun n hn => ?_⟩
  · rw [controls_append, h.controls, if_neg Bool.false_ne_true, List.append_nil]
    rfl
  · rcases List.mem_append.1 hn with hn | hn
    · exact h.origin n hn
    · simp [Bus.turnAround] at hn

private theorem Over.received {status : Status} {kind : FrameKind} {size : Nat}
    (h : Over b status kind size now result) : ∃ turned, Received b true turned result := by
  cases h with
  | stays => exact ⟨false, received_finish _ _ _ _⟩
  | turns => exact ⟨true, (received_finish _ _ _ _).turnAround⟩

private theorem received_conclude (overflow : Bool) (now : Nat) :
    ∃ ended turned, Received b ended turned (b.conclude overflow now) := by
  have hconcluded := b.concluded_conclude overflow now
  generalize b.conclude overflow now = result at hconcluded ⊢
  cases hconcluded with
  | goesOn => exact ⟨false, false, received_of_quiet rfl rfl rfl rfl rfl rfl (.inl rfl)⟩
  | failed => exact ⟨true, false, received_fail _ _ _⟩
  | ended _ _ hover => exact ⟨true, hover.received⟩

theorem received_onReceived (count now : Nat) : ∃ ended turned, Received b ended turned (b.onReceived count now) := by
  unfold onReceived
  dsimp only
  split
  · split
    · split
      · exact ⟨true, false, (received_fail _ _ _).after rfl rfl rfl rfl rfl rfl⟩
      · exact ⟨false, false, received_of_quiet rfl rfl rfl rfl rfl rfl (.inl rfl)⟩
    · exact ⟨false, false, received_of_quiet rfl rfl rfl rfl rfl rfl (.inl rfl)⟩
  · exact ⟨false, false, received_of_quiet rfl rfl rfl rfl rfl rfl (.inl rfl)⟩
  · obtain ⟨ended, turned, h⟩ := received_conclude (b := { b.advance count with rx := .receiving })
      (decide (b.window < count)) now
    exact ⟨ended, turned, h.after rfl rfl rfl rfl rfl rfl⟩

theorem received_onLineFault (fault : LineFault) (count now : Nat) :
    ∃ ended turned, Received b ended turned (b.onLineFault fault count now) := by
  unfold onLineFault
  dsimp only
  split
  · exact ⟨false, false, received_of_quiet rfl rfl rfl rfl rfl rfl (.inr rfl)⟩
  · have hfail (status : Status) (kind : FrameKind) :
        Received b true false ((b.advance count).fail status kind now) :=
      (received_fail status kind now).after rfl rfl rfl rfl rfl rfl
    exact ⟨true, false, (hfail _ _).resetRxFifo⟩

theorem received_onCollision (now : Nat) : ∃ ended turned, Received b ended turned (b.onCollision now) := by
  unfold onCollision
  split
  · exact ⟨true, false, (received_fail _ _ _).resetRxFifo⟩
  · exact ⟨false, false, received_of_quiet rfl rfl rfl rfl rfl rfl (.inr rfl)⟩

theorem received_onBreak : ∃ ended turned, Received b ended turned b.onBreak :=
  ⟨false, false, received_of_quiet rfl rfl rfl rfl rfl rfl (.inr rfl)⟩

theorem received_lineRising (now : Nat) : ∃ ended turned, Received b ended turned (b.handle .lineRising now) := by
  refine ⟨false, false, ?_⟩
  unfold handle
  dsimp only
  split
  · exact received_of_quiet rfl rfl rfl rfl rfl rfl (.inl rfl)
  · exact received_of_quiet rfl rfl rfl rfl rfl rfl (.inl rfl)

/-! ### In step -/

/-- The break that is being sent is as far as its timer says. -/
def InStep (b : Bus) : Prop :=
  match b.tx with
  | .inBreak => b.sequence.phase = .low
  | .inMark => b.sequence.phase = .mark
  | _ => b.sequence.phase = .idle

theorem InStep.of_eq (h : b.InStep) (htx : b'.tx = b.tx) (hsequence : b'.sequence = b.sequence) : b'.InStep := by
  unfold InStep
  rw [htx, hsequence]
  exact h

private theorem InStep.received (h : b.InStep) (hresult : ∃ ended turned, Received b ended turned result) :
    result.2.InStep := by
  obtain ⟨_, _, hreceived⟩ := hresult
  exact h.of_eq hreceived.tx hreceived.sequence

theorem InStep.phase_of_not_sending (h : b.InStep) (hidle : b.isSending = false) : b.sequence.phase = .idle := by
  unfold isSending at hidle
  unfold InStep at h
  cases htx : b.tx <;> simp_all

theorem InStep.tx_of_low (h : b.InStep) (hphase : b.sequence.phase = .low) : b.tx = .inBreak := by
  unfold InStep at h
  cases htx : b.tx <;> simp_all

theorem InStep.tx_of_mark (h : b.InStep) (hphase : b.sequence.phase = .mark) : b.tx = .inMark := by
  unfold InStep at h
  cases htx : b.tx <;> simp_all

theorem InStep.tx_of_idle (h : b.InStep) (hphase : b.sequence.phase = .idle) :
    ¬(b.tx = .inBreak ∨ b.tx = .inMark) := by
  unfold InStep at h
  cases htx : b.tx <;> simp_all

theorem InStep.startTransmit (h : b.InStep) (length : Nat) (expectsReply withBreak : Bool) (space : Nat) :
    (b.startTransmit length expectsReply withBreak space).2.InStep := by
  cases hsending : b.isSending with
  | true =>
    rw [startTransmit_of_sending hsending]
    exact h
  | false =>
    by_cases hlength : length = 0
    · rw [hlength, startTransmit_zero]
      exact h
    · cases withBreak with
      | true =>
        rw [startTransmit_withBreak hsending hlength]
        exact rfl
      | false =>
        rw [startTransmit_bare hsending hlength]
        exact h.phase_of_not_sending hsending

theorem InStep.onAlarm (h : b.InStep) (space : Nat) : (b.onAlarm space).2.InStep := by
  cases hphase : b.sequence.phase with
  | low =>
    rw [onAlarm_low hphase]
    exact rfl
  | mark =>
    rw [onAlarm_mark hphase]
    exact rfl
  | idle =>
    rw [onAlarm_idle hphase]
    split
    · exact h.of_eq rfl rfl
    · exact h

theorem InStep.onTxDone (h : b.InStep) (now : Nat) : (b.onTxDone now).2.InStep := by
  -- When the last slot leaves, the break is long over.
  rcases onTxDone_cases b now with heq | ⟨hsending, -, hend⟩
  · rw [heq]
    exact h
  · have hidle : b.sequence.phase = .idle := by
      unfold InStep at h
      rwa [hsending] at h
    rcases hend with ⟨-, heq⟩ | ⟨-, heq⟩ <;> rw [heq] <;> exact hidle

private theorem InStep.handle (h : b.InStep) (event : BusEvent) (now : Nat) : (b.handle event now).2.InStep := by
  cases event with
  | startTransmit length expectsReply withBreak space => exact h.startTransmit length expectsReply withBreak space
  | alarm space => exact h.onAlarm space
  | txReady space =>
    unfold Bus.handle
    dsimp only
    split
    · exact h.of_eq rfl rfl
    · exact h
  | txDone => exact h.onTxDone now
  | «break» => exact h.received received_onBreak
  | lineRising => exact h.received (received_lineRising now)
  | received count => exact h.received (received_onReceived count now)
  | lineFault fault count => exact h.received (received_onLineFault fault count now)
  | collision => exact h.received (received_onCollision now)
  | receiveRequested =>
    unfold Bus.handle
    dsimp only
    split
    · exact h.of_eq rfl rfl
    · exact h

theorem isSending_of_received (hresult : ∃ ended turned, Received b ended turned result) :
    result.2.isSending = b.isSending := by
  obtain ⟨_, _, hreceived⟩ := hresult
  unfold isSending
  rw [hreceived.tx]

/-- A bus begins to send only when a task wants it to. -/
theorem InStep.isSending_handle (h : b.InStep) (hidle : b.isSending = false) {event : BusEvent}
    (hevent : event.isStart = false) (now : Nat) : (b.handle event now).2.isSending = false := by
  have htx : b.tx ≠ .sending := by
    intro htx
    simp [isSending, htx] at hidle
  cases event with
  | startTransmit length expectsReply withBreak space => simp [BusEvent.isStart] at hevent
  | alarm space =>
    simp only [Bus.handle]
    rw [onAlarm_idle (h.phase_of_not_sending hidle)]
    split <;> exact hidle
  | txReady space =>
    simp only [Bus.handle]
    rw [if_neg htx]
    exact hidle
  | txDone =>
    simp only [Bus.handle]
    rw [onTxDone_early (.inl htx)]
    exact hidle
  | «break» => exact (isSending_of_received received_onBreak).trans hidle
  | lineRising => exact (isSending_of_received (received_lineRising now)).trans hidle
  | received count => exact (isSending_of_received (received_onReceived count now)).trans hidle
  | lineFault fault count => exact (isSending_of_received (received_onLineFault fault count now)).trans hidle
  | collision => exact (isSending_of_received (received_onCollision now)).trans hidle
  | receiveRequested =>
    simp only [Bus.handle]
    split <;> exact hidle

theorem Reachable.inStep (h : b.Reachable) : b.InStep := by
  induction h with
  | new mode timing => exact rfl
  | handle _ event now ih => exact ih.handle event now
  | start _ ih => exact ih.of_eq rfl rfl
  | stop _ _ => exact rfl
  | write _ start bytes ih => exact ih.of_eq rfl rfl
  | setMode _ mode ih => exact ih.of_eq rfl rfl
  | setTiming _ timing ih => exact ih.of_eq rfl rfl

/-! ### What the receiver changes -/

/-- After a step of the receiver at the time `now`, the state is `b'`.  Either slots are counted, or a frame has
ended. -/
def TakesIn (b : Bus) (now : Nat) (b' : Bus) : Prop :=
  (∃ sizeGuess cursor afterBreak rx, b' = { b with sizeGuess, cursor, afterBreak, rx } ∧
    (b'.frameFinished = true → rx = b.rx)) ∨
  ∃ cursor rx rxKind rxSize receiving,
    b' = { b with cursor, rx, rxKind, rxSize, receiving, awaiting := false, lastFrameAt := now }

private theorem conclude_state (b : Bus) (overflow : Bool) (now : Nat) :
    (b.conclude overflow now).2 = b ∨ ∃ rx rxKind rxSize receiving, (b.conclude overflow now).2 =
      { b with rx, rxKind, rxSize, receiving, awaiting := false, lastFrameAt := now } := by
  have hconcluded := b.concluded_conclude overflow now
  generalize b.conclude overflow now = result at hconcluded ⊢
  cases hconcluded with
  | goesOn => exact .inl rfl
  | failed => exact .inr ⟨_, _, _, b.receiving, rfl⟩
  | ended _ _ hover =>
    cases hover with
    | stays => exact .inr ⟨_, _, _, b.receiving, rfl⟩
    | turns => exact .inr ⟨_, _, _, false, rfl⟩

private theorem takesIn_onReceived (b : Bus) (count now : Nat) : TakesIn b now (b.onReceived count now).2 := by
  have hcounted : TakesIn b now (b.advance count) := .inl ⟨b.sizeGuess, _, b.afterBreak, b.rx, rfl, fun _ => rfl⟩
  have hsame : TakesIn b now b := .inl ⟨b.sizeGuess, b.cursor, b.afterBreak, b.rx, rfl, fun _ => rfl⟩
  unfold onReceived
  dsimp only
  split
  · split
    · split
      · exact .inr ⟨_, _, _, _, b.receiving, rfl⟩
      · exact hcounted
    · exact hsame
  · exact hsame
  · rcases conclude_state { b.advance count with rx := .receiving } (decide (b.window < count)) now with
      hgoes | ⟨rx, rxKind, rxSize, receiving, hends⟩
    · rw [hgoes]
      exact .inl ⟨b.sizeGuess, _, b.afterBreak, .receiving, rfl, fun hfinished => by cases hfinished⟩
    · rw [hends]
      exact .inr ⟨_, rx, rxKind, rxSize, receiving, rfl⟩

theorem takesIn_handle {event : BusEvent} (hevent : event.isHeard = true) (now : Nat) :
    TakesIn b now (b.handle event now).2 := by
  have hsame : TakesIn b now b := .inl ⟨b.sizeGuess, b.cursor, b.afterBreak, b.rx, rfl, fun _ => rfl⟩
  cases event with
  | startTransmit | alarm | txReady | txDone | receiveRequested => cases hevent
  | «break» => exact .inl ⟨_, 0, true, .inBreak, rfl, fun hfinished => by cases hfinished⟩
  | lineRising =>
    simp only [handle]
    split
    · exact .inl ⟨b.sizeGuess, b.cursor, b.afterBreak, .inMark, rfl, fun hfinished => by cases hfinished⟩
    · exact hsame
  | received count => exact takesIn_onReceived b count now
  | lineFault fault count =>
    simp only [handle, onLineFault]
    split
    · exact hsame
    · exact .inr ⟨_, _, _, _, b.receiving, rfl⟩
  | collision =>
    simp only [handle, onCollision]
    split
    · exact .inr ⟨b.cursor, _, _, _, b.receiving, rfl⟩
    · exact hsame

/-! ### What events leave alone -/

/-- The buffer, the mode and what is being sent are the same. -/
structure Alike (b b' : Bus) : Prop where
  frame : b'.frame = b.frame
  mode : b'.mode = b.mode
  txKind : b'.txKind = b.txKind

private theorem TakesIn.alike (h : TakesIn b now b') : Alike b b' := by
  rcases h with ⟨_, _, _, _, rfl, -⟩ | ⟨_, _, _, _, _, rfl⟩ <;> exact ⟨rfl, rfl, rfl⟩

theorem alike_handle (b : Bus) {event : BusEvent} (hevent : event.isStart = false) (now : Nat) :
    Alike b (b.handle event now).2 := by
  cases event with
  | startTransmit length expectsReply withBreak space => cases hevent
  | alarm space =>
    simp only [handle, onAlarm]
    split
    · exact ⟨rfl, rfl, rfl⟩
    · exact ⟨rfl, rfl, rfl⟩
    · exact ⟨rfl, rfl, rfl⟩
    · split <;> exact ⟨rfl, rfl, rfl⟩
  | txReady space =>
    simp only [handle]
    split <;> exact ⟨rfl, rfl, rfl⟩
  | txDone =>
    simp only [handle, onTxDone]
    split
    · exact ⟨rfl, rfl, rfl⟩
    split <;> exact ⟨rfl, rfl, rfl⟩
  | receiveRequested =>
    simp only [handle]
    split <;> exact ⟨rfl, rfl, rfl⟩
  | «break» | lineRising | received | lineFault | collision => exact (takesIn_handle rfl now).alike

theorem frame_conclude (overflow : Bool) (now : Nat) : (b.conclude overflow now).2.frame = b.frame := by
  rcases conclude_state b overflow now with hgoes | ⟨_, _, _, _, hends⟩
  · rw [hgoes]
  · rw [hends]

theorem frame_startTransmit (b : Bus) (length : Nat) (expectsReply withBreak : Bool) (space : Nat) :
    (b.startTransmit length expectsReply withBreak space).2.frame = b.frame ∧
      (b.startTransmit length expectsReply withBreak space).2.mode = b.mode := by
  unfold startTransmit
  split
  · exact ⟨rfl, rfl⟩
  dsimp only
  split <;> exact ⟨rfl, rfl⟩

private theorem untouched_handle (b : Bus) (event : BusEvent) (now : Nat) :
    (b.handle event now).2.frame = b.frame ∧ (b.handle event now).2.mode = b.mode := by
  cases hevent : event.isStart with
  | false =>
    have halike := alike_handle b hevent now
    exact ⟨halike.frame, halike.mode⟩
  | true =>
    cases event with
    | startTransmit length expectsReply withBreak space => exact frame_startTransmit b _ _ _ _
    | _ => cases hevent

/-- No event touches the buffer. -/
theorem frame_handle (b : Bus) (event : BusEvent) (now : Nat) : (b.handle event now).2.frame = b.frame :=
  (untouched_handle b event now).1

theorem mode_handle (b : Bus) (event : BusEvent) (now : Nat) : (b.handle event now).2.mode = b.mode :=
  (untouched_handle b event now).2

/-! ### The time of the last frame -/

/-- The bus gets from `b` to `b'` at the time `now`, and no task has made it send anything. -/
structure Timed (b : Bus) (now : Nat) (b' : Bus) : Prop where
  controller : b.mode = .controller → b'.mode = .controller
  idle : b.InStep → b.isSending = false → b'.isSending = false
  lastFrameAt : b'.lastFrameAt = b.lastFrameAt ∨ b'.lastFrameAt = now
  sent : b.isSending = true → b'.isSending = false → b'.lastFrameAt = now
  heard : b'.frameFinished = true → b'.rx = b.rx ∨ b'.lastFrameAt = now

theorem Timed.of_eq (htx : b'.tx = b.tx)
    (hmode : b.mode = .controller → b'.mode = .controller) (hlast : b'.lastFrameAt = b.lastFrameAt)
    (hrx : b'.frameFinished = true → b'.rx = b.rx) : Timed b now b' := by
  have hsending : b'.isSending = b.isSending := by
    unfold isSending
    rw [htx]
  refine ⟨hmode, fun _ hidle => hsending.trans hidle, .inl hlast, fun hsends hidle => ?_,
    fun hfinished => .inl (hrx hfinished)⟩
  rw [hsending, hsends] at hidle
  cases hidle

private theorem TakesIn.timed (h : TakesIn b now b') : Timed b now b' := by
  rcases h with ⟨_, _, _, _, rfl, hrx⟩ | ⟨_, _, _, _, _, rfl⟩
  · exact .of_eq rfl id rfl hrx
  · exact ⟨id, fun _ hidle => hidle, .inr rfl, fun _ _ => rfl, fun _ => .inr rfl⟩

theorem timed_handle (b : Bus) {event : BusEvent} (hevent : event.isStart = false) (now : Nat) :
    Timed b now (b.handle event now).2 := by
  have hsame : Timed b now b := .of_eq rfl id rfl fun _ => rfl
  -- A part of the transmission goes out, and the time of the last frame does not matter.
  have hgoes {b' : Bus} (hb' : (b.handle event now).2 = b') (hsends : b'.isSending = true)
      (hlast : b'.lastFrameAt = b.lastFrameAt) (hrx : b'.rx = b.rx) : Timed b now b' := by
    refine ⟨fun h => hb' ▸ (mode_handle b event now).trans h,
      fun h hidle => hb' ▸ h.isSending_handle hidle hevent now, .inl hlast, fun _ hidle => ?_, fun _ => .inl hrx⟩
    rw [hsends] at hidle
    cases hidle
  cases event with
  | startTransmit => cases hevent
  | «break» | lineRising | received | lineFault | collision => exact (takesIn_handle rfl now).timed
  | alarm space =>
    cases hphase : b.sequence.phase with
    | low =>
      have hlow := congrArg Prod.snd (onAlarm_low hphase : b.onAlarm space = _)
      exact hlow ▸ hgoes hlow rfl rfl rfl
    | mark =>
      have hmark := congrArg Prod.snd (onAlarm_mark hphase : b.onAlarm space = _)
      exact hmark ▸ hgoes hmark rfl rfl rfl
    | idle =>
      simp only [handle, onAlarm_idle hphase]
      split
      · exact .of_eq rfl id rfl fun _ => rfl
      · exact hsame
  | txReady space =>
    simp only [handle]
    split
    · exact .of_eq rfl id rfl fun _ => rfl
    · exact hsame
  | txDone =>
    have hidle (h : b.InStep) (hidle : b.isSending = false) : (b.handle .txDone now).2.isSending = false :=
      h.isSending_handle hidle rfl now
    unfold handle at hidle
    show Timed b now (b.onTxDone now).2
    rcases onTxDone_cases b now with heq | ⟨-, -, ⟨-, heq⟩ | ⟨-, heq⟩⟩ <;> rw [heq] at hidle ⊢
    · exact hsame
    · exact ⟨id, hidle, .inr rfl, fun _ _ => rfl, fun hfinished => by cases hfinished⟩
    · exact ⟨id, hidle, .inr rfl, fun _ _ => rfl, fun hfinished => by cases hfinished⟩
  | receiveRequested =>
    simp only [handle]
    split
    · exact .of_eq rfl id rfl fun hfinished => by cases hfinished
    · exact hsame

end Bus

end LightBus
