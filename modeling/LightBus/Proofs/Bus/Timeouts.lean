import LightBus.Proofs.Bus.Listening
import LightBus.Proofs.Bus.Ranges

/-!
# Response timeouts

One timer paces the break that is sent and ends the wait for a response.  A timeout is told only if nothing has come
in since the last slot of the request left, and at most once for each request.

* `Bus.Move`, `Bus.History`: all that may be done with a bus, one move after the other.
* What one move does to the wait, which begins with the end of a request (`Bus.Move.asks`): whoever waits in silence
  after a move did so before it (`Bus.silent_of_move`), only some moves end the wait (`Bus.awaiting_move`), and if it
  ends with a reception then the alarm is cancelled (`Bus.cancelAlarm_mem_of_told`).
* From there to the whole history: `Bus.History.exists_asks_of_silent`, `Bus.History.awaiting_of_asks`, and with them
  `Bus.History.timeout_once`.
-/

namespace LightBus

/-- Something comes in, or a task has something to send. -/
def BusEvent.isActivity : BusEvent → Bool
  | .startTransmit length _ _ _ => decide (0 < length)
  | .received count => decide (0 < count)
  | .break | .lineFault _ _ | .collision => true
  | _ => false

/-- The timer rings, or a task has something to send. -/
def BusEvent.endsWait : BusEvent → Bool
  | .startTransmit length _ _ _ => decide (0 < length)
  | .alarm _ => true
  | _ => false

/-- Something is told of a reception, or that there was none. -/
def TellsReceived (effects : List Effect) : Prop := ∃ n, .notify n ∈ effects ∧ n.origin = .receive

theorem not_tellsReceived_nil : ¬TellsReceived [] := by
  rintro ⟨n, hn, -⟩
  cases hn

namespace Bus

/-- What may be done with a bus. -/
inductive Move where
  | event (event : BusEvent) (now : Nat)
  | start
  | stop
  | write (start : Nat) (bytes : List UInt8)
  | setMode (mode : Mode)
  | setTiming (timing : BreakTiming)

/-- What the hardware has to do after a move, and the state after it. -/
def move (b : Bus) : Move → List Effect × Bus
  | .event event now => b.handle event now
  | .start => b.start
  | .stop => b.stop
  | .write start bytes => ([], b.write start bytes)
  | .setMode mode => ([], { b with mode })
  | .setTiming timing => ([], { b with timing })

namespace Move

/-- The last slot of a transmission that a response is expected to has left. -/
def asks (b : Bus) : Move → Prop
  | .event .txDone _ => b.tx = .sending ∧ b.txSize ≤ b.txCursor ∧ b.expectsReply = true
  | _ => False

def isActivity : Move → Bool
  | .event happening _ => happening.isActivity
  | .stop => true
  | _ => false

/-- Nobody waits for a response after the move. -/
def endsWait : Move → Bool
  | .event happening _ => happening.endsWait
  | .stop => true
  | _ => false

/-- The timer rings. -/
def isAlarm : Move → Bool
  | .event happening _ => happening.isAlarm
  | _ => false

/-- A task wants a frame sent. -/
def isStartTransmit : Move → Bool
  | .event happening _ => happening.isStart
  | _ => false

end Move

/-- The bus has not been switched on before the `n`th move, since it was made or stopped. -/
def OffBefore (moves : Nat → Move) : Nat → Prop
  | 0 => True
  | n + 1 =>
    match moves n with
    | .event _ _ | .start => False
    | .stop => True
    | .write _ _ | .setMode _ | .setTiming _ => OffBefore moves n

/-- Moves one after the other, from a new bus on.  It is switched on only where it is off. -/
structure History where
  mode : Mode
  timing : BreakTiming
  moves : Nat → Move
  starts : ∀ n, moves n = .start → OffBefore moves n

namespace History

/-- The state before the `n`th move. -/
def stateAt (h : History) : Nat → Bus
  | 0 => .new h.mode h.timing
  | n + 1 => ((h.stateAt n).move (h.moves n)).2

/-- What the hardware has to do after the `n`th move. -/
def effectsAt (h : History) (n : Nat) : List Effect := ((h.stateAt n).move (h.moves n)).1

/-- The `n`th move ends a request. -/
def AsksAt (h : History) (n : Nat) : Prop := (h.moves n).asks (h.stateAt n)

/-- With the `n`th move it is told that no response has come. -/
def TimesOutAt (h : History) (n : Nat) : Prop := .notify .timeout ∈ h.effectsAt n

/-- Between the moves `j` and `n` nothing has come in, and nothing was told of a reception. -/
def SilentBetween (h : History) (j n : Nat) : Prop :=
  ∀ m, j < m → m < n → (h.moves m).isActivity = false ∧ ¬TellsReceived (h.effectsAt m)

/-- Between the moves `j` and `n` nothing has ended the wait for a response. -/
def AwaitedBetween (h : History) (j n : Nat) : Prop :=
  ∀ m, j < m → m < n → (h.moves m).endsWait = false ∧ ¬TellsReceived (h.effectsAt m)

end History

variable {b b' : Bus} {effects : List Effect} {result : List Effect × Bus} {event : BusEvent} {now : Nat}

/-! ### Steps of the receiver -/

private theorem received_handle (hevent : event.isHeard = true) (now : Nat) :
    ∃ ended turned, Received b ended turned (b.handle event now) := by
  cases event with
  | «break» => exact received_onBreak
  | lineRising => exact received_lineRising now
  | received count => exact received_onReceived count now
  | lineFault fault count => exact received_onLineFault fault count now
  | collision => exact received_onCollision now
  | _ => cases hevent

private theorem reports_handle (hevent : event.isHeard = true) (now : Nat) : Reports b (b.handle event now) := by
  cases event with
  | «break» => exact reports_of_quiet rfl (.inr rfl)
  | lineRising =>
    unfold handle
    dsimp only
    split <;> exact reports_of_quiet rfl (.inl rfl)
  | received count => exact reports_onReceived count now
  | lineFault fault count => exact reports_onLineFault fault count now
  | collision => exact reports_onCollision now
  | _ => cases hevent

/-- The wait for a response is over as soon as something is told, and not before. -/
def TellsAtEnd (b : Bus) (result : List Effect × Bus) : Prop :=
  (∃ n, .notify n ∈ result.1) ∧ result.2.awaiting = false ∨
    (∀ n, .notify n ∉ result.1) ∧ result.2.awaiting = b.awaiting

private theorem tellsAtEnd_of_quiet (hawaiting : b'.awaiting = b.awaiting)
    (heffects : effects = [] ∨ effects = [.resetRxFifo]) :
    TellsAtEnd b (effects, b') := by
  refine .inr ⟨fun n hn => ?_, hawaiting⟩
  rcases heffects with rfl | rfl <;> simp at hn

private theorem tellsAtEnd_of_told {n : Notice} (hn : .notify n ∈ result.1) (hawaiting : result.2.awaiting = false) :
    TellsAtEnd b result :=
  .inl ⟨⟨n, hn⟩, hawaiting⟩

private theorem tellsAtEnd_conclude (overflow : Bool) (now : Nat) : TellsAtEnd b (b.conclude overflow now) := by
  have hconcluded := b.concluded_conclude overflow now
  generalize b.conclude overflow now = result at hconcluded ⊢
  cases hconcluded with
  | goesOn => exact tellsAtEnd_of_quiet rfl (.inl rfl)
  | failed => exact tellsAtEnd_of_told (notify_finish _ _ _ now) rfl
  | ended _ _ hover =>
    cases hover with
    | stays => exact tellsAtEnd_of_told (notify_finish _ _ _ now) rfl
    | turns => exact tellsAtEnd_of_told (List.mem_append_left _ (notify_finish _ _ _ now)) rfl

private theorem tellsAtEnd_handle (hevent : event.isHeard = true) (now : Nat) :
    TellsAtEnd b (b.handle event now) := by
  cases event with
  | «break» => exact tellsAtEnd_of_quiet rfl (.inr rfl)
  | lineRising =>
    unfold handle
    dsimp only
    split <;> exact tellsAtEnd_of_quiet rfl (.inl rfl)
  | received count =>
    show TellsAtEnd b (b.onReceived count now)
    unfold onReceived
    dsimp only
    split
    · split
      · split
        · exact tellsAtEnd_of_told (notify_finish _ _ _ now) rfl
        · exact tellsAtEnd_of_quiet rfl (.inl rfl)
      · exact tellsAtEnd_of_quiet rfl (.inl rfl)
    · exact tellsAtEnd_of_quiet rfl (.inl rfl)
    · exact tellsAtEnd_conclude _ now
  | lineFault fault count =>
    show TellsAtEnd b (b.onLineFault fault count now)
    unfold onLineFault
    split
    · exact tellsAtEnd_of_quiet rfl (.inr rfl)
    · exact tellsAtEnd_of_told (List.mem_append_left _ (notify_finish _ _ _ now)) rfl
  | collision =>
    show TellsAtEnd b (b.onCollision now)
    unfold onCollision
    split
    · exact tellsAtEnd_of_told (List.mem_append_left _ (notify_finish _ _ _ now)) rfl
    · exact tellsAtEnd_of_quiet rfl (.inr rfl)
  | _ => cases hevent

/-- After an event of the receiver either nothing has come in, or the line is not idle. -/
private theorem not_idle_of_heard (hwaits : b.awaiting = true) (hopen : b.frameFinished = false)
    (hevent : event.isHeard = true) (hrx : (b.handle event now).2.rx = .idle) :
    b.rx = .idle ∧ event.isActivity = false ∧ (b.handle event now).1 = [] := by
  cases event with
  | «break» => cases hrx
  | lineRising =>
    unfold handle at hrx ⊢
    dsimp only at hrx ⊢
    split at hrx
    · cases hrx
    · exact ⟨hrx, rfl, rfl⟩
  | received count => exact absurd hrx (rx_onReceived count now)
  | lineFault fault count =>
    simp only [handle, onLineFault, hopen, Bool.false_eq_true, ↓reduceIte] at hrx
    cases hrx
  | collision =>
    simp only [handle, onCollision, hopen, hwaits, Bool.not_false, true_or, and_self, ↓reduceIte] at hrx
    cases hrx
  | _ => cases hevent

/-- If the wait goes on in silence after an event of the receiver, it was the same before, and the event was of no
consequence. -/
private theorem silent_of_heard (h : b.Sound) (hevent : event.isHeard = true)
    (hwaits : (b.handle event now).2.awaiting = true) (hrx : (b.handle event now).2.rx = .idle) :
    b.awaiting = true ∧ b.rx = .idle ∧ event.isActivity = false ∧ ¬TellsReceived (b.handle event now).1 := by
  have hbefore : b.awaiting = true := by
    obtain ⟨_, _, hreceived⟩ := received_handle (b := b) hevent now
    rw [hreceived.awaiting, Bool.and_eq_true] at hwaits
    exact hwaits.1
  obtain ⟨hidle, hquiet, hnothing⟩ := not_idle_of_heard hbefore (h.waits hbefore).2 hevent hrx
  refine ⟨hbefore, hidle, hquiet, ?_⟩
  rw [hnothing]
  exact not_tellsReceived_nil

private theorem awaiting_heard (hwaits : b.awaiting = true) (hevent : event.isHeard = true) (now : Nat)
    (hquiet : ¬TellsReceived (b.handle event now).1) : (b.handle event now).2.awaiting = true := by
  rcases tellsAtEnd_handle (b := b) hevent now with ⟨⟨n, hn⟩, -⟩ | ⟨-, hsame⟩
  · obtain ⟨_, _, hreceived⟩ := received_handle (b := b) hevent now
    exact absurd ⟨n, hn, hreceived.origin n hn⟩ hquiet
  · exact hsame.trans hwaits

private theorem cancelAlarm_mem_of_heard (hwaits : b.awaiting = true) (hevent : event.isHeard = true)
    (now : Nat) {n : Notice} (hn : .notify n ∈ (b.handle event now).1) : .cancelAlarm ∈ (b.handle event now).1 := by
  rcases tellsAtEnd_handle (b := b) hevent now with ⟨-, hover⟩ | ⟨hnothing, -⟩
  · obtain ⟨ended, turned, hreceived⟩ := received_handle (b := b) hevent now
    have hended : ended = true := by
      have hawaiting := hreceived.awaiting
      rw [hover, hwaits] at hawaiting
      cases ended with
      | true => rfl
      | false => cases hawaiting
    have hcontrols := hreceived.controls
    rw [hended, hwaits] at hcontrols
    refine (List.mem_filter.1 (?_ : Effect.cancelAlarm ∈ controls _)).1
    rw [hcontrols]
    exact List.mem_cons_self
  · exact absurd hn (hnothing n)

/-! ### The receiver is on while a response is awaited -/

private theorem receiving_of_received (h : b.awaiting = true → b.receiving = true)
    (hreceived : ∃ ended turned, Received b ended turned result) (hreports : Reports b result)
    (hwaits : result.2.awaiting = true) : result.2.receiving = true := by
  refine eq_true_of_ne_false fun hoff => ?_
  rcases hreports.turned hoff with hbefore | ⟨-, hover⟩
  · obtain ⟨_, _, hreceived⟩ := hreceived
    rw [hreceived.awaiting, Bool.and_eq_true] at hwaits
    exact absurd (h hwaits.1) (ne_true_of_eq_false hbefore)
  · exact absurd hwaits (ne_true_of_eq_false hover)

private theorem receiving_startTransmit (h : b.awaiting = true → b.receiving = true) (length : Nat)
    (expectsReply withBreak : Bool) (space : Nat)
    (hwaits : (b.startTransmit length expectsReply withBreak space).2.awaiting = true) :
    (b.startTransmit length expectsReply withBreak space).2.receiving = true := by
  by_cases hidle : b.isSending = true ∨ length = 0
  · rw [startTransmit, if_pos hidle] at hwaits ⊢
    exact h hwaits
  · obtain ⟨hsending, hlength⟩ := not_or.1 hidle
    obtain ⟨_, _, _, heq⟩ := startTransmit_state (eq_false_of_ne_true hsending) hlength expectsReply withBreak space
    rw [heq] at hwaits
    cases hwaits

private theorem receiving_onAlarm (h : b.awaiting = true → b.receiving = true) (space : Nat)
    (hwaits : (b.onAlarm space).2.awaiting = true) : (b.onAlarm space).2.receiving = true := by
  cases hphase : b.sequence.phase with
  | low =>
    rw [onAlarm_low hphase] at hwaits ⊢
    exact h hwaits
  | mark =>
    rw [onAlarm_mark hphase] at hwaits ⊢
    exact h hwaits
  | idle =>
    rw [onAlarm_idle hphase] at hwaits ⊢
    split at hwaits
    · cases hwaits
    · rename_i hover
      exact absurd hwaits hover

private theorem receiving_handle (h : b.awaiting = true → b.receiving = true) (event : BusEvent) (now : Nat)
    (hwaits : (b.handle event now).2.awaiting = true) : (b.handle event now).2.receiving = true := by
  cases event with
  | startTransmit length expectsReply withBreak space =>
    exact receiving_startTransmit h length expectsReply withBreak space hwaits
  | alarm space => exact receiving_onAlarm h space hwaits
  | txReady space =>
    simp only [handle] at hwaits ⊢
    split <;> rename_i hsending
    · rw [if_pos hsending] at hwaits
      exact h hwaits
    · rw [if_neg hsending] at hwaits
      exact h hwaits
  | txDone =>
    simp only [handle] at hwaits ⊢
    rcases onTxDone_cases b now with heq | ⟨-, -, ⟨-, heq⟩ | ⟨-, heq⟩⟩ <;> rw [heq] at hwaits ⊢
    · exact h hwaits
    · rfl
    · rfl
  | receiveRequested =>
    simp only [handle] at hwaits ⊢
    split <;> rename_i hready
    · rfl
    · rw [if_neg hready] at hwaits
      exact h hwaits
  | «break» | lineRising | received | lineFault | collision =>
    exact receiving_of_received h (received_handle rfl now) (reports_handle rfl now) hwaits

private theorem Reachable.receiving_of_awaiting (h : b.Reachable) : b.awaiting = true → b.receiving = true := by
  induction h with
  | new mode timing => exact nofun
  | handle _ event now ih => exact receiving_handle ih event now
  | start _ _ => exact fun _ => rfl
  | stop _ _ => exact nofun
  | write _ _ _ ih | setMode _ _ ih | setTiming _ _ ih => exact ih

/-! ### One move -/

private theorem Reachable.move (h : b.Reachable) (m : Move) : (b.move m).2.Reachable := by
  cases m with
  | event event now => exact h.handle event now
  | start => exact h.start
  | stop => exact h.stop
  | write start bytes => exact h.write start bytes
  | setMode mode => exact h.setMode mode
  | setTiming timing => exact h.setTiming timing

/-- A bus that waits for a response does nothing for its transmitter. -/
private theorem Reachable.tx_of_awaiting (h : b.Reachable) (hwaits : b.awaiting = true) :
    b.tx = .done ∧ b.isSending = false ∧ b.sequence.phase = .idle := by
  have htx := (h.sound.waits hwaits).1
  have hidle : b.isSending = false := by
    unfold isSending
    rw [htx]
  exact ⟨htx, hidle, h.inStep.phase_of_not_sending hidle⟩

private theorem Reachable.unsent_of_awaiting (h : b.Reachable) (hwaits : b.awaiting = true) : b.tx ≠ .sending := by
  rw [(h.tx_of_awaiting hwaits).1]
  exact nofun

private theorem awaiting_of_asks {m : Move} (hasks : m.asks b) :
    (b.move m).2.awaiting = true ∧ (b.move m).2.rx = .idle := by
  cases m with
  | event event now =>
    cases event with
    | txDone =>
      obtain ⟨hsending, hall, hreply⟩ := hasks
      rw [show b.move (.event .txDone now) = _ from onTxDone_of_asked hsending hall hreply]
      exact ⟨rfl, rfl⟩
    | _ => cases hasks
  | _ => cases hasks

/-- Without an end of a request, whoever waits in silence after a move has done so before it, and nothing has
happened. -/
theorem silent_of_move (h : b.Reachable) {m : Move} (hstart : m = .start → b.awaiting = false) (hasks : ¬m.asks b)
    (hwaits : (b.move m).2.awaiting = true) (hrx : (b.move m).2.rx = .idle) :
    b.awaiting = true ∧ b.rx = .idle ∧ m.isActivity = false ∧ ¬TellsReceived (b.move m).1 := by
  cases m with
  | start => exact absurd hwaits (ne_true_of_eq_false (hstart rfl))
  | stop => cases hwaits
  | write | setMode | setTiming => exact ⟨hwaits, hrx, rfl, not_tellsReceived_nil⟩
  | event event now =>
    simp only [move] at hwaits hrx ⊢
    cases event with
    | startTransmit length expectsReply withBreak space =>
      simp only [handle] at hwaits hrx ⊢
      by_cases hidle : b.isSending = true ∨ length = 0
      · rw [startTransmit, if_pos hidle] at hwaits hrx ⊢
        have hsending := (h.tx_of_awaiting hwaits).2.1
        have hlength : length = 0 := hidle.resolve_left (ne_true_of_eq_false hsending)
        exact ⟨hwaits, hrx, by rw [hlength]; rfl, not_tellsReceived_nil⟩
      · obtain ⟨hsending, hlength⟩ := not_or.1 hidle
        obtain ⟨_, _, _, heq⟩ := startTransmit_state (eq_false_of_ne_true hsending) hlength expectsReply
          withBreak space
        rw [heq] at hwaits
        cases hwaits
    | alarm space =>
      simp only [handle] at hwaits
      cases hphase : b.sequence.phase with
      | low =>
        rw [onAlarm_low hphase] at hwaits
        cases (h.tx_of_awaiting hwaits).2.2.symm.trans hphase
      | mark =>
        rw [onAlarm_mark hphase] at hwaits
        cases (h.tx_of_awaiting hwaits).2.2.symm.trans hphase
      | idle =>
        rw [onAlarm_idle hphase] at hwaits
        split at hwaits
        · cases hwaits
        · rename_i hover
          exact absurd hwaits hover
    | txReady space =>
      simp only [handle] at hwaits hrx ⊢
      split at hwaits
      · rename_i hsending
        rw [if_pos hsending]
        exact absurd (isSending_of_tx hsending) (ne_true_of_eq_false (h.tx_of_awaiting hwaits).2.1)
      · rename_i hsending
        rw [if_neg hsending] at hrx ⊢
        exact ⟨hwaits, hrx, rfl, not_tellsReceived_nil⟩
    | txDone =>
      simp only [handle] at hwaits hrx ⊢
      rcases onTxDone_cases b now with heq | ⟨hsending, hall, ⟨hreply, -⟩ | ⟨-, heq⟩⟩
      · rw [heq] at hwaits hrx ⊢
        exact ⟨hwaits, hrx, rfl, not_tellsReceived_nil⟩
      · exact absurd ⟨hsending, hall, hreply⟩ hasks
      · rw [heq] at hwaits
        cases (h.tx_of_awaiting hwaits).1.symm.trans hsending
    | receiveRequested =>
      simp only [handle] at hwaits hrx ⊢
      split at hwaits
      · rename_i hready
        -- The receiver is on already, so that nothing begins anew.
        have hon := h.receiving_of_awaiting hwaits
        simp [hon] at hready
      · rename_i hbusy
        rw [if_neg hbusy] at hrx ⊢
        exact ⟨hwaits, hrx, rfl, not_tellsReceived_nil⟩
    | «break» | lineRising | received | lineFault | collision => exact silent_of_heard h.sound rfl hwaits hrx

/-- A move that does not end the wait tells of a reception, or the wait goes on. -/
theorem awaiting_move (h : b.Reachable) (hwaits : b.awaiting = true) {m : Move} (hgoes : m.endsWait = false)
    (hquiet : ¬TellsReceived (b.move m).1) : (b.move m).2.awaiting = true := by
  have hunsent := h.unsent_of_awaiting hwaits
  cases m with
  | start | write | setMode | setTiming => exact hwaits
  | stop => cases hgoes
  | event event now =>
    simp only [move] at hquiet ⊢
    cases event with
    | startTransmit length expectsReply withBreak space =>
      have hlength : length = 0 := Nat.eq_zero_of_not_pos (of_decide_eq_false hgoes)
      simp only [handle]
      rw [hlength, startTransmit_zero]
      exact hwaits
    | alarm space => cases hgoes
    | txReady space =>
      simp only [handle]
      rw [if_neg hunsent]
      exact hwaits
    | txDone =>
      simp only [handle]
      rw [onTxDone_early (.inl hunsent)]
      exact hwaits
    | receiveRequested =>
      simp only [handle]
      split <;> exact hwaits
    | «break» | lineRising | received | lineFault | collision => exact awaiting_heard hwaits rfl now hquiet

/-- A reception that ends the wait cancels the alarm. -/
theorem cancelAlarm_mem_of_told (h : b.Reachable) (hwaits : b.awaiting = true) {m : Move} (halarm : m.isAlarm = false)
    (htold : TellsReceived (b.move m).1) : .cancelAlarm ∈ (b.move m).1 := by
  obtain ⟨n, hn, horigin⟩ := htold
  have hunsent := h.unsent_of_awaiting hwaits
  cases m with
  | start | stop => simp [move, start, stop, listen] at hn
  | write | setMode | setTiming => cases hn
  | event event now =>
    simp only [move] at hn ⊢
    cases event with
    | startTransmit length expectsReply withBreak space => exact absurd hn (not_notify_startTransmit n)
    | alarm space => cases halarm
    | txReady space =>
      simp only [handle, if_neg hunsent] at hn
      cases hn
    | txDone =>
      simp only [handle, onTxDone_early (.inl hunsent)] at hn
      cases hn
    | receiveRequested =>
      simp only [handle] at hn
      split at hn <;> simp [listen] at hn
    | «break» | lineRising | received | lineFault | collision => exact cancelAlarm_mem_of_heard hwaits rfl now hn

/-- A timeout is told by the alarm alone, once, and to those who wait in silence. -/
private theorem timeout_of_move {m : Move} (htold : .notify .timeout ∈ (b.move m).1) :
    b.awaiting = true ∧ b.rx = .idle ∧ (b.move m).1 = [.notify .timeout] := by
  cases m with
  | start | stop => simp [move, start, stop, listen] at htold
  | write | setMode | setTiming => cases htold
  | event event now =>
    simp only [move] at htold ⊢
    cases event with
    | startTransmit length expectsReply withBreak space => exact absurd htold (not_notify_startTransmit _)
    | alarm space =>
      simp only [handle] at htold ⊢
      cases hphase : b.sequence.phase with
      | low =>
        rw [onAlarm_low hphase] at htold
        simp at htold
      | mark =>
        rw [onAlarm_mark hphase] at htold
        simp [not_notify_writeChunk] at htold
      | idle =>
        rw [onAlarm_idle hphase] at htold ⊢
        split at htold
        · rename_i hwaits
          rw [if_pos hwaits]
          split at htold
          · rename_i hrx
            exact ⟨hwaits, hrx, if_pos hrx⟩
          · cases htold
        · cases htold
    | txReady space =>
      simp only [handle] at htold
      split at htold
      · exact absurd htold (not_notify_writeChunk _)
      · cases htold
    | txDone =>
      simp only [handle] at htold
      rcases onTxDone_cases b now with heq | ⟨-, -, ⟨-, heq⟩ | ⟨-, heq⟩⟩ <;> rw [heq] at htold <;>
        simp [Notice.timeout] at htold
    | receiveRequested =>
      simp only [handle] at htold
      split at htold <;> simp [listen] at htold
    | «break» | lineRising | received | lineFault | collision =>
      exact absurd rfl ((reports_handle rfl now).status _ htold)

/-! ### All moves -/

namespace History

variable {h : History} {j n : Nat}

private theorem reachable (h : History) (n : Nat) : (h.stateAt n).Reachable := by
  induction n with
  | zero => exact .new h.mode h.timing
  | succ n ih => exact ih.move (h.moves n)

/-- Where the bus is off, nobody waits for a response. -/
private theorem awaiting_of_offBefore (hoff : OffBefore h.moves n) : (h.stateAt n).awaiting = false := by
  induction n with
  | zero => rfl
  | succ n ih =>
    unfold OffBefore at hoff
    rw [stateAt]
    split at hoff <;> rename_i hmove
    · exact hoff.elim
    · exact hoff.elim
    · rw [hmove]
      rfl
    all_goals
      rw [hmove]
      exact ih hoff

/-- Whoever waits in silence has asked, and since then there was silence. -/
theorem exists_asks_of_silent (hwaits : (h.stateAt n).awaiting = true) (hrx : (h.stateAt n).rx = .idle) :
    ∃ j, j < n ∧ h.AsksAt j ∧ h.SilentBetween j n := by
  induction n with
  | zero => cases hwaits
  | succ n ih =>
    by_cases hasks : h.AsksAt n
    · exact ⟨n, Nat.lt_succ_self n, hasks, fun m hm hm' => absurd hm (Nat.not_lt_of_le (Nat.le_of_lt_succ hm'))⟩
    · obtain ⟨hbefore, hidle, hquiet, hnothing⟩ :=
        silent_of_move (h.reachable n) (fun hstart => awaiting_of_offBefore (h.starts n hstart)) hasks hwaits hrx
      obtain ⟨j, hj, hasked, hsilent⟩ := ih hbefore hidle
      refine ⟨j, Nat.lt_succ_of_lt hj, hasked, fun m hm hm' => ?_⟩
      rcases Nat.lt_succ_iff_lt_or_eq.1 hm' with hlt | rfl
      · exact hsilent m hm hlt
      · exact ⟨hquiet, hnothing⟩

/-- A response is awaited until something ends the wait. -/
theorem awaiting_of_asks (hj : j < n) (hasks : h.AsksAt j) (hawaited : h.AwaitedBetween j n) :
    (h.stateAt n).awaiting = true := by
  induction hj with
  | refl => exact (Bus.awaiting_of_asks hasks).1
  | @step n hj ih =>
    obtain ⟨hgoes, hquiet⟩ := hawaited n hj (Nat.lt_succ_self n)
    exact awaiting_move (h.reachable n) (ih fun m hm hm' => hawaited m hm (Nat.lt_succ_of_lt hm')) hgoes hquiet

private theorem TimesOutAt.tellsReceived (htold : h.TimesOutAt n) :
    TellsReceived (h.effectsAt n) := ⟨.timeout, htold, rfl⟩

/-- Each timeout belongs to a request of its own: it is told once, and between the end of the request and the timeout
nothing has come in, nothing was told of a reception, the bus was not stopped, and no task had anything to send.  If a
reception is told while the response is awaited, the alarm is cancelled along with it. -/
theorem timeout_once (h : History) :
    (∃ asked : Nat → Nat,
      (∀ n, h.TimesOutAt n → (h.effectsAt n).count (.notify .timeout) = 1 ∧
        asked n < n ∧ h.AsksAt (asked n) ∧ h.SilentBetween (asked n) n) ∧
      ∀ n n', h.TimesOutAt n → h.TimesOutAt n' → asked n = asked n' → n = n') ∧
    ∀ j n, j < n → h.AsksAt j → h.AwaitedBetween j n → (h.moves n).isAlarm = false → TellsReceived (h.effectsAt n) →
      .cancelAlarm ∈ h.effectsAt n := by
  refine ⟨?_, fun j n hj hasks hawaited halarm htold =>
    cancelAlarm_mem_of_told (h.reachable n) (awaiting_of_asks hj hasks hawaited) halarm htold⟩
  have hexists (n : Nat) : ∃ j, h.TimesOutAt n → j < n ∧ h.AsksAt j ∧ h.SilentBetween j n := by
    by_cases htold : h.TimesOutAt n
    · obtain ⟨hwaits, hrx, -⟩ := timeout_of_move htold
      obtain ⟨j, hj⟩ := exists_asks_of_silent hwaits hrx
      exact ⟨j, fun _ => hj⟩
    · exact ⟨0, fun htold' => absurd htold' htold⟩
  obtain ⟨asked, hasked⟩ := Classical.skolem.1 hexists
  -- A timeout between a request and a later timeout would have broken the silence.
  have hlater {n n' : Nat} (htold : h.TimesOutAt n) (htold' : h.TimesOutAt n') (hsame : asked n = asked n') :
      ¬n < n' := by
    intro hlt
    have hbetween := (hasked n' htold').2.2 n (hsame ▸ (hasked n htold).1) hlt
    exact hbetween.2 htold.tellsReceived
  refine ⟨asked, fun n htold => ⟨?_, hasked n htold⟩, fun n n' htold htold' hsame => ?_⟩
  · rw [effectsAt, (timeout_of_move htold).2.2]
    rfl
  · exact Nat.le_antisymm (Nat.le_of_not_lt (hlater htold' htold hsame.symm))
      (Nat.le_of_not_lt (hlater htold htold' hsame))

/-- A request of three slots is sent.  Before the alarm rings, a task wants to send no slots at all. -/
def askedForNothing : History where
  mode := .controller
  timing := .standard
  moves
    | 0 => .start
    | 1 => .event (.startTransmit 3 true false 128) 0
    | 2 => .event .txDone 100
    | 3 => .event (.startTransmit 0 false true 128) 200
    | 4 => .event (.alarm 128) 2900
    | _ => .stop
  starts
    | 0, _ => trivial
    | 1, hstart | 2, hstart | 3, hstart | 4, hstart | _ + 5, hstart => nomatch hstart

/-- A task may want something sent in between, as long as there is nothing to send. -/
theorem startTransmit_before_timeout : askedForNothing.AsksAt 2 ∧ askedForNothing.TimesOutAt 4 ∧
    ∀ j < 4, askedForNothing.AsksAt j → ∃ m, j < m ∧ m < 4 ∧ (askedForNothing.moves m).isStartTransmit = true := by
  have htold : .notify .timeout ∈ askedForNothing.effectsAt 4 := by decide +kernel
  refine ⟨⟨rfl, by decide +kernel, rfl⟩, htold, fun j hj hasks => ?_⟩
  rcases Nat.lt_succ_iff_lt_or_eq.1 hj with hlt | rfl
  · exact ⟨3, hlt, by decide, rfl⟩
  · exact hasks.elim

end History

end Bus

end LightBus
