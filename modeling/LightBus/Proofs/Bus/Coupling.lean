import LightBus.Hardware.Interrupts
import LightBus.Proofs.Bus.Steps

/-!
# Bus and lines

A port changes the lines of its hardware, which are the interrupt masks, the direction of the transceiver, the
inversion of the transmit line and the alarm, only by effects of its bus.  `Lines.after` says what an effect does to
them.

As long as all effects are carried out, the lines tell what the bus is doing, and the other way round (`Bus.Coupled`).
Each event keeps them coupled (`Bus.Coupled.handle`), and so do the start and the stop of the bus.
-/

namespace LightBus

namespace Interrupts

variable {a s t : Interrupts}

theorem inter_union_distrib : (a.union s).inter t = (a.inter t).union (s.inter t) := by
  simp only [inter, union, mk.injEq]
  apply UInt8.eq_of_toBitVec_eq
  ext i hi
  simp [Bool.and_or_distrib_right]

theorem inter_union_of_disjoint (h : s.inter t = none) : (a.union s).inter t = a.inter t := by
  rw [inter_union_distrib, h]
  simp only [union, none, UInt8.or_zero]

theorem inter_union_of_subset (h : s.inter t = t) : (a.union s).inter t = t := by
  rw [inter_union_distrib, h]
  simp only [inter, union]
  congr 1
  apply UInt8.eq_of_toBitVec_eq
  ext i hi
  simp

private theorem inter_without : (a.without s).inter t = a.inter (t.without s) := by
  simp only [inter, without, UInt8.and_assoc, UInt8.and_comm t.bits]

theorem inter_assoc : (a.inter s).inter t = a.inter (s.inter t) := by
  simp only [inter, UInt8.and_assoc]

private theorem inter_eq_of_subset (h : a.inter s = s) (hsub : s.inter t = t) : a.inter t = t := by
  have hassoc := inter_assoc (a := a) (s := s) (t := t)
  rw [h, hsub] at hassoc
  exact hassoc.symm

theorem inter_without_of_disjoint (h : t.without s = t) : (a.without s).inter t = a.inter t := by
  rw [inter_without, h]

theorem inter_without_of_subset (h : t.without s = none) : (a.without s).inter t = none := by
  rw [inter_without, h]
  simp only [inter, none, UInt8.and_zero]

theorem intersects_congr {r : Interrupts} (h : a.inter t = s.inter t) (hsub : t.inter r = r) :
    a.intersects r = s.intersects r := by
  have hinter (u : Interrupts) : u.inter r = (u.inter t).inter r := by rw [inter_assoc, hsub]
  rw [intersects, intersects, hinter a, hinter s, h]

theorem not_intersects_of_disjoint {r : Interrupts} (h : a.inter t = none) (hsub : t.inter r = r) :
    a.intersects r = false := by
  rw [intersects_congr (s := none) (h.trans ?_) hsub]
  · simp [intersects, inter, isEmpty, none]
  · simp [inter, none]

theorem intersects_of_subset {r : Interrupts} (h : a.intersects r = true) (hsub : t.inter r = r) :
    a.intersects t = true := by
  cases hempty : (a.inter t).isEmpty with
  | false => rw [intersects, hempty, Bool.not_false]
  | true =>
    have hnone : a.inter t = none := congrArg Interrupts.mk (eq_of_beq hempty)
    rw [not_intersects_of_disjoint hnone hsub] at h
    cases h

theorem inter_without_of_inter_eq (h : a.inter t = s.inter t) : (a.without s).inter t = none := by
  simp only [inter, without, none, mk.injEq] at h ⊢
  apply UInt8.eq_of_toBitVec_eq
  ext i hi
  have hbit := congrArg (fun bits : UInt8 => bits.toBitVec[i]) h
  simp only [UInt8.toBitVec_and, BitVec.getElem_and] at hbit
  simp only [UInt8.toBitVec_and, UInt8.toBitVec_not, BitVec.getElem_and, BitVec.getElem_not]
  cases hs : s.bits.toBitVec[i] <;> simp_all

end Interrupts

/-! ### Lines -/

/-- What the bus has set of the hardware. -/
structure Lines where
  /-- The interrupts that are not masked. -/
  enabled : Interrupts
  direction : Direction
  inverted : Bool
  armed : Bool
deriving DecidableEq

namespace Lines

variable {l : Lines}

/-- What an effect does to the lines. -/
def after (l : Lines) : Effect → Lines
  | .enableRx => { l with enabled := l.enabled.union .allRx }
  | .disableRx => { l with enabled := l.enabled.without .allRx }
  | .enableTx => { l with enabled := l.enabled.union .allTx }
  | .disableTxData => { l with enabled := l.enabled.without .txData }
  | .disableTx => { l with enabled := l.enabled.without .allTx }
  | .turn direction => { l with direction }
  | .invert inverted => { l with inverted }
  | .setAlarm _ => { l with armed := true }
  | .cancelAlarm => { l with armed := false }
  | .resetRxFifo | .writeFifo _ _ | .notify _ => l

def afterAll (l : Lines) (effects : List Effect) : Lines := effects.foldl after l

theorem afterAll_append (first second : List Effect) :
    l.afterAll (first ++ second) = (l.afterAll first).afterAll second :=
  List.foldl_append

private theorem afterAll_controls (effects : List Effect) : l.afterAll (controls effects) = l.afterAll effects := by
  induction effects generalizing l with
  | nil => rfl
  | cons effect rest ih =>
    cases effect <;> exact ih

/-- The alarm has rung, which it does once. -/
def ring (l : Lines) : Lines := { l with armed := false }

end Lines

namespace Bus

open Interrupts (inter_union_of_disjoint inter_union_of_subset inter_eq_of_subset inter_without_of_disjoint
  inter_without_of_subset)

variable {l : Lines} {b b' : Bus} {length space now : Nat} {expectsReply withBreak : Bool}

/-- The lines fit what the bus is doing. -/
structure Coupled (l : Lines) (b : Bus) : Prop where
  rx : l.enabled.inter .allRx = if b.receiving then .allRx else .none
  receiving : b.receiving = true → l.direction = .receive ∧ b.isSending = false
  sending : b.isSending = true → l.direction = .transmit ∧ l.enabled.inter .allRx = .none
  inverted : l.inverted = true ↔ b.tx = .inBreak
  armed : b.tx = .inBreak ∨ b.tx = .inMark → l.armed = true
  alarm : l.armed = true → (b.tx = .inBreak ∨ b.tx = .inMark) ∨ b.awaiting = true
  txDone : b.tx = .sending → l.enabled.inter .txDone = .txDone
  txData : b.tx = .sending → b.txCursor < b.txSize → l.enabled.inter .txData = .txData
  txIdle : b.isSending = false → l.enabled.inter .allTx = .none
  inStep : b.InStep
  /-- A response is awaited only after the request was sent. -/
  silent : b.awaiting = true → b.isSending = false

/-! ### The beginning -/

private theorem Coupled.not_receiving (h : Coupled l b) (hsending : b.isSending = true) : b.receiving = false := by
  cases hreceiving : b.receiving with
  | true => exact absurd (h.receiving hreceiving).2 (by simp [hsending])
  | false => rfl

private theorem Coupled.not_awaiting (h : Coupled l b) (hsending : b.isSending = true) : b.awaiting = false := by
  cases hawaiting : b.awaiting with
  | true => exact absurd (h.silent hawaiting) (by simp [hsending])
  | false => rfl

private theorem afterAll_writeChunk : l.afterAll (b.writeChunk space).1 =
    if b.chunkEnd space = b.txSize then { l with enabled := l.enabled.without .txData } else l := by
  unfold writeChunk chunkEnd
  dsimp only
  split <;> split <;> rfl

private theorem Coupled.writeChunk (h : Coupled l b) (htx : b.tx = .sending) (space : Nat) :
    Coupled (l.afterAll (b.writeChunk space).1) (b.writeChunk space).2 := by
  have hstep : (b.writeChunk space).2.InStep := h.inStep.of_eq rfl rfl
  rw [writeChunk_state] at hstep ⊢
  rw [afterAll_writeChunk]
  split
  · rename_i hall
    refine ⟨?_, h.receiving, ?_, h.inverted, h.armed, h.alarm, ?_, ?_, ?_, hstep, h.silent⟩
    · rw [inter_without_of_disjoint rfl]
      exact h.rx
    · rw [inter_without_of_disjoint rfl]
      exact h.sending
    · rw [inter_without_of_disjoint rfl]
      exact h.txDone
    · intro _ hlt
      exact absurd hall (Nat.ne_of_lt hlt)
    · intro hidle
      have hsending : b.isSending = false := hidle
      simp [isSending, htx] at hsending
  · refine ⟨h.rx, h.receiving, h.sending, h.inverted, h.armed, h.alarm, h.txDone, ?_, h.txIdle, hstep, h.silent⟩
    intro _ hlt
    refine h.txData htx (Nat.lt_of_le_of_lt ?_ hlt)
    exact Nat.le_max_left _ _

private theorem coupled_of_sending (hstep : b.InStep) (htx : b.tx = .sending) (hreceiving : b.receiving = false)
    (hawaiting : b.awaiting = false) (hdirection : l.direction = .transmit) (hinverted : l.inverted = false)
    (harmed : l.armed = false) (hrx : l.enabled.inter .allRx = .none) (hallTx : l.enabled.inter .allTx = .allTx) :
    Coupled l b := by
  refine ⟨?_, by simp [hreceiving], fun _ => ⟨hdirection, hrx⟩, by simp [hinverted, htx], by simp [htx],
    by simp [harmed], fun _ => ?_, fun _ _ => ?_, ?_, hstep, by simp [hawaiting]⟩
  · rw [hreceiving]
    exact hrx
  · exact inter_eq_of_subset hallTx rfl
  · exact inter_eq_of_subset hallTx rfl
  · simp [isSending, htx]

private theorem Coupled.txReady (h : Coupled l b) (space now : Nat) :
    Coupled (l.afterAll (b.handle (.txReady space) now).1) (b.handle (.txReady space) now).2 := by
  simp only [Bus.handle]
  split
  · rename_i htx
    exact h.writeChunk htx space
  · exact h

private theorem Coupled.startTransmit (h : Coupled l b) (length : Nat) (expectsReply withBreak : Bool) (space : Nat) :
    Coupled (l.afterAll (b.startTransmit length expectsReply withBreak space).1)
      (b.startTransmit length expectsReply withBreak space).2 := by
  have hstep := h.inStep.startTransmit length expectsReply withBreak space
  cases hsending : b.isSending with
  | true =>
    rw [startTransmit_of_sending hsending]
    exact h
  | false =>
    by_cases hlength : length = 0
    · rw [hlength, startTransmit_zero]
      exact h
    · cases withBreak with
      | true =>
        rw [startTransmit_withBreak hsending hlength] at hstep ⊢
        refine ⟨?_, by simp [prepared], ?_, by simp [Lines.afterAll, Lines.after], fun _ => rfl,
          fun _ => .inl (.inl rfl), by simp, by simp, by simp [isSending], hstep, by simp [prepared]⟩
        · exact inter_without_of_subset rfl
        · exact fun _ => ⟨rfl, inter_without_of_subset rfl⟩
      | false =>
        have hready : InStep { b.prepared length expectsReply false with tx := .sending } :=
          h.inStep.phase_of_not_sending hsending
        have hinverted : l.inverted = false := by
          have hbreak : b.tx ≠ .inBreak := fun htx => by simp [isSending, htx] at hsending
          simpa using mt h.inverted.1 hbreak
        have hcoupled : Coupled (l.afterAll [.disableRx, .cancelAlarm, .turn .transmit, .enableTx])
            { b.prepared length expectsReply false with tx := .sending } := by
          refine coupled_of_sending hready rfl rfl rfl rfl hinverted rfl ?_ ?_
          · exact (inter_union_of_disjoint rfl).trans (inter_without_of_subset rfl)
          · exact inter_union_of_subset rfl
        rw [startTransmit_bare hsending hlength, Lines.afterAll_append]
        exact hcoupled.writeChunk rfl space

/-! ### The alarm -/

private theorem Coupled.onAlarm (h : Coupled l b) (space : Nat) :
    Coupled (l.ring.afterAll (b.onAlarm space).1) (b.onAlarm space).2 := by
  have hstep := h.inStep.onAlarm space
  cases hphase : b.sequence.phase with
  | low =>
    have htx : b.tx = .inBreak := h.inStep.tx_of_low hphase
    have hsending : b.isSending = true := by simp [isSending, htx]
    rw [onAlarm_low hphase] at hstep ⊢
    have hreceiving := h.not_receiving hsending
    have hawaiting := h.not_awaiting hsending
    exact ⟨h.rx, by simp [hreceiving], fun _ => h.sending hsending, by simp [Lines.afterAll, Lines.after],
      fun _ => rfl, fun _ => .inl (.inr rfl), by simp, by simp, by simp [isSending], hstep, by simp [hawaiting]⟩
  | mark =>
    have htx : b.tx = .inMark := h.inStep.tx_of_mark hphase
    have hsending : b.isSending = true := by simp [isSending, htx]
    have hinverted : l.inverted = false := by simpa using mt h.inverted.1 (by simp [htx])
    have hcoupled : Coupled (l.ring.after .enableTx)
        { b with sequence := { b.sequence with phase := .idle }, tx := .sending } := by
      refine coupled_of_sending rfl rfl (h.not_receiving hsending) (h.not_awaiting hsending)
        (h.sending hsending).1 hinverted
        rfl ?_ ?_
      · exact (inter_union_of_disjoint rfl).trans (h.sending hsending).2
      · exact inter_union_of_subset rfl
    rw [onAlarm_mark hphase]
    exact hcoupled.writeChunk rfl space
  | idle =>
    have hquiet : ¬(b.tx = .inBreak ∨ b.tx = .inMark) := h.inStep.tx_of_idle hphase
    rw [onAlarm_idle hphase] at hstep ⊢
    by_cases hawaiting : b.awaiting = true
    · rw [if_pos hawaiting] at hstep ⊢
      have hlines : l.ring.afterAll (if b.rx = .idle then [.notify .timeout] else []) = l.ring := by
        split <;> rfl
      rw [hlines]
      exact ⟨h.rx, h.receiving, h.sending, h.inverted, fun htx => absurd htx hquiet, by simp [Lines.ring], h.txDone,
        h.txData, h.txIdle, hstep, by simp⟩
    · rw [if_neg hawaiting]
      exact ⟨h.rx, h.receiving, h.sending, h.inverted, fun htx => absurd htx hquiet,
        by simp [Lines.ring, Lines.afterAll], h.txDone, h.txData, h.txIdle, h.inStep, h.silent⟩

/-! ### The end -/

private theorem Coupled.onTxDone (h : Coupled l b) (now : Nat) :
    Coupled (l.afterAll (b.onTxDone now).1) (b.onTxDone now).2 := by
  have hstep := h.inStep.onTxDone now
  rcases onTxDone_cases b now with heq | ⟨htx, -, hend⟩
  · rw [heq]
    exact h
  · have hinverted : l.inverted = false := by simpa using mt h.inverted.1 (by simp [htx])
    have hawaiting : b.awaiting = false := h.not_awaiting (isSending_of_tx htx)
    have hrx : ((l.enabled.without .allTx).union .allRx).inter .allRx = .allRx := inter_union_of_subset rfl
    have htxIdle : ((l.enabled.without .allTx).union .allRx).inter .allTx = .none :=
      (inter_union_of_disjoint rfl).trans (inter_without_of_subset rfl)
    rcases hend with ⟨-, heq⟩ | ⟨-, heq⟩ <;> rw [heq] at hstep ⊢
    · exact ⟨hrx, fun _ => ⟨rfl, rfl⟩, by simp [isSending, sent],
        by simp [Lines.afterAll, Lines.after, sent, hinverted], by simp [sent], fun _ => .inr rfl, by simp [sent],
        by simp [sent], fun _ => htxIdle, hstep, fun _ => rfl⟩
    · have harmed : l.armed = false := by simpa [htx, hawaiting] using h.alarm
      exact ⟨hrx, fun _ => ⟨rfl, rfl⟩, by simp [isSending, sent],
        by simp [Lines.afterAll, Lines.after, sent, hinverted], by simp [sent],
        by simp [Lines.afterAll, Lines.after, harmed], by simp [sent], by simp [sent], fun _ => htxIdle, hstep,
        fun _ => rfl⟩

/-! ### The receiver -/

theorem Coupled.of_eq (h : Coupled l b) (htx : b'.tx = b.tx) (hsequence : b'.sequence = b.sequence)
    (hcursor : b'.txCursor = b.txCursor) (hsize : b'.txSize = b.txSize) (hawaiting : b'.awaiting = b.awaiting)
    (hreceiving : b'.receiving = b.receiving) : Coupled l b' := by
  have hstep : b'.InStep := h.inStep.of_eq htx hsequence
  have hsending : b'.isSending = b.isSending := by
    unfold isSending
    rw [htx]
  refine ⟨?_, ?_, ?_, ?_, ?_, ?_, ?_, ?_, ?_, hstep, ?_⟩
  all_goals simp only [htx, hsending, hcursor, hsize, hawaiting, hreceiving]
  · exact h.rx
  · exact h.receiving
  · exact h.sending
  · exact h.inverted
  · exact h.armed
  · exact h.alarm
  · exact h.txDone
  · exact h.txData
  · exact h.txIdle
  · exact h.silent

/-- A response that was awaited has come, and so the alarm is not needed. -/
private theorem Coupled.awaited (h : Coupled l b) (hawaiting : b.awaiting = true) :
    Coupled (l.after .cancelAlarm) { b with awaiting := false } := by
  have hquiet : ¬(b.tx = .inBreak ∨ b.tx = .inMark) := by
    have hidle := h.silent hawaiting
    rintro (htx | htx) <;> simp [isSending, htx] at hidle
  exact ⟨h.rx, h.receiving, h.sending, h.inverted,
    fun htx => absurd htx hquiet, by simp [Lines.after], h.txDone, h.txData,
    h.txIdle, h.inStep, by simp⟩

theorem Coupled.turned (h : Coupled l b) :
    Coupled (l.afterAll [.disableRx, .turn .transmit]) { b with receiving := false } :=
  ⟨inter_without_of_subset rfl, by simp, fun _ => ⟨rfl, inter_without_of_subset rfl⟩, h.inverted, h.armed, h.alarm,
    fun htx => (inter_without_of_disjoint rfl).trans (h.txDone htx),
    fun htx hlt => (inter_without_of_disjoint rfl).trans (h.txData htx hlt),
    fun hidle => (inter_without_of_disjoint rfl).trans (h.txIdle hidle), h.inStep, h.silent⟩

private theorem Coupled.received (h : Coupled l b) {result : List Effect × Bus}
    (hresult : ∃ ended turned, Received b ended turned result) : Coupled (l.afterAll result.1) result.2 := by
  obtain ⟨ended, turned, hreceived⟩ := hresult
  -- First the wait for a response ends, if it does, and then the bus turns around.
  have hended : Coupled (l.afterAll (if ended && b.awaiting then [.cancelAlarm] else []))
      { b with awaiting := b.awaiting && !ended } := by
    cases hawaiting : b.awaiting with
    | false =>
      have hsame : Coupled l { b with awaiting := false } := h.of_eq rfl rfl rfl rfl hawaiting.symm rfl
      simpa [Lines.afterAll] using hsame
    | true =>
      cases ended with
      | false => exact h.of_eq rfl rfl rfl rfl hawaiting.symm rfl
      | true => exact h.awaited hawaiting
  have hturned : Coupled (l.afterAll result.1)
      { b with awaiting := b.awaiting && !ended, receiving := b.receiving && !turned } := by
    rw [← Lines.afterAll_controls, hreceived.controls, Lines.afterAll_append]
    cases turned with
    | false => exact hended.of_eq rfl rfl rfl rfl rfl (Bool.and_true _)
    | true =>
      rw [Bool.not_true, Bool.and_false]
      exact hended.turned
  exact hturned.of_eq hreceived.tx hreceived.sequence hreceived.txCursor hreceived.txSize hreceived.awaiting
    hreceived.receiving

/-! ### All events -/

private theorem Coupled.listen (h : Coupled l b) (hidle : b.isSending = false) :
    Coupled (l.afterAll b.listen.1) b.listen.2 := by
  have hquiet : b.tx ≠ .inBreak ∧ b.tx ≠ .sending := by
    constructor <;> (intro htx; simp [isSending, htx] at hidle)
  have hsending : b.listen.2.isSending = false := hidle
  refine ⟨inter_union_of_subset rfl, fun _ => ⟨rfl, hsending⟩, ?_, h.inverted, h.armed, h.alarm, ?_, ?_, ?_, h.inStep,
    fun _ => hsending⟩
  · exact fun htrue => absurd htrue (by simp [hsending])
  · exact fun htx => absurd htx hquiet.2
  · exact fun htx => absurd htx hquiet.2
  · exact fun _ => (inter_union_of_disjoint rfl).trans (h.txIdle hidle)

private theorem Coupled.receiveRequested (h : Coupled l b) (now : Nat) :
    Coupled (l.afterAll (b.handle .receiveRequested now).1) (b.handle .receiveRequested now).2 := by
  simp only [Bus.handle]
  split
  · rename_i hready
    exact h.listen (by simpa using hready.1)
  · exact h

/-- Each event keeps the lines coupled to the bus.  An alarm has rung when the bus is told of it. -/
theorem Coupled.handle (h : Coupled l b) (event : BusEvent) (now : Nat) :
    Coupled ((if event.isAlarm then l.ring else l).afterAll (b.handle event now).1) (b.handle event now).2 := by
  cases event with
  | startTransmit length expectsReply withBreak space => exact h.startTransmit length expectsReply withBreak space
  | alarm space => exact h.onAlarm space
  | txReady space => exact h.txReady space now
  | txDone => exact h.onTxDone now
  | «break» => exact h.received received_onBreak
  | lineRising => exact h.received (received_lineRising now)
  | received count => exact h.received (received_onReceived count now)
  | lineFault fault count => exact h.received (received_onLineFault fault count now)
  | collision => exact h.received (received_onCollision now)
  | receiveRequested => exact h.receiveRequested now

/-! ### Switching -/

theorem coupled_new (mode : Mode) (timing : BreakTiming) (hrx : l.enabled.inter .allRx = .none)
    (htx : l.enabled.inter .allTx = .none) (hinverted : l.inverted = false) (harmed : l.armed = false) :
    Coupled l (.new mode timing) :=
  ⟨hrx, by simp [new], by simp [new, isSending], by simp [new, hinverted], by simp [new], by simp [harmed],
    by simp [new], by simp [new], fun _ => htx, rfl, by simp [new]⟩

theorem Coupled.start (h : Coupled l b) (hidle : b.isSending = false) : Coupled (l.afterAll b.start.1) b.start.2 :=
  h.listen hidle

/-- Whatever the bus was doing, the lines are at rest after it has stopped. -/
theorem coupled_stop : Coupled (l.afterAll b.stop.1) b.stop.2 :=
  ⟨inter_without_of_subset rfl, by simp [stop], by simp [stop, isSending],
    by simp [stop, Lines.afterAll, Lines.after], by simp [stop], by simp [stop, Lines.afterAll, Lines.after],
    by simp [stop], by simp [stop], fun _ => (inter_without_of_disjoint rfl).trans (inter_without_of_subset rfl), rfl,
    by simp [stop]⟩

end Bus

end LightBus
