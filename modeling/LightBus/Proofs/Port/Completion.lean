import LightBus.Proofs.Simulation.Line
import LightBus.Simulation.Bench

/-!
# The end of a transmission

A transmission is over when its last slot has left the shift register.  The uart raises an interrupt for it, which may
be pending for some time before it is served.

An interrupt handler that has written slots to the fifo lets the transmission go on, with one exception: it takes a
transmit-done that was pending before it wrote the last slots for the end of them (`Port.goesOn_or_early`).
-/

namespace LightBus

variable {η ε β : Type} {hw : Hardware η ε} {lines : η → Lines} {fifo : η → β}

/-- Of all that a port does, only writing changes the transmit fifo, of which `fifo` is what can be seen. -/
structure Hardware.KeepsFifo (hw : Hardware η ε) (fifo : η → β) : Prop where
  enable (set : Interrupts) (h : η) : fifo (hw.enable set h) = fifo h
  disable (set : Interrupts) (h : η) : fifo (hw.disable set h) = fifo h
  clear (set : Interrupts) (h : η) : fifo (hw.clear set h) = fifo h
  turn (direction : Direction) (h : η) : fifo ((hw.turn direction).runFrom h).2 = fifo h
  invert (inverted : Bool) (h : η) : fifo ((hw.invert inverted).runFrom h).2 = fifo h
  setAlarm (micros : UInt32) (h : η) : fifo ((hw.setAlarm micros).runFrom h).2 = fifo h
  cancelAlarm (h : η) : fifo (hw.cancelAlarm.runFrom h).2 = fifo h
  readFifo (size : Nat) (h : η) : fifo ((hw.readFifo size).runFrom h).2 = fifo h
  discardFifo (h : η) : fifo (hw.discardFifo h).2 = fifo h
  resetRxFifo (h : η) : fifo (hw.resetRxFifo.runFrom h).2 = fifo h

namespace Port

variable {p q r : Port η} {pending : Interrupts} {now : Nat}

/-! ### The fifo -/

private theorem fifo_apply (hfifo : hw.KeepsFifo fifo) {effect : Effect}
    (hquiet : ∀ first last, effect ≠ .writeFifo first last) :
    fifo ((apply hw effect).runFrom p).2.hardware = fifo p.hardware := by
  cases effect with
  | resetRxFifo =>
    rw [apply, runFrom_onHardware_none]
    exact hfifo.resetRxFifo _
  | turn direction =>
    rw [apply, runFrom_onHardware_none]
    exact hfifo.turn direction _
  | invert inverted =>
    rw [apply, runFrom_onHardware_none]
    exact hfifo.invert inverted _
  | setAlarm micros =>
    rw [apply, runFrom_onHardware_none]
    exact hfifo.setAlarm micros _
  | cancelAlarm =>
    rw [apply, runFrom_onHardware_none]
    exact hfifo.cancelAlarm _
  | writeFifo first last => exact absurd rfl (hquiet first last)
  | enableRx => exact (hfifo.enable .allRx _).trans (hfifo.clear .allRx _)
  | enableTx => exact (hfifo.enable .allTx _).trans (hfifo.clear .allTx _)
  | disableRx => exact hfifo.disable .allRx _
  | disableTxData => exact hfifo.disable .txData _
  | disableTx => exact hfifo.disable .allTx _
  | notify => rfl

private theorem fifo_applyAll (hfifo : hw.KeepsFifo fifo) {effects : List Effect}
    (hquiet : ∀ first last, .writeFifo first last ∉ effects) :
    fifo (applyAll hw effects p).2.hardware = fifo p.hardware := by
  induction effects generalizing p with
  | nil => rfl
  | cons effect rest ih =>
    rw [applyAll_cons, ih fun first last hmem => hquiet first last (List.mem_cons_of_mem _ hmem)]
    exact fifo_apply hfifo fun first last heq => hquiet first last (heq ▸ List.mem_cons_self)

private theorem fifo_raise (hfifo : hw.KeepsFifo fifo) {event : BusEvent}
    (hquiet : ∀ first last, .writeFifo first last ∉ (p.bus.handle event now).1) :
    fifo (p.raise hw event now).hardware = fifo p.hardware := by
  rw [hardware_raise]
  exact fifo_applyAll hfifo hquiet

/-! ### What leaves a transmission alone -/

/-- From `p` to `q` nothing was sent, and nobody was told that the transmission is over. -/
structure Passed (fifo : η → β) (p q : Port η) : Prop where
  fifo : fifo q.hardware = fifo p.hardware
  tx : q.bus.tx = p.bus.tx
  txCursor : q.bus.txCursor = p.bus.txCursor
  txSize : q.bus.txSize = p.bus.txSize
  told (n : Notice) (hnotice : q.notice = some n) (horigin : n.origin = .transmit) : p.notice = some n

theorem Passed.refl (p : Port η) : Passed fifo p p := ⟨rfl, rfl, rfl, rfl, fun _ hn _ => hn⟩

theorem Passed.trans (hpq : Passed fifo p q) (hqr : Passed fifo q r) : Passed fifo p r where
  fifo := hqr.fifo.trans hpq.fifo
  tx := hqr.tx.trans hpq.tx
  txCursor := hqr.txCursor.trans hpq.txCursor
  txSize := hqr.txSize.trans hpq.txSize
  told n hn horigin := hpq.told n (hqr.told n hn horigin) horigin

/-- The receiver turns the bus around at most. -/
private theorem Passed.raise (hfifo : hw.KeepsFifo fifo) {event : BusEvent}
    (hreceived : ∃ ended turned, Bus.Received p.bus ended turned (p.bus.handle event now)) :
    Passed fifo p (p.raise hw event now) := by
  obtain ⟨ended, turned, hreceived⟩ := hreceived
  refine ⟨fifo_raise hfifo fun first last hwrite => ?_, ?_, ?_, ?_, fun n hn horigin => ?_⟩
  · have hcontrol : .writeFifo first last ∈ controls (p.bus.handle event now).1 := List.mem_filter.2 ⟨hwrite, rfl⟩
    rw [hreceived.controls] at hcontrol
    rcases List.mem_append.1 hcontrol with hmem | hmem
    · split at hmem <;> simp at hmem
    · split at hmem <;> simp at hmem
  · exact (congrArg Bus.tx (bus_raise event now)).trans hreceived.tx
  · exact (congrArg Bus.txCursor (bus_raise event now)).trans hreceived.txCursor
  · exact (congrArg Bus.txSize (bus_raise event now)).trans hreceived.txSize
  · rcases notice_raise hw p event now with hold | ⟨m, timing, hm, hnew⟩
    · exact hold ▸ hn
    · obtain rfl := Option.some.inj (hnew.symm.trans hn)
      exact absurd ((hreceived.origin m hm).symm.trans horigin) nofun

private theorem Passed.drain (hfifo : hw.KeepsFifo fifo) : Passed fifo p (p.drain hw).2 where
  fifo := (hfifo.discardFifo _).trans (hfifo.readFifo _ _)
  tx := rfl
  txCursor := rfl
  txSize := rfl
  told _ hn _ := hn

private theorem Passed.estimate (estimator : BreakEstimator) : Passed fifo p { p with estimator } :=
  ⟨rfl, rfl, rfl, rfl, fun _ hn _ => hn⟩

/-! ### The parts of the handler -/

private theorem Passed.receiveSlots (hfifo : hw.KeepsFifo fifo) (pending : Interrupts) (now : Nat) :
    Passed fifo p (p.receiveSlots hw pending now) := by
  unfold Port.receiveSlots
  split
  · exact (Passed.drain hfifo).trans (.raise hfifo (Bus.received_onLineFault _ _ _))
  split
  · dsimp only
    split
    · exact .drain hfifo
    · exact ((Passed.drain hfifo).trans (.estimate _)).trans (.raise hfifo (Bus.received_onReceived _ _))
  · exact .refl p

private theorem Passed.receiveBreak (hfifo : hw.KeepsFifo fifo) (pending : Interrupts) (now : Nat) :
    Passed fifo p (p.receiveBreak hw pending now) := by
  unfold Port.receiveBreak
  split
  · exact (Passed.estimate _).trans (.raise hfifo Bus.received_onBreak)
  · exact .refl p

private theorem Passed.receiveCollision (hfifo : hw.KeepsFifo fifo) (pending : Interrupts) (now : Nat) :
    Passed fifo p (p.receiveCollision hw pending now) := by
  unfold Port.receiveCollision
  split
  · exact .raise hfifo (Bus.received_onCollision _)
  · exact .refl p

/-- Either nothing happens, or a chunk is written. -/
private theorem sendSlots_cases (hw : Hardware η ε) (pending : Interrupts) (now : Nat) (p : Port η) :
    p.sendSlots hw pending now = p ∨ p.bus.tx = .sending ∧ ∃ space,
      p.sendSlots hw pending now = p.raise hw (.txReady space) now ∧
        p.bus.handle (.txReady space) now = p.bus.writeChunk space := by
  unfold sendSlots
  split
  · by_cases htx : p.bus.tx = .sending
    · exact .inr ⟨htx, _, rfl, if_pos htx⟩
    · exact .inl (raise_of_nothing (if_neg htx))
  · exact .inl rfl

/-- A chunk leaves the transmission where it is, and tells nobody.  If it has no slots, it is not written. -/
private theorem sendSlots_spec (hfifo : hw.KeepsFifo fifo) (pending : Interrupts) (now : Nat) (p : Port η) :
    Passed fifo p (p.sendSlots hw pending now) ∨
      p.bus.tx = .sending ∧ p.bus.txCursor < p.bus.txSize ∧ (p.sendSlots hw pending now).bus.tx = .sending ∧
        (p.sendSlots hw pending now).bus.txSize = p.bus.txSize ∧
        (p.sendSlots hw pending now).bus.txCursor ≤ p.bus.txSize ∧
        (p.sendSlots hw pending now).notice = p.notice := by
  rcases sendSlots_cases hw pending now p with heq | ⟨htx, space, heq, hchunk⟩
  · rw [heq]
    exact .inl (.refl p)
  have hnotice : (p.raise hw (.txReady space) now).notice = p.notice := by
    rcases notice_raise hw p (.txReady space) now with hold | ⟨m, _, hm, -⟩
    · exact hold
    · rw [hchunk] at hm
      exact absurd hm (Bus.not_notify_writeChunk m)
  have hbus : (p.raise hw (.txReady space) now).bus = { p.bus with txCursor := p.bus.chunkEnd space } := by
    rw [bus_raise, hchunk, Bus.writeChunk_state]
  rw [heq]
  by_cases hmore : p.bus.txCursor < min (p.bus.txCursor + space) p.bus.txSize
  · refine .inr ⟨htx, by omega, ?_, ?_, ?_, hnotice⟩
    · rw [hbus]
      exact htx
    · rw [hbus]
    · rw [hbus]
      unfold Bus.chunkEnd
      dsimp only
      omega
  · have hcursor : p.bus.chunkEnd space = p.bus.txCursor := by
      unfold Bus.chunkEnd
      omega
    refine .inl ⟨fifo_raise hfifo fun first last hwrite => ?_, ?_, ?_, ?_, fun n hn _ => hnotice ▸ hn⟩
    · rw [hchunk] at hwrite
      unfold Bus.writeChunk at hwrite
      dsimp only at hwrite
      rw [if_neg hmore] at hwrite
      split at hwrite <;> simp at hwrite
    · rw [hbus]
    · rw [hbus, hcursor]
    · rw [hbus]

/-- The end of a transmission writes nothing. -/
private theorem sendDone_spec (hfifo : hw.KeepsFifo fifo) (pending : Interrupts) (now : Nat) (p : Port η) :
    p.sendDone hw pending now = p ∨
      pending.intersects .txDone = true ∧ p.bus.txSize ≤ p.bus.txCursor ∧
        fifo (p.sendDone hw pending now).hardware = fifo p.hardware ∧
        (p.sendDone hw pending now).bus.txCursor = p.bus.txCursor ∧
        (p.sendDone hw pending now).bus.txSize = p.bus.txSize := by
  unfold sendDone
  split
  · rename_i hpending
    rcases Bus.onTxDone_cases p.bus now with hearly | ⟨-, hall, hend⟩
    · exact .inl (raise_of_nothing hearly)
    · have hquiet (first last : Nat) : .writeFifo first last ∉ (p.bus.handle .txDone now).1 := by
        show _ ∉ (p.bus.onTxDone now).1
        rcases hend with ⟨-, heq⟩ | ⟨-, heq⟩ <;> rw [heq] <;> simp
      refine .inr ⟨hpending, hall, fifo_raise hfifo hquiet, ?_, ?_⟩
      · rw [bus_raise]
        show (p.bus.onTxDone now).2.txCursor = _
        rcases hend with ⟨-, heq⟩ | ⟨-, heq⟩ <;> rw [heq] <;> rfl
      · rw [bus_raise]
        show (p.bus.onTxDone now).2.txSize = _
        rcases hend with ⟨-, heq⟩ | ⟨-, heq⟩ <;> rw [heq] <;> rfl
  · exact .inl rfl

/-! ### The handler -/

/-- The transmission goes on in `q`, and nobody has been told of its end since `p`. -/
structure GoesOn (lines : η → Lines) (p q : Port η) : Prop where
  tx : q.bus.tx = .sending
  direction : (lines q.hardware).direction = .transmit
  enabled : (lines q.hardware).enabled.inter .txDone = .txDone
  told (n : Notice) (hnotice : q.notice = some n) (horigin : n.origin = .transmit) : p.notice = some n

/-- A transmit-done was pending before the last slots were written. -/
structure DoneEarly (hw : Hardware η ε) (p q : Port η) : Prop where
  pending : (hw.interrupts p.hardware).intersects .txDone = true
  before : p.bus.txCursor < p.bus.txSize
  after : q.bus.txCursor = q.bus.txSize

/-- An interrupt handler that writes slots lets the transmission go on, unless a transmit-done was pending before it
has written the last ones. -/
theorem goesOn_or_early (hlaw : hw.Lawful lines) (hfifo : hw.KeepsFifo fifo) (hp : Reached hw lines p) :
    fifo (p.onUart hw).hardware = fifo p.hardware ∨ GoesOn lines p (p.onUart hw) ∨ DoneEarly hw p (p.onUart hw) := by
  have hcoupled : Bus.Coupled (lines (p.onUart hw).hardware) (p.onUart hw).bus := (hp.uart.coupled hlaw).bus
  rw [onUart_of_interrupts _ rfl] at hcoupled ⊢
  split
  · exact .inl rfl
  rename_i hsome
  rw [if_neg hsome] at hcoupled
  dsimp only at hcoupled ⊢
  generalize hpending : hw.interrupts p.hardware = pending at hcoupled ⊢
  generalize { p with hardware := hw.clear pending p.hardware }.now hw = now at hcoupled ⊢
  have hcleared : Passed fifo p { p with hardware := hw.clear pending p.hardware } :=
    ⟨hfifo.clear _ _, rfl, rfl, rfl, fun _ hn _ => hn⟩
  have hheard := ((hcleared.trans (.receiveSlots hfifo pending now)).trans (.receiveBreak hfifo pending now)).trans
    (.receiveCollision hfifo pending now)
  generalize receiveCollision hw pending now (receiveBreak hw pending now
    (receiveSlots hw pending now { p with hardware := hw.clear pending p.hardware })) = heard at hheard hcoupled ⊢
  rcases sendSlots_spec hfifo pending now heard with hpassed | ⟨htx, hmore, htx', hsize, hcursor, hnotice⟩
  · -- No slot was written, and the end of a transmission writes none.
    left
    rcases sendDone_spec hfifo pending now (sendSlots hw pending now heard) with heq | ⟨-, -, hkept, -, -⟩
    · rw [heq, hpassed.fifo, hheard.fifo]
    · rw [hkept, hpassed.fifo, hheard.fifo]
  · right
    rcases sendDone_spec hfifo pending now (sendSlots hw pending now heard) with heq
      | ⟨hdone, hall, -, hcursor', hsize'⟩
    · left
      rw [heq] at hcoupled ⊢
      exact ⟨htx', (hcoupled.sending (Bus.isSending_of_tx htx')).1, hcoupled.txDone htx',
        fun n hn horigin => hheard.told n (hnotice ▸ hn) horigin⟩
    · right
      refine ⟨hpending ▸ hdone, ?_, ?_⟩
      · rw [← hheard.txCursor, ← hheard.txSize]
        exact hmore
      · rw [hcursor', hsize']
        omega

/-! ### Late interrupts -/

open Simulation

private theorem keepsFifo_line : Line.hardware.KeepsFifo Line.txFifo where
  enable _ _ := rfl
  disable _ _ := rfl
  clear set l := by
    show (Line.clear set l).txFifo = l.txFifo
    unfold Line.clear Line.updateTxData Line.raise
    dsimp only
    split <;> split <;> first | rfl | (split <;> rfl)
  turn _ _ := rfl
  invert inverted l := by
    show (Line.invert inverted l).txFifo = l.txFifo
    unfold Line.invert
    split
    · rfl
    split <;> rfl
  setAlarm _ _ := rfl
  cancelAlarm _ := rfl
  readFifo _ _ := rfl
  discardFifo _ := rfl
  resetRxFifo _ := rfl

/-- The transmit fifo has run dry, and the interrupt for more slots is pending. -/
def runDry (p : Port Line) : Port Line := { p with hardware := { p.hardware with txFifo := [], pending := .txData } }

private theorem Reached.steps {p : Port Line} (h : Reached Line.hardware Line.lines p) (count : Nat) :
    Reached Line.hardware Line.lines (Nat.repeat Line.step count p) := by
  induction count with
  | zero => exact h
  | succ count ih => exact Line.reached_step ih

private theorem Reached.runDry {p : Port Line} (h : Reached Line.hardware Line.lines p) :
    Reached Line.hardware Line.lines p.runDry :=
  .others h rfl rfl rfl

/-- The port in the middle of a frame of 200 slots, which does not fit into the fifo of the simulated line. -/
def late (p : Port Line) : Port Line :=
  (Nat.repeat Line.step 4 (Session.startFrame Line.hardware 200 true ((enable Line.hardware).runFrom p).2).2).runDry

/-- More slots are written, and the transmission goes on. -/
theorem goesOn_or_early_late : ∃ p, install Line.hardware .standard (.new (.script []) false false) = .ok p ∧
    (p.late.onUart Line.hardware).hardware.txFifo.length = 72 ∧
      GoesOn Line.lines p.late (p.late.onUart Line.hardware) := by
  have hgoes {p : Port Line} (hp : install Line.hardware .standard (.new (.script []) false false) = .ok p)
      (henabled : ((enable Line.hardware).runFrom p).2.enabled = true)
      (hwritten : (p.late.onUart Line.hardware).hardware.txFifo ≠ p.late.hardware.txFifo)
      (hnot : ¬(Line.hardware.interrupts p.late.hardware).intersects .txDone = true) :
      GoesOn Line.lines p.late (p.late.onUart Line.hardware) := by
    have hreached : Reached Line.hardware Line.lines p.late :=
      ((Reached.start (.enable (.install rfl rfl hp)) henabled 200 true).steps 4).runDry
    exact ((goesOn_or_early Line.lawful keepsFifo_line hreached).resolve_left hwritten).resolve_right fun h =>
      hnot h.pending
  exact ⟨_, rfl, by decide +kernel, hgoes rfl (by decide +kernel) (by decide +kernel) (by decide +kernel)⟩

/-- There is room for two slots.  When the interrupt is served, the first two of four slots have left, and so a
transmit-done is pending too.  The handler writes the other two, and ends the transmission. -/
theorem done_before_last_slots : ∃ p, install Bench.hardware .standard (.new 2 []) = .ok p ∧
    let loaded := Session.afterCall Bench.world (.write 0 [0, 1, 2, 3]) ((enable Bench.hardware).runFrom p).2
    let sending := Bench.occur .alarm (Bench.occur .alarm (Session.afterCall Bench.world (.sendFrame 4 true) loaded))
    let served := Bench.occur (.interrupt [] (.union .txData .txDone)) sending
    sending.bus.tx = .sending ∧ sending.bus.txCursor = 2 ∧ served.bus.tx = .done ∧
      served.hardware.log.reverse.drop sending.hardware.log.length =
        ["clear 96", "write 0203", "disable 32", "disable 96", "rts false", "reset_rx", "clear 31", "enable 31"] ∧
      served.notice = some ⟨.ok, .transmit, .levels 0, 4, none⟩ :=
  ⟨_, rfl, by decide +kernel, by decide +kernel, by decide +kernel, by decide +kernel, by decide +kernel⟩

end Port

end LightBus
