import LightBus.Proofs.Port.Effects
import LightBus.Simulation.Bench

/-!
# Interrupt masks

Of the lines of the hardware only the interrupt mask decides which interrupts come.  As long as the mask fits what the
bus is doing (`Port.Fits`), no interrupt of the receiver comes while a frame is sent, and none at all after the bus
was stopped.

The other lines need not be known for this.  So the alarm may ring at any time, whether or not it was set.
-/

namespace LightBus

variable {η ε : Type} {hw : Hardware η ε} {mask : η → Interrupts}

/-- `mask` tells which interrupts are enabled.  Only these come. -/
structure Hardware.Masking (hw : Hardware η ε) (mask : η → Interrupts) : Prop where
  interrupts (h : η) : (hw.interrupts h).inter (mask h) = hw.interrupts h
  enable (set : Interrupts) (h : η) : mask (hw.enable set h) = (mask h).union set
  disable (set : Interrupts) (h : η) : mask (hw.disable set h) = (mask h).without set
  clear (set : Interrupts) (h : η) : mask (hw.clear set h) = mask h
  turn (direction : Direction) (h : η) : mask ((hw.turn direction).runFrom h).2 = mask h
  invert (inverted : Bool) (h : η) : mask ((hw.invert inverted).runFrom h).2 = mask h
  setAlarm (micros : UInt32) (h : η) : mask ((hw.setAlarm micros).runFrom h).2 = mask h
  cancelAlarm (h : η) : mask (hw.cancelAlarm.runFrom h).2 = mask h
  attachUart (h : η) : mask (hw.attachUart.runFrom h).2 = mask h
  attachTimer (h : η) : mask (hw.attachTimer.runFrom h).2 = mask h
  setBaud (baud : UInt32) (h : η) : mask ((hw.setBaud baud).runFrom h).2 = mask h
  readFifo (size : Nat) (h : η) : mask ((hw.readFifo size).runFrom h).2 = mask h
  discardFifo (h : η) : mask (hw.discardFifo h).2 = mask h
  writeFifo (bytes : List UInt8) (h : η) : mask ((hw.writeFifo bytes).runFrom h).2 = mask h
  resetRxFifo (h : η) : mask (hw.resetRxFifo.runFrom h).2 = mask h
  resetTxFifo (h : η) : mask (hw.resetTxFifo.runFrom h).2 = mask h

/-- An interrupt that is not enabled does not come. -/
theorem Hardware.Masking.not_pending (hlaw : hw.Masking mask) {h : η} {set part : Interrupts}
    (hmask : (mask h).inter set = .none) (hpart : set.inter part = part) :
    (hw.interrupts h).intersects part = false := by
  refine Interrupts.not_intersects_of_disjoint ?_ hpart
  rw [← hlaw.interrupts h, Interrupts.inter_assoc, hmask]
  simp only [Interrupts.inter, Interrupts.none, UInt8.and_zero]

namespace Port

variable {p p' : Port η}

/-! ### Effects -/

private theorem mask_apply (hlaw : hw.Masking mask) {l : Lines} (hl : l.enabled = mask p.hardware) (effect : Effect) :
    (l.after effect).enabled = mask ((apply hw effect).runFrom p).2.hardware := by
  cases effect with
  | resetRxFifo =>
    rw [apply, runFrom_onHardware_none]
    exact hl.trans (hlaw.resetRxFifo _).symm
  | turn direction =>
    rw [apply, runFrom_onHardware_none]
    exact hl.trans (hlaw.turn direction _).symm
  | invert inverted =>
    rw [apply, runFrom_onHardware_none]
    exact hl.trans (hlaw.invert inverted _).symm
  | setAlarm micros =>
    rw [apply, runFrom_onHardware_none]
    exact hl.trans (hlaw.setAlarm micros _).symm
  | cancelAlarm =>
    rw [apply, runFrom_onHardware_none]
    exact hl.trans (hlaw.cancelAlarm _).symm
  | writeFifo first last =>
    rw [runFrom_apply_writeFifo]
    exact hl.trans (hlaw.writeFifo _ _).symm
  | enableRx =>
    show l.enabled.union .allRx = mask (hw.enable .allRx (hw.clear .allRx p.hardware))
    rw [hlaw.enable, hlaw.clear, hl]
  | enableTx =>
    show l.enabled.union .allTx = mask (hw.enable .allTx (hw.clear .allTx p.hardware))
    rw [hlaw.enable, hlaw.clear, hl]
  | disableRx | disableTxData | disableTx =>
    show l.enabled.without _ = mask (hw.disable _ p.hardware)
    rw [hlaw.disable, hl]
  | notify => exact hl

private theorem mask_applyAll (hlaw : hw.Masking mask) {l : Lines} (hl : l.enabled = mask p.hardware)
    (effects : List Effect) :
    (l.afterAll effects).enabled = mask (applyAll hw effects p).2.hardware := by
  induction effects generalizing l p with
  | nil => exact hl
  | cons effect rest ih =>
    rw [applyAll_cons]
    exact ih (mask_apply hlaw hl effect)

theorem mask_drain (hlaw : hw.Masking mask) : mask (p.drain hw).2.hardware = mask p.hardware := by
  show mask (hw.discardFifo ((hw.readFifo p.bus.window).runFrom p.hardware).2).2 = _
  rw [hlaw.discardFifo, hlaw.readFifo]

/-! ### Mask and bus -/

/-- The interrupt mask fits what the bus is doing. -/
def Fits (mask : η → Interrupts) (p : Port η) : Prop := ∃ l : Lines, l.enabled = mask p.hardware ∧ Bus.Coupled l p.bus

namespace Fits

theorem rx_of_sending (h : p.Fits mask) (hsending : p.bus.isSending = true) :
    (mask p.hardware).inter .allRx = .none := by
  obtain ⟨l, hl, hcoupled⟩ := h
  rw [← hl]
  exact (hcoupled.sending hsending).2

theorem rx_of_deaf (h : p.Fits mask) (hdeaf : p.bus.receiving = false) : (mask p.hardware).inter .allRx = .none := by
  obtain ⟨l, hl, hcoupled⟩ := h
  rw [← hl, hcoupled.rx, hdeaf]
  rfl

theorem tx_of_idle (h : p.Fits mask) (hidle : p.bus.isSending = false) : (mask p.hardware).inter .allTx = .none := by
  obtain ⟨l, hl, hcoupled⟩ := h
  rw [← hl]
  exact hcoupled.txIdle hidle

theorem inStep (h : p.Fits mask) : p.bus.InStep := by
  obtain ⟨l, -, hcoupled⟩ := h
  exact hcoupled.inStep

theorem of_eq (h : p.Fits mask) (hmask : mask p'.hardware = mask p.hardware) (htx : p'.bus.tx = p.bus.tx)
    (hsequence : p'.bus.sequence = p.bus.sequence) (hcursor : p'.bus.txCursor = p.bus.txCursor)
    (hsize : p'.bus.txSize = p.bus.txSize) (hawaiting : p'.bus.awaiting = p.bus.awaiting)
    (hreceiving : p'.bus.receiving = p.bus.receiving) : p'.Fits mask := by
  obtain ⟨l, hl, hcoupled⟩ := h
  exact ⟨l, hl.trans hmask.symm, hcoupled.of_eq htx hsequence hcursor hsize hawaiting hreceiving⟩

theorem keep (h : p.Fits mask) (hmask : mask p'.hardware = mask p.hardware) (hbus : p'.bus = p.bus) : p'.Fits mask :=
  h.of_eq hmask (congrArg _ hbus) (congrArg _ hbus) (congrArg _ hbus) (congrArg _ hbus) (congrArg _ hbus)
    (congrArg _ hbus)

/-- The frame buffer may be changed. -/
theorem of_frame (h : p.Fits mask) {frame : List UInt8} (hmask : mask p'.hardware = mask p.hardware)
    (hbus : p'.bus = { p.bus with frame }) : p'.Fits mask := by
  refine h.of_eq hmask ?_ ?_ ?_ ?_ ?_ ?_ <;> rw [hbus]

private theorem applyAll (hlaw : hw.Masking mask) {l : Lines} {effects : List Effect} {bus : Bus}
    (hl : l.enabled = mask p.hardware) (hcoupled : Bus.Coupled (l.afterAll effects) bus) :
    (applyAll hw effects { p with bus }).2.Fits mask := by
  refine ⟨_, mask_applyAll (p := { p with bus }) hlaw hl effects, ?_⟩
  rw [applyAll_frame]
  exact hcoupled

theorem dispatchAt (h : p.Fits mask) (hlaw : hw.Masking mask) (event : BusEvent) (now : Nat) :
    (dispatchAt hw event now p).2.Fits mask := by
  obtain ⟨l, hl, hcoupled⟩ := h
  refine applyAll hlaw ?_ (hcoupled.handle event now)
  split <;> exact hl

theorem raise (h : p.Fits mask) (hlaw : hw.Masking mask) (event : BusEvent) (now : Nat) :
    (p.raise hw event now).Fits mask := by
  rw [raise_eq_signal, signal_frame]
  exact (h.dispatchAt hlaw event now).keep rfl rfl

theorem keptByInterrupts (hlaw : hw.Masking mask) : KeptByInterrupts hw (Fits mask) where
  raise {_ event} _ now hp := hp.raise hlaw event now
  clear set hp := hp.keep (hlaw.clear set _) rfl
  drain hp := hp.of_eq (mask_drain hlaw) rfl rfl rfl rfl rfl rfl
  estimate _ hp := hp.keep rfl rfl
  measure _ hp := hp.keep rfl rfl

/-- A port that is switched off and sends nothing may be switched on. -/
theorem enable (h : p.Fits mask) (hlaw : hw.Masking mask) (hquiet : p.enabled = false → p.bus.isSending = false) :
    ((enable hw).runFrom p).2.Fits mask := by
  rcases enable_cases hw p with ⟨-, hsame⟩ | ⟨hoff, hardware, hreset, hrefused | hstarted⟩
  · rw [hsame]
    exact h.keep rfl rfl
  · rw [hrefused, hreset]
    exact h.keep (hlaw.resetTxFifo _) rfl
  · obtain ⟨l, hl, hcoupled⟩ := h
    have hmask : l.enabled = mask hardware := by rw [hl, hreset, hlaw.resetTxFifo]
    have hstart := applyAll (p := { p with hardware, enabled := true }) hlaw hmask (hcoupled.start (hquiet hoff))
    rw [hstarted]
    exact hstart.keep rfl rfl

/-- Whatever the bus was doing, the mask fits it after it has stopped. -/
theorem stopBus (hlaw : hw.Masking mask) : (stopBus hw p).2.Fits mask := by
  let l : Lines := ⟨mask p.hardware, .receive, false, false⟩
  exact applyAll (l := l) hlaw rfl Bus.coupled_stop

theorem install (hlaw : hw.Masking mask) {config : PortConfig} {hardware : η}
    (hinstalled : install hw config hardware = .ok p) : p.Fits mask := by
  unfold Port.install at hinstalled
  split at hinstalled
  · cases hinstalled
  split at hinstalled
  · cases hinstalled
  rename_i h₂ _
  split at hinstalled
  · cases hinstalled
  rename_i h₃ htimer
  have hmask : mask h₃ = (mask h₂).without (.union .allRx .allTx) := by
    have hattached := hlaw.attachTimer (hw.disable (.union .allRx .allTx) h₂)
    rw [htimer] at hattached
    rw [hattached, hlaw.disable]
  cases hinstalled
  refine ⟨⟨mask h₃, .receive, false, false⟩, rfl, Bus.coupled_new _ _ ?_ ?_ rfl rfl⟩
  · dsimp only
    rw [hmask]
    exact Interrupts.inter_without_of_subset rfl
  · dsimp only
    rw [hmask]
    exact Interrupts.inter_without_of_subset rfl

end Fits

end Port

namespace Simulation.Bench

private theorem enabled_note (name details : String) (b : Bench) : (note name details b).2.enabled = b.enabled := by
  obtain ⟨log, hnote⟩ := note_frame name details b
  rw [hnote]

/-- The bench enables what it is told to. -/
theorem masking : hardware.Masking Bench.enabled where
  interrupts b := by
    show (b.pending.inter b.enabled).inter b.enabled = b.pending.inter b.enabled
    simp only [Interrupts.inter, UInt8.and_assoc, UInt8.and_self]
  enable _ _ := rfl
  disable _ _ := rfl
  clear _ _ := rfl
  turn _ b := enabled_note _ _ b
  invert _ b := enabled_note _ _ b
  setAlarm _ b := enabled_note _ _ b
  cancelAlarm b := enabled_note _ _ b
  attachUart b := enabled_note _ _ b
  attachTimer b := enabled_note _ _ b
  setBaud _ b := enabled_note _ _ b
  readFifo room b := by
    show (readFifo room b).2.enabled = b.enabled
    unfold readFifo
    split <;> rfl
  discardFifo b := by
    show (discardFifo b).2.enabled = b.enabled
    unfold discardFifo
    split <;> rfl
  writeFifo _ b := enabled_note _ _ b
  resetRxFifo b := enabled_note _ _ _
  resetTxFifo b := enabled_note _ _ b

end Simulation.Bench

end LightBus
