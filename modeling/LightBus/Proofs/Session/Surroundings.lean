import LightBus.Proofs.Bus.Frames
import LightBus.Proofs.Port.Effects
import LightBus.Proofs.Session.Keeps

/-!
# What others do

Between two steps of a task, and while it pauses, interrupts are served and the hardware goes on.  `Surroundings` tell
what happens at each of these times, which may be anything in any order.

Meanwhile a `Tally` counts what comes in.  It lies beside the hardware, where no call reads or changes it
(`Hardware.tallied`), so that it tells of a run what its last port has forgotten.

If no slots were read, then others have left the buffer alone (`Elapsed`).
-/

namespace LightBus

variable {η ε α τ : Type} {hw : Hardware η ε}

/-! ### Tallies -/

/-- What the uart interrupts of a run were about. -/
structure Tally where
  /-- The slots that were read. -/
  slots : Nat
  /-- Those of them that were read while nothing was being sent. -/
  heard : Nat
  /-- The breaks while nothing was being sent. -/
  breaks : Nat
  /-- The faults of the line and the collisions between two steps of a task. -/
  faults : Nat
deriving DecidableEq

namespace Tally

def zero : Tally := ⟨0, 0, 0, 0⟩

/-- An interrupt of the uart is served, and so many slots are read for it. -/
def served (t : Tally) (pending : Interrupts) (count : Nat) (sending paused : Bool) : Tally where
  slots := t.slots + count
  heard := t.heard + if sending then 0 else count
  breaks := t.breaks + if !sending && pending.intersects .rxBreak then 1 else 0
  faults := t.faults +
    if !paused && pending.intersects (.union (.union .rxFraming .rxOverflow) .rxCollision) then 1 else 0

end Tally

/-- The same computation with something beside its state. -/
def Run.beside (a : Run η ε α) : Run (η × τ) ε α := a.within Prod.fst fun s h => (h, s.2)

/-- The hardware with a tally beside it. -/
def Hardware.tallied (hw : Hardware η ε) : Hardware (η × Tally) ε where
  attachUart := hw.attachUart.beside
  detachUart := hw.detachUart.beside
  setBaud baud := (hw.setBaud baud).beside
  readFifo size := (hw.readFifo size).beside
  discardFifo h := ((hw.discardFifo h.1).1, (hw.discardFifo h.1).2, h.2)
  space h := hw.space h.1
  writeFifo bytes := (hw.writeFifo bytes).beside
  resetRxFifo := hw.resetRxFifo.beside
  resetTxFifo := hw.resetTxFifo.beside
  interrupts h := hw.interrupts h.1
  enable set h := (hw.enable set h.1, h.2)
  disable set h := (hw.disable set h.1, h.2)
  clear set h := (hw.clear set h.1, h.2)
  turn direction := (hw.turn direction).beside
  invert inverted := (hw.invert inverted).beside
  attachTimer := hw.attachTimer.beside
  detachTimer := hw.detachTimer.beside
  clock h := hw.clock h.1
  setAlarm micros := (hw.setAlarm micros).beside
  cancelAlarm := hw.cancelAlarm.beside

/-- The port at the beginning of a run that is counted. -/
def Port.tallied (p : Port η) : Port (η × Tally) where
  hardware := (p.hardware, .zero)
  bus := p.bus
  meter := p.meter
  estimator := p.estimator
  hasEdges := p.hasEdges
  enabled := p.enabled
  baud := p.baud
  transaction := p.transaction
  lastTransfer := p.lastTransfer
  notice := p.notice
  tickets := p.tickets

/-! ### Surroundings -/

/-- The slots that the next uart interrupt reads. -/
def Port.slotsToRead (hw : Hardware η ε) (p : Port η) : Nat :=
  let pending := hw.interrupts p.hardware
  if pending.intersects (.union .rxFraming .rxOverflow) || pending.intersects .rxData then
    ({ p with hardware := hw.clear pending p.hardware }.drain hw).1
  else 0

/-- Something that others do with a port. -/
inductive Happening (η : Type) where
  | uart
  | alarm
  | edge (level : LineLevel)
  /-- Time goes by, slots come in, interrupts become pending. -/
  | goesOn (change : η → η)

/-- A port with a tally, after something has happened while a task pauses, or between two of its steps. -/
def Happening.occur (hw : Hardware η ε) (paused : Bool) (p : Port (η × Tally)) : Happening η → Port (η × Tally)
  | .uart =>
    let tally := p.hardware.2.served (hw.interrupts p.hardware.1) (p.slotsToRead hw.tallied) p.bus.isSending paused
    let q := p.onUart hw.tallied
    { q with hardware := (q.hardware.1, tally) }
  | .alarm => p.onAlarm hw.tallied
  | .edge level => p.onEdge hw.tallied level
  | .goesOn change => { p with hardware := (change p.hardware.1, p.hardware.2) }

/-- What each happening keeps is kept by what happens. -/
theorem Happening.keeps {I : Port (η × Tally) → Prop} {paused : Bool}
    (hI : ∀ p happening, I p → I (Happening.occur hw paused p happening)) (happenings : List (Happening η))
    {p : Port (η × Tally)} (hp : I p) : I (happenings.foldl (Happening.occur hw paused) p) := by
  induction happenings generalizing p with
  | nil => exact hp
  | cons happening rest ih => exact ih (hI p happening hp)

/-- What happens to a port between two steps of a task, and while the task pauses. -/
structure Surroundings (η : Type) where
  between : Port (η × Tally) → List (Happening η)
  pause : Port (η × Tally) → List (Happening η)

/-- The world of a task in these surroundings. -/
def Surroundings.world (s : Surroundings η) (hw : Hardware η ε) : World (η × Tally) ε where
  hardware := hw.tallied
  pause p := (s.pause p).foldl (Happening.occur hw true) p
  between p := (s.between p).foldl (Happening.occur hw false) p

/-! ### The tally -/

namespace Port

variable {p : Port (η × Tally)}

private theorem tally_apply (effect : Effect) :
    ((apply hw.tallied effect).runFrom p).2.hardware.2 = p.hardware.2 := by
  cases effect with
  | resetRxFifo | turn | invert | setAlarm | cancelAlarm =>
    rw [apply, runFrom_onHardware_none]
    rfl
  | writeFifo first last =>
    rw [runFrom_apply_writeFifo]
    rfl
  | enableRx | disableRx | enableTx | disableTxData | disableTx | notify => rfl

private theorem tally_applyAll (effects : List Effect) :
    (applyAll hw.tallied effects p).2.hardware.2 = p.hardware.2 := by
  induction effects generalizing p with
  | nil => rfl
  | cons effect rest ih => rw [applyAll_cons, ih, tally_apply]

theorem tally_dispatch (hw : Hardware η ε) (p : Port (η × Tally)) (event : BusEvent) :
    (p.dispatch hw.tallied event).2.hardware.2 = p.hardware.2 := tally_applyAll _

theorem tally_raise (event : BusEvent) (now : Nat) : (p.raise hw.tallied event now).hardware.2 = p.hardware.2 := by
  rw [hardware_raise, tally_applyAll]

end Port

/-! ### The interrupts of the uart -/

/-- After the slots that came in, an interrupt of the uart raises these events for what is pending. -/
def BusEvent.isRaisedFor (pending : Interrupts) : BusEvent → Bool
  | .break => pending.intersects .rxBreak
  | .collision => pending.intersects .rxCollision
  | .txReady _ => pending.intersects .txData
  | .txDone => pending.intersects .txDone
  | _ => false

/-- What holds after the slots were read, and bears the events that follow, holds after the interrupt. -/
theorem Port.onUart_rule {p : Port η} {I : Port η → Prop} (hnothing : (hw.interrupts p.hardware).isEmpty = true → I p)
    (hread : ∀ now, I (receiveSlots hw (hw.interrupts p.hardware) now
      { p with hardware := hw.clear (hw.interrupts p.hardware) p.hardware }))
    (hraise : ∀ (q : Port η) (event : BusEvent), event.isRaisedFor (hw.interrupts p.hardware) = true →
      ∀ now, I q → I (q.raise hw event now))
    (hestimate : ∀ (q : Port η) (estimator : BreakEstimator), I q → I { q with estimator }) : I (p.onUart hw) := by
  rw [onUart_of_interrupts _ rfl]
  split
  · rename_i hempty
    exact hnothing hempty
  dsimp only
  generalize { p with hardware := hw.clear (hw.interrupts p.hardware) p.hardware }.now hw = now
  have hbreak {q : Port η} (hq : I q) : I (q.receiveBreak hw (hw.interrupts p.hardware) now) := by
    unfold receiveBreak
    split
    · rename_i hpending
      exact hraise _ .break hpending now (hestimate q _ hq)
    · exact hq
  have hcollision {q : Port η} (hq : I q) : I (q.receiveCollision hw (hw.interrupts p.hardware) now) := by
    unfold receiveCollision
    split
    · rename_i hpending
      exact hraise q .collision hpending now hq
    · exact hq
  have hslots {q : Port η} (hq : I q) : I (q.sendSlots hw (hw.interrupts p.hardware) now) := by
    unfold sendSlots
    split
    · rename_i hpending
      exact hraise q (.txReady _) hpending now hq
    · exact hq
  have hdone {q : Port η} (hq : I q) : I (q.sendDone hw (hw.interrupts p.hardware) now) := by
    unfold sendDone
    split
    · rename_i hpending
      exact hraise q .txDone hpending now hq
    · exact hq
  exact hdone (hslots (hcollision (hbreak (hread now))))

/-! ### The buffer -/

namespace Port

variable {p : Port η}

private theorem frame_raise (event : BusEvent) (now : Nat) : (p.raise hw event now).bus.frame = p.bus.frame := by
  rw [bus_raise, Bus.frame_handle]

theorem frame_drain (h : (p.drain hw).1 = 0) : (p.drain hw).2.bus.frame = p.bus.frame := by
  have hslots : ((hw.readFifo p.bus.window).runFrom p.hardware).1.toOption.getD [] = [] :=
    List.eq_nil_of_length_eq_zero (Nat.eq_zero_of_add_eq_zero_right h)
  exact congrArg Bus.frame ((congrArg p.bus.fill hslots).trans Bus.fill_nil)

private theorem frame_onUart (h : p.slotsToRead hw = 0) : (p.onUart hw).bus.frame = p.bus.frame := by
  refine onUart_rule (I := fun q => q.bus.frame = p.bus.frame) (fun _ => rfl) (fun now => ?_)
    (fun _ _ _ now hq => (frame_raise _ now).trans hq) fun _ _ hq => hq
  unfold slotsToRead at h
  dsimp only at h
  unfold receiveSlots
  split
  · rename_i hfault
    rw [hfault, Bool.true_or, if_pos rfl] at h
    exact (frame_raise _ _).trans (frame_drain h)
  split
  · rename_i hdata
    rw [hdata, Bool.or_true, if_pos rfl] at h
    dsimp only
    rw [if_pos h]
    exact frame_drain h
  · rfl

private theorem frame_onEdge (level : LineLevel) : (p.onEdge hw level).bus.frame = p.bus.frame := by
  have hmeasured (now : Nat) :
      (if p.hasEdges then { p with meter := p.meter.onEdge level now } else p).bus = p.bus := by
    split <;> rfl
  unfold onEdge
  cases level with
  | high => exact (frame_raise _ _).trans (congrArg Bus.frame (hmeasured _))
  | low => exact congrArg Bus.frame (hmeasured _)

private theorem transaction_raise (event : BusEvent) (now : Nat) :
    (p.raise hw event now).transaction = p.transaction := by
  rw [raise_eq_signal, signal_frame, dispatchAt_frame]

private theorem keptByInterrupts_transaction (transaction : UInt8) :
    KeptByInterrupts hw fun p => p.transaction = transaction where
  raise _ now hp := (transaction_raise _ now).trans hp
  clear _ hp := hp
  drain hp := hp
  estimate _ hp := hp
  measure _ hp := hp

private theorem keptByInterrupts_reachable : KeptByInterrupts hw fun p => p.bus.Reachable where
  raise {p event} _ now hp := by
    rw [bus_raise]
    exact hp.handle event now
  clear _ hp := hp
  drain hp := hp.fill _
  estimate _ hp := hp
  measure _ hp := hp

theorem reachable_install {config : PortConfig} {hardware : η} (h : install hw config hardware = .ok p) :
    p.bus.Reachable := by
  obtain ⟨-, -, mode, timing, hbus⟩ := new_of_install h
  exact hbus ▸ .new mode timing

theorem reachable_enable (hp : p.bus.Reachable) : ((enable hw).runFrom p).2.bus.Reachable := by
  show ((switchOn hw).runFrom p).2.bus.Reachable
  cases henabled : p.enabled with
  | true =>
    rw [runFrom_switchOn_of_enabled henabled]
    exact hp
  | false =>
    rw [runFrom_switchOn_of_disabled henabled]
    split
    · exact hp
    · rw [applyAll_frame]
      exact hp.start

end Port

/-! ### What others leave alone -/

/-- What others can have done to a port from `p` to `q`. -/
structure Elapsed (p q : Port (η × Tally)) : Prop where
  slots : p.hardware.2.slots ≤ q.hardware.2.slots
  frame : q.hardware.2.slots = p.hardware.2.slots → q.bus.frame = p.bus.frame
  transaction : q.transaction = p.transaction
  reachable : p.bus.Reachable → q.bus.Reachable

namespace Elapsed

variable {p q r : Port (η × Tally)}

theorem refl (p : Port (η × Tally)) : Elapsed p p := ⟨Nat.le_refl _, fun _ => rfl, rfl, id⟩

theorem trans (hpq : Elapsed p q) (hqr : Elapsed q r) : Elapsed p r where
  slots := Nat.le_trans hpq.slots hqr.slots
  frame h := by
    have hfirst := hpq.slots
    have hsecond := hqr.slots
    rw [hqr.frame (by omega), hpq.frame (by omega)]
  transaction := hqr.transaction.trans hpq.transaction
  reachable h := hqr.reachable (hpq.reachable h)

theorem occur (hw : Hardware η ε) (paused : Bool) (p : Port (η × Tally)) (happening : Happening η) :
    Elapsed p (happening.occur hw paused p) := by
  cases happening with
  | uart =>
    have htransaction : (p.onUart hw.tallied).transaction = p.transaction :=
      (Port.keptByInterrupts_transaction p.transaction).onUart rfl
    have hreachable (hp : p.bus.Reachable) : (p.onUart hw.tallied).bus.Reachable :=
      Port.keptByInterrupts_reachable.onUart hp
    exact ⟨Nat.le_add_right _ _, fun hsame =>
      Port.frame_onUart (Nat.add_left_cancel (hsame.trans (Nat.add_zero _).symm)),
      htransaction, hreachable⟩
  | alarm =>
    have htally : (p.onAlarm hw.tallied).hardware.2 = p.hardware.2 := Port.tally_raise _ _
    refine ⟨Nat.le_of_eq (congrArg Tally.slots htally.symm), fun _ => Port.frame_raise _ _,
      Port.transaction_raise _ _, fun hp => ?_⟩
    show ((p.raise hw.tallied _ _).bus).Reachable
    rw [Port.bus_raise]
    exact hp.handle _ _
  | edge level =>
    have htally : (p.onEdge hw.tallied level).hardware.2 = p.hardware.2 := by
      rw [Port.hardware_onEdge]
    exact ⟨Nat.le_of_eq (congrArg Tally.slots htally.symm), fun _ => Port.frame_onEdge level,
      (Port.keptByInterrupts_transaction p.transaction).onEdge level rfl,
      fun hp => Port.keptByInterrupts_reachable.onEdge level hp⟩
  | goesOn change => exact ⟨Nat.le_refl _, fun _ => rfl, rfl, id⟩

/-- Whatever a task waits for, others do no more than this. -/
theorem keptByOthers (s : Surroundings η) (hw : Hardware η ε) (p : Port (η × Tally)) :
    Session.KeptByOthers (s.world hw) (Elapsed p) where
  between hq := Happening.keeps (fun q happening hq => hq.trans (occur hw false q happening)) _ hq
  pause hq := Happening.keeps (fun q happening hq => hq.trans (occur hw true q happening)) _ hq

end Elapsed

end LightBus
