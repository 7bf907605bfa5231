import LightBus.Port
import LightBus.Proofs.Bus.Coupling

/-!
# What effects do to a port

Of a port, effects change nothing but the hardware (`Port.applyAll_frame`).  On hardware that does what it is asked
for (`Hardware.Lawful`) they change the lines as `Lines.after` says (`Port.lines_dispatchAt`).

`Port.KeptByInterrupts` is the rule for invariants: what each event keeps, and what the calls between the events keep,
is kept by the interrupt handlers.
-/

namespace LightBus

variable {η ε α : Type} {hw : Hardware η ε} {lines : η → Lines}

/-- The hardware does what it is asked for.  `lines` tells how it stands. -/
structure Hardware.Lawful (hw : Hardware η ε) (lines : η → Lines) : Prop where
  enable (set : Interrupts) (h : η) : lines (hw.enable set h) =
    { lines h with enabled := (lines h).enabled.union set }
  disable (set : Interrupts) (h : η) : lines (hw.disable set h) =
    { lines h with enabled := (lines h).enabled.without set }
  turn (direction : Direction) (h : η) : lines ((hw.turn direction).runFrom h).2 = { lines h with direction }
  invert (inverted : Bool) (h : η) : lines ((hw.invert inverted).runFrom h).2 = { lines h with inverted }
  setAlarm (micros : UInt32) (h : η) : lines ((hw.setAlarm micros).runFrom h).2 = { lines h with armed := true }
  cancelAlarm (h : η) : lines (hw.cancelAlarm.runFrom h).2 = { lines h with armed := false }
  attachUart (h : η) : lines (hw.attachUart.runFrom h).2 = lines h
  attachTimer (h : η) : lines (hw.attachTimer.runFrom h).2 = lines h
  setBaud (baud : UInt32) (h : η) : lines ((hw.setBaud baud).runFrom h).2 = lines h
  readFifo (size : Nat) (h : η) : lines ((hw.readFifo size).runFrom h).2 = lines h
  discardFifo (h : η) : lines (hw.discardFifo h).2 = lines h
  writeFifo (bytes : List UInt8) (h : η) : lines ((hw.writeFifo bytes).runFrom h).2 = lines h
  resetRxFifo (h : η) : lines (hw.resetRxFifo.runFrom h).2 = lines h
  resetTxFifo (h : η) : lines (hw.resetTxFifo.runFrom h).2 = lines h
  clear (set : Interrupts) (h : η) : lines (hw.clear set h) = lines h

/-- The event comes from the uart, or from an edge of the line. -/
def BusEvent.isInterrupt : BusEvent → Bool
  | .txReady _ | .txDone | .break | .lineRising | .received _ | .lineFault _ _ | .collision => true
  | _ => false

theorem BusEvent.not_alarm_of_isInterrupt {event : BusEvent} (h : event.isInterrupt = true) :
    event.isAlarm = false ∧ event.isStart = false := by
  cases event with
  | startTransmit | alarm | receiveRequested => cases h
  | _ => exact ⟨rfl, rfl⟩

namespace Port

variable {p : Port η} {I : Port η → Prop}

/-! ### Effects -/

theorem runFrom_onHardware (wrap : ε → PortError ε) (a : Run η ε α) :
    (onHardware wrap a).runFrom p = ((a.runFrom p.hardware).1.mapError wrap,
      { p with hardware := (a.runFrom p.hardware).2 }) := by
  rw [onHardware, Run.runFrom_within, Run.runFrom_mapError]

theorem runFrom_onHardware_none (wrap : ε → PortError ε) (a : Run η ε Unit) :
    ((do onHardware wrap a; return none : Run (Port η) (PortError ε) (Option Notice)).runFrom p).2 =
      { p with hardware := (a.runFrom p.hardware).2 } := by
  rw [Run.runFrom_bind, runFrom_onHardware]
  cases (a.runFrom p.hardware).1 <;> rfl

theorem runFrom_apply_writeFifo (first last : Nat) :
    ((apply hw (.writeFifo first last)).runFrom p).2 =
      { p with hardware := ((hw.writeFifo (slice p.bus.frame first (last - first))).runFrom p.hardware).2 } := by
  rw [apply, Run.runFrom_bind, Run.runFrom_get]
  exact runFrom_onHardware_none _ _

theorem apply_frame (effect : Effect) :
    ((apply hw effect).runFrom p).2 = { p with hardware := ((apply hw effect).runFrom p).2.hardware } := by
  cases effect with
  | resetRxFifo | turn | invert | setAlarm | cancelAlarm => rw [apply, runFrom_onHardware_none]
  | writeFifo first last => rw [runFrom_apply_writeFifo]
  | enableRx | disableRx | enableTx | disableTxData | disableTx | notify => rfl

theorem applyAll_cons (effect : Effect) (rest : List Effect) :
    (applyAll hw (effect :: rest) p).2 = (applyAll hw rest ((apply hw effect).runFrom p).2).2 := by
  rw [applyAll]
  dsimp only
  split <;> rfl

theorem applyAll_frame (effects : List Effect) :
    (applyAll hw effects p).2 = { p with hardware := (applyAll hw effects p).2.hardware } := by
  induction effects generalizing p with
  | nil => rfl
  | cons effect rest ih =>
    rw [applyAll_cons, ih, apply_frame effect]

private theorem withTiming_eq (n : Notice) : ∃ timing, p.withTiming n = { n with timing } := by
  obtain ⟨status, origin, kind, size, timing⟩ := n
  cases origin <;> cases kind <;> exact ⟨_, rfl⟩

/-- Only a notice of the bus is noticed, with the timing of the break. -/
private theorem notice_apply {effect : Effect} {n : Notice} (h : ((apply hw effect).runFrom p).1 = .ok (some n)) :
    ∃ m timing, effect = .notify m ∧ n = { m with timing } := by
  have hsilent (wrap : ε → PortError ε) (a : Run η ε Unit) :
      ((do onHardware wrap a; return none : Run (Port η) (PortError ε) (Option Notice)).runFrom p).1 ≠
        .ok (some n) := by
    rw [Run.runFrom_bind, runFrom_onHardware]
    cases (a.runFrom p.hardware).1 <;> exact nofun
  cases effect with
  | resetRxFifo | turn | invert | setAlarm | cancelAlarm => exact absurd h (hsilent _ _)
  | writeFifo first last =>
    rw [apply, Run.runFrom_bind, Run.runFrom_get] at h
    exact absurd h (hsilent _ _)
  | enableRx | disableRx | enableTx | disableTxData | disableTx =>
    have hnone : none = some n := Except.ok.inj h
    cases hnone
  | notify m =>
    obtain ⟨timing, htimed⟩ := withTiming_eq (p := p) m
    have hn : p.withTiming m = n := Option.some.inj (Except.ok.inj h)
    exact ⟨m, timing, rfl, hn.symm.trans htimed⟩

theorem notice_applyAll {effects : List Effect} {n : Notice} (h : (applyAll hw effects p).1.notice = some n) :
    ∃ m timing, .notify m ∈ effects ∧ n = { m with timing } := by
  induction effects generalizing p with
  | nil => cases h
  | cons effect rest ih =>
    rw [applyAll] at h
    dsimp only at h
    -- The notice of a later effect goes before that of an earlier one.
    split at h
    · rename_i noticed happly
      cases hrest : (applyAll hw rest ((apply hw effect).runFrom p).2).1.notice with
      | none =>
        rw [hrest] at h
        obtain ⟨m, timing, rfl, hn⟩ := notice_apply (happly.trans (congrArg _ h))
        exact ⟨m, timing, List.mem_cons_self, hn⟩
      | some last =>
        rw [hrest] at h
        obtain ⟨m, timing, hm, hn⟩ := ih (hrest.trans h)
        exact ⟨m, timing, List.mem_cons_of_mem _ hm, hn⟩
    · obtain ⟨m, timing, hm, hn⟩ := ih h
      exact ⟨m, timing, List.mem_cons_of_mem _ hm, hn⟩

private theorem isSome_notice_applyAll {effects : List Effect} {n : Notice} (h : .notify n ∈ effects) :
    (applyAll hw effects p).1.notice.isSome = true := by
  induction effects generalizing p with
  | nil => cases h
  | cons effect rest ih =>
    rw [applyAll]
    dsimp only
    rcases List.mem_cons.1 h with rfl | hrest
    · show (_ <|> some (p.withTiming n)).isSome = true
      cases (applyAll hw rest ((apply hw (.notify n)).runFrom p).2).1.notice <;> rfl
    · obtain ⟨told, htold⟩ := Option.isSome_iff_exists.1 (ih hrest (p := ((apply hw effect).runFrom p).2))
      rw [htold]
      split <;> rfl

private theorem lines_apply (hlaw : hw.Lawful lines) (effect : Effect) :
    lines ((apply hw effect).runFrom p).2.hardware = (lines p.hardware).after effect := by
  cases effect with
  | resetRxFifo =>
    rw [apply, runFrom_onHardware_none]
    exact hlaw.resetRxFifo _
  | turn direction =>
    rw [apply, runFrom_onHardware_none]
    exact hlaw.turn direction _
  | invert inverted =>
    rw [apply, runFrom_onHardware_none]
    exact hlaw.invert inverted _
  | setAlarm micros =>
    rw [apply, runFrom_onHardware_none]
    exact hlaw.setAlarm micros _
  | cancelAlarm =>
    rw [apply, runFrom_onHardware_none]
    exact hlaw.cancelAlarm _
  | writeFifo first last =>
    rw [runFrom_apply_writeFifo]
    exact hlaw.writeFifo _ _
  | enableRx =>
    show lines (hw.enable .allRx (hw.clear .allRx p.hardware)) = _
    rw [hlaw.enable, hlaw.clear]
    rfl
  | enableTx =>
    show lines (hw.enable .allTx (hw.clear .allTx p.hardware)) = _
    rw [hlaw.enable, hlaw.clear]
    rfl
  | disableRx => exact hlaw.disable .allRx _
  | disableTxData => exact hlaw.disable .txData _
  | disableTx => exact hlaw.disable .allTx _
  | notify => rfl

theorem lines_applyAll (hlaw : hw.Lawful lines) (effects : List Effect) :
    lines (applyAll hw effects p).2.hardware = (lines p.hardware).afterAll effects := by
  induction effects generalizing p with
  | nil => rfl
  | cons effect rest ih =>
    rw [applyAll_cons, ih, lines_apply hlaw]
    rfl

/-! ### Events -/

theorem dispatchAt_frame (event : BusEvent) (now : Nat) :
    (dispatchAt hw event now p).2 =
      { p with hardware := (dispatchAt hw event now p).2.hardware, bus := (p.bus.handle event now).2 } := by
  rw [dispatchAt]
  exact applyAll_frame _

theorem bus_dispatchAt (event : BusEvent) (now : Nat) :
    (dispatchAt hw event now p).2.bus = (p.bus.handle event now).2 := by
  rw [dispatchAt_frame]

theorem enabled_dispatchAt (event : BusEvent) (now : Nat) : (dispatchAt hw event now p).2.enabled = p.enabled := by
  rw [dispatchAt_frame]

theorem raise_eq_signal (event : BusEvent) (now : Nat) :
    p.raise hw event now = (dispatchAt hw event now p).2.signal (dispatchAt hw event now p).1.notice := rfl

theorem signal_frame (n : Option Notice) : p.signal n = { p with notice := (p.signal n).notice } := by
  cases n <;> rfl

theorem enabled_raise (event : BusEvent) (now : Nat) : (p.raise hw event now).enabled = p.enabled := by
  rw [raise_eq_signal, signal_frame, enabled_dispatchAt]

theorem bus_raise (event : BusEvent) (now : Nat) : (p.raise hw event now).bus = (p.bus.handle event now).2 := by
  rw [raise_eq_signal, signal_frame, bus_dispatchAt]

theorem hardware_raise (event : BusEvent) (now : Nat) :
    (p.raise hw event now).hardware =
      (applyAll hw (p.bus.handle event now).1 { p with bus := (p.bus.handle event now).2 }).2.hardware := by
  rw [raise_eq_signal, signal_frame]
  rfl

/-- A notice waits until a newer one replaces it. -/
theorem notice_raise (hw : Hardware η ε) (p : Port η) (event : BusEvent) (now : Nat) :
    (p.raise hw event now).notice = p.notice ∨
      ∃ m timing, .notify m ∈ (p.bus.handle event now).1 ∧ (p.raise hw event now).notice =
        some { m with timing } := by
  rw [raise_eq_signal]
  cases htold : (dispatchAt hw event now p).1.notice with
  | none =>
    left
    show (dispatchAt hw event now p).2.notice = p.notice
    rw [dispatchAt_frame]
  | some n =>
    obtain ⟨m, timing, hm, rfl⟩ := notice_applyAll htold
    exact .inr ⟨m, timing, hm, rfl⟩

/-- A notice that is given waits, unless the same event gives another one. -/
theorem notice_raise_of_notify (hw : Hardware η ε) {event : BusEvent} {now : Nat} {n : Notice}
    (h : .notify n ∈ (p.bus.handle event now).1) :
    ∃ m timing, .notify m ∈ (p.bus.handle event now).1 ∧ (p.raise hw event now).notice = some { m with timing } := by
  have hsome : (dispatchAt hw event now p).1.notice.isSome = true := isSome_notice_applyAll h
  obtain ⟨told, htold⟩ := Option.isSome_iff_exists.1 hsome
  obtain ⟨m, timing, hm, rfl⟩ := notice_applyAll htold
  refine ⟨m, timing, hm, ?_⟩
  rw [raise_eq_signal, htold]
  rfl

theorem raise_of_nothing {event : BusEvent} {now : Nat} (hnothing : p.bus.handle event now = ([], p.bus)) :
    p.raise hw event now = p := by
  unfold raise dispatchAt
  rw [hnothing]
  rfl

theorem lines_dispatchAt (hlaw : hw.Lawful lines) (event : BusEvent) (now : Nat) :
    lines (dispatchAt hw event now p).2.hardware = (lines p.hardware).afterAll (p.bus.handle event now).1 :=
  lines_applyAll hlaw _

/-! ### Switching -/

theorem runFrom_switchOn_of_enabled (hon : p.enabled = true) : (switchOn hw).runFrom p = (.ok (), p) := by
  unfold switchOn
  rw [Run.runFrom_bind, Run.runFrom_get]
  dsimp only
  rw [if_pos hon]
  rfl

theorem runFrom_switchOn_of_disabled (hoff : p.enabled = false) : (switchOn hw).runFrom p =
    match hw.resetTxFifo.runFrom p.hardware with
    | (.error error, hardware) => (.error (.uart error), { p with hardware })
    | (.ok (), hardware) =>
      let start := applyAll hw p.bus.start.1 { p with hardware, enabled := true, bus := p.bus.start.2 }
      (start.1.result, start.2) := by
  unfold switchOn
  rw [Run.runFrom_bind, Run.runFrom_get]
  dsimp only
  rw [if_neg (ne_true_of_eq_false hoff), Run.runFrom_bind, runFrom_onHardware]
  rcases hw.resetTxFifo.runFrom p.hardware with ⟨_ | _, hardware⟩
  · rfl
  · rfl

theorem runFrom_switchOn_of_refused (hoff : p.enabled = false) {error : ε} {hardware : η}
    (hreset : hw.resetTxFifo.runFrom p.hardware = (.error error, hardware)) :
    (switchOn hw).runFrom p = (.error (.uart error), { p with hardware }) := by
  rw [runFrom_switchOn_of_disabled hoff, hreset]

theorem runFrom_switchOn_of_reset (hoff : p.enabled = false) {hardware : η}
    (hreset : hw.resetTxFifo.runFrom p.hardware = (.ok (), hardware)) :
    let start := applyAll hw p.bus.start.1 { p with hardware, enabled := true, bus := p.bus.start.2 }
    (switchOn hw).runFrom p = (start.1.result, start.2) := by
  rw [runFrom_switchOn_of_disabled hoff, hreset]

theorem new_of_install {config : PortConfig} {hardware : η} (h : install hw config hardware = .ok p) :
    p.enabled = false ∧ p.transaction = 0 ∧ ∃ mode timing, p.bus = .new mode timing := by
  unfold install at h
  split at h
  · cases h
  split at h
  · cases h
  split at h
  · cases h
  · cases h
    exact ⟨rfl, rfl, _, _, rfl⟩

/-- A port that is off is on afterwards, unless its transmit fifo could not be reset.  The notice is lost in any
case. -/
theorem enable_cases (hw : Hardware η ε) (p : Port η) :
    p.enabled = true ∧ ((enable hw).runFrom p).2 = { p with notice := none } ∨
    p.enabled = false ∧ ∃ hardware, hardware = (hw.resetTxFifo.runFrom p.hardware).2 ∧
      (((enable hw).runFrom p).2 = { p with hardware, notice := none } ∨
        ((enable hw).runFrom p).2 =
          { (applyAll hw p.bus.start.1 { p with hardware, enabled := true, bus := p.bus.start.2 }).2 with
            notice := none }) := by
  have hrun : ((enable hw).runFrom p).2 = { ((switchOn hw).runFrom p).2 with notice := none } := rfl
  rw [hrun]
  by_cases henabled : p.enabled = true
  · rw [runFrom_switchOn_of_enabled henabled]
    exact .inl ⟨henabled, rfl⟩
  · have hoff := eq_false_of_ne_true henabled
    rcases hreset : hw.resetTxFifo.runFrom p.hardware with ⟨error | _, hardware⟩
    · rw [runFrom_switchOn_of_refused hoff hreset]
      exact .inr ⟨hoff, hardware, rfl, .inl rfl⟩
    · rw [runFrom_switchOn_of_reset hoff hreset]
      exact .inr ⟨hoff, hardware, rfl, .inr rfl⟩

theorem port_stopBus (hw : Hardware η ε) (p : Port η) :
    (stopBus hw p).2 = (applyAll hw p.bus.stop.1 { p with bus := p.bus.stop.2 }).2 := rfl

/-- A port is switched off if it is on and sends nothing. -/
theorem disable_cases (hw : Hardware η ε) (p : Port η) :
    (p.enabled = false ∨ p.bus.isSending = true) ∧ ((disable hw).runFrom p).2 = p ∨
    p.enabled = true ∧ p.bus.isSending = false ∧ ((disable hw).runFrom p).2 =
      (stopBus hw { p with enabled := false }).2 := by
  have hrun : (disable hw).runFrom p = if !p.enabled then (.ok (), p)
    else if p.bus.isSending then (.error .stillSending, p) else stopBus hw { p with enabled := false } := rfl
  rw [hrun]
  cases henabled : p.enabled with
  | false => exact .inl ⟨.inl rfl, rfl⟩
  | true =>
    cases hsending : p.bus.isSending with
    | true => exact .inl ⟨.inr rfl, rfl⟩
    | false => exact .inr ⟨rfl, rfl, rfl⟩

/-! ### Settings -/

theorem setMode_cases (mode : Mode) (p : Port η) :
    ((setMode mode : Run (Port η) (PortError ε) Unit).runFrom p).2 = p ∨
      ((setMode mode : Run (Port η) (PortError ε) Unit).runFrom p).2 = { p with bus := { p.bus with mode } } := by
  have hrun : (setMode mode : Run (Port η) (PortError ε) Unit).runFrom p =
    if p.bus.isSending then (.error .stillSending, p) else (.ok (), { p with bus := { p.bus with mode } }) := rfl
  rw [hrun]
  split
  · exact .inl rfl
  · exact .inr rfl

theorem setBaud_frame (hw : Hardware η ε) (baud : UInt32) (p : Port η) : ∃ rate, ((setBaud hw baud).runFrom p).2 =
    { p with hardware := ((hw.setBaud (clampBaud baud)).runFrom p.hardware).2, baud := rate } := by
  unfold setBaud
  rw [Run.runFrom_bind, runFrom_onHardware]
  rcases hresult : (hw.setBaud (clampBaud baud)).runFrom p.hardware with ⟨_ | _, hardware⟩
  · exact ⟨p.baud, rfl⟩
  · exact ⟨_, rfl⟩

/-! ### Interrupts -/

theorem drain_of_read {slots : List UInt8} {dropped : Nat} {h h' : η}
    (hread : (hw.readFifo p.bus.window).runFrom p.hardware = (.ok slots, h))
    (hdiscard : hw.discardFifo h = (dropped, h')) :
    p.drain hw = (slots.length + dropped, { p with hardware := h', bus := p.bus.fill slots }) := by
  rw [drain, hread]
  show (slots.length + (hw.discardFifo h).1, { p with hardware := (hw.discardFifo h).2, bus := p.bus.fill slots }) = _
  rw [hdiscard]

theorem onUart_of_interrupts (served : Interrupts) (h : hw.interrupts p.hardware = served) :
    p.onUart hw =
      if served.isEmpty then p
      else
        let p := { p with hardware := hw.clear served p.hardware }
        let now := p.now hw
        sendDone hw served now <| sendSlots hw served now <| receiveCollision hw served now <|
          receiveBreak hw served now <| receiveSlots hw served now p := by
  subst h
  rfl

/-- Slots are read only if an interrupt of the receiver is pending.  Then the bus is told of them, if there are
any. -/
theorem receiveSlots_cases (hw : Hardware η ε) (p : Port η) (pending : Interrupts) (now : Nat) :
    p.receiveSlots hw pending now = p ∨ pending.intersects .allRx = true ∧
      (p.receiveSlots hw pending now = (p.drain hw).2 ∨ ∃ event estimator, event.isInterrupt = true ∧
        p.receiveSlots hw pending now = Port.raise hw event now { (p.drain hw).2 with estimator }) := by
  unfold receiveSlots
  split
  · rename_i hfault
    exact .inr ⟨Interrupts.intersects_of_subset hfault rfl, .inr ⟨_, _, rfl, rfl⟩⟩
  split
  · rename_i hdata
    refine .inr ⟨Interrupts.intersects_of_subset hdata rfl, ?_⟩
    dsimp only
    split
    · exact .inl rfl
    · exact .inr ⟨_, _, rfl, rfl⟩
  · exact .inl rfl

/-- An invariant of the interrupts of the uart and of the line. -/
structure KeptByInterrupts (hw : Hardware η ε) (I : Port η → Prop) : Prop where
  raise {p : Port η} {event : BusEvent} (hevent : event.isInterrupt = true) (now : Nat) (hp : I p) :
    I (p.raise hw event now)
  clear {p : Port η} (set : Interrupts) (hp : I p) : I { p with hardware := hw.clear set p.hardware }
  drain {p : Port η} (hp : I p) : I (p.drain hw).2
  estimate {p : Port η} (estimator : BreakEstimator) (hp : I p) : I { p with estimator }
  measure {p : Port η} (meter : EdgeMeter) (hp : I p) : I { p with meter }

namespace KeptByInterrupts

variable {pending : Interrupts} {now : Nat}

theorem receiveSlots (h : KeptByInterrupts hw I) (hp : I p) : I (p.receiveSlots hw pending now) := by
  unfold Port.receiveSlots
  split
  · exact h.raise rfl now (h.drain hp)
  split
  · dsimp only
    split
    · exact h.drain hp
    · exact h.raise rfl now (h.estimate _ (h.drain hp))
  · exact hp

private theorem receiveBreak (h : KeptByInterrupts hw I) (hp : I p) : I (p.receiveBreak hw pending now) := by
  unfold Port.receiveBreak
  split
  · exact h.raise rfl now (h.estimate _ hp)
  · exact hp

private theorem receiveCollision (h : KeptByInterrupts hw I) (hp : I p) : I (p.receiveCollision hw pending now) := by
  unfold Port.receiveCollision
  split
  · exact h.raise rfl now hp
  · exact hp

private theorem sendSlots (h : KeptByInterrupts hw I) (hp : I p) : I (p.sendSlots hw pending now) := by
  unfold Port.sendSlots
  split
  · exact h.raise rfl now hp
  · exact hp

private theorem sendDone (h : KeptByInterrupts hw I) (hp : I p) : I (p.sendDone hw pending now) := by
  unfold Port.sendDone
  split
  · exact h.raise rfl now hp
  · exact hp

theorem onUart (h : KeptByInterrupts hw I) (hp : I p) : I (p.onUart hw) := by
  unfold Port.onUart
  dsimp only
  split
  · exact hp
  · have hcleared := h.clear (hw.interrupts p.hardware) hp
    exact h.sendDone (h.sendSlots (h.receiveCollision (h.receiveBreak (h.receiveSlots hcleared))))

theorem onEdge (h : KeptByInterrupts hw I) (level : LineLevel) (hp : I p) : I (p.onEdge hw level) := by
  unfold Port.onEdge
  have hmeasured (now : Nat) : I (if p.hasEdges then { p with meter := p.meter.onEdge level now } else p) := by
    split
    · exact h.measure _ hp
    · exact hp
  cases level with
  | high => exact h.raise rfl _ (hmeasured _)
  | low => exact hmeasured _

end KeptByInterrupts

theorem keptByInterrupts_enabled (enabled : Bool) : KeptByInterrupts hw fun p => p.enabled = enabled where
  raise _ now hp := (enabled_raise _ now).trans hp
  clear _ hp := hp
  drain hp := hp
  estimate _ hp := hp
  measure _ hp := hp

/-! ### Edges -/

private theorem raise_lineRising (now : Nat) :
    p.raise hw .lineRising now = { p with bus := (p.bus.handle .lineRising now).2 } := rfl

/-- An edge is measured, and the line may rise after a break. -/
theorem onEdge_cases (hw : Hardware η ε) (p : Port η) (level : LineLevel) :
    ∃ meter, p.onEdge hw level = { p with meter } ∨
    p.bus.rx = .inBreak ∧ p.onEdge hw level = { p with meter, bus := { p.bus with rx := .inMark } } := by
  have hmeasured (now : Nat) :
      ∃ meter, (if p.hasEdges then { p with meter := p.meter.onEdge level now } else p) = { p with meter } := by
    split
    · exact ⟨_, rfl⟩
    · exact ⟨p.meter, rfl⟩
  obtain ⟨meter, hmeter⟩ := hmeasured (p.now hw)
  refine ⟨meter, ?_⟩
  unfold onEdge
  dsimp only
  rw [hmeter]
  cases level with
  | low => exact .inl rfl
  | high =>
    dsimp only
    rw [raise_lineRising]
    by_cases hbreak : p.bus.rx = .inBreak
    · right
      refine ⟨hbreak, ?_⟩
      show { p with meter, bus := if p.bus.rx = RxState.inBreak then { p.bus with rx := .inMark } else p.bus } = _
      rw [if_pos hbreak]
    · left
      show { p with meter, bus := if p.bus.rx = RxState.inBreak then { p.bus with rx := .inMark } else p.bus } = _
      rw [if_neg hbreak]

/-- Nothing of the hardware matters for an edge but the time. -/
theorem onEdge_of_hardware (level : LineLevel) {hardware : η} (hclock : hw.clock hardware = hw.clock p.hardware) :
    { p with hardware }.onEdge hw level = { p.onEdge hw level with hardware } := by
  unfold Port.onEdge Port.now
  dsimp only
  rw [hclock]
  cases level with
  | low =>
    dsimp only
    split <;> rfl
  | high =>
    dsimp only
    rw [raise_lineRising, raise_lineRising]
    split <;> rfl

theorem hardware_onEdge (level : LineLevel) : (p.onEdge hw level).hardware = p.hardware := by
  show ({ p with hardware := p.hardware }.onEdge hw level).hardware = p.hardware
  rw [onEdge_of_hardware level rfl]

end Port

end LightBus
