import LightBus.Proofs.Port.Coupling
import LightBus.Proofs.Port.Masks
import LightBus.Proofs.Session.Failing

/-!
# Watching a port

A `Watcher` takes notes about a port.  It hears of calls of the hardware, and it looks at the port after each event
that the bus has handled and after each step of a task, so that one thing at most is done between two looks.  The
notes lie beside the hardware, where nobody else reads or changes them: what happens to a port that is watched is what
happens to it otherwise (`Incident.bare_occur`).

An `Environment` tells what others do between two steps of a task and while it pauses.  `Act.run` is a run of calls
and of what happens between them.
-/

namespace LightBus

variable {η ε α τ : Type}

/-! ### Watchers -/

/-- How notes of type `τ` are taken. -/
structure Watcher (η τ : Type) where
  /-- Bytes are put into the transmit fifo. -/
  writes (bytes : List UInt8) (notes : τ) : τ
  /-- Interrupts are enabled, the transceiver is turned to transmit, the line is inverted, or the alarm is set. -/
  stirs (notes : τ) : τ
  /-- A task begins a call. -/
  begins (notes : τ) : τ
  /-- The port is looked at.  What has been done to it since the last look was done at the time of that look. -/
  looks (now : Nat) (p : Port η) (notes : τ) : τ

/-- The computation, with a note about it. -/
def Run.noting (a : Run η ε α) (note : τ → τ) : Run (η × τ) ε α := a.within Prod.fst fun s h => (h, note s.2)

/-- The hardware with notes beside it. -/
def Hardware.watched (hw : Hardware η ε) (watcher : Watcher η τ) : Hardware (η × τ) ε where
  attachUart := hw.attachUart.beside
  detachUart := hw.detachUart.beside
  setBaud baud := (hw.setBaud baud).beside
  readFifo size := (hw.readFifo size).beside
  discardFifo h := ((hw.discardFifo h.1).1, (hw.discardFifo h.1).2, h.2)
  space h := hw.space h.1
  writeFifo bytes := (hw.writeFifo bytes).noting (watcher.writes bytes)
  resetRxFifo := hw.resetRxFifo.beside
  resetTxFifo := hw.resetTxFifo.beside
  interrupts h := hw.interrupts h.1
  enable set h := (hw.enable set h.1, watcher.stirs h.2)
  disable set h := (hw.disable set h.1, h.2)
  clear set h := (hw.clear set h.1, h.2)
  turn direction := (hw.turn direction).noting (if direction = .transmit then watcher.stirs else id)
  invert inverted := (hw.invert inverted).noting (if inverted then watcher.stirs else id)
  attachTimer := hw.attachTimer.beside
  detachTimer := hw.detachTimer.beside
  clock h := hw.clock h.1
  setAlarm micros := (hw.setAlarm micros).noting watcher.stirs
  cancelAlarm := hw.cancelAlarm.beside

namespace Port

/-- The port without the notes. -/
def bare (p : Port (η × τ)) : Port η where
  hardware := p.hardware.1
  bus := p.bus
  meter := p.meter
  estimator := p.estimator
  hasEdges := p.hasEdges
  enabled := p.enabled
  baud := p.baud
  transaction := p.transaction
  lastTransfer := p.lastTransfer
  notice := p.notice
  tickets := p.tickets

/-- The port with the first notes about it. -/
def watched (p : Port η) (notes : τ) : Port (η × τ) where
  hardware := (p.hardware, notes)
  bus := p.bus
  meter := p.meter
  estimator := p.estimator
  hasEdges := p.hasEdges
  enabled := p.enabled
  baud := p.baud
  transaction := p.transaction
  lastTransfer := p.lastTransfer
  notice := p.notice
  tickets := p.tickets

/-- The port after a look at it. -/
def seen (watcher : Watcher η τ) (now : Nat) (p : Port (η × τ)) : Port (η × τ) :=
  { p with hardware := (p.hardware.1, watcher.looks now p.bare p.hardware.2) }

/-- The uart interrupts of a port that is watched. -/
def attend (hw : Hardware η ε) (watcher : Watcher η τ) (p : Port (η × τ)) : Port (η × τ) :=
  let pending := hw.interrupts p.hardware.1
  if pending.isEmpty then p
  else
    let p := { p with hardware := (hw.clear pending p.hardware.1, p.hardware.2) }
    let now := hw.clock p.hardware.1
    let look := seen watcher now
    look <| sendDone (hw.watched watcher) pending now <| look <| sendSlots (hw.watched watcher) pending now <|
      look <| receiveCollision (hw.watched watcher) pending now <| look <| receiveBreak (hw.watched watcher)
        pending now <|
        look <| receiveSlots (hw.watched watcher) pending now <| look p

end Port

/-! ### What happens -/

/-- Something that others do with a port. -/
inductive Incident (η : Type) where
  | uart
  | alarm
  | edge (level : LineLevel)
  /-- Time goes by, slots come in, interrupts become pending. -/
  | goesOn (change : η → η)
  | enable
  | disable
  | setMode (mode : Mode)
  | setBaud (baud : UInt32)
  | setBreak (micros : UInt32)
  | setMark (micros : UInt32)

namespace Incident

/-- The port after something has happened. -/
def happen (hw : Hardware η ε) (p : Port η) : Incident η → Port η
  | .uart => p.onUart hw
  | .alarm => p.onAlarm hw
  | .edge level => p.onEdge hw level
  | .goesOn change => { p with hardware := change p.hardware }
  | .enable => ((Port.enable hw).runFrom p).2
  | .disable => ((Port.disable hw).runFrom p).2
  | .setMode mode => ((Port.setMode mode : Run (Port η) (PortError ε) Unit).runFrom p).2
  | .setBaud baud => ((Port.setBaud hw baud).runFrom p).2
  | .setBreak micros => (p.setBreak micros).2
  | .setMark micros => (p.setMark micros).2

/-- The same where there are notes. -/
def beside : Incident η → Incident (η × τ)
  | .uart => .uart
  | .alarm => .alarm
  | .edge level => .edge level
  | .goesOn change => .goesOn fun h => (change h.1, h.2)
  | .enable => .enable
  | .disable => .disable
  | .setMode mode => .setMode mode
  | .setBaud baud => .setBaud baud
  | .setBreak micros => .setBreak micros
  | .setMark micros => .setMark micros

/-- A port that is watched, after something has happened.  While interrupts are served it is looked at again and
again. -/
def occur (hw : Hardware η ε) (watcher : Watcher η τ) (p : Port (η × τ)) (incident : Incident η) : Port (η × τ) :=
  let p := match incident with
    | .uart => p.attend hw watcher
    | other => other.beside.happen (hw.watched watcher) p
  p.seen watcher (hw.clock p.hardware.1)

end Incident

/-- What others do between two steps of a task, and while it pauses. -/
structure Environment (η τ : Type) where
  between : Port (η × τ) → List (Incident η)
  pause : Port (η × τ) → List (Incident η)

/-- The world of a task whose port is watched.  After each step there is a look at the port. -/
def Environment.world (e : Environment η τ) (hw : Hardware η ε) (watcher : Watcher η τ) : World (η × τ) ε where
  hardware := hw.watched watcher
  between p := (e.between p).foldl (Incident.occur hw watcher) (p.seen watcher (hw.clock p.hardware.1))
  pause p := (e.pause p).foldl (Incident.occur hw watcher) p

/-- What is done with a port. -/
inductive Act (η τ : Type) where
  | incident (i : Incident η)
  | call (e : Environment η τ) (c : Session.Call)

namespace Act

def perform (hw : Hardware η ε) (watcher : Watcher η τ) (p : Port (η × τ)) : Act η τ → Port (η × τ)
  | .incident i => i.occur hw watcher p
  | .call e c =>
    Session.afterCall (e.world hw watcher) c { p with hardware := (p.hardware.1, watcher.begins p.hardware.2) }

/-- The port after a run. -/
def run (hw : Hardware η ε) (watcher : Watcher η τ) (acts : List (Act η τ)) (p : Port (η × τ)) : Port (η × τ) :=
  acts.foldl (perform hw watcher) p

end Act

/-! ### Effects -/

/-- What an effect is noted as. -/
def Watcher.hears (watcher : Watcher η τ) (frame : List UInt8) : Effect → τ → τ
  | .enableRx | .enableTx | .setAlarm _ | .turn .transmit | .invert true => watcher.stirs
  | .writeFifo first last => watcher.writes (slice frame first (last - first))
  | _ => id

/-- A watcher that only looks hears nothing. -/
theorem Watcher.hears_of_silent {watcher : Watcher η τ} (hwrites : ∀ bytes notes, watcher.writes bytes notes = notes)
    (hstirs : ∀ notes, watcher.stirs notes = notes) (frame : List UInt8) (effects : List Effect) (notes : τ) :
    effects.foldl (fun notes effect => watcher.hears frame effect notes) notes = notes := by
  induction effects with
  | nil => rfl
  | cons effect rest ih =>
    rw [List.foldl_cons]
    refine Eq.trans ?_ ih
    congr 1
    cases effect with
    | enableRx | enableTx | setAlarm => exact hstirs notes
    | writeFifo first last => exact hwrites _ notes
    | turn direction =>
      cases direction with
      | transmit => exact hstirs notes
      | receive => rfl
    | invert inverted =>
      cases inverted with
      | true => exact hstirs notes
      | false => rfl
    | _ => rfl

namespace Port

variable {hw : Hardware η ε} {watcher : Watcher η τ} {p : Port (η × τ)}

private theorem bare_apply (effect : Effect) :
    ((apply (hw.watched watcher) effect).runFrom p).1 = ((apply hw effect).runFrom p.bare).1 ∧
      ((apply (hw.watched watcher) effect).runFrom p).2.bare = ((apply hw effect).runFrom p.bare).2 := by
  have honHardware (wrap : ε → PortError ε) (a : Run η ε Unit) (note : τ → τ) :
      let watched : Run (Port (η × τ)) (PortError ε) (Option Notice) :=
        do onHardware wrap (a.noting note); return none
      let plain : Run (Port η) (PortError ε) (Option Notice) := do onHardware wrap a; return none
      (watched.runFrom p).1 = (plain.runFrom p.bare).1 ∧ (watched.runFrom p).2.bare = (plain.runFrom p.bare).2 := by
    dsimp only
    rw [Run.runFrom_bind, Run.runFrom_bind, runFrom_onHardware, runFrom_onHardware]
    have hresult : ((a.noting note).runFrom p.hardware).1 = (a.runFrom p.bare.hardware).1 := rfl
    rw [hresult]
    cases (a.runFrom p.bare.hardware).1 <;> exact ⟨rfl, rfl⟩
  cases effect with
  | resetRxFifo => exact honHardware _ hw.resetRxFifo id
  | turn direction => exact honHardware _ (hw.turn direction) _
  | invert inverted => exact honHardware _ (hw.invert inverted) _
  | setAlarm micros => exact honHardware _ (hw.setAlarm micros) _
  | cancelAlarm => exact honHardware _ hw.cancelAlarm id
  | writeFifo first last =>
    rw [apply, apply, Run.runFrom_bind, Run.runFrom_bind, Run.runFrom_get, Run.runFrom_get]
    exact honHardware _ (hw.writeFifo _) _
  | enableRx | disableRx | enableTx | disableTxData | disableTx => exact ⟨rfl, rfl⟩
  | notify n => exact ⟨rfl, rfl⟩

private theorem bare_applyAll (effects : List Effect) :
    (applyAll (hw.watched watcher) effects p).1 = (applyAll hw effects p.bare).1 ∧
      (applyAll (hw.watched watcher) effects p).2.bare = (applyAll hw effects p.bare).2 := by
  induction effects generalizing p with
  | nil => exact ⟨rfl, rfl⟩
  | cons effect rest ih =>
    obtain ⟨hresult, hbare⟩ : ((apply (hw.watched watcher) effect).runFrom p).1 = _ ∧ _ := bare_apply effect
    obtain ⟨hrest, hend⟩ := ih (p := ((apply (hw.watched watcher) effect).runFrom p).2)
    rw [hbare] at hrest hend
    rw [applyAll_cons, applyAll_cons]
    refine ⟨?_, hend⟩
    unfold applyAll
    dsimp only
    rw [hresult, hrest]
    split <;> rfl

/-- Each effect is noted after the ones before it. -/
theorem notes_applyAll (effects : List Effect) :
    (applyAll (hw.watched watcher) effects p).2.hardware.2 =
      effects.foldl (fun notes effect => watcher.hears p.bus.frame effect notes) p.hardware.2 := by
  have hnotes (p : Port (η × τ)) (effect : Effect) :
      ((apply (hw.watched watcher) effect).runFrom p).2.hardware.2 =
        watcher.hears p.bus.frame effect p.hardware.2 := by
    cases effect with
    | resetRxFifo | setAlarm | cancelAlarm =>
      rw [apply, runFrom_onHardware_none]
      rfl
    | turn direction =>
      rw [apply, runFrom_onHardware_none]
      cases direction <;> rfl
    | invert inverted =>
      rw [apply, runFrom_onHardware_none]
      cases inverted <;> rfl
    | writeFifo first last =>
      rw [runFrom_apply_writeFifo]
      rfl
    | enableRx | disableRx | enableTx | disableTxData | disableTx | notify => rfl
  induction effects generalizing p with
  | nil => rfl
  | cons effect rest ih =>
    rw [applyAll_cons, ih, hnotes, apply_frame]
    rfl

/-! ### Events -/

theorem bare_dispatchAt (event : BusEvent) (now : Nat) :
    (dispatchAt (hw.watched watcher) event now p).1 = (dispatchAt hw event now p.bare).1 ∧
      (dispatchAt (hw.watched watcher) event now p).2.bare = (dispatchAt hw event now p.bare).2 :=
  bare_applyAll (p := { p with bus := (p.bus.handle event now).2 }) (p.bus.handle event now).1

theorem notes_dispatchAt (event : BusEvent) (now : Nat) :
    (dispatchAt (hw.watched watcher) event now p).2.hardware.2 =
      (p.bus.handle event now).1.foldl (fun notes effect => watcher.hears p.bus.frame effect notes) p.hardware.2 := by
  rw [dispatchAt, notes_applyAll]
  show List.foldl (fun notes effect => watcher.hears (p.bus.handle event now).2.frame effect notes) _ _ = _
  rw [Bus.frame_handle]

theorem bare_raise (event : BusEvent) (now : Nat) :
    (p.raise (hw.watched watcher) event now).bare = p.bare.raise hw event now := by
  obtain ⟨hresult, hbare⟩ : (dispatchAt (hw.watched watcher) event now p).1 = _ ∧ _ := bare_dispatchAt event now
  have hsignal (q : Port (η × τ)) (n : Option Notice) : (q.signal n).bare = q.bare.signal n := by
    cases n <;> rfl
  unfold raise
  dsimp only
  rw [hsignal, hresult, hbare]

theorem notes_raise (event : BusEvent) (now : Nat) :
    (p.raise (hw.watched watcher) event now).hardware.2 =
      (p.bus.handle event now).1.foldl (fun notes effect => watcher.hears p.bus.frame effect notes) p.hardware.2 := by
  rw [raise_eq_signal, signal_frame]
  exact notes_dispatchAt event now

theorem bare_startFrame (size : Nat) (withBreak : Bool) :
    (Session.startFrame (hw.watched watcher) size withBreak p).2.bare =
      (Session.startFrame hw size withBreak p.bare).2 := by
  have hstamp : (Session.stamp p size withBreak).bare = Session.stamp p.bare size withBreak := by
    unfold Session.stamp
    by_cases hrequest : (!Session.isReply (p.bus.frame.take size) withBreak && Frame.isRequest
      (p.bus.frame.take size)) = true
    · exact (congrArg bare (if_pos hrequest)).trans (if_pos hrequest).symm
    · exact (congrArg bare (if_neg hrequest)).trans (if_neg hrequest).symm
  unfold Session.startFrame dispatch
  dsimp only
  rw [← hstamp]
  exact (bare_dispatchAt _ _).2

theorem notes_startFrame (size : Nat) (withBreak : Bool) :
    (Session.startFrame (hw.watched watcher) size withBreak p).2.hardware.2 =
      ((Session.stamp p size withBreak).bus.startTransmit size (Frame.expectsResponse (p.bus.frame.take size))
        withBreak (hw.space p.hardware.1)).1.foldl
          (fun notes effect => watcher.hears (Session.stamp p size withBreak).bus.frame effect notes)
            p.hardware.2 := by
  unfold Session.startFrame dispatch
  dsimp only
  rw [notes_dispatchAt, Session.hardware_stamp]
  rfl

/-! ### Interrupts -/

section

variable (pending : Interrupts) (now : Nat)

theorem bare_receiveSlots :
    (p.receiveSlots (hw.watched watcher) pending now).bare = p.bare.receiveSlots hw pending now := by
  unfold receiveSlots
  by_cases hfault : pending.intersects (.union .rxFraming .rxOverflow) = true
  · rw [if_pos hfault, if_pos hfault]
    exact bare_raise _ _
  rw [if_neg hfault, if_neg hfault]
  by_cases hdata : pending.intersects .rxData = true
  · rw [if_pos hdata, if_pos hdata]
    dsimp only
    have hcount : (p.drain (hw.watched watcher)).1 = (p.bare.drain hw).1 := rfl
    rw [hcount]
    split
    · rfl
    · exact bare_raise _ _
  · rw [if_neg hdata, if_neg hdata]

private theorem bare_receiveBreak :
    (p.receiveBreak (hw.watched watcher) pending now).bare = p.bare.receiveBreak hw pending now := by
  unfold receiveBreak
  split
  · exact bare_raise _ _
  · rfl

private theorem bare_receiveCollision :
    (p.receiveCollision (hw.watched watcher) pending now).bare = p.bare.receiveCollision hw pending now := by
  unfold receiveCollision
  split
  · exact bare_raise _ _
  · rfl

private theorem bare_sendSlots :
    (p.sendSlots (hw.watched watcher) pending now).bare = p.bare.sendSlots hw pending now := by
  unfold sendSlots
  split
  · exact bare_raise _ _
  · rfl

private theorem bare_sendDone :
    (p.sendDone (hw.watched watcher) pending now).bare = p.bare.sendDone hw pending now := by
  unfold sendDone
  split
  · exact bare_raise _ _
  · rfl

end

private theorem bare_attend : (p.attend hw watcher).bare = p.bare.onUart hw := by
  rw [onUart_of_interrupts _ rfl]
  unfold attend
  dsimp only
  split
  · rename_i hempty
    exact (if_pos hempty).symm
  · rename_i hpending
    refine Eq.trans ?_ (if_neg hpending).symm
    have hlook (now : Nat) (q : Port (η × τ)) : (q.seen watcher now).bare = q.bare := rfl
    simp only [hlook, bare_sendDone, bare_sendSlots, bare_receiveCollision, bare_receiveBreak, bare_receiveSlots]
    rfl

private theorem bare_onEdge (level : LineLevel) :
    (p.onEdge (hw.watched watcher) level).bare = p.bare.onEdge hw level := by
  have hmeasured (now : Nat) :
      (if p.hasEdges then { p with meter := p.meter.onEdge level now } else p).bare =
        if p.bare.hasEdges then { p.bare with meter := p.bare.meter.onEdge level now } else p.bare := by
    show _ = if p.hasEdges then _ else _
    split <;> rfl
  unfold onEdge
  cases level with
  | high =>
    dsimp only
    rw [bare_raise, hmeasured]
    rfl
  | low => exact hmeasured _

/-! ### Switching -/

theorem bare_enable : ((enable (hw.watched watcher)).runFrom p).2.bare = ((enable hw).runFrom p.bare).2 := by
  have hswitched : ((switchOn (hw.watched watcher)).runFrom p).2.bare = ((switchOn hw).runFrom p.bare).2 := by
    cases henabled : p.enabled with
    | true =>
      have hbare : p.bare.enabled = true := henabled
      rw [runFrom_switchOn_of_enabled henabled, runFrom_switchOn_of_enabled hbare]
    | false =>
      have hbare : p.bare.enabled = false := henabled
      rcases hreset : hw.resetTxFifo.runFrom p.bare.hardware with ⟨error | _, hardware⟩
      · have hwatched :
            (hw.watched watcher).resetTxFifo.runFrom p.hardware = (.error error, (hardware, p.hardware.2)) :=
          congrArg (fun r => (r.1, (r.2, p.hardware.2))) hreset
        rw [runFrom_switchOn_of_refused henabled hwatched, runFrom_switchOn_of_refused hbare hreset]
        rfl
      · have hwatched : (hw.watched watcher).resetTxFifo.runFrom p.hardware = (.ok (), (hardware, p.hardware.2)) :=
          congrArg (fun r => (r.1, (r.2, p.hardware.2))) hreset
        rw [runFrom_switchOn_of_reset henabled hwatched, runFrom_switchOn_of_reset hbare hreset]
        exact (bare_applyAll _).2
  exact congrArg (fun q : Port η => { q with notice := none }) hswitched

theorem bare_stopBus : (stopBus (hw.watched watcher) p).2.bare = (stopBus hw p.bare).2 := by
  exact (bare_applyAll (p := { p with bus := p.bus.stop.2 }) p.bus.stop.1).2

private theorem bare_disable :
    ((disable (hw.watched watcher)).runFrom p).2.bare = ((disable hw).runFrom p.bare).2 := by
  show (if !p.enabled then ((.ok () : Except (PortError ε) Unit), p)
    else if p.bus.isSending then (.error .stillSending, p)
    else stopBus (hw.watched watcher) { p with enabled := false }).2.bare =
      (if !p.enabled then ((.ok () : Except (PortError ε) Unit), p.bare)
      else if p.bus.isSending then (.error .stillSending, p.bare)
      else stopBus hw { p.bare with enabled := false }).2
  split
  · rfl
  split
  · rfl
  · exact bare_stopBus

private theorem bare_setMode (mode : Mode) :
    ((setMode mode : Run (Port (η × τ)) (PortError ε) Unit).runFrom p).2.bare =
      ((setMode mode : Run (Port η) (PortError ε) Unit).runFrom p.bare).2 := by
  show (if p.bus.isSending then ((.error .stillSending : Except (PortError ε) Unit), p)
    else (.ok (), { p with bus := { p.bus with mode } })).2.bare =
      (if p.bus.isSending then ((.error .stillSending : Except (PortError ε) Unit), p.bare)
      else (.ok (), { p.bare with bus := { p.bus with mode } })).2
  split <;> rfl

private theorem bare_setBaud (baud : UInt32) :
    ((setBaud (hw.watched watcher) baud).runFrom p).2.bare = ((setBaud hw baud).runFrom p.bare).2 := by
  unfold setBaud
  rw [Run.runFrom_bind, Run.runFrom_bind, runFrom_onHardware, runFrom_onHardware]
  have hset : ((hw.watched watcher).setBaud (clampBaud baud)).runFrom p.hardware =
      (((hw.setBaud (clampBaud baud)).runFrom p.hardware.1).1,
        (((hw.setBaud (clampBaud baud)).runFrom p.hardware.1).2, p.hardware.2)) := rfl
  have hplain : p.bare.hardware = p.hardware.1 := rfl
  rw [hset, hplain]
  rcases (hw.setBaud (clampBaud baud)).runFrom p.hardware.1 with ⟨_ | _, hardware⟩ <;> rfl

end Port

/-- The notes change nothing of what happens. -/
theorem Incident.bare_occur {hw : Hardware η ε} {watcher : Watcher η τ} {p : Port (η × τ)} (i : Incident η) :
    (i.occur hw watcher p).bare = i.happen hw p.bare := by
  cases i with
  | uart => exact Port.bare_attend
  | alarm => exact Port.bare_raise _ _
  | edge level => exact Port.bare_onEdge level
  | enable => exact Port.bare_enable
  | disable => exact Port.bare_disable
  | setMode mode => exact Port.bare_setMode mode
  | setBaud baud => exact Port.bare_setBaud baud
  | goesOn | setBreak | setMark => rfl

/-! ### Tasks alone begin -/

/-- The port may be switched on or off. -/
def Incident.switches : Incident η → Bool
  | .enable | .disable => true
  | _ => false

namespace Incident

variable {hw : Hardware η ε} {p : Port η} {i : Incident η}

theorem enabled_happen (hi : i.switches = false) : (i.happen hw p).enabled = p.enabled := by
  cases i with
  | uart => exact (Port.keptByInterrupts_enabled p.enabled).onUart rfl
  | alarm => exact Port.enabled_raise _ _
  | edge level => exact (Port.keptByInterrupts_enabled p.enabled).onEdge level rfl
  | enable | disable => cases hi
  | setMode mode =>
    show ((Port.setMode mode : Run (Port η) (PortError ε) Unit).runFrom p).2.enabled = p.enabled
    rcases Port.setMode_cases (ε := ε) mode p with hset | hset <;> rw [hset]
  | setBaud baud =>
    obtain ⟨rate, hset⟩ := Port.setBaud_frame hw baud p
    show ((Port.setBaud hw baud).runFrom p).2.enabled = p.enabled
    rw [hset]
  | goesOn | setBreak | setMark => rfl

/-- Nothing that others do begins a transmission. -/
theorem quiet_happen (hp : Quiet p) (hi : i.switches = false) : Quiet (i.happen hw p) := by
  cases i with
  | uart => exact Quiet.keptByInterrupts.onUart hp
  | alarm =>
    show Quiet (p.onAlarm hw)
    unfold Port.onAlarm
    exact hp.raise rfl _
  | edge level => exact Quiet.keptByInterrupts.onEdge level hp
  | enable | disable => cases hi
  | setMode mode =>
    show Quiet ((Port.setMode mode : Run (Port η) (PortError ε) Unit).runFrom p).2
    rcases Port.setMode_cases (ε := ε) mode p with hset | hset <;> rw [hset]
    · exact hp
    · exact ⟨hp.reachable.setMode mode, hp.idle⟩
  | setBaud baud =>
    obtain ⟨rate, hset⟩ := Port.setBaud_frame hw baud p
    show Quiet ((Port.setBaud hw baud).runFrom p).2
    rw [hset]
    exact ⟨hp.reachable, hp.idle⟩
  | goesOn => exact ⟨hp.reachable, hp.idle⟩
  | setBreak | setMark => exact ⟨hp.reachable.setTiming _, hp.idle⟩

end Incident

/-! ### Interrupt masks -/

section

variable {hw : Hardware η ε} {mask : η → Interrupts}

/-- When the hardware goes on, it leaves the interrupt mask alone. -/
def Incident.KeepsMask (mask : η → Interrupts) : Incident η → Prop
  | .goesOn change => ∀ h, mask (change h) = mask h
  | _ => True

namespace Port.Fits

variable {p : Port η}

theorem startFrame (h : p.Fits mask) (hlaw : hw.Masking mask) (size : Nat) (withBreak : Bool) :
    (Session.startFrame hw size withBreak p).2.Fits mask := by
  have hstamped : (Session.stamp p size withBreak).Fits mask := by
    unfold Session.stamp
    dsimp only
    split
    · exact h.of_eq rfl rfl rfl rfl rfl rfl rfl
    · exact h
  have hnoted (lastTransfer : LastTransfer) :
      Fits mask { Session.stamp p size withBreak with lastTransfer, notice := none } := hstamped.keep rfl rfl
  exact (hnoted _).dispatchAt hlaw _ _

end Port.Fits

end

/-! ### Invariants -/

/-- What holds after the slots were read, and bears the events that follow and the look after each of them, holds
after all of them. -/
theorem Port.attend_rule_of_read {hw : Hardware η ε} {watcher : Watcher η τ} {p : Port (η × τ)}
    {J I : Port (η × τ) → Prop} {pending : Interrupts} {now : Nat} (hpending : hw.interrupts p.hardware.1 = pending)
    (hnow : hw.clock (hw.clear pending p.hardware.1) = now) (hnothing : pending.isEmpty = true → I p)
    (hclear : J (seen watcher now { p with hardware := (hw.clear pending p.hardware.1, p.hardware.2) }))
    (hread : ∀ q : Port (η × τ), J q → I ((q.receiveSlots (hw.watched watcher) pending now).seen watcher now))
    (hraise : ∀ (q : Port (η × τ)) (event : BusEvent) (estimator : BreakEstimator), event.isRaisedFor pending = true →
      I q →
      I ((Port.raise (hw.watched watcher) event now { q with estimator }).seen watcher now))
    (hlook : ∀ q : Port (η × τ), I q → I (q.seen watcher now)) : I (p.attend hw watcher) := by
  subst hpending hnow
  unfold attend
  dsimp only
  split
  · rename_i hempty
    exact hnothing hempty
  generalize hw.clock (hw.clear (hw.interrupts p.hardware.1) p.hardware.1) = now at *
  generalize hw.interrupts p.hardware.1 = pending at *
  have hbreak {q : Port (η × τ)} (hq : I q) :
      I ((q.receiveBreak (hw.watched watcher) pending now).seen watcher now) := by
    unfold receiveBreak
    split
    · rename_i hraised
      exact hraise q .break _ hraised hq
    · exact hlook q hq
  have hcollision {q : Port (η × τ)} (hq : I q) :
      I ((q.receiveCollision (hw.watched watcher) pending now).seen watcher now) := by
    unfold receiveCollision
    split
    · rename_i hraised
      exact hraise q .collision q.estimator hraised hq
    · exact hlook q hq
  have hslots {q : Port (η × τ)} (hq : I q) :
      I ((q.sendSlots (hw.watched watcher) pending now).seen watcher now) := by
    unfold sendSlots
    split
    · rename_i hraised
      exact hraise q (.txReady _) q.estimator hraised hq
    · exact hlook q hq
  have hdone {q : Port (η × τ)} (hq : I q) : I ((q.sendDone (hw.watched watcher) pending now).seen watcher now) := by
    unfold sendDone
    split
    · rename_i hraised
      exact hraise q .txDone q.estimator hraised hq
    · exact hlook q hq
  exact hdone (hslots (hcollision (hbreak (hread _ hclear))))

/-- What holds after the interrupts were cleared, and bears what each of the handlers does and the look after it,
holds after all of them. -/
theorem Port.attend_rule {hw : Hardware η ε} {watcher : Watcher η τ} {p : Port (η × τ)} {I : Port (η × τ) → Prop}
    {pending : Interrupts} {now : Nat} (hpending : hw.interrupts p.hardware.1 = pending)
    (hnow : hw.clock (hw.clear pending p.hardware.1) = now) (hnothing : pending.isEmpty = true → I p)
    (hclear : I (seen watcher now { p with hardware := (hw.clear pending p.hardware.1, p.hardware.2) }))
    (hread : ∀ q : Port (η × τ), I q → I ((q.receiveSlots (hw.watched watcher) pending now).seen watcher now))
    (hraise : ∀ (q : Port (η × τ)) (event : BusEvent) (estimator : BreakEstimator), event.isRaisedFor pending = true →
      I q →
      I ((Port.raise (hw.watched watcher) event now { q with estimator }).seen watcher now))
    (hlook : ∀ q : Port (η × τ), I q → I (q.seen watcher now)) : I (p.attend hw watcher) :=
  attend_rule_of_read hpending hnow hnothing hclear hread hraise hlook

/-- Nothing else happens in the environment. -/
structure Environment.Only (e : Environment η τ) (ok : Incident η → Prop) : Prop where
  between (p : Port (η × τ)) : ∀ i ∈ e.between p, ok i
  pause (p : Port (η × τ)) : ∀ i ∈ e.pause p, ok i

/-- Only such things happen between the calls, only such within a call, and only such calls are made. -/
def Act.Permitted (ok within : Incident η → Prop) (allowed : Session.Call → Prop) : Act η τ → Prop
  | .incident i => ok i
  | .call e c => e.Only within ∧ allowed c

section

variable {hw : Hardware η ε} {watcher : Watcher η τ} {p : Port (η × τ)} {I : Port (η × τ) → Prop}
  {ok : Incident η → Prop} {e : Environment η τ}

private theorem Incident.keeps {incidents : List (Incident η)}
    (hI : ∀ (i : Incident η) (p : Port (η × τ)), ok i → I p → I (i.occur hw watcher p)) (hok : ∀ i ∈ incidents, ok i)
    (hp : I p) : I (incidents.foldl (occur hw watcher) p) := by
  induction incidents generalizing p with
  | nil => exact hp
  | cons i rest ih =>
    exact ih (fun j hj => hok j (List.mem_cons_of_mem _ hj)) (hI i p (hok i List.mem_cons_self) hp)

theorem Environment.Only.between_of (he : e.Only ok)
    (hI : ∀ (i : Incident η) (p : Port (η × τ)), ok i → I p → I (i.occur hw watcher p))
    (hp : I (p.seen watcher (hw.clock p.hardware.1))) : I ((e.world hw watcher).between p) :=
  Incident.keeps hI (he.between p) hp

theorem Environment.Only.keptByOthers (he : e.Only ok)
    (hI : ∀ (i : Incident η) (p : Port (η × τ)), ok i → I p → I (i.occur hw watcher p))
    (hseen : ∀ p : Port (η × τ), I p → I (p.seen watcher (hw.clock p.hardware.1))) :
    Session.KeptByOthers (e.world hw watcher) I where
  between hp := he.between_of hI (hseen _ hp)
  pause hp := Incident.keeps hI (he.pause _) hp

/-- An invariant that does not mind what a task writes down, or what it puts into the buffer. -/
theorem Environment.Only.keptByCalls (he : e.Only ok)
    (hI : ∀ (i : Incident η) (p : Port (η × τ)), ok i → I p → I (i.occur hw watcher p))
    (hbooks : ∀ {p p' : Port (η × τ)}, I p → p'.enabled = p.enabled → p'.hardware = p.hardware →
      (∃ frame, p'.bus = { p.bus with frame }) → I (p'.seen watcher (hw.clock p'.hardware.1)))
    (hlisten : ∀ p : Port (η × τ), I p → p.enabled = true → I ((e.world hw watcher).between
      (((e.world hw watcher).between p).dispatch (hw.watched watcher) .receiveRequested).2))
    (hstart : ∀ (p q : Port (η × τ)) (size : Nat) (withBreak : Bool), I p → size ≠ 0 →
      (Session.ready (e.world hw watcher) size withBreak).runFrom p = (.ok (), q) →
        I ((e.world hw watcher).between (Session.startFrame (hw.watched watcher) size withBreak q).2)) :
    Session.KeptByCalls (e.world hw watcher) I := by
  have hothers : Session.KeptByOthers (e.world hw watcher) I :=
    he.keptByOthers hI fun _ hp => hbooks hp rfl rfl ⟨_, rfl⟩
  have hstep {p p' : Port (η × τ)} (hp : I p) (henabled : p'.enabled = p.enabled)
    (hhardware : p'.hardware = p.hardware)
      (hbus : ∃ frame, p'.bus = { p.bus with frame }) : I ((e.world hw watcher).between p') :=
    he.between_of hI (hbooks hp henabled hhardware hbus)
  have htake {p : Port (η × τ)} (hp : I p) : I ((e.world hw watcher).between { p with notice := none }) :=
    hstep hp rfl rfl ⟨_, rfl⟩
  exact {
    toKeptByOthers := hothers
    listen := fun hp hon => hlisten _ hp hon
    take := htake
    answer := fun {p q n} hp _ _ _ hq => by
      have hq : I q := hq ▸ htake hp
      exact hstep hq rfl rfl ⟨_, rfl⟩
    start := fun hp hsize hready => hstart _ _ _ _ hp hsize hready
    write := fun _ _ hp _ => hstep hp rfl rfl ⟨_, rfl⟩
    put := fun _ hp hsent => hstep ((hothers.waitSent _).of_runFrom hp hsent) rfl rfl ⟨_, rfl⟩
    ticket := fun hp => hstep hp rfl rfl ⟨_, rfl⟩ }

theorem Act.keeps {within : Incident η → Prop} {allowed : Session.Call → Prop} {acts : List (Act η τ)}
    (hI : ∀ (i : Incident η) (p : Port (η × τ)), ok i → I p → I (i.occur hw watcher p))
    (hcall : ∀ (e : Environment η τ) (c : Session.Call) (p : Port (η × τ)), e.Only within → allowed c → I p →
      I (Session.afterCall (e.world hw watcher) c { p with hardware := (p.hardware.1, watcher.begins p.hardware.2) }))
    (hacts : ∀ act ∈ acts, act.Permitted ok within allowed) (hp : I p) : I (Act.run hw watcher acts p) := by
  unfold run
  induction acts generalizing p with
  | nil => exact hp
  | cons act rest ih =>
    refine ih (fun other hother => hacts other (List.mem_cons_of_mem _ hother)) ?_
    have hact := hacts act List.mem_cons_self
    cases act with
    | incident i => exact hI i p hact hp
    | call e c => exact hcall e c p hact.1 hact.2 hp

end

end LightBus
