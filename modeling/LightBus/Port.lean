import LightBus.Bus
import LightBus.Failure
import LightBus.Hardware
import LightBus.Port.Tickets
import LightBus.Timing.Spacing

/-!
# Ports

A port is the state of a bus together with the hardware that drives it. It does what the bus wants done
(`Port.dispatch`), answers the interrupts of the hardware (`Port.onUart`, `Port.onAlarm`, `Port.onEdge`), and
keeps the latest notice of the bus until a task takes it. A newer notice replaces one that nobody has taken.

Each of these operations runs as a whole; whatever else uses the port comes before or after it.
-/

namespace LightBus

/-- Why a port cannot do what it is asked for. -/
inductive PortError (ε : Type) where
  | disabled
  /-- A frame is still being sent. -/
  | stillSending
  /-- The request came in too long ago for an answer. -/
  | tooLateToRespond
  | frameTooLarge
  /-- Time does not go on, so that waiting for it has no end. -/
  | clockStopped
  | uart (error : ε)
  | timer (error : ε)

namespace PortError

variable {ε : Type} [Failure ε]

def message : PortError ε → String
  | .disabled => "port is disabled"
  | .stillSending => "port is still sending"
  | .tooLateToRespond => "responder window expired"
  | .frameTooLarge => "frame too large"
  | .clockStopped => "clock has stopped"
  | .uart error | .timer error => Failure.message error

def kind : PortError ε → String
  | .disabled => "Disabled"
  | .stillSending => "StillSending"
  | .tooLateToRespond => "TooLateToRespond"
  | .frameTooLarge => "FrameTooLarge"
  | .clockStopped => "ClockStopped"
  | .uart error => "Uart." ++ Failure.kind error
  | .timer error => "Timer." ++ Failure.kind error

instance : Failure (PortError ε) := ⟨kind, message⟩

end PortError

/-- How a port is set up. -/
structure PortConfig where
  baud : UInt32
  breakLength : UInt32
  markLength : UInt32
  mode : Mode
  /-- The hardware tells the edges of the line, so that breaks can be measured. -/
  hasEdges : Bool
deriving DecidableEq

/-- The setting that fits every bus. -/
def PortConfig.standard : PortConfig := ⟨standardBaud, standardBreak, standardMark, .controller, false⟩

/-- A port on hardware with states `η`. -/
structure Port (η : Type) where
  hardware : η
  bus : Bus
  meter : EdgeMeter
  estimator : BreakEstimator
  hasEdges : Bool
  enabled : Bool
  baud : UInt32
  /-- The transaction number of the next request. -/
  transaction : UInt8
  lastTransfer : LastTransfer
  /-- What the bus reported last, until a task takes it. -/
  notice : Option Notice
  tickets : Tickets

/-- What came of an event: the latest notice, and the first error of the hardware. -/
structure Applied (ε : Type) where
  notice : Option Notice
  result : Except (PortError ε) Unit

namespace Port

variable {η ε α : Type}

/-! ### Effects -/

def onHardware (wrap : ε → PortError ε) (a : Run η ε α) : Run (Port η) (PortError ε) α :=
  (a.mapError wrap).within Port.hardware fun p hardware => { p with hardware }

def set (f : η → η) : Run (Port η) (PortError ε) Unit :=
  modify fun p => { p with hardware := f p.hardware }

/-- The break and mark that were seen last. -/
def latestTiming (p : Port η) : Option BreakMeasurement :=
  if p.hasEdges then p.meter.latest else p.estimator.latest

/-- What was received after a break tells the timing of the break. -/
def withTiming (p : Port η) (n : Notice) : Notice :=
  match n.origin, n.kind with
  | .receive, .levels _ | .receive, .package => { n with timing := p.latestTiming }
  | _, _ => n

/-- Does what one effect asks for. -/
def apply (hw : Hardware η ε) : Effect → Run (Port η) (PortError ε) (Option Notice)
  | .resetRxFifo => do onHardware .uart hw.resetRxFifo; return none
  | .enableRx => do set fun h => hw.enable .allRx (hw.clear .allRx h); return none
  | .disableRx => do set (hw.disable .allRx); return none
  | .enableTx => do set fun h => hw.enable .allTx (hw.clear .allTx h); return none
  | .disableTxData => do set (hw.disable .txData); return none
  | .disableTx => do set (hw.disable .allTx); return none
  | .turn direction => do onHardware .uart (hw.turn direction); return none
  | .invert inverted => do onHardware .uart (hw.invert inverted); return none
  | .setAlarm micros => do onHardware .timer (hw.setAlarm micros); return none
  | .cancelAlarm => do onHardware .timer hw.cancelAlarm; return none
  | .writeFifo first last => do
    let p ← MonadState.get
    onHardware .uart (hw.writeFifo (slice p.bus.frame first (last - first)))
    return none
  | .notify n => do
    let p ← MonadState.get
    return some (p.withTiming n)

/-- Does what all effects ask for, also after one of them has failed. -/
def applyAll (hw : Hardware η ε) : List Effect → Port η → Applied ε × Port η
  | [], p => (⟨none, .ok ()⟩, p)
  | effect :: rest, p =>
    let (result, p) := (apply hw effect).runFrom p
    let (applied, p) := applyAll hw rest p
    match result with
    | .ok notice => (⟨applied.notice <|> notice, applied.result⟩, p)
    | .error error => (⟨applied.notice, .error error⟩, p)

/-- The time of the hardware. -/
def now (hw : Hardware η ε) (p : Port η) : Nat := hw.clock p.hardware

def dispatchAt (hw : Hardware η ε) (event : BusEvent) (now : Nat) (p : Port η) : Applied ε × Port η :=
  let (effects, bus) := p.bus.handle event now
  applyAll hw effects { p with bus }

/-- Lets the bus handle an event. -/
def dispatch (hw : Hardware η ε) (event : BusEvent) (p : Port η) : Applied ε × Port η :=
  dispatchAt hw event (p.now hw) p

/-- A notice waits to be taken. -/
def signal (p : Port η) : Option Notice → Port η
  | some notice => { p with notice := some notice }
  | none => p

/-! ### Interrupts -/

/-- Lets the bus handle an event that an interrupt stands for. Nobody is told about errors of the hardware. -/
def raise (hw : Hardware η ε) (event : BusEvent) (now : Nat) (p : Port η) : Port η :=
  let (applied, p) := dispatchAt hw event now p
  p.signal applied.notice

/-- Received slots go to the frame buffer. Those that it has no room for are dropped, but counted. -/
def drain (hw : Hardware η ε) (p : Port η) : Nat × Port η :=
  let (read, hardware) := (hw.readFifo p.bus.window).runFrom p.hardware
  let slots := read.toOption.getD []
  let (dropped, hardware) := hw.discardFifo hardware
  (slots.length + dropped, { p with hardware, bus := p.bus.fill slots })

def receiveSlots (hw : Hardware η ε) (pending : Interrupts) (now : Nat) (p : Port η) : Port η :=
  if pending.intersects (.union .rxFraming .rxOverflow) then
    let (count, p) := drain hw p
    p.raise hw (.lineFault (if pending.intersects .rxOverflow then .overflow else .framing) count) now
  else if pending.intersects .rxData then
    let (count, p) := drain hw p
    if count = 0 then p
    else { p with estimator := p.estimator.onData now count }.raise hw (.received count) now
  else p

def receiveBreak (hw : Hardware η ε) (pending : Interrupts) (now : Nat) (p : Port η) : Port η :=
  if pending.intersects .rxBreak then { p with estimator := p.estimator.onBreak now }.raise hw .break now else p

def receiveCollision (hw : Hardware η ε) (pending : Interrupts) (now : Nat) (p : Port η) : Port η :=
  if pending.intersects .rxCollision then p.raise hw .collision now else p

def sendSlots (hw : Hardware η ε) (pending : Interrupts) (now : Nat) (p : Port η) : Port η :=
  if pending.intersects .txData then p.raise hw (.txReady (hw.space p.hardware)) now else p

def sendDone (hw : Hardware η ε) (pending : Interrupts) (now : Nat) (p : Port η) : Port η :=
  if pending.intersects .txDone then p.raise hw .txDone now else p

/-- The uart interrupts. What is pending is looked at once, so that it is also served if it changes meanwhile. -/
def onUart (hw : Hardware η ε) (p : Port η) : Port η :=
  let pending := hw.interrupts p.hardware
  if pending.isEmpty then p
  else
    let p := { p with hardware := hw.clear pending p.hardware }
    let now := p.now hw
    sendDone hw pending now <| sendSlots hw pending now <| receiveCollision hw pending now <|
      receiveBreak hw pending now <| receiveSlots hw pending now p

/-- The timer rings. -/
def onAlarm (hw : Hardware η ε) (p : Port η) : Port η := p.raise hw (.alarm (hw.space p.hardware)) (p.now hw)

/-- The line changes to `level`. -/
def onEdge (hw : Hardware η ε) (level : LineLevel) (p : Port η) : Port η :=
  let now := p.now hw
  let p := if p.hasEdges then { p with meter := p.meter.onEdge level now } else p
  match level with
  | .high => p.raise hw .lineRising now
  | .low => p

/-! ### Set-up -/

/-- A port that could not be installed, and the hardware with everything detached again. -/
structure InstallFailure (η ε : Type) where
  error : PortError ε
  hardware : η

def InstallFailure.message [Failure ε] (f : InstallFailure η ε) : String :=
  "installing the port failed: " ++ f.error.message

/-- Attaches uart and timer. What was attached is detached again if something fails after it. -/
def install (hw : Hardware η ε) (config : PortConfig) (hardware : η) :
    Except (InstallFailure η ε) (Port η) :=
  match hw.attachUart.runFrom hardware with
  | (.error e, h) => .error ⟨.uart e, h⟩
  | (.ok (), h) =>
    match (hw.setBaud (clampBaud config.baud)).runFrom h with
    | (.error e, h) => .error ⟨.uart e, (hw.detachUart.runFrom h).2⟩
    | (.ok (), h) =>
      match hw.attachTimer.runFrom (hw.disable (.union .allRx .allTx) h) with
      | (.error e, h) => .error ⟨.timer e, (hw.detachUart.runFrom h).2⟩
      | (.ok (), h) =>
        .ok {
          hardware := h
          bus := .new config.mode (.clamped config.breakLength config.markLength)
          meter := .new
          estimator := .new
          hasEdges := config.hasEdges
          enabled := false
          baud := clampBaud config.baud
          transaction := 0
          lastTransfer := .idle
          notice := none
          tickets := .new }

def switchOn (hw : Hardware η ε) : Run (Port η) (PortError ε) Unit := do
  if (← MonadState.get).enabled then return ()
  onHardware .uart hw.resetTxFifo
  modify fun p => { p with enabled := true }
  Run.of fun p =>
    let (effects, bus) := p.bus.start
    let (applied, p) := applyAll hw effects { p with bus }
    (applied.result, p)

/-- The port begins to receive. A notice that nobody has taken is lost. -/
def enable (hw : Hardware η ε) : Run (Port η) (PortError ε) Unit := fun p =>
  let (result, p) := (switchOn hw).runFrom p
  (result, { p with notice := none })

def stopBus (hw : Hardware η ε) (p : Port η) : Except (PortError ε) Unit × Port η :=
  let (effects, bus) := p.bus.stop
  let (applied, p) := applyAll hw effects { p with bus }
  (applied.result, p)

/-- The port does nothing from now on. A frame on its way has to be sent first. -/
def disable (hw : Hardware η ε) : Run (Port η) (PortError ε) Unit := fun p =>
  if !p.enabled then (.ok (), p)
  else if p.bus.isSending then (.error .stillSending, p)
  else stopBus hw { p with enabled := false }

/-- Gives up the port, and detaches the hardware as far as it can be detached. -/
def delete (hw : Hardware η ε) (p : Port η) : η :=
  let (_, p) := stopBus hw p
  (hw.detachTimer.runFrom (hw.detachUart.runFrom p.hardware).2).2

/-! ### Settings -/

/-- A frame on its way has to be sent first. -/
def setMode (mode : Mode) : Run (Port η) (PortError ε) Unit := fun p =>
  if p.bus.isSending then (.error .stillSending, p)
  else (.ok (), { p with bus := { p.bus with mode } })

/-- Sets the nearest legal rate, and tells it. -/
def setBaud (hw : Hardware η ε) (baud : UInt32) : Run (Port η) (PortError ε) UInt32 := do
  onHardware .uart (hw.setBaud (clampBaud baud))
  modify fun p => { p with baud := clampBaud baud }
  return clampBaud baud

/-- Sets the nearest legal length of the breaks that are sent, and tells it. -/
def setBreak (micros : UInt32) (p : Port η) : UInt32 × Port η :=
  let timing := p.bus.timing.setBreak micros
  (timing.breakLength, { p with bus := { p.bus with timing } })

/-- Sets the nearest legal length of the marks that are sent, and tells it. -/
def setMark (micros : UInt32) (p : Port η) : UInt32 × Port η :=
  let timing := p.bus.timing.setMark micros
  (timing.markLength, { p with bus := { p.bus with timing } })

/-! ### Access -/

/-- Takes the port, if nobody has it or waits for it. -/
def tryLock (p : Port η) : Bool × Port η :=
  let (taken, tickets) := p.tickets.tryTake
  (taken, { p with tickets })

/-- Gives the port back. -/
def unlock (p : Port η) : Port η := { p with tickets := p.tickets.release }

end Port

end LightBus
