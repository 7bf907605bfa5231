import LightBus.Responder
import LightBus.Session

/-!
# A simulated line

Hardware on a line that runs on virtual time: a uart with fifos, a timer, and devices at the far end. While a
task pauses, the line goes on to the next thing that happens: a byte has left, the timer rings, or something
comes in. Then it raises the interrupts for it.

Edges are put on the schedule and told to the port by the next step, because they come about while the port uses
the uart.
-/

namespace LightBus.Simulation

/-- Why a call of the simulated hardware fails. -/
inductive LineError where
  | attachFailed
  | notAttached
  | fifoFull
deriving DecidableEq

def LineError.name : LineError → String
  | .attachFailed => "AttachFailed"
  | .notAttached => "NotAttached"
  | .fifoFull => "FifoFull"

instance : Failure LineError := ⟨LineError.name, LineError.name⟩

/-- A frame that has left the uart. -/
structure SentFrame where
  bytes : List UInt8
  withBreak : Bool
  /-- The start of the break, or of the first byte if there is none. -/
  start : Nat
  finish : Nat
  breakLength : Option Nat
  markLength : Option Nat
deriving DecidableEq

/-- A frame that comes in. -/
structure IncomingFrame where
  /-- The time until it starts. -/
  delay : Nat
  withBreak : Bool
  bytes : List UInt8
deriving DecidableEq

/-- Something that comes in. -/
inductive Incoming where
  | byte (b : UInt8)
  | break
  | edge (level : LineLevel)
deriving DecidableEq

/-- The far end of the line. -/
inductive FarEnd where
  | devices (all : List (Device Empty))
  /-- Each frame gets the next reply, whatever it is. -/
  | script (replies : List (Option IncomingFrame))

namespace FarEnd

/-- The devices know no parameters but those that every device has. -/
def application : Application Empty Unit Empty where
  rules := fun rule _ _ => nomatch rule
  others := fun _ device memory => (.ok (.nack .unknownPid), device, memory)
  levels := fun _ device memory => (.ok (), device, memory)
  observe := fun _ _ _ memory => memory

/-- The line while a device answers. -/
def replyOf : Answer → Option IncomingFrame
  | .response r => some ⟨0, true, (Package.response r).frame⟩
  | .here uid => some ⟨0, false, Discovery.replyFrame uid maxPreambleLength⟩
  | .silent => none

/-- The bytes of a reply are garbled by those of another. -/
def garble : List UInt8 → List UInt8 → List UInt8
  | a :: rest, b :: others => (a ^^^ b) :: garble rest others
  | bytes, _ => bytes

/-- What two devices make of the line. -/
def overlay : Option IncomingFrame → Option IncomingFrame → Option IncomingFrame
  | some first, some other => some { first with bytes := garble first.bytes other.bytes }
  | first, other => first <|> other

private def askDevice (request : Request) (device : Device Empty) : Option IncomingFrame × Device Empty :=
  match device.handle application request () with
  | (.ok answer, device, _) => (replyOf answer, device)
  | (.error e, _, _) => nomatch e

/-- What comes back after a frame. -/
def answer (frame : SentFrame) : FarEnd → Option IncomingFrame × FarEnd
  | .script [] => (none, .script [])
  | .script (reply :: rest) => (reply, .script rest)
  | .devices all =>
    match Package.ofFrame? frame.bytes with
    | .ok (.request request) =>
      let answers := all.map (askDevice request)
      ((answers.map Prod.fst).foldl overlay none, .devices (answers.map Prod.snd))
    | _ => (none, .devices all)

end FarEnd

/-- The state of the line. -/
structure Line where
  now : Nat
  uartAttached : Bool
  timerAttached : Bool
  failUart : Bool
  failTimer : Bool
  baud : UInt32
  /-- The transceiver drives the line. -/
  driving : Bool
  inverted : Bool
  enabled : Interrupts
  pending : Interrupts
  rxFifo : List UInt8
  txFifo : List UInt8
  /-- The byte that is leaving, and when it will have left. -/
  shifting : Option (UInt8 × Nat)
  /-- The bytes of the frame that have left. -/
  current : List UInt8
  frameStart : Option Nat
  breakStart : Option Nat
  breakLength : Option Nat
  markStart : Option Nat
  markLength : Option Nat
  alarm : Option Nat
  schedule : List (Nat × Incoming)
  sent : List SentFrame
  /-- When the last byte of each reply comes in. -/
  repliesDone : List Nat
  /-- What came in while the transceiver was driving the line. -/
  lost : Nat
  farEnd : FarEnd

namespace Line

/-- A line on which nothing has happened. -/
def new (farEnd : FarEnd) (failUart failTimer : Bool) : Line where
  now := 0
  uartAttached := false
  timerAttached := false
  failUart := failUart
  failTimer := failTimer
  baud := 0
  driving := false
  inverted := false
  enabled := .none
  pending := .none
  rxFifo := []
  txFifo := []
  shifting := none
  current := []
  frameStart := none
  breakStart := none
  breakLength := none
  markStart := none
  markLength := none
  alarm := none
  schedule := []
  sent := []
  repliesDone := []
  lost := 0
  farEnd := farEnd

/-- The room in each fifo. -/
def fifoSize : Nat := 128

/-- The transmit fifo asks for data below this level. -/
def txThreshold : Nat := 32

/-- The step of the line when nothing is going to happen. -/
def idleMicros : Nat := 10

/-- The time of the first bit after which an incoming frame rises for the first time. -/
def bitMicros : Nat := 4

/-! ### Sending -/

def raise (set : Interrupts) (l : Line) : Line := { l with pending := l.pending.union set }

def plan (time : Nat) (item : Incoming) (l : Line) : Line :=
  { l with schedule := l.schedule ++ [(time, item)] }

def updateTxData (l : Line) : Line :=
  if l.txFifo.length < txThreshold then l.raise .txData else { l with pending := l.pending.without .txData }

/-- The first byte of a frame ends the mark before it. -/
def beginFrame (l : Line) : Line :=
  { l with
    frameStart := l.frameStart <|> some l.now
    markLength := l.markStart.map fun start => l.now - start }
  |>.plan l.now (.edge .low) |>.plan (l.now + bitMicros) (.edge .high)

/-- The next byte of the fifo begins to leave. -/
def shift (l : Line) : Line :=
  match l.shifting, l.txFifo with
  | none, byte :: rest =>
    let l := { l with txFifo := rest }
    let l := if l.current.isEmpty then l.beginFrame else l
    { l with shifting := some (byte, l.now + slotMicros) }.updateTxData
  | _, _ => l

/-- A frame comes in after its delay. -/
def inject (reply : IncomingFrame) (l : Line) : Line :=
  let start := l.now + reply.delay
  let (first, opening) : Nat × List (Nat × Incoming) :=
    if reply.withBreak then
      let rise := start + standardBreak.toNat
      (rise + standardMark.toNat, [(start, .edge .low), (rise, .edge .high), (rise, .break)])
    else (start, [])
  let slots := reply.bytes.zipIdx.map fun (byte, i) => (first + slotMicros * (i + 1), Incoming.byte byte)
  { l with
    schedule := l.schedule ++ opening ++ [(first, .edge .low), (first + bitMicros, .edge .high)] ++ slots
    repliesDone := l.repliesDone ++ [first + slotMicros * reply.bytes.length] }

/-- The last byte of a frame has left, and the far end answers. -/
def finishFrame (l : Line) : Line :=
  let frame : SentFrame :=
    ⟨l.current, l.breakLength.isSome, l.frameStart.getD l.now, l.now, l.breakLength, l.markLength⟩
  let (reply, farEnd) := l.farEnd.answer frame
  let l := { l with
    current := [], frameStart := none, breakLength := none, markLength := none, markStart := none
    sent := l.sent ++ [frame], farEnd }.raise .txDone
  match reply with
  | some reply => l.inject reply
  | none => l

/-- A byte has left. -/
def finishByte (byte : UInt8) (l : Line) : Line :=
  let l := { l with shifting := none, current := l.current ++ [byte] }
  if l.txFifo.isEmpty then l.finishFrame else l.shift

/-! ### Calls -/

def attachUart : Run Line LineError Unit := fun l =>
  if l.failUart then (.error .attachFailed, l) else (.ok (), { l with uartAttached := true })

def detachUart : Run Line LineError Unit := fun l =>
  if l.uartAttached then (.ok (), { l with uartAttached := false, enabled := .none })
  else (.error .notAttached, l)

def attachTimer : Run Line LineError Unit := fun l =>
  if l.failTimer then (.error .attachFailed, l) else (.ok (), { l with timerAttached := true })

def detachTimer : Run Line LineError Unit := fun l =>
  if l.timerAttached then (.ok (), { l with timerAttached := false, alarm := none })
  else (.error .notAttached, l)

def writeFifo (bytes : List UInt8) : Run Line LineError Unit := fun l =>
  if fifoSize < l.txFifo.length + bytes.length then (.error .fifoFull, l)
  else (.ok (), { l with txFifo := l.txFifo ++ bytes }.shift.updateTxData)

/-- Interrupts that stand for a level are pending again at once. -/
def clear (set : Interrupts) (l : Line) : Line :=
  let l := { l with pending := l.pending.without set }
  let l := if l.rxFifo.isEmpty then l else l.raise .rxData
  if set.intersects .txData then l.updateTxData else l

def invert (inverted : Bool) (l : Line) : Line :=
  if l.inverted = inverted then l
  else if inverted then
    { l with inverted, breakStart := some l.now, frameStart := some l.now }.plan l.now (.edge .low)
  else
    { l with
      inverted
      breakLength := l.breakStart.map fun start => l.now - start
      breakStart := none
      markStart := some l.now }.plan l.now (.edge .high)

def done (f : Line → Line) : Run Line LineError Unit := fun l => (.ok (), f l)

/-- The calls that a port makes. -/
def hardware : Hardware Line LineError where
  attachUart := attachUart
  detachUart := detachUart
  setBaud := fun baud => done fun l => { l with baud }
  readFifo := fun room => Run.step fun l => (l.rxFifo.take room, { l with rxFifo := l.rxFifo.drop room })
  discardFifo := fun l => (l.rxFifo.length, { l with rxFifo := [] })
  space := fun l => fifoSize - l.txFifo.length
  writeFifo := writeFifo
  resetRxFifo := done fun l => { l with rxFifo := [] }
  resetTxFifo := done fun l => { l with txFifo := [] }
  interrupts := fun l => l.pending.inter l.enabled
  enable := fun set l => { l with enabled := l.enabled.union set }
  disable := fun set l => { l with enabled := l.enabled.without set }
  clear := clear
  turn := fun direction => done fun l => { l with driving := direction == .transmit }
  invert := fun inverted => done (invert inverted)
  attachTimer := attachTimer
  detachTimer := detachTimer
  clock := Line.now
  setAlarm := fun micros => done fun l => { l with alarm := some (l.now + micros.toNat) }
  cancelAlarm := done fun l => { l with alarm := none }

/-! ### Time -/

/-- When the next thing happens. -/
def nextTime (l : Line) : Nat :=
  let times := l.schedule.map Prod.fst ++ (l.shifting.map Prod.snd).toList ++
    (if l.timerAttached then l.alarm.toList else [])
  max l.now (times.min?.getD (l.now + idleMicros))

/-- Something comes in. Edges are told to the port later, and nothing else is heard while the transceiver drives
the line. -/
def receive (l : Line) (item : Incoming) : Line :=
  match item with
  | .edge _ => l
  | .byte b =>
    if l.driving then { l with lost := l.lost + 1 }
    else if l.rxFifo.length < fifoSize then { l with rxFifo := l.rxFifo ++ [b] }.raise .rxData
    else l.raise .rxOverflow
  | .break => if l.driving then { l with lost := l.lost + 1 } else l.raise .rxBreak

/-- The line goes on to the next thing that happens. Tells the edges that the port has to hear of, and whether
the timer rings. -/
def advance (l : Line) : List LineLevel × Bool × Line :=
  let l := { l with now := l.nextTime }
  let l :=
    match l.shifting with
    | some (byte, time) => if time ≤ l.now then l.finishByte byte else l
    | none => l
  let rings := l.timerAttached && l.alarm.any fun time => decide (time ≤ l.now)
  let l := if rings then { l with alarm := none } else l
  let (due, later) := l.schedule.partition fun item => decide (item.1 ≤ l.now)
  let due := (due.mergeSort fun a b => decide (a.1 ≤ b.1)).map Prod.snd
  let edges := due.filterMap fun
    | .edge level => some level
    | _ => none
  (edges, rings, due.foldl receive { l with schedule := later })

/-- The next thing happens, and its interrupts are raised. -/
def step (p : Port Line) : Port Line :=
  let (edges, rings, line) := p.hardware.advance
  let p := edges.foldl (fun p level => p.onEdge hardware level) { p with hardware := line }
  let p := if rings then p.onAlarm hardware else p
  if (p.hardware.pending.inter p.hardware.enabled).isEmpty then p else p.onUart hardware

/-- A task on the line has the port for itself but for its pauses. -/
def world : World Line LineError := ⟨hardware, step, id⟩

end Line

end LightBus.Simulation
