import LightBus.Bus.Classify
import LightBus.Package.View

/-!
# The state of a bus

One port takes part in a bus through this state machine. `Bus.handle` takes an event from the hardware or from
a task and returns what the hardware has to do; it does nothing else, so every transition can be looked at
without hardware.

* A transmission goes through break, mark and data; then the bus turns around to receive.
* A reception goes through break, mark and data until the frame is complete or has failed.
* Received bytes go to the frame buffer (`Bus.fill`) before the event that counts them.
-/

namespace LightBus

/-- What a port does on the bus. -/
inductive Mode where
  /-- Sends requests and receives the responses. -/
  | controller
  /-- Answers requests that go to the identifier. -/
  | responder (uid : Uid)
deriving DecidableEq

inductive RxState where
  | idle | inBreak | inMark | receiving | complete | failed
deriving DecidableEq

inductive TxState where
  | idle | inBreak | inMark | sending | done
deriving DecidableEq

/-- What happens on the bus. `space` is the room in the transmit fifo. -/
inductive BusEvent where
  /-- A task wants the first `length` slots of the frame buffer sent. -/
  | startTransmit (length : Nat) (expectsReply withBreak : Bool) (space : Nat)
  | alarm (space : Nat)
  | txReady (space : Nat)
  /-- The last slot has left. -/
  | txDone
  | break
  /-- The line rises after a break. -/
  | lineRising
  /-- So many slots were read. -/
  | received (count : Nat)
  /-- The receiver saw an error, after so many further slots. -/
  | lineFault (fault : LineFault) (count : Nat)
  /-- Somebody else was sending at the same time. -/
  | collision
  /-- A task wants to receive. -/
  | receiveRequested
deriving DecidableEq

/-- What the hardware has to do. -/
inductive Effect where
  | resetRxFifo
  | enableRx
  | disableRx
  | enableTx
  /-- All slots are in the fifo. -/
  | disableTxData
  | disableTx
  | turn (direction : Direction)
  | invert (inverted : Bool)
  | setAlarm (micros : UInt32)
  | cancelAlarm
  /-- Write the slots of the frame buffer from `first` to before `last`. -/
  | writeFifo (first last : Nat)
  | notify (notice : Notice)
deriving DecidableEq

/-- The state of the bus as one port sees it. -/
structure Bus where
  /-- The slots that are sent or were received. -/
  frame : List UInt8
  mode : Mode
  timing : BreakTiming
  sequence : BreakSequence
  rx : RxState
  tx : TxState
  receiving : Bool
  afterBreak : Bool
  /-- How many slots were received. -/
  cursor : Nat
  /-- The expected size of a frame that does not tell its own. -/
  sizeGuess : Nat
  /-- Size and kind of the last frame. -/
  rxSize : Nat
  rxKind : FrameKind
  /-- How many slots were sent, of how many. -/
  txCursor : Nat
  txSize : Nat
  txKind : FrameKind
  expectsReply : Bool
  awaiting : Bool
  /-- When the last slot went over the bus. -/
  lastFrameAt : Nat

namespace Bus

def new (mode : Mode) (timing : BreakTiming) : Bus where
  frame := List.replicate maxFrameSize 0
  mode := mode
  timing := timing
  sequence := .idle
  rx := .idle
  tx := .idle
  receiving := false
  afterBreak := false
  cursor := 0
  sizeGuess := maxFrameSize
  rxSize := 0
  rxKind := .empty
  txCursor := 0
  txSize := 0
  txKind := .empty
  expectsReply := false
  awaiting := false
  lastFrameAt := 0

/-- A frame is on its way. -/
def isSending (b : Bus) : Bool :=
  match b.tx with
  | .inBreak | .inMark | .sending => true
  | _ => false

/-- The reception of a frame is over. -/
def frameFinished (b : Bus) : Bool :=
  match b.rx with
  | .complete | .failed => true
  | _ => false

/-- The room for received slots. -/
def window (b : Bus) : Nat := b.frame.length - b.cursor

/-- Received slots go behind those that were received before. -/
def fill (b : Bus) (slots : List UInt8) : Bus := { b with frame := overwrite b.frame b.cursor slots }

/-- Bytes are put into the frame buffer. -/
def write (b : Bus) (start : Nat) (bytes : List UInt8) : Bus :=
  { b with frame := overwrite b.frame start bytes }

/-- Nothing has been received. -/
def resetRx (b : Bus) : Bus := { b with rx := .idle, cursor := 0, afterBreak := false }

/-- What a frame after a break is by its start code. -/
def kindByStart (b : Bus) : FrameKind :=
  match b.frame with
  | startCode :: _ => if startCode = rdmStart then .package else .levels startCode
  | [] => .empty

/-! ### Transmission -/

/-- As many slots as there is room for go to the fifo. -/
def writeChunk (b : Bus) (space : Nat) : List Effect × Bus :=
  let last := min (b.txCursor + space) b.txSize
  let written := if b.txCursor < last then [Effect.writeFifo b.txCursor last] else []
  let b := { b with txCursor := max b.txCursor last }
  (if b.txCursor = b.txSize then written ++ [.disableTxData] else written, b)

def startTransmit (b : Bus) (length : Nat) (expectsReply withBreak : Bool) (space : Nat) :
    List Effect × Bus :=
  if b.isSending ∨ length = 0 then ([], b)
  else
    let b := { b with
      txSize := min length maxFrameSize
      txCursor := 0
      txKind := if withBreak then b.kindByStart else .discoveryReply
      expectsReply := expectsReply
      awaiting := false
      receiving := false }.resetRx
    let turned : List Effect := [.disableRx, .cancelAlarm, .turn .transmit]
    if withBreak then
      let (action, sequence) := BreakSequence.start b.timing
      let b := { b with sequence }
      match action with
      | .holdLow alarm => (turned ++ [.invert true, .setAlarm alarm], { b with tx := .inBreak })
      | _ => (turned, b)
    else
      let (effects, b) := { b with tx := .sending }.writeChunk space
      (turned ++ .enableTx :: effects, b)

/-- The break goes on to its next part, or the wait for a response is over. -/
def onAlarm (b : Bus) (space : Nat) : List Effect × Bus :=
  let (action, sequence) := b.sequence.onAlarm
  let b := { b with sequence }
  match action with
  | .holdLow alarm => ([.invert true, .setAlarm alarm], b)
  | .release alarm => ([.invert false, .setAlarm alarm], { b with tx := .inMark })
  | .startData =>
    let (effects, b) := { b with tx := .sending }.writeChunk space
    (.enableTx :: effects, b)
  | .none =>
    if b.awaiting then
      (if b.rx = .idle then [.notify .timeout] else [], { b with awaiting := false })
    else ([], b)

/-- The bus turns around to receive as soon as all slots have left. -/
def onTxDone (b : Bus) (now : Nat) : List Effect × Bus :=
  if b.tx ≠ .sending ∨ b.txCursor < b.txSize then ([], b)
  else
    let b := { b with tx := .done, lastFrameAt := now, receiving := true }.resetRx
    if b.expectsReply then
      ([.disableTx, .resetRxFifo, .turn .receive, .enableRx, .setAlarm (UInt32.ofNat responseTimeout)],
        { b with awaiting := true })
    else
      ([.disableTx, .turn .receive, .resetRxFifo, .enableRx,
        .notify ⟨.ok, .transmit, b.txKind, b.txSize, none⟩], b)

/-! ### Reception -/

/-- The reception is over. -/
def finish (b : Bus) (status : Status) (kind : FrameKind) (size now : Nat) : List Effect × Bus :=
  ((if b.awaiting then [.cancelAlarm] else []) ++ [.notify ⟨status, .receive, kind, size, none⟩],
    { b with rx := .complete, rxKind := kind, rxSize := size, lastFrameAt := now, awaiting := false })

/-- The reception is over, and all slots that follow are ignored. -/
def fail (b : Bus) (status : Status) (kind : FrameKind) (now : Nat) : List Effect × Bus :=
  let (effects, b) := b.finish status kind b.cursor now
  (effects, { b with rx := .failed })

/-- A frame ends where the next one begins, so its size is learned from the break. -/
def onBreak (b : Bus) : List Effect × Bus :=
  let sizeGuess :=
    if 0 < b.cursor ∧ b.afterBreak ∧ b.kindByStart ≠ .package ∧ (!b.frameFinished ∨ b.sizeGuess < b.cursor)
    then b.cursor else b.sizeGuess
  ([.resetRxFifo], { b with sizeGuess, cursor := 0, afterBreak := true, rx := .inBreak })

/-- The frame stays in the buffer, and the line is ready for an answer. -/
def turnAround (b : Bus) : List Effect × Bus :=
  ([.disableRx, .turn .transmit], { b with receiving := false })

/-- The first slots of the buffer are a request that the port has to answer. -/
def isOwnRequest (b : Bus) (size : Nat) : Bool :=
  match b.mode with
  | .controller => false
  | .responder uid =>
    let frame := b.frame.take size
    Frame.expectsResponse frame && (Frame.destination frame).addresses uid

/-- How the reception of a package ends. -/
def packageStatus (slots : List UInt8) : Status := if checksumValid slots then .ok else .wrongChecksum

/-- A whole package is in the buffer. The bus turns around after one that the task has to read or to answer in
time. -/
def finishPackage (b : Bus) (size now : Nat) : List Effect × Bus :=
  let status := packageStatus (b.frame.take size)
  let (finished, b) := b.finish status .package size now
  if b.mode = .controller ∨ (status = .ok ∧ b.isOwnRequest size) then
    let (turned, b) := b.turnAround
    (finished ++ turned, b)
  else (finished, b)

/-- How the reception of a discovery response ends. -/
def replyStatus (slots : List UInt8) : Status :=
  match Discovery.uidOfReply? slots with
  | .ok _ => .ok
  | .error .wrongChecksum => .wrongChecksum
  | .error _ => .collision

/-- A whole discovery response is in the buffer. -/
def finishReply (b : Bus) (size now : Nat) : List Effect × Bus :=
  let (finished, b) := b.finish (replyStatus (b.frame.take size)) .discoveryReply size now
  if b.mode = .controller then
    let (turned, b) := b.turnAround
    (finished ++ turned, b)
  else (finished, b)

/-- Slots are counted as far as the buffer has room for them. -/
def advance (b : Bus) (count : Nat) : Bus := { b with cursor := b.cursor + min count b.window }

/-- The reception is over if the slots that were counted so far make up a frame, or can never do so. `overflow`
tells that further slots were lost. -/
def conclude (b : Bus) (overflow : Bool) (now : Nat) : List Effect × Bus :=
  match classify (b.frame.take b.cursor) b.afterBreak b.sizeGuess with
  | .incomplete =>
    if b.cursor = maxFrameSize then
      if overflow then b.fail .tooLarge b.kindByStart now else b.finish .ok b.kindByStart b.cursor now
    else ([], b)
  | .malformed kind => b.fail .collision kind now
  | .complete .package size => b.finishPackage size now
  | .complete .discoveryReply size => b.finishReply size now
  | .complete kind size => if overflow then b.fail .tooLarge kind now else b.finish .ok kind size now

/-- So many slots were read. Those that the buffer has no room for are lost, but they tell that the frame was
too long. -/
def onReceived (b : Bus) (count now : Nat) : List Effect × Bus :=
  let overflow := decide (b.window < count)
  match b.rx with
  | .complete =>
    match b.rxKind with
    | .levels _ => if overflow then (b.advance count).fail .tooLarge b.rxKind now else ([], b.advance count)
    | _ => ([], b)
  | .failed => ([], b)
  | _ => { b.advance count with rx := .receiving }.conclude overflow now

/-- The receiver saw an error after so many further slots. -/
def onLineFault (b : Bus) (fault : LineFault) (count now : Nat) : List Effect × Bus :=
  if b.frameFinished then ([.resetRxFifo], b)
  else
    let b := b.advance count
    let status : Status :=
      match fault with
      | .framing => .framing
      | .overflow => .overflow
    let kind : FrameKind :=
      if b.cursor = 0 then .empty else if b.afterBreak then b.kindByStart else .discoveryReply
    let (effects, b) := b.fail status kind now
    (effects ++ [.resetRxFifo], b)

/-- Somebody else was sending at the same time. -/
def onCollision (b : Bus) (now : Nat) : List Effect × Bus :=
  if !b.frameFinished ∧ (b.awaiting ∨ 0 < b.cursor) then
    let (effects, b) := b.fail .collision .discoveryReply now
    (effects ++ [.resetRxFifo], b)
  else ([.resetRxFifo], b)

/-! ### All events -/

/-- Reception begins anew. -/
def listen (b : Bus) : List Effect × Bus :=
  ([.turn .receive, .resetRxFifo, .enableRx], { b.resetRx with receiving := true })

/-- The port is switched on. -/
def start (b : Bus) : List Effect × Bus := b.listen

/-- The port is switched off. -/
def stop (b : Bus) : List Effect × Bus :=
  ([.cancelAlarm, .invert false, .disableTx, .disableRx, .turn .receive],
    { b with sequence := b.sequence.cancel, tx := .idle, awaiting := false, receiving := false })

/-- What the hardware has to do after an event, and the state after it. -/
def handle (b : Bus) (event : BusEvent) (now : Nat) : List Effect × Bus :=
  match event with
  | .startTransmit length expectsReply withBreak space => b.startTransmit length expectsReply withBreak space
  | .alarm space => b.onAlarm space
  | .txReady space => if b.tx = .sending then b.writeChunk space else ([], b)
  | .txDone => b.onTxDone now
  | .break => b.onBreak
  | .lineRising => ([], if b.rx = .inBreak then { b with rx := .inMark } else b)
  | .received count => b.onReceived count now
  | .lineFault fault count => b.onLineFault fault count now
  | .collision => b.onCollision now
  | .receiveRequested => if !b.isSending ∧ !b.receiving then b.listen else ([], b)

end Bus

end LightBus
