import LightBus.Package.Frame
import LightBus.Port

/-!
# Sessions

A session is what a task does with a port that it has locked: it sends frames, waits until they are sent, and waits
for what comes back. It goes in steps. Each step has the port for itself; interrupts and other tasks may do something
between two steps and while the task pauses, which is what a `World` tells.

A task waits in rounds with a pause after each. The rounds are counted, so that a task ends even if the clock
stands still.
-/

namespace LightBus

/-- What a session runs on. -/
structure World (η ε : Type) where
  hardware : Hardware η ε
  /-- What happens while the task pauses. -/
  pause : Port η → Port η
  /-- What happens between two steps of the task. -/
  between : Port η → Port η

/-- What a task does with a port. -/
abbrev Session (η ε α : Type) := Run (Port η) (PortError ε) α

namespace Session

variable {η ε α : Type}

/-! ### Steps -/

/-- A step of the task, and what happens until the next one. -/
def step (w : World η ε) (f : Port η → α × Port η) : Session η ε α := fun p =>
  let (a, p) := f p
  (.ok a, w.between p)

/-- A step of the task that may fail. -/
def attempt (w : World η ε) (f : Port η → Except (PortError ε) α × Port η) : Session η ε α := fun p =>
  let (r, p) := f p
  (r, w.between p)

/-- A step that only looks at the port. -/
def look (w : World η ε) (f : Port η → α) : Session η ε α := step w fun p => (f p, p)

/-- The task lets others do something. -/
def pause (w : World η ε) : Session η ε Unit := modify w.pause

def now (w : World η ε) : Session η ε Nat := look w (Port.now w.hardware)

/-- More rounds than there are until the deadline on a clock that moves at least every 1024 pauses. -/
def rounds (w : World η ε) (deadline : Nat) (p : Port η) : Nat := (deadline - p.now w.hardware + 1) * 1024

/-- Does something with as many rounds as the deadline takes. -/
def untilDeadline (w : World η ε) (deadline : Nat) (f : Nat → Session η ε α) : Session η ε α := fun p =>
  f (rounds w deadline p) p

/-- Lets the bus handle an event, and then tells its notice. -/
def dispatch (w : World η ε) (f : Port η → Applied ε × Port η) : Session η ε Unit := do
  let applied ← step w f
  if applied.notice.isSome then step w fun p => ((), p.signal applied.notice)
  Run.ofExcept applied.result

/-! ### The lock -/

/-- Waits until the ticket is served, for so many pauses at most. -/
def awaitTurn (w : World η ε) (ticket : UInt32) : Nat → Session η ε Bool
  | 0 => return false
  | pauses + 1 => do
    if (← look w fun p => p.tickets.serving) = ticket then return true
    pause w
    awaitTurn w ticket pauses

/-- Takes the port as soon as all tasks that asked before have given it back, but not after so many pauses. -/
def lock (w : World η ε) (pauses : Nat) : Session η ε Bool := do
  let ticket ← step w fun p =>
    let (ticket, tickets) := p.tickets.take
    (ticket, { p with tickets })
  awaitTurn w ticket pauses

/-! ### The frame buffer -/

/-- The bytes of the frame buffer from `start` on, at most so many. -/
def read (w : World η ε) (start size : Nat) : Session η ε (List UInt8) :=
  look w fun p => slice p.bus.frame start size

/-- A frame that its receiver checks as a whole is being sent. -/
def isBusy (b : Bus) : Bool := b.isSending && (b.txKind == .package || b.txKind == .discoveryReply)

/-- Puts bytes into the frame buffer and tells how many fit. A package that is being sent is not overwritten. -/
def write (w : World η ε) (start : Nat) (bytes : List UInt8) : Session η ε Nat :=
  attempt w fun p =>
    if isBusy p.bus then (.error .stillSending, p)
    else (.ok (min bytes.length (p.bus.frame.length - start)), { p with bus := p.bus.write start bytes })

/-! ### Sending -/

def awaitSent (w : World η ε) (deadline : Nat) : Nat → Session η ε Unit
  | 0 => throw .clockStopped
  | rounds + 1 => do
    let (sending, now) ← look w fun p => (p.bus.isSending, p.now w.hardware)
    if !sending then return ()
    if deadline ≤ now then throw .stillSending
    pause w
    awaitSent w deadline rounds

/-- Waits until the frame on its way is sent. -/
def waitSent (w : World η ε) (timeout : Nat) : Session η ε Unit := do
  let deadline := (← now w) + timeout
  untilDeadline w deadline (awaitSent w deadline)

def awaitTime (w : World η ε) (time : Nat) : Nat → Session η ε Unit
  | 0 => throw .clockStopped
  | rounds + 1 => do
    if time ≤ (← now w) then return ()
    pause w
    awaitTime w time rounds

def waitUntil (w : World η ε) (time : Nat) : Session η ε Unit := untilDeadline w time (awaitTime w time)

/-- The frame answers a request: it is a response, or is sent without a break. -/
def isReply (frame : List UInt8) (withBreak : Bool) : Bool := !withBreak || Frame.isResponse frame

/-- When the frame may be sent. A responder answers at once or not at all; everything else keeps the spacing
after the last transfer. -/
def sendTime (hw : Hardware η ε) (p : Port η) (frame : List UInt8) (withBreak : Bool) :
    Except (PortError ε) Nat :=
  if isReply frame withBreak ∧ p.bus.mode ≠ .controller then
    if responderWindow < p.now hw - p.bus.lastFrameAt then .error .tooLateToRespond
    else .ok (p.bus.lastFrameAt + spacingAfterResponse)
  else .ok (p.bus.lastFrameAt + p.lastTransfer.spacing)

/-- What the frame counts as for the spacing after it. -/
def transferOf (frame : List UInt8) (withBreak : Bool) : LastTransfer :=
  if isReply frame withBreak then .response
  else if !Frame.isRequest frame then .levels
  else if !Frame.expectsResponse frame then .broadcast
  else if Frame.isBranchProbe frame then .probe false
  else .request false

/-- A request gets the next transaction number. -/
def stamp (p : Port η) (size : Nat) (withBreak : Bool) : Port η :=
  let frame := p.bus.frame.take size
  if !isReply frame withBreak && Frame.isRequest frame then
    let stamped := (Frame.stamp? frame p.transaction).getD frame
    { p with bus := p.bus.write 0 stamped, transaction := p.transaction + 1 }
  else p

/-- The transmission of the first bytes of the frame buffer begins. A notice that nobody has taken is lost. -/
def startFrame (hw : Hardware η ε) (size : Nat) (withBreak : Bool) (p : Port η) : Applied ε × Port η :=
  let frame := p.bus.frame.take size
  let expects := Frame.expectsResponse frame
  let p := { stamp p size withBreak with lastTransfer := transferOf frame withBreak, notice := none }
  p.dispatch hw (.startTransmit size expects withBreak (hw.space p.hardware))

def isEnabled (w : World η ε) : Session η ε Bool := look w Port.enabled

/-- Sends the first bytes of the frame buffer as soon as the bus is free for them. The task goes on while they
are sent. -/
def sendFrame (w : World η ε) (size : Nat) (withBreak : Bool) : Session η ε Nat := do
  if maxFrameSize < size then throw .frameTooLarge
  if !(← isEnabled w) then throw .disabled
  if size = 0 then return 0
  waitSent w maxPacketMicros
  let time ← attempt w fun p => (sendTime w.hardware p (p.bus.frame.take size) withBreak, p)
  waitUntil w time
  dispatch w (startFrame w.hardware size withBreak)
  return size

/-- Sends the first bytes of the frame buffer after a break. -/
def send (w : World η ε) (size : Nat) : Session η ε Nat := sendFrame w size true

/-! ### Receiving -/

/-- The device that was asked has answered. -/
def answered : LastTransfer → LastTransfer
  | .request _ => .request true
  | .probe _ => .probe true
  | other => other

def awaitNotice (w : World η ε) (deadline : Nat) : Nat → Session η ε Notice
  | 0 => throw .clockStopped
  | rounds + 1 => do
    match ← step w fun p => (p.notice, { p with notice := none }) with
    | some notice =>
      if notice.origin = .transmit then awaitNotice w deadline rounds
      else
        if 0 < notice.size then step w fun p => ((), { p with lastTransfer := answered p.lastTransfer })
        return notice
    | none =>
      if deadline ≤ (← now w) then return .timeout
      pause w
      awaitNotice w deadline rounds

/-- Waits until something is received, or for the time that is given. -/
def receive (w : World η ε) (timeout : Nat) : Session η ε Notice := do
  if !(← isEnabled w) then throw .disabled
  dispatch w (Port.dispatch w.hardware .receiveRequested)
  let deadline := (← now w) + timeout
  untilDeadline w deadline (awaitNotice w deadline)

/-- Sends the first bytes of the frame buffer after a break and waits for the answer. If nobody answers the
frame, the task goes on after the spacing that follows it. -/
def request (w : World η ε) (size timeout : Nat) : Session η ε (Option Notice) := do
  let expects ← look w fun p => Frame.expectsResponse (p.bus.frame.take size)
  let _ ← send w size
  if expects then
    let notice ← receive w timeout
    return some notice
  else
    waitSent w maxPacketMicros
    waitUntil w ((← look w fun p => p.bus.lastFrameAt) + spacingAfterBroadcast)
    return none

/-! ### Loading -/

def putFrame (w : World η ε) (frame : List UInt8) : Session η ε Nat := do
  waitSent w maxPacketMicros
  step w fun p => ((), { p with bus := p.bus.write 0 frame })
  return frame.length

/-- Puts a package into the frame buffer as soon as the bus is free. -/
def load (w : World η ε) (package : Package) : Session η ε Nat := putFrame w package.frame

/-- Puts a start code and slots into the frame buffer as soon as the bus is free. -/
def loadSlots (w : World η ε) (startCode : UInt8) (slots : List UInt8) : Session η ε Nat :=
  if maxFrameSize ≤ slots.length then throw .frameTooLarge
  else putFrame w (startCode :: slots)

/-- Puts the answer to a branch probe into the frame buffer as soon as the bus is free. -/
def loadReply (w : World η ε) (uid : Uid) : Session η ε Nat :=
  putFrame w (Discovery.replyFrame uid maxPreambleLength)

end Session

end LightBus
