import LightBus.Link
import LightBus.Session

/-!
# Sessions as links

A locked port is a link for a controller and for a responder.
-/

namespace LightBus

/-- Why a reception brought nothing that can be used. -/
def Notice.check {ε : Type} (n : Notice) : Except (LinkError ε) Unit :=
  match n.status with
  | .ok => .ok ()
  | .timeout => .error .timeout
  | .wrongChecksum => .error (.frame .wrongChecksum)
  | .framing => .error .framing
  | .overflow => .error .uartOverflow
  | .collision => .error .collision
  | .tooLarge => .error .bufferTooSmall

namespace Session

variable {η ε α : Type}

/-- What a session does with the port as a link. -/
abbrev Linked (η ε α : Type) := Run (Port η) (LinkError (PortError ε)) α

/-- Errors of the port are errors of the link's own. -/
def onPort (a : Session η ε α) : Linked η ε α := a.mapError .driver

/-! ### Controllers -/

def loadRequest (w : World η ε) (r : Request) : Session η ε (UInt8 × Nat) := do
  let transaction ← look w Port.transaction
  let size ← load w (.request { r with transaction })
  return (transaction, size)

/-- The package that was received. -/
def readPackage (w : World η ε) (n : Notice) : Linked η ε Package := do
  n.check |> Run.ofExcept
  if n.kind ≠ .package then throw (.frame .wrongStart)
  let frame ← onPort (read w 0 (min n.size maxPackageSize))
  ((Package.ofFrame? frame).mapError .frame) |> Run.ofExcept

/-- Waits for the response with the transaction number. Other packages are skipped. -/
def awaitResponse (w : World η ε) (transaction : UInt8) (deadline : Nat) :
    Nat → Notice → Linked η ε Response
  | 0, _ => onPort (throw .clockStopped)
  | rounds + 1, notice => do
    let package ← readPackage w notice
    let again : Linked η ε Response := do
      let now ← onPort (now w)
      if deadline ≤ now then throw .timeout
      awaitResponse w transaction deadline rounds (← onPort (receive w (deadline - now)))
    match package with
    | .response r => if r.transaction = transaction then return r else again
    | .request _ => again

/-- Sends a request with the next transaction number, and waits for the response with that number. -/
def ask (w : World η ε) (r : Request) : Linked η ε (Option Response) := do
  let (transaction, size) ← onPort (loadRequest w r)
  let deadline := (← onPort (now w)) + requestTimeout
  match ← onPort (request w size requestTimeout) with
  | none => return none
  | some notice =>
    let response ← fun p => awaitResponse w transaction deadline (rounds w deadline p) notice p
    return some response

/-- Sends a branch probe. Whatever is received but is not the answer of one device comes from several. -/
def probe (w : World η ε) (r : Request) : Linked η ε ProbeResult := do
  let (_, size) ← onPort (loadRequest w r)
  match ← onPort (request w size requestTimeout) with
  | none => return .nobody
  | some notice =>
    match notice.status, notice.kind with
    | .timeout, _ =>
      return if 0 < (← onPort (look w fun p => p.bus.cursor)) then .collision else .nobody
    | .ok, .discoveryReply =>
      match Discovery.uidOfReply? (← onPort (read w 0 (min notice.size maxPackageSize))) with
      | .ok uid => return .found uid
      | .error _ => return .collision
    | _, _ => return .collision

/-- Sends slots after a start code, and waits until they are sent. -/
def sendSlots (w : World η ε) (startCode : UInt8) (slots : List UInt8) : Linked η ε Unit := onPort do
  let _ ← send w (← loadSlots w startCode slots)
  waitSent w maxPacketMicros

/-- A locked port as the link of a controller. -/
def controllerLink (w : World η ε) : ControllerLink (Port η) (PortError ε) where
  request := ask w
  probe := probe w
  sendLevels := sendSlots w nullStart
  sendSlots := sendSlots w

/-! ### Responders -/

def awaitFrame (w : World η ε) (deadline : Nat) : Nat → Linked η ε (List UInt8)
  | 0 => onPort (throw .clockStopped)
  | rounds + 1 => do
    let now ← onPort (now w)
    if deadline ≤ now then throw .timeout
    let notice ← onPort (receive w (deadline - now))
    Run.ofExcept notice.check
    if notice.kind = .discoveryReply ∨ notice.kind = .empty then awaitFrame w deadline rounds
    else onPort (read w 0 notice.size)

/-- Waits for a frame. The answers of other devices to branch probes are skipped. -/
def receiveFrame (w : World η ε) : Linked η ε (List UInt8) := do
  let deadline := (← onPort (now w)) + maxPacketMicros
  fun p => awaitFrame w deadline (rounds w deadline p) p

/-- Sends a response, and waits until it is sent. -/
def sendResponse (w : World η ε) (r : Response) : Linked η ε Unit := onPort do
  let _ ← sendFrame w (← load w (.response r)) true
  waitSent w maxPacketMicros

/-- Answers a branch probe, and waits until the answer is sent. -/
def sendHere (w : World η ε) (uid : Uid) : Linked η ε Unit := onPort do
  let _ ← sendFrame w (← loadReply w uid) false
  waitSent w maxPacketMicros

/-- The port goes back to receiving. -/
def skipResponse (w : World η ε) : Linked η ε Unit := onPort do
  Run.ofExcept (← step w (Port.dispatch w.hardware .receiveRequested)).result

/-- A locked port as the link of a responder. -/
def responderLink (w : World η ε) : ResponderLink (Port η) (PortError ε) where
  receive := receiveFrame w
  sendResponse := sendResponse w
  sendHere := sendHere w
  skip := skipResponse w

end Session

end LightBus
