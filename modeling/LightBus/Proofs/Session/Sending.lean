import LightBus.Discovery.Branch
import LightBus.Proofs.Package.Numbering
import LightBus.Proofs.Session.Surroundings
import LightBus.Simulation.Bench

/-!
# What is sent

A call that sends a message first puts its frame into the buffer (`Message.beforeLoad`) and waits until the bus may be
used (`Message.beforeStart`).  Then the transmission begins, and the rest of the call does no more about it
(`Message.call_eq`).

Reception uses the same buffer.  If no slots are read while the task waits, the frame that it has put into the buffer
is the one that is sent (`Message.frame_at_start`).  The response to an earlier request may come in late, and then
something else is sent (`Message.overwritten_at_start`).
-/

namespace LightBus

namespace Run

variable {σ ε ε' α β : Type}

private theorem mapError_bind (g : ε → ε') (a : Run σ ε α) (f : α → Run σ ε β) :
    (a >>= f).mapError g = a.mapError g >>= fun x => (f x).mapError g := by
  funext s
  show ((a >>= f).mapError g).runFrom s = (a.mapError g >>= fun x => (f x).mapError g).runFrom s
  rw [runFrom_mapError, runFrom_bind, runFrom_bind, runFrom_mapError]
  rcases a.runFrom s with ⟨_ | x, s'⟩
  · rfl
  · exact (runFrom_mapError g (f x) s').symm

theorem throw_bind (e : ε) (f : α → Run σ ε β) : (throw e >>= f : Run σ ε β) = throw e := rfl

theorem exists_of_bind {a : Run σ ε α} {f : α → Run σ ε β} {s t : σ} {y : β} (h : (a >>= f).runFrom s = (.ok y, t)) :
    ∃ x s', a.runFrom s = (.ok x, s') ∧ (f x).runFrom s' = (.ok y, t) := by
  rw [runFrom_bind] at h
  rcases hrun : a.runFrom s with ⟨e | x, s'⟩ <;> rw [hrun] at h
  · cases h
  · exact ⟨x, s', rfl, h⟩

private theorem keeps_throw_bind {I : σ → Prop} (e : ε) (f : α → Run σ ε β) : Keeps I (throw e >>= f : Run σ ε β) :=
  fun _ hs => hs

theorem runFrom_of_toOption {a : Run σ ε α} {s : σ} {x : α} (h : (a.runFrom s).1.toOption = some x) :
    a.runFrom s = (.ok x, a.after s) := by
  have hok : (a.runFrom s).1 = .ok x := by
    cases hresult : (a.runFrom s).1 <;> rw [hresult] at h <;> cases h
    rfl
  exact Prod.ext hok rfl

theorem after_of_runFrom {a : Run σ ε α} {s t : σ} {r : Except ε α} (h : a.runFrom s = (r, t)) : a.after s = t :=
  congrArg Prod.snd h

theorem Keeps.of_runFrom {I : σ → Prop} {a : Run σ ε α} {s t : σ} {r : Except ε α} (ha : Keeps I a) (hs : I s)
    (h : a.runFrom s = (r, t)) : I t := by
  have hend := ha s hs
  rwa [after_of_runFrom h] at hend

end Run

namespace Session

variable {η ε α β : Type} {w : World η ε} {size : Nat} {withBreak : Bool}

theorem onPort_bind (a : Session η ε α) (f : α → Session η ε β) :
    onPort (a >>= f) = onPort a >>= fun x => onPort (f x) :=
  Run.mapError_bind _ a f

theorem onPort_pure (x : α) : onPort (pure x : Session η ε α) = pure x := rfl

theorem runFrom_of_onPort {a : Session η ε α} {p q : Port η} {x : α} (h : (onPort a).runFrom p = (.ok x, q)) :
    a.runFrom p = (.ok x, q) := by
  unfold onPort at h
  rw [Run.runFrom_mapError] at h
  rcases hrun : a.runFrom p with ⟨e | y, p'⟩ <;> rw [hrun] at h <;> cases h
  rfl

/-! ### The parts of a call -/

/-- All that is done to send a frame before its transmission begins. -/
def ready (w : World η ε) (size : Nat) (withBreak : Bool) : Session η ε Unit := do
  if maxFrameSize < size then throw .frameTooLarge
  if !(← isEnabled w) then throw .disabled
  waitSent w maxPacketMicros
  let time ← attempt w fun p => (sendTime w.hardware p (p.bus.frame.take size) withBreak, p)
  waitUntil w time

theorem sendFrame_eq (hsize : size ≠ 0) : sendFrame w size withBreak = (do
    ready w size withBreak
    dispatch w (startFrame w.hardware size withBreak)
    return size) := by
  unfold sendFrame ready
  dsimp only
  split
  · rw [Run.throw_bind, Run.throw_bind, Run.throw_bind]
  rw [bind_assoc]
  refine congrArg _ (funext fun enabled => ?_)
  split
  · rw [Run.throw_bind, Run.throw_bind, Run.throw_bind]
  simp only [bind_assoc]

/-- What a request does after it has been sent. -/
def reply (w : World η ε) (expects : Bool) (timeout : Nat) : Session η ε (Option Notice) := do
  if expects then
    let notice ← receive w timeout
    return some notice
  else
    waitSent w maxPacketMicros
    waitUntil w ((← look w fun p => p.bus.lastFrameAt) + spacingAfterBroadcast)
    return none

private theorem request_eq (hsize : size ≠ 0) (timeout : Nat) : request w size timeout = (do
    let expects ← look w fun p => Frame.expectsResponse (p.bus.frame.take size)
    ready w size true
    dispatch w (startFrame w.hardware size true)
    reply w expects timeout) := by
  unfold request send reply
  simp only [sendFrame_eq hsize, bind_assoc, pure_bind]

/-- The frame is in the buffer. -/
def put (w : World η ε) (frame : List UInt8) : Session η ε Unit :=
  step w fun p => ((), { p with bus := p.bus.write 0 frame })

theorem putFrame_eq (frame : List UInt8) : putFrame w frame = (do
    waitSent w maxPacketMicros
    put w frame
    return frame.length) := rfl

/-- What a request does with the first package that it receives. -/
def askAnswer (w : World η ε) (transaction : UInt8) (deadline : Nat) : Option Notice → Linked η ε (Option Response)
  | none => return none
  | some notice => do
    let response ← fun p => awaitResponse w transaction deadline (rounds w deadline p) notice p
    return some response

/-- What a branch probe has brought. -/
def probeAnswer (w : World η ε) : Option Notice → Linked η ε ProbeResult
  | none => return .nobody
  | some notice =>
    match notice.status, notice.kind with
    | .timeout, _ => do return if 0 < (← onPort (look w fun p => p.bus.cursor)) then .collision else .nobody
    | .ok, .discoveryReply => do
      match Discovery.uidOfReply? (← onPort (read w 0 (min notice.size maxPackageSize))) with
      | .ok uid => return .found uid
      | .error _ => return .collision
    | _, _ => return .collision

end Session

open Session (Linked onPort look waitSent ready put reply startFrame onPort_bind onPort_pure)

/-! ### Messages -/

/-- What a task can send. -/
inductive Message where
  | ask (r : Request)
  | probe (r : Request)
  | slots (startCode : UInt8) (values : List UInt8)
  | response (r : Response)
  | here (uid : Uid)

namespace Message

variable {η ε : Type} {w : World η ε}

def withBreak : Message → Bool
  | .here _ => false
  | _ => true

/-- The call that sends the message, whatever it receives after that. -/
def call (w : World η ε) : Message → Linked η ε Unit
  | .ask r => do let _ ← Session.ask w r
  | .probe r => do let _ ← Session.probe w r
  | .slots startCode values => Session.sendSlots w startCode values
  | .response r => Session.sendResponse w r
  | .here uid => Session.sendHere w uid

/-- The slots of the message on the line. -/
def frame (transaction : UInt8) : Message → List UInt8
  | .ask r | .probe r => (Package.request { r with transaction }).frame
  | .slots startCode values => Frame.numbered transaction (startCode :: values)
  | .response r => (Package.response r).frame
  | .here uid => Discovery.replyFrame uid maxPreambleLength

/-- What the task does before it puts the frame into the buffer.  It ends with the number of the transaction, if there
is one, and with the frame. -/
def beforeLoad (w : World η ε) : Message → Session η ε (UInt8 × List UInt8)
  | .ask r | .probe r => do
    let transaction ← look w Port.transaction
    waitSent w maxPacketMicros
    return (transaction, (Package.request { r with transaction }).frame)
  | .slots startCode values => do
    if maxFrameSize ≤ values.length then throw .frameTooLarge
    waitSent w maxPacketMicros
    return (0, startCode :: values)
  | .response r => do
    waitSent w maxPacketMicros
    return (0, (Package.response r).frame)
  | .here uid => do
    waitSent w maxPacketMicros
    return (0, Discovery.replyFrame uid maxPreambleLength)

/-- What a task finds out about a frame in the buffer: the time, and whether a device answers the frame. -/
def inspect (w : World η ε) (size : Nat) : Message → Session η ε (Nat × Bool)
  | .ask _ => do
    let now ← Session.now w
    let expects ← look w fun p => Frame.expectsResponse (p.bus.frame.take size)
    return (now, expects)
  | .probe _ => do
    let expects ← look w fun p => Frame.expectsResponse (p.bus.frame.take size)
    return (0, expects)
  | _ => return (0, false)

/-- What the task does with the frame before its transmission begins. -/
def beforeStart (w : World η ε) (m : Message) (frame : List UInt8) : Session η ε (Nat × Bool) := do
  put w frame
  let seen ← m.inspect w frame.length
  ready w frame.length m.withBreak
  return seen

theorem length_request (r : Request) : (Package.request r).frame.length ≠ 0 := by
  rw [Package.length_frame, minPackageSize]
  omega

theorem ask_eq (r : Request) : Session.ask w r = (do
    let x ← onPort ((ask r).beforeLoad w)
    let y ← onPort ((ask r).beforeStart w x.2)
    onPort (Session.dispatch w (startFrame w.hardware x.2.length true))
    Session.askAnswer w x.1 (y.1 + requestTimeout) (← onPort (reply w y.2 requestTimeout))) := by
  unfold Session.ask Session.loadRequest Session.load beforeLoad beforeStart inspect
  simp only [Session.putFrame_eq, Session.request_eq (length_request _), onPort_bind, onPort_pure,
    bind_assoc, pure_bind, withBreak]
  rfl

theorem probe_eq (r : Request) : Session.probe w r = (do
    let x ← onPort ((probe r).beforeLoad w)
    let y ← onPort ((probe r).beforeStart w x.2)
    onPort (Session.dispatch w (startFrame w.hardware x.2.length true))
    Session.probeAnswer w (← onPort (reply w y.2 requestTimeout))) := by
  unfold Session.probe Session.loadRequest Session.load beforeLoad beforeStart inspect
  simp only [Session.putFrame_eq, Session.request_eq (length_request _), onPort_bind, onPort_pure,
    bind_assoc, pure_bind, withBreak]
  rfl

/-- What the task does after the transmission of its message has begun. -/
def rest (w : World η ε) (m : Message) (x : UInt8 × List UInt8) (y : Nat × Bool) : Linked η ε Unit :=
  match m with
  | .ask _ => do let _ ← Session.askAnswer w x.1 (y.1 + requestTimeout) (← onPort (reply w y.2 requestTimeout))
  | .probe _ => do let _ ← Session.probeAnswer w (← onPort (reply w y.2 requestTimeout))
  | .slots _ _ | .response _ | .here _ => onPort (waitSent w maxPacketMicros)

/-- Each call begins the transmission of its message once, after `beforeLoad` and `beforeStart`. -/
theorem call_eq_rest (w : World η ε) (m : Message) : m.call w = (do
    let x ← onPort (m.beforeLoad w)
    let y ← onPort (m.beforeStart w x.2)
    onPort (Session.dispatch w (startFrame w.hardware x.2.length m.withBreak))
    m.rest w x y) := by
  cases m with
  | ask r =>
    unfold call rest
    simp only [ask_eq, bind_assoc, withBreak]
  | probe r =>
    unfold call rest
    simp only [probe_eq, bind_assoc, withBreak]
  | slots startCode values =>
    unfold call rest Session.sendSlots Session.loadSlots Session.send beforeLoad beforeStart inspect
    have hsize : (startCode :: values).length ≠ 0 := Nat.succ_ne_zero _
    dsimp only
    split
    · rfl
    · simp only [Session.putFrame_eq, Session.sendFrame_eq hsize, onPort_bind, onPort_pure, bind_assoc,
        pure_bind, withBreak]
  | response r =>
    have hsize : (Package.response r).frame.length ≠ 0 := by
      rw [Package.length_frame, minPackageSize]
      omega
    unfold call rest Session.sendResponse Session.load beforeLoad beforeStart inspect
    simp only [Session.putFrame_eq, Session.sendFrame_eq hsize, onPort_bind, onPort_pure, bind_assoc,
      pure_bind, withBreak]
  | here uid =>
    have hsize : (Discovery.replyFrame uid maxPreambleLength).length ≠ 0 := Nat.succ_ne_zero _
    unfold call rest Session.sendHere Session.loadReply beforeLoad beforeStart inspect
    simp only [Session.putFrame_eq, Session.sendFrame_eq hsize, onPort_bind, onPort_pure, bind_assoc,
      pure_bind, withBreak]

theorem call_eq (w : World η ε) (m : Message) :
    ∃ rest : UInt8 × List UInt8 → Nat × Bool → Linked η ε Unit, m.call w = (do
    let x ← onPort (m.beforeLoad w)
    let y ← onPort (m.beforeStart w x.2)
    onPort (Session.dispatch w (startFrame w.hardware x.2.length m.withBreak))
    rest x y) :=
  ⟨m.rest w, call_eq_rest w m⟩

/-! ### The buffer -/

/-- What is in the buffer when a transmission begins is sent with the number of the transaction. -/
theorem frame_startFrame {hw : Hardware η ε} {q : Port η} {slots : List UInt8}
    (hbuffer : q.bus.frame.take slots.length = slots) (withBreak : Bool) :
    (startFrame hw slots.length withBreak q).2.bus.frame.take slots.length =
      if withBreak then Frame.numbered q.transaction slots else slots := by
  have hfits : slots.length ≤ q.bus.frame.length := by
    have hlength := congrArg List.length hbuffer
    rw [List.length_take] at hlength
    omega
  have hstamped : (Session.stamp q slots.length withBreak).bus.frame.take slots.length =
      if withBreak then Frame.numbered q.transaction slots else slots := by
    unfold Session.stamp Session.isReply
    dsimp only
    rw [hbuffer]
    cases withBreak with
    | false => exact hbuffer
    | true =>
      cases hrequest : Frame.isRequest slots with
      | false =>
        rw [Bool.and_false, Frame.numbered, hrequest]
        exact hbuffer
      | true =>
        have hlength := Frame.length_numbered q.transaction slots
        have hroom : 0 + (Frame.numbered q.transaction slots).length ≤ q.bus.frame.length := by omega
        have hwritten := take_overwrite hroom
        rw [Nat.zero_add, hlength] at hwritten
        rw [Frame.isResponse_of_isRequest hrequest]
        rw [Frame.numbered, if_pos hrequest] at hwritten ⊢
        exact hwritten
  unfold startFrame Port.dispatch
  rw [Port.bus_dispatchAt, Bus.frame_handle]
  exact hstamped

/-- What the task puts into the buffer is the frame of the message, but for the number of the transaction. -/
theorem numbered_beforeLoad {m : Message} {p l : Port η} {x : UInt8 × List UInt8}
    (h : (m.beforeLoad w).runFrom p = (.ok x, l)) (number : UInt8) :
    (if m.withBreak then Frame.numbered number x.2 else x.2) = m.frame number := by
  have hloaded {y : UInt8 × List UInt8} {q : Port η}
      (hrun : (do waitSent w maxPacketMicros; return y : Session η ε (UInt8 × List UInt8)).runFrom q = (.ok x, l)) :
      x = y := by
    obtain ⟨_, _, -, hpure⟩ := Run.exists_of_bind hrun
    cases hpure
    rfl
  cases m with
  | ask r | probe r =>
    obtain ⟨transaction, _, -, hrun⟩ := Run.exists_of_bind h
    rw [hloaded hrun]
    exact (if_pos rfl).trans (Package.numbered_request _ number)
  | slots startCode values =>
    unfold beforeLoad at h
    dsimp only at h
    split at h
    · cases h
    · rw [hloaded h]
      exact if_pos rfl
  | response r =>
    rw [hloaded h]
    exact (if_pos rfl).trans (Package.numbered_response r number)
  | here uid =>
    rw [hloaded h]
    rfl

/-! ### While the task waits -/

section

variable {I : Port η → Prop}

theorem keeps_beforeLoad (h : Session.KeptByOthers w I) (m : Message) : Run.Keeps I (m.beforeLoad w) := by
  unfold beforeLoad
  cases m with
  | ask r | probe r => exact (h.look _).bind fun _ => (h.waitSent _).bind fun _ => Run.keeps_pure _
  | slots startCode values =>
    dsimp only
    split
    · exact Run.keeps_throw_bind _ _
    · exact (h.waitSent _).bind fun _ => Run.keeps_pure _
  | response r | here uid => exact (h.waitSent _).bind fun _ => Run.keeps_pure _

theorem keeps_inspect (h : Session.KeptByOthers w I) (m : Message) (size : Nat) : Run.Keeps I (m.inspect w size) := by
  unfold inspect
  cases m with
  | ask r => exact (h.look _).bind fun _ => (h.look _).bind fun _ => Run.keeps_pure _
  | probe r => exact (h.look _).bind fun _ => Run.keeps_pure _
  | slots | response | here => exact Run.keeps_pure _

theorem keeps_ready (h : Session.KeptByOthers w I) (size : Nat) (withBreak : Bool) :
    Run.Keeps I (ready w size withBreak) := by
  unfold ready
  dsimp only
  split
  · exact Run.keeps_throw_bind _ _
  · refine (h.look _).bind fun enabled => ?_
    split
    · exact Run.keeps_throw_bind _ _
    · exact (h.waitSent _).bind fun _ => (h.attempt fun _ hp => hp).bind fun _ => h.waitUntil _

end

theorem size_le_of_ready {size : Nat} {withBreak : Bool} {p q : Port η}
    (h : (ready w size withBreak).runFrom p = (.ok (), q)) :
    size ≤ maxFrameSize := by
  unfold ready at h
  dsimp only at h
  split at h
  · cases h
  · omega

/-- From `l`, where the frame is put into the buffer, to `q`, where its transmission begins.  In between, the task
inspects the frame at a port `i`. -/
theorem elapsed_beforeStart {s : Surroundings η} {hw : Hardware η ε} {m : Message} {slots : List UInt8}
    {y : Nat × Bool} {l q : Port (η × Tally)} (h : (m.beforeStart (s.world hw) slots).runFrom l = (.ok y, q)) :
    slots.length ≤ maxFrameSize ∧ ∃ i i', (m.inspect (s.world hw) slots.length).runFrom i = (.ok y, i') ∧
      Elapsed { l with bus := l.bus.write 0 slots } i ∧ Elapsed i q := by
  obtain ⟨_, i, hput, hrun⟩ := Run.exists_of_bind h
  obtain ⟨seen, i', hinspect, hrun⟩ := Run.exists_of_bind hrun
  obtain ⟨_, q', hready, hpure⟩ := Run.exists_of_bind hrun
  cases hpure
  refine ⟨size_le_of_ready hready, i, i', hinspect, ?_, ?_⟩
  · cases hput
    exact (Elapsed.keptByOthers s hw _).between (.refl _)
  · have hothers := Elapsed.keptByOthers s hw i
    exact (keeps_ready hothers _ _).of_runFrom ((keeps_inspect hothers m _).of_runFrom (.refl i) hinspect) hready

/-- If no slots are read, the frame stays in the buffer. -/
theorem frame_of_kept {slots : List UInt8} {l q : Port (η × Tally)} (hl : l.bus.Reachable)
    (hsize : slots.length ≤ maxFrameSize)
    (hwaited : Elapsed { l with bus := l.bus.write 0 slots } q) (hkept : q.hardware.2.slots = l.hardware.2.slots) :
    q.bus.frame.take slots.length = slots := by
  have hfits : 0 + slots.length ≤ l.bus.frame.length := by
    rw [hl.bounded.frame]
    omega
  rw [hwaited.frame hkept]
  have hwritten := take_overwrite hfits
  rw [Nat.zero_add] at hwritten
  exact hwritten

/-- Each call that sends a message puts its frame into the buffer at a port `l` and begins its transmission at a port
`q`.  If no slots are read in between, the buffer then begins with the frame of the message. -/
theorem frame_at_start (hw : Hardware η ε) (s : Surroundings η) (m : Message) :
    (∃ rest : UInt8 × List UInt8 → Nat × Bool → Linked (η × Tally) ε Unit, m.call (s.world hw) = (do
      let x ← onPort (m.beforeLoad (s.world hw))
      let y ← onPort (m.beforeStart (s.world hw) x.2)
      onPort (Session.dispatch (s.world hw) (startFrame hw.tallied x.2.length m.withBreak))
      rest x y)) ∧
    ∀ (p l q : Port (η × Tally)) (x : UInt8 × List UInt8) (y : Nat × Bool), p.bus.Reachable →
      (m.beforeLoad (s.world hw)).runFrom p = (.ok x, l) → (m.beforeStart (s.world hw) x.2).runFrom l = (.ok y, q) →
      q.hardware.2.slots = l.hardware.2.slots →
      (startFrame hw.tallied x.2.length m.withBreak q).2.bus.frame.take x.2.length = m.frame p.transaction := by
  refine ⟨call_eq _ m, fun p l q x y hp hload hstart hkept => ?_⟩
  have hbefore : Elapsed p l := (keeps_beforeLoad (Elapsed.keptByOthers s hw p) m).of_runFrom (.refl p) hload
  obtain ⟨hsize, i, _, -, hloaded, hwaited⟩ := elapsed_beforeStart hstart
  have hwaited := hloaded.trans hwaited
  have hbuffer := frame_of_kept (hbefore.reachable hp) hsize hwaited hkept
  have htransaction : q.transaction = p.transaction := hwaited.transaction.trans hbefore.transaction
  rw [frame_startFrame hbuffer, htransaction]
  exact numbered_beforeLoad hload p.transaction

open Simulation

/-- In each pause a break comes in. -/
def breaking : World (Bench × Tally) Fault :=
  Surroundings.world ⟨fun _ => [],
      fun _ => [.goesOn fun b => { b with time := b.time + 200, pending := b.pending.union .rxBreak }, .uart]⟩
    Bench.hardware

/-- The port is switched on, and the last frame was a broadcast. -/
def afterBroadcast (p : Port Bench) : Port (Bench × Tally) :=
  { ((Port.enable Bench.hardware).runFrom p).2.tallied with lastTransfer := .broadcast }

/-- The task waits before it sends, and the break that comes in meanwhile does not touch the buffer. -/
theorem frame_at_start_breaking : ∃ p, Port.install Bench.hardware .standard (.new 128 []) = .ok p ∧
    let l := ((slots 0x55 [1, 2, 3]).beforeLoad breaking).after (afterBroadcast p)
    let q := ((slots 0x55 [1, 2, 3]).beforeStart breaking [0x55, 1, 2, 3]).after l
    q.hardware.2 = ⟨0, 0, 1, 0⟩ ∧
      (startFrame Bench.hardware.tallied 4 true q).2.bus.frame.take 4 = [0x55, 1, 2, 3] := by
  have hsent {p : Port Bench} {l q : Port (Bench × Tally)}
    (hp : Port.install Bench.hardware .standard (.new 128 []) = .ok p)
      (hload : ((slots 0x55 [1, 2, 3]).beforeLoad breaking).runFrom (afterBroadcast p) =
        (.ok (0, [0x55, 1, 2, 3]), l))
      (hstart : ((slots 0x55 [1, 2, 3]).beforeStart breaking [0x55, 1, 2, 3]).runFrom l = (.ok (0, false), q))
      (hkept : q.hardware.2.slots = l.hardware.2.slots) :
      (startFrame Bench.hardware.tallied 4 true q).2.bus.frame.take 4 = [0x55, 1, 2, 3] := by
    have hidle : (afterBroadcast p).bus.Reachable := Port.reachable_enable (Port.reachable_install hp)
    refine ((frame_at_start Bench.hardware _ (slots 0x55 [1, 2, 3])).2 _ l q _ _ hidle hload hstart hkept).trans ?_
    show Frame.numbered _ [0x55, 1, 2, 3] = _
    rw [Frame.numbered, if_neg (by decide)]
  exact ⟨_, rfl, by decide +kernel, hsent rfl (Run.runFrom_of_toOption (by decide +kernel))
    (Run.runFrom_of_toOption (by decide +kernel)) (by decide +kernel)⟩

/-- A probe of the whole address space. -/
def wholeProbe : Request where
  destination := .broadcast
  source := ⟨0x7FF0, 0⟩
  transaction := 0
  port := 1
  messageCount := 0
  subDevice := 0
  commandClass := .discovery
  parameterId := .discUniqueBranch
  data := Branch.whole.payload

/-- What happens in the next pauses, which take so long. -/
def expecting (pauseMicros : Nat) (script : List (Nat × BenchEvent)) : Port Bench → Port Bench :=
  Bench.onBench fun b => { b with pauseMicros, script }

/-- Nobody answers a branch probe in time.  While the task waits to send something else, a slot of a late answer comes
in and is sent as the start code. -/
theorem overwritten_at_start : ∃ p, Port.install Bench.hardware .standard (.new 128 []) = .ok p ∧
    let unanswered := [(0, .alarm), (0, .alarm), (0, .interrupt [] .txDone), (2800, .alarm)]
    let asked := Session.afterCall Bench.world (.probe wholeProbe)
      (expecting 100 unanswered ((Port.enable Bench.hardware).runFrom p).2)
    let l := ((slots 0x55 [1, 2, 3]).beforeLoad Bench.world).after
      (expecting 3000 [(0, .interrupt [0xFE] .rxData)] asked)
    let q := ((slots 0x55 [1, 2, 3]).beforeStart Bench.world [0x55, 1, 2, 3]).after l
    (((slots 0x55 [1, 2, 3]).beforeStart Bench.world [0x55, 1, 2, 3]).runFrom l).1.toOption = some (0, false) ∧
      (startFrame Bench.hardware 4 true q).2.bus.isSending = true ∧
      (startFrame Bench.hardware 4 true q).2.bus.frame.take 4 = [0xFE, 1, 2, 3] :=
  ⟨_, rfl, by decide +kernel, by decide +kernel, by decide +kernel⟩

end Message

end LightBus
