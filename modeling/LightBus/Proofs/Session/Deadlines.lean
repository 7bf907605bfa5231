import LightBus.Proofs.Session.Ending

/-!
# Receptions before the deadline

A call that waits for a response, or for a frame, receives again when what has come in is of no use to it.  It does so
only before its deadline, and each reception gets the time that is left.  To show this, the call is run with notes of
these receptions beside the port (`Session.askNoted`, `Session.receiveFrameNoted`); apart from the notes it is the
same call (`Session.NotesOnly`).

Together with the bounds on the rounds of each loop this is `World.Forward.calls_end`.
-/

namespace LightBus

variable {η ε α β : Type}

/-- A task begins to receive. -/
structure Reception where
  time : Nat
  /-- How long the task waits at most. -/
  timeout : Nat
deriving DecidableEq

/-- The reception is part of a call that has so much time from `start` on.  It begins before the time is over, and it
gets the rest. -/
structure Reception.InTime (start limit : Nat) (r : Reception) : Prop where
  lt_deadline : r.time < start + limit
  timeout_eq : r.timeout = start + limit - r.time
  timeout_le : r.timeout ≤ limit

private theorem Reception.inTime_of_lt {time start limit : Nat} (hstart : start ≤ time)
    (htime : time < start + limit) :
    Reception.InTime start limit ⟨time, start + limit - time⟩ :=
  ⟨htime, rfl, by dsimp only; omega⟩

namespace Session

/-! ### Calls with notes -/

/-- A call with notes of its receptions beside the port. -/
abbrev Noted (η ε α : Type) := Run (Port η × List Reception) (LinkError (PortError ε)) α

/-- A part of a call of which nothing is noted. -/
def unnoted (a : Linked η ε α) : Noted η ε α := a.within Prod.fst fun s p => (p, s.2)

/-- Notes a reception, and receives. -/
def receiveNoted (w : World η ε) (timeout : Nat) : Noted η ε Notice := do
  modify fun s => (s.1, s.2 ++ [⟨s.1.now w.hardware, timeout⟩])
  unnoted (onPort (receive w timeout))

def awaitResponseNoted (w : World η ε) (transaction : UInt8) (deadline : Nat) : Nat → Notice → Noted η ε Response
  | 0, _ => throw (.driver .clockStopped)
  | rounds + 1, notice => do
    let package ← unnoted (readPackage w notice)
    let again : Noted η ε Response := do
      let now ← unnoted (onPort (now w))
      if deadline ≤ now then throw .timeout
      awaitResponseNoted w transaction deadline rounds (← receiveNoted w (deadline - now))
    match package with
    | .response r => if r.transaction = transaction then return r else again
    | .request _ => again

/-- The first reception belongs to the request.  The further ones are noted. -/
def askNoted (w : World η ε) (r : Request) : Noted η ε (Option Response) := do
  let (transaction, size) ← unnoted (onPort (loadRequest w r))
  let deadline := (← unnoted (onPort (now w))) + requestTimeout
  match ← unnoted (onPort (request w size requestTimeout)) with
  | none => return none
  | some notice =>
    let response ← fun s => awaitResponseNoted w transaction deadline (rounds w deadline s.1) notice s
    return some response

def awaitFrameNoted (w : World η ε) (deadline : Nat) : Nat → Noted η ε (List UInt8)
  | 0 => throw (.driver .clockStopped)
  | rounds + 1 => do
    let now ← unnoted (onPort (now w))
    if deadline ≤ now then throw .timeout
    let notice ← receiveNoted w (deadline - now)
    Run.ofExcept notice.check
    if notice.kind = .discoveryReply ∨ notice.kind = .empty then awaitFrameNoted w deadline rounds
    else unnoted (onPort (read w 0 notice.size))

def receiveFrameNoted (w : World η ε) : Noted η ε (List UInt8) := do
  let deadline := (← unnoted (onPort (now w))) + maxPacketMicros
  fun s => awaitFrameNoted w deadline (rounds w deadline s.1) s

/-- From the port `p` on, the call with notes does what the call does, and it notes nothing but good receptions. -/
def NotesOnly (good : Reception → Prop) (noted : Noted η ε α) (a : Linked η ε α) (p : Port η) : Prop :=
  ∀ notes, ∃ more, noted.runFrom (p, notes) = ((a.runFrom p).1, (a.runFrom p).2, notes ++ more) ∧ ∀ r ∈ more, good r

variable {w : World η ε} {good : Reception → Prop} {p : Port η} {timeout : Nat}

private theorem notesOnly_unnoted (a : Linked η ε α) : NotesOnly good (unnoted a) a p :=
  fun notes => ⟨[], by rw [List.append_nil]; rfl, nofun⟩

private theorem notesOnly_ofExcept (r : Except (LinkError (PortError ε)) α) :
    NotesOnly good (Run.ofExcept r) (Run.ofExcept r) p :=
  notesOnly_unnoted (Run.ofExcept r)

private theorem notesOnly_pure (x : α) : NotesOnly good (pure x) (pure x : Linked η ε α) p :=
  notesOnly_ofExcept (.ok x)

private theorem notesOnly_throw (e : LinkError (PortError ε)) : NotesOnly good (throw e) (throw e : Linked η ε α) p :=
  notesOnly_ofExcept (.error e)

theorem NotesOnly.bind {noted : Noted η ε α} {a : Linked η ε α} {f : α → Noted η ε β} {g : α → Linked η ε β}
    (ha : NotesOnly good noted a p) (hf : ∀ x q, a.runFrom p = (.ok x, q) → NotesOnly good (f x) (g x) q) :
    NotesOnly good (noted >>= f) (a >>= g) p := by
  intro notes
  obtain ⟨more, hrun, hgood⟩ := ha notes
  rw [Run.runFrom_bind, Run.runFrom_bind, hrun]
  rcases hfirst : a.runFrom p with ⟨e | x, q⟩
  · exact ⟨more, rfl, hgood⟩
  · obtain ⟨later, hrest, hlater⟩ := hf x q hfirst (notes ++ more)
    refine ⟨more ++ later, ?_, fun r hr => (List.mem_append.1 hr).elim (hgood r) (hlater r)⟩
    rw [← List.append_assoc]
    exact hrest

private theorem notesOnly_receiveNoted (hgood : good ⟨p.now w.hardware, timeout⟩) :
    NotesOnly good (receiveNoted w timeout) (onPort (receive w timeout)) p := by
  intro notes
  refine ⟨[⟨p.now w.hardware, timeout⟩], rfl, fun r hr => ?_⟩
  rw [List.mem_singleton.1 hr]
  exact hgood

/-- The rounds are counted from the port, whatever has been noted. -/
private theorem notesOnly_rounds {f : Nat → Noted η ε α} {g : Nat → Linked η ε α} (rounds : Port η → Nat)
    (h : NotesOnly good (f (rounds p)) (g (rounds p)) p) :
    NotesOnly good (fun s => f (rounds s.1) s) (fun p => g (rounds p) p) p := h

end Session

open Session
open Run (Suffices)

namespace World.Forward

variable {w : World η ε} {p : Port η} {start limit : Nat}

/-! ### The further receptions of a call -/

private theorem notesOnly_awaitResponse (h : w.Forward) (transaction : UInt8) (rounds : Nat) (n : Notice)
    (hp : start ≤ p.now w.hardware) :
    NotesOnly (Reception.InTime start limit) (awaitResponseNoted w transaction (start + limit) rounds n)
      (awaitResponse w transaction (start + limit) rounds n) p := by
  induction rounds generalizing n p with
  | zero => exact notesOnly_throw _
  | succ rounds ih =>
    unfold awaitResponseNoted awaitResponse
    refine (notesOnly_unnoted _).bind fun package q hread => ?_
    obtain rfl := (h.keeps_readPackage n p).of_runFrom rfl hread
    -- What is done about a package that is skipped.
    have hagain : NotesOnly (Reception.InTime start limit)
        (do
          let now ← unnoted (onPort (now w))
          if start + limit ≤ now then throw .timeout
          awaitResponseNoted w transaction (start + limit) rounds (← receiveNoted w (start + limit - now)))
        (do
          let now ← onPort (now w)
          if start + limit ≤ now then throw .timeout
          awaitResponse w transaction (start + limit) rounds (← onPort (receive w (start + limit - now)))) q := by
      refine (notesOnly_unnoted _).bind fun now r hlook => ?_
      cases hlook
      rw [h.between]
      dsimp only
      split
      · exact notesOnly_throw _
      · rename_i htime
        refine (notesOnly_receiveNoted (Reception.inTime_of_lt hp (Nat.not_le.1 htime))).bind fun next r hreceive =>
          ?_
        exact ih next (((h.keptByCalls_clock start).receive _).of_runFrom hp (runFrom_of_onPort hreceive))
    cases package with
    | request r => exact hagain
    | response r =>
      dsimp only
      split
      · exact notesOnly_pure _
      · exact hagain

private theorem notesOnly_awaitFrame (h : w.Forward) (rounds : Nat) (hp : start ≤ p.now w.hardware) :
    NotesOnly (Reception.InTime start limit) (awaitFrameNoted w (start + limit) rounds)
      (awaitFrame w (start + limit) rounds) p := by
  induction rounds generalizing p with
  | zero => exact notesOnly_throw _
  | succ rounds ih =>
    unfold awaitFrameNoted awaitFrame
    refine (notesOnly_unnoted _).bind fun now q hlook => ?_
    cases hlook
    rw [h.between]
    dsimp only
    split
    · exact notesOnly_throw _
    rename_i htime
    refine (notesOnly_receiveNoted (Reception.inTime_of_lt hp (Nat.not_le.1 htime))).bind fun n q hreceive => ?_
    have hq : start ≤ q.now w.hardware :=
      ((h.keptByCalls_clock start).receive _).of_runFrom hp (runFrom_of_onPort hreceive)
    refine (notesOnly_ofExcept _).bind fun _ r hcheck => ?_
    obtain rfl : q = r := (Prod.mk.inj hcheck).2
    split
    · exact ih hq
    · exact notesOnly_unnoted _

private theorem notesOnly_receiveFrame (h : w.Forward) (p : Port η) :
    NotesOnly (Reception.InTime (p.now w.hardware) maxPacketMicros) (receiveFrameNoted w) (receiveFrame w) p := by
  refine (notesOnly_unnoted _).bind fun now q hlook => ?_
  cases hlook
  rw [h.between]
  exact notesOnly_rounds (f := awaitFrameNoted w (p.now w.hardware + maxPacketMicros))
    (g := awaitFrame w (p.now w.hardware + maxPacketMicros)) _ (h.notesOnly_awaitFrame _ (Nat.le_refl _))

private theorem notesOnly_ask (h : w.Forward) (r : Request) (p : Port η) :
    NotesOnly (Reception.InTime (((loadRequest w r).after p).now w.hardware) requestTimeout) (askNoted w r)
      (ask w r) p := by
  refine (notesOnly_unnoted _).bind fun ⟨transaction, size⟩ q hload => ?_
  rw [Run.after_of_runFrom (runFrom_of_onPort hload)]
  refine (notesOnly_unnoted _).bind fun now q' hlook => ?_
  cases hlook
  rw [h.between]
  refine (notesOnly_unnoted _).bind fun notice s hrequest => ?_
  have hs : q.now w.hardware ≤ s.now w.hardware :=
    ((h.keptByCalls_clock (q.now w.hardware)).request _ _).of_runFrom (Nat.le_refl _) (runFrom_of_onPort hrequest)
  cases notice with
  | none => exact notesOnly_pure _
  | some n =>
    refine NotesOnly.bind ?_ fun _ _ _ => notesOnly_pure _
    exact notesOnly_rounds (f := (awaitResponseNoted w transaction (q.now w.hardware + requestTimeout) · n))
      (g := (awaitResponse w transaction (q.now w.hardware + requestTimeout) · n)) _
      (h.notesOnly_awaitResponse transaction _ n hs)

end World.Forward

/-! ### All calls -/

namespace Session

/-- No call ends because its rounds have run out. -/
structure CallsEnd (w : World η ε) : Prop where
  waitSent (timeout : Nat) : Ends (waitSent w timeout)
  send (size : Nat) : Ends (send w size)
  receive (timeout : Nat) : Ends (receive w timeout)
  request (size timeout : Nat) : Ends (request w size timeout)
  ask (r : Request) : LinkEnds (ask w r)
  probe (r : Request) : LinkEnds (probe w r)
  receiveFrame : LinkEnds (receiveFrame w)

/-- Wherever a loop begins, its rounds are enough for it, so that it goes on as if they were not counted. -/
structure LoopsEnd (w : World η ε) : Prop where
  awaitSent (deadline : Nat) (p : Port η) :
    Suffices (fun n => (awaitSent w deadline n).runFrom p) .clockStopped (rounds w deadline p)
  awaitTime (time : Nat) (p : Port η) :
    Suffices (fun n => (awaitTime w time n).runFrom p) .clockStopped (rounds w time p)
  awaitNotice (deadline : Nat) (p : Port η) :
    Suffices (fun n => (awaitNotice w deadline n).runFrom p) .clockStopped (rounds w deadline p)
  awaitResponse (transaction : UInt8) (deadline : Nat) (notice : Notice) (p : Port η) :
    Suffices (fun n => (awaitResponse w transaction deadline n notice).runFrom p) (.driver .clockStopped)
      (rounds w deadline p)
  awaitFrame (deadline : Nat) (p : Port η) :
    Suffices (fun n => (awaitFrame w deadline n).runFrom p) (.driver .clockStopped) (rounds w deadline p)

end Session

/-- Whatever happens while a task pauses: every call ends, and none of its loops runs out of rounds; a reception never
tells of a transmission; and a call that waits for a response or a frame begins no further reception after its
deadline. -/
theorem World.Forward.calls_end {w : World η ε} (h : w.Forward) :
    CallsEnd w ∧ LoopsEnd w ∧
    (∀ timeout p n q, (receive w timeout).runFrom p = (.ok n, q) → n.origin = .receive) ∧
    (∀ r p, NotesOnly (Reception.InTime (((loadRequest w r).after p).now w.hardware) requestTimeout) (askNoted w r)
      (ask w r) p) ∧
    ∀ p, NotesOnly (Reception.InTime (p.now w.hardware) maxPacketMicros) (receiveFrameNoted w) (receiveFrame w) p :=
  ⟨⟨h.ends_waitSent, fun size => h.ends_sendFrame size true, h.ends_receive, h.ends_request, h.linkEnds_ask,
    h.linkEnds_probe,
      h.linkEnds_receiveFrame⟩,
    ⟨h.suffices_awaitSent, h.suffices_awaitTime, h.suffices_awaitNotice, h.suffices_awaitResponse,
      h.suffices_awaitFrame⟩,
    fun _ _ _ _ => h.origin_receive, h.notesOnly_ask, h.notesOnly_receiveFrame⟩

open Simulation

/-- A response with the number 7. -/
def babbled : List UInt8 :=
  (Package.response {
    destination := .device ⟨0x7FF0, 1⟩, source := ⟨0x05E0, 1⟩, transaction := 7, responseType :=
      .ack, messageCount := 0,
    subDevice := 0, commandClass := .get, parameterId := .deviceInfo, data := .empty }).frame

/-- In each pause the timer rings, all slots are sent, and the same response comes in again after a break. -/
def babbling : World Bench Fault where
  hardware := Bench.hardware
  pause p :=
    let sent := Bench.occur (.interrupt [] (.union .txData .txDone)) (Bench.occur .alarm (Bench.wait 4000 p))
    Bench.occur (.interrupt babbled .rxData) (Bench.occur (.interrupt [] .rxBreak) sent)
  between := id

private theorem forward_babbling : babbling.Forward where
  onward := Bench.onward
  between _ := rfl
  pause p := by
    let time := p.now Bench.hardware + 1
    have hwait : time ≤ (Bench.wait 4000 p).now Bench.hardware := Nat.add_le_add_left (by decide) _
    have halarm : time ≤ (Bench.occur .alarm (Bench.wait 4000 p)).now Bench.hardware :=
      Nat.le_trans hwait (Port.clock_raise Bench.onward _ _)
    have hinterrupt (received : List UInt8) (raised : Interrupts) {q : Port Bench}
      (hq : time ≤ q.now Bench.hardware) :
        time ≤ (Bench.occur (.interrupt received raised) q).now Bench.hardware :=
      (Port.keptByInterrupts_clock Bench.onward time).onUart hq
    exact hinterrupt _ _ (hinterrupt _ _ (hinterrupt _ _ halarm))

/-- A task asks with the number 0.  It skips all responses with the number 7, and its request times out after 20000
microseconds. -/
theorem calls_end_babbling : babbling.Forward ∧ CallsEnd babbling ∧ LoopsEnd babbling ∧
    ∃ p, Port.install Bench.hardware .standard (.new 128 []) = .ok p ∧
      let on := ((Port.enable Bench.hardware).runFrom p).2
      let r : Request := { Message.wholeProbe with destination := .device ⟨0x05E0, 1⟩, commandClass := .get }
      complaint? ((ask babbling r).runFrom on).1 = some "request timed out" ∧
      ((askNoted babbling r).runFrom (on, [])).2.2 = [⟨8000, 12000⟩, ⟨12000, 8000⟩, ⟨16000, 4000⟩] ∧
      NotesOnly (Reception.InTime (((loadRequest babbling r).after on).now Bench.hardware) requestTimeout)
        (askNoted babbling r) (ask babbling r) on := by
  obtain ⟨hcalls, hloops, -, hnotes, -⟩ := forward_babbling.calls_end
  exact ⟨forward_babbling, hcalls, hloops, _, rfl, by decide +kernel, by decide +kernel, hnotes _ _⟩

end LightBus
