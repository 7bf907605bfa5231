import LightBus.Proofs.Session.Failing

/-!
# Transaction numbers

Each request gets the number of the port when its transmission begins, and the port goes on to the next number
(`Counts.startFrame`).  While a task waits, nobody takes a number (`Counts.keptByReceiving`), so that a call takes one
number or none (`Message.counts_call`).  The requests of a run are numbered in their order, whatever else is sent in
between and whichever calls fail before their transmission begins (`Doing.transaction_numbers`).

A task that has sent a request takes only a response with its number for the answer, and waits on when it receives
something else (`Session.Awaits`).
-/

namespace LightBus

open Run (Keeps)

/-- The rounds are counted once, at the beginning. -/
private theorem Run.runFrom_rounds {σ ε α : Type} (f : Nat → Run σ ε α) (rounds : σ → Nat) (s : σ) :
    Run.runFrom (fun s => f (rounds s) s : Run σ ε α) s = (f (rounds s)).runFrom s := rfl

namespace Session

variable {η ε : Type} {w : World η ε} {number : UInt8} {deadline : Nat}

/-! ### Waiting for a response -/

/-- A task that has received `n` waits for the response with the number.  It ends with the result at the port `q`. -/
inductive Awaits (w : World η ε) (number : UInt8) (deadline : Nat) :
    Notice → Port η → Except (LinkError (PortError ε)) Response → Port η → Prop
  /-- This is the response. -/
  | answered {n : Notice} {p q : Port η} {r : Response} (hread : (readPackage w n).runFrom p = (.ok (.response r), q))
      (hnumber : r.transaction = number) : Awaits w number deadline n p (.ok r) q
  /-- Another package is skipped, and the task receives again. -/
  | skipped {n next : Notice} {p p₁ p₂ q : Port η} {package : Package}
    {result : Except (LinkError (PortError ε)) Response}
      (hread : (readPackage w n).runFrom p = (.ok package, p₁))
      (hother : ∀ r, package = .response r → r.transaction ≠ number) (htime : p₁.now w.hardware < deadline)
      (hreceive : (receive w (deadline - p₁.now w.hardware)).runFrom (w.between p₁) = (.ok next, p₂))
      (hrest : Awaits w number deadline next p₂ result q) : Awaits w number deadline n p result q
  /-- There is no time left for another one. -/
  | late {n : Notice} {p p₁ : Port η} {package : Package} (hread : (readPackage w n).runFrom p = (.ok package, p₁))
      (hother : ∀ r, package = .response r → r.transaction ≠ number) (htime : deadline ≤ p₁.now w.hardware) :
      Awaits w number deadline n p (.error .timeout) (w.between p₁)
  /-- The port fails. -/
  | failed {n : Notice} {p p₁ q : Port η} {package : Package} {e : PortError ε}
      (hread : (readPackage w n).runFrom p = (.ok package, p₁))
      (hother : ∀ r, package = .response r → r.transaction ≠ number) (htime : p₁.now w.hardware < deadline)
      (hreceive : (receive w (deadline - p₁.now w.hardware)).runFrom (w.between p₁) = (.error e, q)) :
      Awaits w number deadline n p (.error (.driver e)) q
  /-- What was received is no package. -/
  | unread {n : Notice} {p q : Port η} {e : LinkError (PortError ε)}
    (hread : (readPackage w n).runFrom p = (.error e, q)) :
      Awaits w number deadline n p (.error e) q
  /-- The clock stands still. -/
  | stopped {n : Notice} {p : Port η} : Awaits w number deadline n p (.error (.driver .clockStopped)) p

private theorem Awaits.transaction {n : Notice} {p q : Port η} {result : Except (LinkError (PortError ε)) Response}
    (h : Awaits w number deadline n p result q) {r : Response} (hr : result = .ok r) : r.transaction = number := by
  induction h with
  | answered _ hnumber =>
    cases hr
    exact hnumber
  | skipped _ _ _ _ _ ih => exact ih hr
  | late | failed | unread | stopped => cases hr

/-- Nothing but a response with the number, an error or the deadline ends the wait. -/
private theorem awaits_awaitResponse (w : World η ε) (number : UInt8) (deadline rounds : Nat) (n : Notice)
    (p : Port η) :
    Awaits w number deadline n p ((awaitResponse w number deadline rounds n).runFrom p).1
      ((awaitResponse w number deadline rounds n).runFrom p).2 := by
  induction rounds generalizing n p with
  | zero => exact .stopped
  | succ rounds ih =>
    unfold awaitResponse
    rw [Run.runFrom_bind]
    rcases hread : (readPackage w n).runFrom p with ⟨e | package, p₁⟩
    · exact .unread hread
    -- What is done about a package that is skipped.
    let again : Linked η ε Response := do
      let now ← onPort (now w)
      if deadline ≤ now then throw .timeout
      awaitResponse w number deadline rounds (← onPort (receive w (deadline - now)))
    have hagain (hother : ∀ r, package = .response r → r.transaction ≠ number) :
        Awaits w number deadline n p (again.runFrom p₁).1 (again.runFrom p₁).2 := by
      have hrun : again.runFrom p₁ = if deadline ≤ p₁.now w.hardware then (.error .timeout, w.between p₁)
          else (do awaitResponse w number deadline rounds (← onPort (receive w (deadline - p₁.now w.hardware))) :
            Linked η ε Response).runFrom (w.between p₁) := by
        show (if deadline ≤ p₁.now w.hardware then throw .timeout else _ : Linked η ε Response).runFrom
          (w.between p₁) = _
        split <;> rfl
      rw [hrun]
      by_cases htime : deadline ≤ p₁.now w.hardware
      · rw [if_pos htime]
        exact .late hread hother htime
      · rw [if_neg htime, Run.runFrom_bind, onPort, Run.runFrom_mapError]
        rcases hreceive : (receive w (deadline - p₁.now w.hardware)).runFrom (w.between p₁) with ⟨e | next, p₂⟩
        · exact .failed hread hother (Nat.not_le.1 htime) hreceive
        · exact .skipped hread hother (Nat.not_le.1 htime) hreceive (ih next p₂)
    cases package with
    | request r => exact hagain fun _ hr => by cases hr
    | response r =>
      show Awaits w number deadline n p (Run.runFrom (if r.transaction = number then return r else again) p₁).1
        (Run.runFrom (if r.transaction = number then return r else again) p₁).2
      split
      · rename_i hnumber
        exact .answered hread hnumber
      · rename_i hnumber
        refine hagain fun r' hr => ?_
        cases hr
        exact hnumber

/-- The response that a task takes for the answer has the number of the request. -/
private theorem transaction_askAnswer {n : Notice} {p q : Port η} {r : Response}
    (h : (askAnswer w number deadline (some n)).runFrom p = (.ok (some r), q)) : r.transaction = number := by
  unfold askAnswer at h
  dsimp only at h
  obtain ⟨_, _, hawait, hpure⟩ := Run.exists_of_bind h
  cases hpure
  have hrun : (awaitResponse w number deadline (rounds w deadline p) n).runFrom p = (.ok r, q) :=
    (Run.runFrom_rounds (awaitResponse w number deadline · n) (rounds w deadline) p).symm.trans hawait
  have hawaits := awaits_awaitResponse w number deadline (rounds w deadline p) n p
  rw [hrun] at hawaits
  exact hawaits.transaction rfl

end Session

open Session (KeptByOthers KeptByReceiving onPort startFrame)

/-! ### The number of a port -/

/-- The port gives its next request this number. -/
structure Counts {η : Type} (number : UInt8) (p : Port η) : Prop where
  reachable : p.bus.Reachable
  transaction : p.transaction = number

namespace Counts

variable {η ε : Type} {number : UInt8} {p q : Port (η × Tally)}

private theorem elapsed (h : Counts number p) (hpq : Elapsed p q) : Counts number q :=
  ⟨hpq.reachable h.reachable, hpq.transaction.trans h.transaction⟩

private theorem dispatch (hw : Hardware (η × Tally) ε) (h : Counts number p) (event : BusEvent) :
    Counts number (p.dispatch hw event).2 := by
  unfold Port.dispatch
  rw [Port.dispatchAt_frame]
  exact ⟨h.reachable.handle event _, h.transaction⟩

/-- Only the start of a transmission can take a number. -/
theorem keptByReceiving (s : Surroundings η) (hw : Hardware η ε) (number : UInt8) :
    KeptByReceiving (s.world hw) (Counts number) := by
  have hbetween {p} (hp : Counts number p) : Counts number ((s.world hw).between p) :=
    hp.elapsed ((Elapsed.keptByOthers s hw p).between (.refl p))
  exact {
    between := hbetween
    pause := fun {p} hp => hp.elapsed ((Elapsed.keptByOthers s hw p).pause (.refl p))
    listen := fun hp _ => hbetween ((hbetween hp).dispatch _ _)
    take := fun {p} hp => hbetween (p := { p with notice := none }) ⟨hp.reachable, hp.transaction⟩
    answer := fun {p q _} hp _ _ _ hq => by
      have hq : Counts number q := hq ▸ hbetween (p := { p with notice := none }) ⟨hp.reachable, hp.transaction⟩
      exact hbetween (p := { q with lastTransfer := _ }) ⟨hq.reachable, hq.transaction⟩ }

/-- A request takes the number, and the port goes on to the next one. -/
theorem startFrame {number : UInt8} {q : Port η} (h : Counts number q) (hw : Hardware η ε) {slots : List UInt8}
    (hbuffer : q.bus.frame.take slots.length = slots) (withBreak : Bool) :
    Counts (if withBreak && Frame.isRequest slots then number + 1 else number)
      (Session.startFrame hw slots.length withBreak q).2 := by
  constructor
  · obtain ⟨_, -, hreachable⟩ := Session.bus_stamp q slots.length withBreak
    rw [Session.bus_startFrame]
    exact (hreachable h.reachable).handle (.startTransmit _ _ _ _) 0
  · have hnumber : (Session.startFrame hw slots.length withBreak q).2.transaction =
        (Session.stamp q slots.length withBreak).transaction := by
      unfold Session.startFrame Port.dispatch
      rw [Port.dispatchAt_frame]
    rw [hnumber, Session.stamp, hbuffer, ← h.transaction]
    cases withBreak with
    | false => rfl
    | true =>
      cases hrequest : Frame.isRequest slots with
      | false =>
        rw [Bool.and_false]
        rfl
      | true =>
        rw [Session.isReply, Frame.isResponse_of_isRequest hrequest]
        rfl

end Counts

namespace Message

variable {η ε : Type} {hw : Hardware η ε} {s : Surroundings η} {w : World η ε} {m : Message}

/-! ### Frames of requests -/

private theorem isRequest_here (uid : Uid) : Frame.isRequest (Discovery.replyFrame uid maxPreambleLength) = false :=
  rfl

/-- Slots that a task sends may look like a request if it sends them after the start code of packages.  Among all
other messages, only requests are sent as requests. -/
private theorem isRequest_frame (hcustom : ∀ values, m ≠ .slots rdmStart values) (number : UInt8) :
    Frame.isRequest (m.frame number) = true ↔ ∃ r, m = .ask r ∨ m = .probe r := by
  constructor
  · intro h
    cases m with
    | ask r => exact ⟨r, .inl rfl⟩
    | probe r => exact ⟨r, .inr rfl⟩
    | slots startCode values =>
      have hstart : startCode ≠ rdmStart := fun h => hcustom values (h ▸ rfl)
      rw [frame, (Frame.sameKind_numbered _ _).isRequest, Frame.isRequest, Frame.isPackage, Bool.and_eq_true,
        Bool.and_eq_true] at h
      simp [hstart] at h
    | response r =>
      exact absurd (Package.isResponse_response r) (ne_true_of_eq_false (Frame.isResponse_of_isRequest h))
    | here uid =>
      rw [frame, isRequest_here] at h
      cases h
  · rintro ⟨r, rfl | rfl⟩ <;> exact Package.isRequest_request _

/-- Frames that are no requests have no number. -/
private theorem frame_of_not_isRequest {number : UInt8} (h : Frame.isRequest (m.frame number) = false)
    (other : UInt8) :
    m.frame other = m.frame number := by
  cases m with
  | ask r | probe r => exact absurd (Package.isRequest_request _) (ne_true_of_eq_false h)
  | slots startCode values =>
    rw [frame, (Frame.sameKind_numbered _ _).isRequest] at h
    rw [frame, frame, Frame.numbered, Frame.numbered, h]
    rfl
  | response | here => rfl

/-! ### The beginning of a call -/

/-- A call has put a frame into the buffer at the port `loaded`, and begins its transmission at the port `ready`. -/
structure Beginning (η : Type) where
  frame : List UInt8
  loaded : Port η
  ready : Port η

/-- How the call gets to the beginning of its transmission, unless it fails before that. -/
def beginning? (w : World η ε) (m : Message) (p : Port η) : Option (Beginning η) :=
  match (m.beforeLoad w).runFrom p with
  | (.error _, _) => none
  | (.ok x, l) =>
    match (m.beforeStart w x.2).runFrom l with
    | (.error _, _) => none
    | (.ok _, q) => some ⟨x.2, l, q⟩

namespace Beginning

/-- The port when the transmission has begun. -/
def start (hw : Hardware η ε) (m : Message) (b : Beginning η) : Port η :=
  (startFrame hw b.frame.length m.withBreak b.ready).2

/-- The slots that the bus is to send then. -/
def sent (hw : Hardware η ε) (m : Message) (b : Beginning η) : List UInt8 :=
  (b.start hw m).bus.frame.take (b.start hw m).bus.txSize

end Beginning

theorem length_beforeLoad {p l : Port η} {x : UInt8 × List UInt8} (h : (m.beforeLoad w).runFrom p = (.ok x, l)) :
    x.2.length ≠ 0 := by
  have hnumbered := congrArg List.length (numbered_beforeLoad h 0)
  have hlength : (if m.withBreak then Frame.numbered 0 x.2 else x.2).length = x.2.length := by
    split
    · exact Frame.length_numbered _ _
    · rfl
  rw [← hlength, hnumbered]
  cases m with
  | ask r | probe r => exact length_request _
  | slots startCode values =>
    show (Frame.numbered 0 (startCode :: values)).length ≠ 0
    rw [Frame.length_numbered]
    exact Nat.succ_ne_zero _
  | response r =>
    show (Package.response r).frame.length ≠ 0
    rw [Package.length_frame, minPackageSize]
    omega
  | here uid => exact Nat.succ_ne_zero _

private theorem beginning?_of_runFrom {p l q : Port η} {x : UInt8 × List UInt8} {y : Nat × Bool}
    (hload : (m.beforeLoad w).runFrom p = (.ok x, l)) (hstart : (m.beforeStart w x.2).runFrom l = (.ok y, q)) :
    m.beginning? w p = some ⟨x.2, l, q⟩ := by
  simp only [beginning?, hload, hstart]

private theorem of_beginning? {p : Port η} {b : Beginning η} (h : m.beginning? w p = some b) :
    ∃ number y, (m.beforeLoad w).runFrom p = (.ok (number, b.frame), b.loaded) ∧
      (m.beforeStart w b.frame).runFrom b.loaded = (.ok y, b.ready) := by
  unfold beginning? at h
  rcases hload : (m.beforeLoad w).runFrom p with ⟨e | x, l⟩ <;> rw [hload] at h
  · cases h
  dsimp only at h
  rcases hstart : (m.beforeStart w x.2).runFrom l with ⟨e | y, q⟩ <;> rw [hstart] at h
  · cases h
  · cases h
    exact ⟨x.1, y, rfl, hstart⟩

private theorem keeps_rest {I : Port η → Prop} (h : KeptByReceiving w I) (m : Message) (x : UInt8 × List UInt8)
    (y : Nat × Bool) :
    Keeps I (m.rest w x y) := by
  unfold rest
  cases m with
  | ask r =>
    exact (KeptByReceiving.keeps_onPort (h.reply _ _)).bind fun notice => (h.askAnswer _ _ notice).bind fun _ =>
      Run.keeps_pure _
  | probe r =>
    exact (KeptByReceiving.keeps_onPort (h.reply _ _)).bind fun notice => (h.probeAnswer notice).bind fun _ =>
      Run.keeps_pure _
  | slots | response | here => exact KeptByReceiving.keeps_onPort (h.waitSent _)

private theorem keeps_beforeStart {I : Port η → Prop} (h : KeptByOthers w I)
    (hwrite : ∀ p frame, I p → I { p with bus := p.bus.write 0 frame }) (m : Message) (frame : List UInt8) :
    Keeps I (m.beforeStart w frame) := by
  unfold beforeStart
  have hput : Keeps I (Session.put w frame : Session η ε Unit) := fun p hp => h.between (hwrite p frame hp)
  exact hput.bind fun _ => (keeps_inspect h m _).bind fun _ => (keeps_ready h _ _).bind fun _ => Run.keeps_pure _

/-- What others and a task that waits and receives keep holds after a call that begins no transmission, and after any
other call if it holds when the transmission has begun. -/
private theorem after_call {I : Port η → Prop} (h : KeptByReceiving w I)
    (hwrite : ∀ p frame, I p → I { p with bus := p.bus.write 0 frame }) {p : Port η}
    (hrefused : m.beginning? w p = none → I p)
    (hbegun : ∀ b, m.beginning? w p = some b → I (w.between (b.start w.hardware m))) : I ((m.call w).after p) := by
  -- The call is followed up to where `beginning?` ends; what it does after that is `rest`.
  unfold beginning? at hrefused hbegun
  unfold Run.after
  rw [call_eq_rest, Run.runFrom_bind, onPort, Run.runFrom_mapError]
  rcases hload : (m.beforeLoad w).runFrom p with ⟨e | x, l⟩ <;> rw [hload] at hrefused hbegun
  · exact (keeps_beforeLoad h.toKeptByOthers m).of_runFrom (hrefused rfl) hload
  dsimp only [Except.mapError] at hrefused hbegun ⊢
  rw [Run.runFrom_bind, onPort, Run.runFrom_mapError]
  rcases hstart : (m.beforeStart w x.2).runFrom l with ⟨e | y, q⟩ <;> rw [hstart] at hrefused hbegun
  · have hl := (keeps_beforeLoad h.toKeptByOthers m).of_runFrom (hrefused rfl) hload
    exact (keeps_beforeStart h.toKeptByOthers hwrite m x.2).of_runFrom hl hstart
  dsimp only [Except.mapError] at hbegun ⊢
  have hdispatched := Session.isSending_startFrame w.hardware q (length_beforeLoad hload) m.withBreak
  rw [Run.runFrom_bind, onPort, Run.runFrom_mapError, Session.runFrom_dispatch hdispatched.1]
  have hbegun := hbegun _ rfl
  cases (startFrame w.hardware x.2.length m.withBreak q).1.result with
  | error e => exact hbegun
  | ok _ => exact keeps_rest h m x y _ hbegun

/-! ### What one call sends -/

/-- No slots are read while the task waits with its frame in the buffer. -/
def Undisturbed (hw : Hardware η ε) (s : Surroundings η) (m : Message) (p : Port (η × Tally)) : Prop :=
  ∀ b ∈ m.beginning? (s.world hw) p, b.ready.hardware.2.slots = b.loaded.hardware.2.slots

instance (p : Port (η × Tally)) : Decidable (m.Undisturbed hw s p) :=
  inferInstanceAs (Decidable (∀ b ∈ m.beginning? (s.world hw) p, b.ready.hardware.2.slots =
    b.loaded.hardware.2.slots))

section

variable {number : UInt8} {p : Port (η × Tally)} {b : Beginning (η × Tally)}

private theorem counts_ready (h : m.beginning? (s.world hw) p = some b) (hp : Counts number p) :
    Counts number b.ready := by
  obtain ⟨_, _, hload, hstart⟩ := of_beginning? h
  have hothers := (Counts.keptByReceiving s hw number).toKeptByOthers
  have hwrite (p : Port (η × Tally)) (frame : List UInt8) (hp : Counts number p) :
      Counts number { p with bus := p.bus.write 0 frame } := ⟨hp.reachable.write 0 frame, hp.transaction⟩
  exact (keeps_beforeStart hothers hwrite m b.frame).of_runFrom ((keeps_beforeLoad hothers m).of_runFrom hp hload)
    hstart

/-- Nothing is being sent when the transmission begins. -/
private theorem quiet_ready (h : m.beginning? (s.world hw) p = some b) (hp : p.bus.Reachable) : Quiet b.ready := by
  obtain ⟨_, _, hload, hstart⟩ := of_beginning? h
  have hothers := (Counts.keptByReceiving s hw p.transaction).toKeptByOthers
  have hquiet := Quiet.keptByOthers s hw
  obtain ⟨_, i, hput, hrun⟩ := Run.exists_of_bind hstart
  obtain ⟨_, i', hinspect, hrun⟩ := Run.exists_of_bind hrun
  obtain ⟨_, q, hready, hpure⟩ := Run.exists_of_bind hrun
  cases hpure
  have hl : Counts p.transaction b.loaded := (keeps_beforeLoad hothers m).of_runFrom ⟨hp, rfl⟩ hload
  have hi : Counts p.transaction i := by
    cases hput
    exact hothers.between (p := { b.loaded with bus := _ }) ⟨hl.reachable.write 0 b.frame, hl.transaction⟩
  have hi' : Counts p.transaction i' := (keeps_inspect hothers m _).of_runFrom hi hinspect
  -- The task has seen that nothing was being sent, and others begin nothing while it waits for its time.
  obtain ⟨r, time, hr, -, hwait⟩ := hothers.of_ready hquiet (fun q hq hidle => ⟨hq.reachable, hidle⟩) hi' hready
  exact (hquiet.waitUntil time).of_runFrom (hquiet.between hr) hwait

/-- Nothing was being sent, and then the bus has the whole frame to send. -/
private theorem begins (h : m.beginning? (s.world hw) p = some b) (hp : p.bus.Reachable) :
    b.ready.bus.isSending = false ∧ (b.start hw.tallied m).bus.isSending = true ∧
      (b.start hw.tallied m).bus.txSize = b.frame.length := by
  obtain ⟨_, _, hload, hstart⟩ := of_beginning? h
  have hsize := length_beforeLoad hload
  have hfits : b.frame.length ≤ maxFrameSize := (elapsed_beforeStart hstart).1
  have hidle := (quiet_ready h hp).idle
  refine ⟨hidle, (Session.isSending_startFrame hw.tallied b.ready hsize m.withBreak).2, ?_⟩
  obtain ⟨frame, hstamp, -⟩ := Session.bus_stamp b.ready b.frame.length m.withBreak
  have hstamped : { b.ready.bus with frame }.isSending = false := hidle
  obtain ⟨_, _, _, hstate⟩ := Bus.startTransmit_state hstamped hsize
    (Frame.expectsResponse (b.ready.bus.frame.take b.frame.length)) m.withBreak (hw.tallied.space b.ready.hardware)
  rw [Beginning.start, Session.bus_startFrame, hstamp, hstate]
  exact Nat.min_eq_left hfits

/-- The message is sent with the number that the port had before the call. -/
private theorem sent_of_undisturbed (h : m.beginning? (s.world hw) p = some b) (hp : p.bus.Reachable)
    (hkept : m.Undisturbed hw s p) :
    b.ready.bus.frame.take b.frame.length = b.frame ∧ b.sent hw.tallied m = m.frame p.transaction := by
  obtain ⟨_, _, hload, hstart⟩ := of_beginning? h
  have hl := (keeps_beforeLoad (Counts.keptByReceiving s hw p.transaction).toKeptByOthers m).of_runFrom
    ⟨hp, rfl⟩ hload
  obtain ⟨hfits, i, _, -, hloaded, hwaited⟩ := elapsed_beforeStart hstart
  have hbuffer := frame_of_kept hl.reachable hfits (hloaded.trans hwaited) (hkept b h)
  refine ⟨hbuffer, ?_⟩
  rw [Beginning.sent, (begins h hp).2.2, Beginning.start, frame_startFrame hbuffer,
    (counts_ready h ⟨hp, rfl⟩).transaction]
  exact numbered_beforeLoad hload p.transaction

/-- Whether a request is sent is known from what was put into the buffer. -/
private theorem isRequest_sent (h : m.beginning? (s.world hw) p = some b) (hp : p.bus.Reachable)
    (hkept : m.Undisturbed hw s p) :
    Frame.isRequest (b.sent hw.tallied m) = (m.withBreak && Frame.isRequest b.frame) := by
  obtain ⟨_, _, hload, -⟩ := of_beginning? h
  rw [(sent_of_undisturbed h hp hkept).2, ← numbered_beforeLoad hload p.transaction]
  cases hbreak : m.withBreak with
  | true => exact (Frame.sameKind_numbered _ _).isRequest
  | false =>
    cases m with
    | here uid =>
      have hframe : b.frame = Discovery.replyFrame uid maxPreambleLength := numbered_beforeLoad hload p.transaction
      rw [hframe]
      exact isRequest_here uid
    | ask | probe | slots | response => cases hbreak

/-- The call takes the number if it sends a request. -/
theorem counts_call (hp : Counts number p) (hkept : m.Undisturbed hw s p) :
    Counts
      (if ((m.beginning? (s.world hw) p).map (·.sent hw.tallied m)).any Frame.isRequest then number + 1 else number)
      ((m.call (s.world hw)).after p) := by
  refine after_call (Counts.keptByReceiving s hw _) (fun q frame hq => ⟨hq.reachable.write 0 frame, hq.transaction⟩)
    ?_ ?_
  · intro hrefused
    rw [hrefused]
    exact hp
  · intro b hbegun
    have hstarted := (counts_ready hbegun hp).startFrame hw.tallied (sent_of_undisturbed hbegun hp.reachable hkept).1
      m.withBreak
    rw [hbegun, Option.map_some, Option.any_some, isRequest_sent hbegun hp.reachable hkept]
    exact (Counts.keptByReceiving s hw _).between hstarted

end

/-! ### The answer to a request -/

private theorem number_beforeLoad {r : Request} {p l : Port η} {x : UInt8 × List UInt8}
    (h : ((ask r).beforeLoad w).runFrom p = (.ok x, l)) : x.1 = p.transaction := by
  obtain ⟨number, _, hlook, hrun⟩ := Run.exists_of_bind h
  obtain ⟨_, _, -, hpure⟩ := Run.exists_of_bind hrun
  cases hlook
  cases hpure
  rfl

/-- The response that a call brings. -/
def answer? (w : World η ε) (m : Message) (p : Port η) : Option Response :=
  match m with
  | .ask r => ((Session.ask w r).runFrom p).1.toOption.join
  | _ => none

/-- Only a request that was sent is answered, with the number that the port had before the call. -/
private theorem of_answer? {p : Port η} {response : Response} (h : m.answer? w p = some response) :
    (∃ r, m = .ask r) ∧ (∃ b, m.beginning? w p = some b) ∧ response.transaction = p.transaction := by
  cases m with
  | probe | slots | response | here => cases h
  | ask r =>
    have hjoin : ((Session.ask w r).runFrom p).1.toOption.join = some response := h
    rcases hrun : (Session.ask w r).runFrom p with ⟨e | answer, q⟩ <;> rw [hrun] at hjoin
    · cases hjoin
    obtain rfl : answer = some response := hjoin
    rw [ask_eq] at hrun
    obtain ⟨x, l, hload, hrun⟩ := Run.exists_of_bind hrun
    obtain ⟨y, q₀, hstart, hrun⟩ := Run.exists_of_bind hrun
    obtain ⟨_, _, -, hrun⟩ := Run.exists_of_bind hrun
    obtain ⟨notice, q', -, hanswer⟩ := Run.exists_of_bind hrun
    have hload := Session.runFrom_of_onPort hload
    have hstart := Session.runFrom_of_onPort hstart
    refine ⟨⟨r, rfl⟩, ⟨⟨x.2, l, q₀⟩, ?_⟩, ?_⟩
    · exact beginning?_of_runFrom hload hstart
    · cases notice with
      | none => cases hanswer
      | some n =>
        rw [← number_beforeLoad hload]
        exact Session.transaction_askAnswer hanswer

end Message

/-! ### Attempts -/

/-- A task wants to send a message. -/
structure Attempt where
  message : Message
  /-- The slots that the bus is to send when the transmission begins, unless the task fails before that. -/
  frame : Option (List UInt8)
  /-- The response that the task gets. -/
  answer : Option Response

namespace Attempt

variable {number last : UInt8} {a : Attempt} {attempts : List Attempt}

/-- The transmission of a request has begun. -/
def isRequest (a : Attempt) : Bool := a.frame.any Frame.isRequest

/-- What is sent, and what comes back, has the number. -/
structure Numbered (number : UInt8) (a : Attempt) : Prop where
  frame : ∀ frame ∈ a.frame, frame = a.message.frame number
  answer : ∀ response ∈ a.answer, a.isRequest = true ∧ response.transaction = number

theorem isRequest_iff : a.isRequest = true ↔ ∃ frame, a.frame = some frame ∧ Frame.isRequest frame = true := by
  rw [isRequest, Option.any_eq_true]

namespace Numbered

private theorem request (h : a.Numbered number) (hrequest : a.isRequest = true) :
    a.frame = some (a.message.frame number) := by
  obtain ⟨frame, hframe, -⟩ := isRequest_iff.1 hrequest
  rw [hframe, h.frame frame hframe]

theorem other (h : a.Numbered number) (hother : a.isRequest = false) :
    a.answer = none ∧ ∀ frame ∈ a.frame, ∀ other, frame = a.message.frame other := by
  constructor
  · refine Option.eq_none_iff_forall_ne_some.2 fun response hresponse => ?_
    exact absurd (h.answer response hresponse).1 (ne_true_of_eq_false hother)
  · intro frame hframe other
    have hkind : Frame.isRequest (a.message.frame number) = false := by
      rw [← h.frame frame hframe, ← Bool.not_eq_true]
      exact fun hrequest => absurd (isRequest_iff.2 ⟨frame, hframe, hrequest⟩) (ne_true_of_eq_false hother)
    rw [h.frame frame hframe, Message.frame_of_not_isRequest hkind other]

private theorem isRequest_iff_ask_or_probe (h : a.Numbered number)
    (hcustom : ∀ values, a.message ≠ .slots rdmStart values) :
    a.isRequest = true ↔ a.frame.isSome = true ∧ ∃ r, a.message = .ask r ∨ a.message = .probe r := by
  rw [isRequest_iff, ← Message.isRequest_frame hcustom number, Option.isSome_iff_exists]
  constructor
  · rintro ⟨frame, hframe, hrequest⟩
    exact ⟨⟨frame, hframe⟩, h.frame frame hframe ▸ hrequest⟩
  · rintro ⟨⟨frame, hframe⟩, hrequest⟩
    exact ⟨frame, hframe, (h.frame frame hframe).symm ▸ hrequest⟩

end Numbered

/-- The number after the attempt. -/
def next (number : UInt8) (a : Attempt) : UInt8 := if a.isRequest then number + 1 else number

/-- The requests among the attempts are numbered in their order, from the first number to the one before the last. -/
structure InOrder (number : UInt8) (attempts : List Attempt) (last : UInt8) : Prop where
  request (i : Nat) (a : Attempt) (h : (attempts.filter isRequest)[i]? = some a) : a.Numbered (number + UInt8.ofNat i)
  all : ∀ a ∈ attempts, ∃ number, a.Numbered number
  last : last = number + UInt8.ofNat (attempts.filter isRequest).length

namespace InOrder

private theorem ofNat_zero : UInt8.ofNat 0 = 0 := rfl

private theorem ofNat_succ (number : UInt8) (i : Nat) :
    number + 1 + UInt8.ofNat i = number + UInt8.ofNat (i + 1) := by
  have hone : UInt8.ofNat 1 = 1 := rfl
  rw [Nat.add_comm i, UInt8.ofNat_add, hone, UInt8.add_assoc]

theorem nil (number : UInt8) : InOrder number [] number where
  request i a h := by
    rw [List.filter_nil, List.getElem?_nil] at h
    cases h
  all := List.forall_mem_nil _
  last := by rw [List.filter_nil, List.length_nil, ofNat_zero, UInt8.add_zero]

theorem cons (ha : a.Numbered number) (h : InOrder (a.next number) attempts last) :
    InOrder number (a :: attempts) last := by
  have hall : ∀ a' ∈ a :: attempts, ∃ number, a'.Numbered number := by
    intro a' ha'
    cases ha' with
    | head => exact ⟨number, ha⟩
    | tail _ ha' => exact h.all a' ha'
  cases hrequest : a.isRequest with
  | false =>
    have hnext : a.next number = number := if_neg (ne_true_of_eq_false hrequest)
    have hfilter : (a :: attempts).filter isRequest = attempts.filter isRequest :=
      List.filter_cons_of_neg (ne_true_of_eq_false hrequest)
    refine ⟨fun i a' ha' => ?_, hall, ?_⟩
    · exact hnext ▸ h.request i a' (hfilter ▸ ha')
    · rw [hfilter, h.last, hnext]
  | true =>
    have hnext : a.next number = number + 1 := if_pos hrequest
    have hfilter : (a :: attempts).filter isRequest = a :: attempts.filter isRequest :=
      List.filter_cons_of_pos hrequest
    refine ⟨fun i a' ha' => ?_, hall, ?_⟩
    · rw [hfilter] at ha'
      cases i with
      | zero =>
        rw [List.getElem?_cons_zero] at ha'
        cases ha'
        rw [ofNat_zero, UInt8.add_zero]
        exact ha
      | succ i =>
        rw [← ofNat_succ, ← hnext]
        exact h.request i a' ha'
    · rw [hfilter, h.last, hnext, List.length_cons, ofNat_succ]

end InOrder

end Attempt

namespace Message

variable {η ε : Type} {hw : Hardware η ε} {s : Surroundings η} {m : Message} {number : UInt8} {p : Port (η × Tally)}

/-- What comes of the call. -/
def attempt (hw : Hardware η ε) (s : Surroundings η) (m : Message) (p : Port (η × Tally)) : Attempt where
  message := m
  frame := (m.beginning? (s.world hw) p).map (·.sent hw.tallied m)
  answer := m.answer? (s.world hw) p

private theorem numbered_attempt (hp : Counts number p) (hkept : m.Undisturbed hw s p) :
    (m.attempt hw s p).Numbered number := by
  constructor
  · intro frame hframe
    obtain ⟨b, hbegun, rfl⟩ := Option.map_eq_some_iff.1 hframe
    rw [(sent_of_undisturbed hbegun hp.reachable hkept).2, hp.transaction]
    rfl
  · intro response hresponse
    obtain ⟨⟨r, rfl⟩, ⟨b, hbegun⟩, htransaction⟩ := of_answer? hresponse
    refine ⟨?_, htransaction.trans hp.transaction⟩
    rw [Attempt.isRequest, attempt, hbegun, Option.map_some, Option.any_some,
      (sent_of_undisturbed hbegun hp.reachable hkept).2]
    exact Package.isRequest_request _

end Message

/-! ### Runs -/

/-- What happens to a port. -/
inductive Doing (η : Type) where
  /-- A task sends a message, and waits for what comes back. -/
  | send (s : Surroundings η) (m : Message)
  /-- A responder waits for a frame. -/
  | receive (s : Surroundings η)
  /-- A responder does not answer. -/
  | skip (s : Surroundings η)
  /-- No task does anything. -/
  | happen (happening : Happening η)

namespace Doing

variable {η ε : Type} {hw : Hardware η ε} {number : UInt8} {p : Port (η × Tally)} {doing : Doing η}
  {doings : List (Doing η)}

def perform (hw : Hardware η ε) (p : Port (η × Tally)) : Doing η → Port (η × Tally)
  | .send s m => (m.call (s.world hw)).after p
  | .receive s => (Session.receiveFrame (s.world hw)).after p
  | .skip s => (Session.skipResponse (s.world hw)).after p
  | .happen happening => happening.occur hw true p

def performAll (hw : Hardware η ε) : List (Doing η) → Port (η × Tally) → Port (η × Tally)
  | [], p => p
  | doing :: rest, p => performAll hw rest (doing.perform hw p)

def attempt? (hw : Hardware η ε) (p : Port (η × Tally)) : Doing η → Option Attempt
  | .send s m => some (m.attempt hw s p)
  | _ => none

/-- What the tasks want to send in a run, and what comes of it. -/
def attempts (hw : Hardware η ε) : List (Doing η) → Port (η × Tally) → List Attempt
  | [], _ => []
  | doing :: rest, p => (doing.attempt? hw p).toList ++ attempts hw rest (doing.perform hw p)

/-- No slots are read while the task waits with its frame in the buffer. -/
def Undisturbed (hw : Hardware η ε) (p : Port (η × Tally)) : Doing η → Prop
  | .send s m => m.Undisturbed hw s p
  | _ => True

/-- The same for all tasks of a run. -/
def AllUndisturbed (hw : Hardware η ε) : List (Doing η) → Port (η × Tally) → Prop
  | [], _ => True
  | doing :: rest, p => doing.Undisturbed hw p ∧ AllUndisturbed hw rest (doing.perform hw p)

instance : Decidable (doing.Undisturbed hw p) :=
  match doing with
  | .send _ m => inferInstanceAs (Decidable (m.Undisturbed hw _ p))
  | .receive _ | .skip _ | .happen _ => isTrue trivial

instance decidableAllUndisturbed :
    (doings : List (Doing η)) → (p : Port (η × Tally)) → Decidable (AllUndisturbed hw doings p)
  | [], _ => isTrue trivial
  | doing :: rest, p =>
    have := decidableAllUndisturbed rest (doing.perform hw p)
    inferInstanceAs (Decidable (doing.Undisturbed hw p ∧ AllUndisturbed hw rest (doing.perform hw p)))

/-- Only an attempt can take the number. -/
private theorem counts_perform (hp : Counts number p) (hkept : doing.Undisturbed hw p) :
    Counts ((doing.attempt? hw p).elim number (·.next number)) (doing.perform hw p) := by
  cases doing with
  | send s m => exact Message.counts_call hp hkept
  | receive s => exact (Counts.keptByReceiving s hw number).receiveFrame p hp
  | skip s =>
    have hothers := (Counts.keptByReceiving s hw number).toKeptByOthers
    exact Session.KeptByCalls.skipResponse (fun _ hq => hothers.between (hq.dispatch _ _)) p hp
  | happen happening => exact hp.elapsed (.occur hw true p happening)

private theorem numbered_of_attempt? {a : Attempt} (h : doing.attempt? hw p = some a) (hp : Counts number p)
    (hkept : doing.Undisturbed hw p) : a.Numbered number := by
  cases doing with
  | send s m =>
    cases h
    exact Message.numbered_attempt hp hkept
  | receive | skip | happen => cases h

private theorem inOrder_attempts (hp : Counts number p) (hkept : AllUndisturbed hw doings p) :
    Attempt.InOrder number (attempts hw doings p) (performAll hw doings p).transaction := by
  -- The number of the port is the next one to be given at each time of the run.
  induction doings generalizing number p with
  | nil =>
    rw [attempts, performAll, hp.transaction]
    exact .nil number
  | cons doing rest ih =>
    have hrest := ih (counts_perform hp hkept.1) hkept.2
    rw [attempts, performAll]
    cases hattempt : doing.attempt? hw p with
    | none =>
      rw [hattempt] at hrest
      exact hrest
    | some a =>
      rw [hattempt] at hrest
      exact .cons (numbered_of_attempt? hattempt hp hkept.1) hrest

/-- The requests of a run get the numbers from 0 on in their order, and each is sent as the frame of its request with
the number.  All other frames are the same for every number, and an attempt that fails before its transmission begins
takes none.  A task gets only a response with the number of its request: everything else that it receives is skipped,
ends the call with an error, or comes too late. -/
theorem transaction_numbers (hw : Hardware η ε) (hreachable : p.bus.Reachable) (hfirst : p.transaction = 0)
    (hkept : AllUndisturbed hw doings p) :
    let requests := (attempts hw doings p).filter Attempt.isRequest
    (∀ (i : Nat) (a : Attempt), requests[i]? = some a →
      a.frame = some (a.message.frame (UInt8.ofNat i)) ∧
      (∀ r, a.message = .ask r ∨ a.message = .probe r →
        ∃ frame, a.frame = some frame ∧ frame = (Package.request { r with transaction := UInt8.ofNat i }).frame ∧
          checksumValid frame = true) ∧
      ∀ response ∈ a.answer, response.transaction = UInt8.ofNat i) ∧
    (∀ a ∈ attempts hw doings p, a.isRequest = false →
      a.answer = none ∧ ∀ frame ∈ a.frame, ∀ number, frame = a.message.frame number) ∧
    (∀ a ∈ attempts hw doings p, (∀ values, a.message ≠ .slots rdmStart values) →
      (a.isRequest = true ↔ a.frame.isSome = true ∧ ∃ r, a.message = .ask r ∨ a.message = .probe r)) ∧
    (performAll hw doings p).transaction = UInt8.ofNat requests.length ∧
    ∀ (w : World (η × Tally) ε) (number : UInt8) (deadline rounds : Nat) (n : Notice) (q : Port (η × Tally)),
      Session.Awaits w number deadline n q ((Session.awaitResponse w number deadline rounds n).runFrom q).1
        ((Session.awaitResponse w number deadline rounds n).runFrom q).2 := by
  have horder := inOrder_attempts ⟨hreachable, hfirst⟩ hkept
  refine ⟨fun i a ha => ?_, fun a ha hother => ?_, fun a ha hcustom => ?_, ?_, Session.awaits_awaitResponse⟩
  · have hnumbered := horder.request i a ha
    rw [UInt8.zero_add] at hnumbered
    have hframe := hnumbered.request (List.mem_filter.1 (List.mem_of_getElem? ha)).2
    refine ⟨hframe, fun r hmessage => ⟨_, hframe, ?_, ?_⟩, fun response hresponse =>
      (hnumbered.answer response hresponse).2⟩
    · rcases hmessage with hmessage | hmessage <;> rw [hmessage] <;> rfl
    · rcases hmessage with hmessage | hmessage <;> rw [hmessage] <;> exact checksumValid_iff.2 ⟨_, rfl⟩
  · obtain ⟨_, hnumbered⟩ := horder.all a ha
    exact hnumbered.other hother
  · obtain ⟨_, hnumbered⟩ := horder.all a ha
    exact hnumbered.isRequest_iff_ask_or_probe hcustom
  · rw [horder.last, UInt8.zero_add]

open Simulation

/-- An answer to a request of another number, or to the latest one. -/
def belated (transaction : UInt8) : Response where
  destination := .device Message.wholeProbe.source
  source := ⟨1, 2⟩
  transaction
  responseType := .ack
  messageCount := 0
  subDevice := 0
  commandClass := .get
  parameterId := Message.wholeProbe.parameterId
  data := .empty

/-- Transmissions go out while the task pauses.  If somebody answers, the answer to another request comes in first. -/
def pausing (answers : Bool) : Surroundings Bench where
  between _ := []
  pause p :=
    let passing (rxFifo : List UInt8) (pending : Interrupts) : Happening Bench :=
      .goesOn fun b => { b with time := b.time + 1000, rxFifo, pending }
    let number := if p.hardware.1.time % 4000 = 2000 then p.transaction else p.transaction - 1
    if p.bus.isSending then [passing [] .allTx, .alarm, .uart]
    else if answers then
      [passing [] .rxBreak, .uart, passing (Package.response (belated number)).frame .rxData, .uart]
    else [passing [] .none]

/-- A probe that nobody answers, slots, too many slots, and a request to get something from one device. -/
def probing : List (Doing Bench) :=
  [.send (pausing false) (.probe Message.wholeProbe), .send (pausing false) (.slots nullStart [1, 2, 3]),
    .send (pausing false) (.slots nullStart (List.replicate 513 0)),
    .send (pausing true) (.ask { Message.wholeProbe with destination := .device ⟨1, 2⟩, commandClass := .get })]

theorem transaction_numbers_probing : ∃ p, Port.install Bench.hardware .standard (.new 128 []) = .ok p ∧
    let on := ((Port.enable Bench.hardware).runFrom p).2.tallied
    let requests := (attempts Bench.hardware probing on).filter Attempt.isRequest
    requests.map (fun a => a.answer.map Response.transaction) = [none, some 1] ∧
      (performAll Bench.hardware probing on).hardware.2.slots = 52 ∧
      (∀ (i : Nat) (a : Attempt), requests[i]? = some a →
        a.frame = some (a.message.frame (UInt8.ofNat i)) ∧ ∀ response ∈ a.answer, response.transaction =
          UInt8.ofNat i) ∧
      (performAll Bench.hardware probing on).transaction = UInt8.ofNat requests.length := by
  have hnumbers {p : Port Bench} (hp : Port.install Bench.hardware .standard (.new 128 []) = .ok p)
      (hfirst : ((Port.enable Bench.hardware).runFrom p).2.transaction = 0)
      (hkept : AllUndisturbed Bench.hardware probing ((Port.enable Bench.hardware).runFrom p).2.tallied) :=
    transaction_numbers (p := ((Port.enable Bench.hardware).runFrom p).2.tallied) Bench.hardware
      (Port.reachable_enable (Port.reachable_install hp)) hfirst hkept
  refine ⟨_, rfl, by decide +kernel, by decide +kernel, fun i a ha => ?_, ?_⟩
  · obtain ⟨hrequests, -⟩ := hnumbers rfl rfl (by decide +kernel)
    exact ⟨(hrequests i a ha).1, (hrequests i a ha).2.2⟩
  · exact (hnumbers rfl rfl (by decide +kernel)).2.2.2.1

end Doing

end LightBus
