import LightBus.Session.Links

/-!
# Invariants of sessions

A task works on a port step by step, and others may do something between its steps.  `Session.KeptBySteps` says what
an invariant has to bear: each kind of step that tasks make, and what others do.  What others do keeps it while a task
waits (`Session.KeptByOthers.waitSent`, `Session.KeptByOthers.waitUntil`).

Whatever others do is only looked at where the invariant holds, so that it holds each time that they do something.
-/

namespace LightBus

namespace Run

variable {σ ε ε' α β : Type} {I : σ → Prop}

/-- The state after the computation, whatever its outcome is. -/
def after (a : Run σ ε α) (s : σ) : σ := (a.runFrom s).2

/-- The computation keeps the invariant, also if it ends with an error. -/
def Keeps (I : σ → Prop) (a : Run σ ε α) : Prop := ∀ s, I s → I (a.after s)

theorem keeps_pure (x : α) : Keeps I (pure x : Run σ ε α) := fun _ hs => hs

theorem keeps_throw (e : ε) : Keeps I (throw e : Run σ ε α) := fun _ hs => hs

theorem keeps_ofExcept (r : Except ε α) : Keeps I (ofExcept r) := fun _ hs => hs

theorem Keeps.bind {a : Run σ ε α} {f : α → Run σ ε β} (ha : Keeps I a) (hf : ∀ x, Keeps I (f x)) :
    Keeps I (a >>= f) := by
  intro s hs
  have hfirst := ha s hs
  unfold after at hfirst ⊢
  rw [runFrom_bind]
  rcases hresult : a.runFrom s with ⟨_ | x, s'⟩ <;> rw [hresult] at hfirst
  · exact hfirst
  · exact hf x s' hfirst

/-- How often a computation goes round may depend on the state. -/
theorem keeps_rounds {f : Nat → Run σ ε α} (rounds : σ → Nat) (hf : ∀ n, Keeps I (f n)) :
    Keeps I (fun s => f (rounds s) s : Run σ ε α) :=
  fun s hs => hf (rounds s) s hs

theorem Keeps.mapError {a : Run σ ε α} (ha : Keeps I a) (f : ε → ε') : Keeps I (a.mapError f) := by
  intro s hs
  unfold after
  rw [runFrom_mapError]
  exact ha s hs

end Run

open Run (Keeps keeps_pure keeps_throw keeps_rounds)

namespace Session

variable {η ε α : Type} {w : World η ε} {I : Port η → Prop}

/-- What others do between two steps of a task, and while it pauses, keeps the invariant. -/
structure KeptByOthers (w : World η ε) (I : Port η → Prop) : Prop where
  between {p : Port η} (hp : I p) : I (w.between p)
  pause {p : Port η} (hp : I p) : I (w.pause p)

/-- What a task does to a port in one step, and what others do between two steps, keeps the invariant.  The port is
`enabled` all the time, or not at all. -/
structure KeptBySteps (w : World η ε) (enabled : Bool) (I : Port η → Prop) : Prop extends KeptByOthers w I where
  isEnabled {p : Port η} (hp : I p) : p.enabled = enabled
  start {p : Port η} (henabled : enabled = true) (size : Nat) (withBreak : Bool) (hp : I p) :
    I (startFrame w.hardware size withBreak p).2
  listen {p : Port η} (hp : I p) : I (p.dispatch w.hardware .receiveRequested).2
  write {p : Port η} (start : Nat) (bytes : List UInt8) (hp : I p) : I { p with bus := p.bus.write start bytes }
  notice {p : Port η} (notice : Option Notice) (hp : I p) : I { p with notice }
  lastTransfer {p : Port η} (lastTransfer : LastTransfer) (hp : I p) : I { p with lastTransfer }
  tickets {p : Port η} (tickets : Tickets) (hp : I p) : I { p with tickets }

namespace KeptByOthers

/-! ### Steps -/

private theorem step (h : KeptByOthers w I) {f : Port η → α × Port η} (hf : ∀ p, I p → I (f p).2) :
    Keeps I (Session.step w f : Session η ε α) :=
  fun p hp => h.between (hf p hp)

theorem attempt (h : KeptByOthers w I) {f : Port η → Except (PortError ε) α × Port η} (hf : ∀ p, I p → I (f p).2) :
    Keeps I (Session.attempt w f) :=
  fun p hp => h.between (hf p hp)

theorem look (h : KeptByOthers w I) (f : Port η → α) : Keeps I (Session.look w f : Session η ε α) :=
  h.step fun _ hp => hp

theorem pauses (h : KeptByOthers w I) : Keeps I (Session.pause w : Session η ε Unit) := fun _ hp => h.pause hp

theorem untilDeadline {deadline : Nat} {f : Nat → Session η ε α} (hf : ∀ rounds, Keeps I (f rounds)) :
    Keeps I (Session.untilDeadline w deadline f) :=
  keeps_rounds _ hf

/-! ### Waiting -/

theorem awaitTurn (h : KeptByOthers w I) (ticket : UInt32) (pauses : Nat) :
    Keeps I (Session.awaitTurn w ticket pauses : Session η ε Bool) := by
  induction pauses with
  | zero => exact keeps_pure _
  | succ pauses ih =>
    unfold Session.awaitTurn
    refine (h.look _).bind fun serving => ?_
    split
    · exact keeps_pure _
    · exact h.pauses.bind fun _ => ih

private theorem awaitSent (h : KeptByOthers w I) (deadline rounds : Nat) :
    Keeps I (Session.awaitSent w deadline rounds) := by
  induction rounds with
  | zero => exact keeps_throw _
  | succ rounds ih =>
    unfold Session.awaitSent
    refine (h.look _).bind fun seen => ?_
    dsimp only
    split
    · exact keeps_pure _
    split
    · exact (keeps_throw _).bind fun _ => h.pauses.bind fun _ => ih
    · exact h.pauses.bind fun _ => ih

theorem waitSent (h : KeptByOthers w I) (timeout : Nat) : Keeps I (Session.waitSent w timeout) := by
  unfold Session.waitSent
  exact (h.look _).bind fun _ => untilDeadline fun _ => h.awaitSent _ _

private theorem awaitTime (h : KeptByOthers w I) (time rounds : Nat) : Keeps I (Session.awaitTime w time rounds) := by
  induction rounds with
  | zero => exact keeps_throw _
  | succ rounds ih =>
    unfold Session.awaitTime
    refine (h.look _).bind fun now => ?_
    split
    · exact keeps_pure _
    · exact h.pauses.bind fun _ => ih

theorem waitUntil (h : KeptByOthers w I) (time : Nat) : Keeps I (Session.waitUntil w time) :=
  untilDeadline fun _ => h.awaitTime _ _

end KeptByOthers

/-! ### Calls -/

/-- What a task can do with a port. -/
inductive Call where
  | lock (pauses : Nat)
  | read (start size : Nat)
  | write (start : Nat) (bytes : List UInt8)
  | waitSent (timeout : Nat)
  | sendFrame (size : Nat) (withBreak : Bool)
  | receive (timeout : Nat)
  | request (size timeout : Nat)
  | load (package : Package)
  | loadSlots (startCode : UInt8) (slots : List UInt8)
  | loadReply (uid : Uid)
  | ask (request : Request)
  | probe (request : Request)
  | sendSlots (startCode : UInt8) (slots : List UInt8)
  | receiveFrame
  | sendResponse (response : Response)
  | sendHere (uid : Uid)
  | skipResponse

/-- The port after a call, whatever its outcome is. -/
def afterCall (w : World η ε) (call : Call) (p : Port η) : Port η :=
  match call with
  | .lock pauses => (lock w pauses : Session η ε Bool).after p
  | .read start size => (Session.read w start size).after p
  | .write start bytes => (Session.write w start bytes).after p
  | .waitSent timeout => (waitSent w timeout).after p
  | .sendFrame size withBreak => (sendFrame w size withBreak).after p
  | .receive timeout => (receive w timeout).after p
  | .request size timeout => (request w size timeout).after p
  | .load package => (load w package).after p
  | .loadSlots startCode slots => (loadSlots w startCode slots).after p
  | .loadReply uid => (loadReply w uid).after p
  | .ask r => (ask w r).after p
  | .probe r => (probe w r).after p
  | .sendSlots startCode slots => (sendSlots w startCode slots).after p
  | .receiveFrame => (receiveFrame w).after p
  | .sendResponse r => (sendResponse w r).after p
  | .sendHere uid => (sendHere w uid).after p
  | .skipResponse => (skipResponse w).after p

end Session

end LightBus
