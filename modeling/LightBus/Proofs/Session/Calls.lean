import LightBus.Proofs.Session.Reception
import LightBus.Proofs.Session.Sending

/-!
# Invariants of calls

A call looks before it acts: it receives only with a port that was on, begins a transmission only when it has waited
for the bus, and writes to the buffer only while no frame needs it.  An invariant has to bear these steps only where
the calls make them, each with what others do after it (`Session.KeptByReceiving`, `Session.KeptByCalls`).  It is then
kept by every call (`Session.KeptByCalls.call`).

An invariant of all steps, wherever they are made, is a special case (`Session.KeptBySteps.call`).
-/

namespace LightBus

open Run (Keeps keeps_pure keeps_throw keeps_ofExcept keeps_rounds)

/-- The second computation begins where the first one has ended well. -/
private theorem Run.Keeps.bind_ok {σ ε α β : Type} {I : σ → Prop} {a : Run σ ε α} {f : α → Run σ ε β} (ha : Keeps I a)
    (hf : ∀ s x t, I s → a.runFrom s = (.ok x, t) → I ((f x).after t)) : Keeps I (a >>= f) := by
  intro s hs
  unfold after
  rw [runFrom_bind]
  rcases hrun : a.runFrom s with ⟨e | x, t⟩
  · exact ha.of_runFrom hs hrun
  · exact hf s x t hs hrun

namespace Session

variable {η ε α β : Type} {w : World η ε} {I : Port η → Prop} {p q : Port η} {size : Nat} {withBreak : Bool}

/-! ### Steps that tell nothing -/

/-- If the bus gives no notice, then nothing is done after the step. -/
theorem runFrom_dispatch {f : Port η → Applied ε × Port η} (hnone : (f p).1.notice = none) :
    (dispatch w f).runFrom p = ((f p).1.result, w.between (f p).2) := by
  unfold dispatch
  rw [Run.runFrom_bind]
  show ((if (f p).1.notice.isSome then _ else _ : Session η ε Unit).runFrom (w.between (f p).2)) = _
  rw [hnone]
  rfl

/-! ### The start of a transmission -/

theorem hardware_stamp (p : Port η) (size : Nat) (withBreak : Bool) :
    (stamp p size withBreak).hardware = p.hardware := by
  unfold stamp
  dsimp only
  split <;> rfl

theorem bus_stamp (p : Port η) (size : Nat) (withBreak : Bool) :
    ∃ frame, (stamp p size withBreak).bus = { p.bus with frame } ∧
      (p.bus.Reachable → (stamp p size withBreak).bus.Reachable) := by
  unfold stamp
  dsimp only
  split
  · exact ⟨_, rfl, fun hp => hp.write 0 _⟩
  · exact ⟨p.bus.frame, rfl, id⟩

theorem bus_startFrame (hw : Hardware η ε) (p : Port η) (size : Nat) (withBreak : Bool) :
    (startFrame hw size withBreak p).2.bus = ((stamp p size withBreak).bus.startTransmit size
      (Frame.expectsResponse (p.bus.frame.take size)) withBreak (hw.space p.hardware)).2 := by
  unfold startFrame Port.dispatch
  dsimp only
  rw [Port.bus_dispatchAt, hardware_stamp]
  rfl

/-- Whatever the hardware does about it, the bus is sending, and it tells nothing. -/
theorem isSending_startFrame (hw : Hardware η ε) (q : Port η) (hsize : size ≠ 0) (withBreak : Bool) :
    (startFrame hw size withBreak q).1.notice = none ∧ (startFrame hw size withBreak q).2.bus.isSending = true := by
  constructor
  · refine Option.eq_none_iff_forall_ne_some.2 fun n hn => ?_
    obtain ⟨m, -, hm, -⟩ := Port.notice_applyAll hn
    exact absurd hm (Bus.not_notify_startTransmit m)
  · rw [bus_startFrame]
    exact Bus.isSending_startTransmit hsize

/-- A task that waits for the bus has found the port on. -/
theorem enabled_of_ready (h : (ready w size withBreak).runFrom p = (.ok (), q)) : p.enabled = true := by
  cases henabled : p.enabled with
  | true => rfl
  | false =>
    unfold ready at h
    dsimp only at h
    split at h
    · cases h
    · obtain ⟨enabled, _, hlook, hrest⟩ := Run.exists_of_bind h
      cases hlook
      rw [henabled] at hrest
      cases hrest

/-! ### After a wait -/

section

variable {J : Port η → Prop}

/-- When the task has waited for the end of a transmission, it has seen that nothing was being sent. -/
private theorem KeptByOthers.of_awaitSent (hI : KeptByOthers w I) (hJ : KeptByOthers w J)
    (hidle : ∀ p, I p → p.bus.isSending = false → J p) {deadline rounds : Nat} (hp : I p)
    (h : (Session.awaitSent w deadline rounds).runFrom p = (.ok (), q)) : J q := by
  induction rounds generalizing p with
  | zero => cases h
  | succ rounds ih =>
    unfold Session.awaitSent at h
    obtain ⟨seen, p', hlook, hrest⟩ := Run.exists_of_bind h
    cases hlook
    dsimp only at hrest
    have hagain {p' : Port η} (hp' : I p')
        (h : (do Session.pause w; Session.awaitSent w deadline rounds : Session η ε Unit).runFrom p' = (.ok (), q)) :
        J q := by
      obtain ⟨_, p'', hpause, hnext⟩ := Run.exists_of_bind h
      cases hpause
      exact ih (hI.pause hp') hnext
    split at hrest
    · rename_i hsent
      cases hrest
      exact hJ.between (hidle p hp (by simpa using hsent))
    split at hrest
    · cases hrest
    · exact hagain (hI.between hp) hrest

theorem KeptByOthers.of_waitSent (hI : KeptByOthers w I) (hJ : KeptByOthers w J)
    (hidle : ∀ p, I p → p.bus.isSending = false → J p) {timeout : Nat} (hp : I p)
    (h : (Session.waitSent w timeout).runFrom p = (.ok (), q)) : J q := by
  unfold Session.waitSent at h
  obtain ⟨now, p', hlook, hrest⟩ := Run.exists_of_bind h
  cases hlook
  exact hI.of_awaitSent hJ hidle (hI.between hp) hrest

/-- When the task has waited for a time, the time had come. -/
theorem KeptByOthers.of_awaitTime (hI : KeptByOthers w I) (hJ : KeptByOthers w J) {time rounds : Nat}
    (hcome : ∀ p, I p → time ≤ p.now w.hardware → J p) (hp : I p)
    (h : (Session.awaitTime w time rounds).runFrom p = (.ok (), q)) : J q := by
  induction rounds generalizing p with
  | zero => cases h
  | succ rounds ih =>
    unfold Session.awaitTime at h
    obtain ⟨now, p', hlook, hrest⟩ := Run.exists_of_bind h
    cases hlook
    split at hrest
    · rename_i htime
      cases hrest
      exact hJ.between (hcome p hp htime)
    · obtain ⟨_, p'', hpause, hnext⟩ := Run.exists_of_bind hrest
      cases hpause
      exact ih (hI.pause (hI.between hp)) hnext

/-- A task that may send has found the port on, has seen at a port `r` that nothing was being sent, and has found out
there how long it had to wait. -/
theorem KeptByOthers.of_ready (hI : KeptByOthers w I) (hJ : KeptByOthers w J)
    (hidle : ∀ p, I p → p.bus.isSending = false → J p) (hp : I p)
    (h : (ready w size withBreak).runFrom p = (.ok (), q)) :
    ∃ r time, J r ∧ sendTime w.hardware r (r.bus.frame.take size) withBreak = .ok time ∧
      (Session.waitUntil w time).runFrom (w.between r) = (.ok (), q) := by
  unfold ready at h
  dsimp only at h
  split at h
  · cases h
  obtain ⟨enabled, p', hlook, hrest⟩ := Run.exists_of_bind h
  cases hlook
  split at hrest
  · cases hrest
  obtain ⟨_, r, hsent, hrest⟩ := Run.exists_of_bind hrest
  obtain ⟨time, r', hattempt, hwait⟩ := Run.exists_of_bind hrest
  have hr : J r := hI.of_waitSent hJ hidle (hI.between hp) hsent
  refine ⟨r, time, hr, congrArg Prod.fst hattempt, ?_⟩
  rw [← hwait]
  exact congrArg (Session.waitUntil w time).runFrom (congrArg Prod.snd hattempt)

end

/-! ### What an invariant has to bear -/

/-- The steps of a task that receives keep the invariant. -/
structure KeptByReceiving (w : World η ε) (I : Port η → Prop) : Prop extends KeptByOthers w I where
  /-- The port was on when the task looked. -/
  listen {p : Port η} (hp : I p) (hon : p.enabled = true) :
    I (w.between ((w.between p).dispatch w.hardware .receiveRequested).2)
  take {p : Port η} (hp : I p) : I (w.between { p with notice := none })
  /-- The notice that has just been taken tells of slots. -/
  answer {p q : Port η} {n : Notice} (hp : I p) (hnotice : p.notice = some n) (horigin : n.origin = .receive)
    (hsize : 0 < n.size) (hq : q = w.between { p with notice := none }) :
    I (w.between { q with lastTransfer := answered q.lastTransfer })

/-- The steps of a task keep the invariant. -/
structure KeptByCalls (w : World η ε) (I : Port η → Prop) : Prop extends KeptByReceiving w I where
  /-- The task has waited for the bus from `p` to `q`. -/
  start {p q : Port η} {size : Nat} {withBreak : Bool} (hp : I p) (hsize : size ≠ 0)
    (hready : (ready w size withBreak).runFrom p = (.ok (), q)) :
    I (w.between (startFrame w.hardware size withBreak q).2)
  write {p : Port η} (start : Nat) (bytes : List UInt8) (hp : I p) (hfree : isBusy p.bus = false) :
    I (w.between { p with bus := p.bus.write start bytes })
  /-- The task has waited from `p` to `q` until nothing was being sent. -/
  put {p q : Port η} (frame : List UInt8) (hp : I p) (hsent : (waitSent w maxPacketMicros).runFrom p = (.ok (), q)) :
    I (w.between { q with bus := q.bus.write 0 frame })
  ticket {p : Port η} (hp : I p) : I (w.between { p with tickets := p.tickets.take.2 })

namespace KeptByReceiving

/-! ### Receiving -/

theorem awaitNotice (h : KeptByReceiving w I) (deadline rounds : Nat) :
    Keeps I (Session.awaitNotice w deadline rounds) := by
  induction rounds with
  | zero => exact keeps_throw _
  | succ rounds ih =>
    unfold Session.awaitNotice
    have htake :
        Keeps I (Session.step w fun p => (p.notice, { p with notice := none }) : Session η ε (Option Notice)) :=
      fun _ hp => h.take hp
    refine htake.bind_ok fun p taken q hp hrun => ?_
    have htaken : p.notice = taken := Except.ok.inj (congrArg Prod.fst hrun)
    have hq : q = w.between { p with notice := none } := (congrArg Prod.snd hrun).symm
    have hIq : I q := hq ▸ h.take hp
    cases taken with
    | none =>
      refine ((h.look _).bind fun now => ?_ : Keeps I _) q hIq
      split
      · exact keeps_pure _
      · exact h.pauses.bind fun _ => ih
    | some n =>
      dsimp only
      split
      · exact ih q hIq
      rename_i horigin
      have hreceived : n.origin = .receive := by
        cases hn : n.origin with
        | transmit => exact absurd hn horigin
        | receive => rfl
      split
      · rename_i hsize
        unfold Run.after
        rw [Run.runFrom_bind]
        exact h.answer hp htaken hreceived hsize hq
      · exact hIq

theorem receive (h : KeptByReceiving w I) (timeout : Nat) : Keeps I (Session.receive w timeout) := by
  unfold Session.receive
  refine (h.look _).bind_ok fun p enabled q hp hrun => ?_
  have hon : p.enabled = enabled := Except.ok.inj (congrArg Prod.fst hrun)
  have hq : q = w.between p := (congrArg Prod.snd hrun).symm
  cases enabled with
  | false => exact hq ▸ h.between hp
  | true =>
    have hlisten : I ((Session.dispatch w (Port.dispatch w.hardware .receiveRequested)).after q) := by
      unfold Run.after
      rw [runFrom_dispatch Port.notice_dispatch_receiveRequested, hq]
      exact h.listen hp hon
    have hwait : Keeps I (do
        let deadline := (← Session.now w) + timeout
        Session.untilDeadline w deadline (Session.awaitNotice w deadline)) :=
      (h.look _).bind fun now => KeptByOthers.untilDeadline fun _ => h.awaitNotice _ _
    show I (Prod.snd ((Session.dispatch w (Port.dispatch w.hardware .receiveRequested) >>= fun _ => _).runFrom q))
    rw [Run.runFrom_bind]
    unfold Run.after at hlisten
    rcases hrun' : (Session.dispatch w (Port.dispatch w.hardware .receiveRequested)).runFrom q with ⟨e | x, r⟩ <;>
      rw [hrun'] at hlisten
    · exact hlisten
    · exact hwait r hlisten

theorem reply (h : KeptByReceiving w I) (expects : Bool) (timeout : Nat) :
    Keeps I (Session.reply w expects timeout) := by
  unfold Session.reply
  split
  · exact (h.receive timeout).bind fun _ => keeps_pure _
  · refine (h.waitSent _).bind fun _ => (h.look _).bind fun sent => ?_
    exact (h.waitUntil _).bind fun _ => keeps_pure _

/-! ### Packages -/

theorem keeps_onPort {a : Session η ε α} (ha : Keeps I a) : Keeps I (Session.onPort a) := ha.mapError _

private theorem readPackage (h : KeptByReceiving w I) (n : Notice) : Keeps I (Session.readPackage w n) := by
  unfold Session.readPackage
  refine (keeps_ofExcept _).bind fun _ => ?_
  dsimp only
  split
  · exact keeps_throw _
  · exact (keeps_onPort (h.look _)).bind fun _ => keeps_ofExcept _

private theorem awaitResponse (h : KeptByReceiving w I) (transaction : UInt8) (deadline rounds : Nat) (n : Notice) :
    Keeps I (Session.awaitResponse w transaction deadline rounds n) := by
  induction rounds generalizing n with
  | zero => exact keeps_onPort (keeps_throw _)
  | succ rounds ih =>
    unfold Session.awaitResponse
    -- Packages that are no response to the request are skipped.
    have hagain : Keeps I (do
        let now ← Session.onPort (Session.now w)
        if deadline ≤ now then throw .timeout
        Session.awaitResponse w transaction deadline rounds
          (← Session.onPort (Session.receive w (deadline - now)))) := by
      refine (keeps_onPort (h.look _)).bind fun now => ?_
      dsimp only
      split
      · exact keeps_throw _
      · exact (keeps_onPort (h.receive _)).bind fun next => ih next
    refine (h.readPackage n).bind fun package => ?_
    dsimp only
    split
    · split
      · exact keeps_pure _
      · exact hagain
    · exact hagain

theorem askAnswer (h : KeptByReceiving w I) (transaction : UInt8) (deadline : Nat) (notice : Option Notice) :
    Keeps I (Session.askAnswer w transaction deadline notice) := by
  unfold Session.askAnswer
  split
  · exact keeps_pure _
  · rename_i first
    have hawait : Keeps I fun p => Session.awaitResponse w transaction deadline (rounds w deadline p) first p :=
      keeps_rounds (f := fun n => Session.awaitResponse w transaction deadline n first) _
        fun n => h.awaitResponse _ _ n first
    exact hawait.bind fun _ => keeps_pure _

theorem probeAnswer (h : KeptByReceiving w I) (notice : Option Notice) : Keeps I (Session.probeAnswer w notice) := by
  unfold Session.probeAnswer
  split
  · exact keeps_pure _
  split
  · exact (keeps_onPort (h.look _)).bind fun _ => keeps_pure _
  · refine (keeps_onPort (h.look _)).bind fun slots => ?_
    split
    · exact keeps_pure _
    · exact keeps_pure _
  · exact keeps_pure _

private theorem awaitFrame (h : KeptByReceiving w I) (deadline rounds : Nat) :
    Keeps I (Session.awaitFrame w deadline rounds) := by
  induction rounds with
  | zero => exact keeps_onPort (keeps_throw _)
  | succ rounds ih =>
    unfold Session.awaitFrame
    refine (keeps_onPort (h.look _)).bind fun now => ?_
    dsimp only
    split
    · exact keeps_throw _
    · refine (keeps_onPort (h.receive _)).bind fun notice => (keeps_ofExcept _).bind fun _ => ?_
      split
      · exact ih
      · exact keeps_onPort (h.look _)

theorem receiveFrame (h : KeptByReceiving w I) : Keeps I (Session.receiveFrame w) := by
  unfold Session.receiveFrame
  exact (keeps_onPort (h.look _)).bind fun now => keeps_rounds _ fun rounds => h.awaitFrame _ rounds

end KeptByReceiving

open KeptByReceiving (keeps_onPort)

namespace KeptByCalls

/-! ### Sending -/

private theorem lock (h : KeptByCalls w I) (pauses : Nat) : Keeps I (Session.lock w pauses : Session η ε Bool) := by
  have hticket : Keeps I (Session.step w fun p => (p.tickets.take.1, { p with tickets := p.tickets.take.2 }) :
      Session η ε UInt32) := fun _ hp => h.ticket hp
  exact hticket.bind fun ticket => h.awaitTurn ticket pauses

private theorem writes (h : KeptByCalls w I) (start : Nat) (bytes : List UInt8) :
    Keeps I (Session.write w start bytes) := by
  intro p hp
  unfold Session.write Session.attempt Run.after Run.runFrom
  dsimp only
  cases hbusy : isBusy p.bus with
  | true => exact h.between hp
  | false => exact h.write start bytes hp hbusy

private theorem sendFrame (h : KeptByCalls w I) (size : Nat) (withBreak : Bool) :
    Keeps I (Session.sendFrame w size withBreak) := by
  by_cases hsize : size = 0
  · unfold Session.sendFrame
    dsimp only
    split
    · exact keeps_throw _
    refine (h.look _).bind fun enabled => ?_
    split
    · exact keeps_throw _
    · exact keeps_pure _
  · rw [sendFrame_eq hsize]
    refine (Message.keeps_ready h.toKeptByOthers size withBreak).bind_ok fun p _ q hp hready => ?_
    unfold Run.after
    rw [Run.runFrom_bind, runFrom_dispatch (isSending_startFrame _ _ hsize _).1]
    have hstarted := h.start hp hsize hready
    cases (startFrame w.hardware size withBreak q).1.result <;> exact hstarted

private theorem putFrame (h : KeptByCalls w I) (frame : List UInt8) : Keeps I (Session.putFrame w frame) := by
  unfold Session.putFrame
  exact (h.waitSent _).bind_ok fun p _ q hp hsent => h.put frame hp hsent

private theorem loadSlots (h : KeptByCalls w I) (startCode : UInt8) (slots : List UInt8) :
    Keeps I (Session.loadSlots w startCode slots) := by
  unfold Session.loadSlots
  split
  · exact keeps_throw _
  · exact h.putFrame _

theorem request (h : KeptByCalls w I) (size timeout : Nat) : Keeps I (Session.request w size timeout) :=
  (h.look _).bind fun expects => (h.sendFrame size true).bind fun _ => h.reply expects timeout

/-! ### Links -/

private theorem loadRequest (h : KeptByCalls w I) (r : Request) : Keeps I (Session.loadRequest w r) := by
  unfold Session.loadRequest
  exact (h.look _).bind fun _ => (h.putFrame _).bind fun _ => keeps_pure _

private theorem ask (h : KeptByCalls w I) (r : Request) : Keeps I (Session.ask w r) := by
  refine (keeps_onPort (h.loadRequest r)).bind fun loaded => (keeps_onPort (h.look _)).bind fun now => ?_
  exact (keeps_onPort (h.request _ _)).bind fun notice => h.askAnswer _ _ notice

private theorem probe (h : KeptByCalls w I) (r : Request) : Keeps I (Session.probe w r) :=
  (keeps_onPort (h.loadRequest r)).bind fun _ => (keeps_onPort (h.request _ _)).bind fun notice =>
    h.probeAnswer notice

private theorem sendSlots (h : KeptByCalls w I) (startCode : UInt8) (slots : List UInt8) :
    Keeps I (Session.sendSlots w startCode slots) :=
  keeps_onPort ((h.loadSlots startCode slots).bind fun size => (h.sendFrame size true).bind fun _ => h.waitSent _)

private theorem sendResponse (h : KeptByCalls w I) (r : Response) : Keeps I (Session.sendResponse w r) :=
  keeps_onPort ((h.putFrame _).bind fun size => (h.sendFrame size true).bind fun _ => h.waitSent _)

private theorem sendHere (h : KeptByCalls w I) (uid : Uid) : Keeps I (Session.sendHere w uid) :=
  keeps_onPort ((h.putFrame _).bind fun size => (h.sendFrame size false).bind fun _ => h.waitSent _)

/-- The port goes back to receiving without a look whether it is on. -/
theorem skipResponse (hskip : ∀ p, I p → I (w.between (p.dispatch w.hardware .receiveRequested).2)) :
    Keeps I (Session.skipResponse w) := by
  have hstep : Keeps I (Session.step w (Port.dispatch w.hardware .receiveRequested) : Session η ε (Applied ε)) :=
    hskip
  exact keeps_onPort (hstep.bind fun _ => keeps_ofExcept _)

/-- Every call keeps the invariant. -/
theorem call (h : KeptByCalls w I) (call : Call)
    (hskip : call = .skipResponse → ∀ p, I p → I (w.between (p.dispatch w.hardware .receiveRequested).2)) (hp : I p) :
    I (afterCall w call p) := by
  cases call with
  | lock pauses => exact h.lock pauses p hp
  | read start size => exact h.look (fun p => slice p.bus.frame start size) p hp
  | write start bytes => exact h.writes start bytes p hp
  | waitSent timeout => exact h.waitSent timeout p hp
  | sendFrame size withBreak => exact h.sendFrame size withBreak p hp
  | receive timeout => exact h.receive timeout p hp
  | request size timeout => exact h.request size timeout p hp
  | load package =>
    have hload : Keeps I (Session.load w package) := h.putFrame _
    exact hload p hp
  | loadSlots startCode slots => exact h.loadSlots startCode slots p hp
  | loadReply uid =>
    have hload : Keeps I (Session.loadReply w uid) := h.putFrame _
    exact hload p hp
  | ask request => exact h.ask request p hp
  | probe request => exact h.probe request p hp
  | sendSlots startCode slots => exact h.sendSlots startCode slots p hp
  | receiveFrame => exact h.receiveFrame p hp
  | sendResponse response => exact h.sendResponse response p hp
  | sendHere uid => exact h.sendHere uid p hp
  | skipResponse => exact skipResponse (hskip rfl) p hp

end KeptByCalls

/-! ### Invariants of all steps -/

private theorem KeptBySteps.keptByCalls {enabled : Bool} (h : KeptBySteps w enabled I) : KeptByCalls w I where
  toKeptByOthers := h.toKeptByOthers
  listen hp _ := h.between (h.listen (h.between hp))
  take hp := h.between (h.notice none hp)
  answer hp _ _ _ hq := hq ▸ h.between (h.lastTransfer _ (h.between (h.notice none hp)))
  start {p q size withBreak} hp _ hready := by
    have hon : enabled = true := (h.isEnabled hp).symm.trans (enabled_of_ready hready)
    exact h.between (h.start hon size withBreak
      ((Message.keeps_ready h.toKeptByOthers size withBreak).of_runFrom hp hready))
  write start bytes hp _ := h.between (h.write start bytes hp)
  put frame hp hsent := h.between (h.write 0 frame ((h.waitSent _).of_runFrom hp hsent))
  ticket hp := h.between (h.tickets _ hp)

theorem KeptBySteps.call {enabled : Bool} (h : KeptBySteps w enabled I) (call : Call) (hp : I p) :
    I (afterCall w call p) :=
  h.keptByCalls.call call (fun _ _ hp => h.between (h.listen hp)) hp

end Session

end LightBus
