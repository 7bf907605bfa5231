import LightBus.Proofs.Port.Clock
import LightBus.Proofs.Session.Failing

/-!
# Calls that end

Interrupts run only while a task pauses, and each pause takes time (`World.Forward`).  Then every loop of a session
ends, whatever the interrupts bring: some rounds go on without a pause, but such a round takes a notice, and only a
pause can bring another one.  So either the time goes on, or the notice is gone (`Session.roundsLeft`).

* `Run.suffices_of_falls`: a loop in which something falls with each round has enough rounds, and further ones change
  nothing.
* `World.Forward.suffices_awaitSent` and so on: this is true of each loop.  For the loops that receive again and
  again, a reception takes time or takes a notice (`World.Forward.time_or_notice`).
* `Session.Ends`: so no call ends because its rounds have run out.
-/

namespace LightBus

open Run (Keeps Fails fails_pure fails_throw)

variable {η ε α β : Type}

/-! ### Loops -/

namespace Run

variable {σ κ : Type}

/-- So many rounds are enough for the loop: it does not end because they have run out, and further rounds change
nothing. -/
structure Suffices (loop : Nat → Except ε α × σ) (stopped : ε) (rounds : Nat) : Prop where
  ends : (loop rounds).1 ≠ .error stopped
  same (more : Nat) (hmore : rounds ≤ more) : loop more = loop rounds

/-- Each round is the last one, or leaves less to do. -/
theorem suffices_of_falls (loop : Nat → κ → Except ε α × σ) {stopped : ε} (left : κ → Nat)
    (hround : ∀ k, (∃ result, result.1 ≠ .error stopped ∧ ∀ n, loop (n + 1) k = result) ∨
      ∃ next, left next < left k ∧ ∀ n, loop (n + 1) k = loop n next) {rounds : Nat} {k : κ}
        (hleft : left k < rounds) :
    Suffices (loop · k) stopped rounds := by
  -- The outcome is the same for all numbers of rounds above the measure, which is what the induction is on.
  have houtcome : ∃ result, result.1 ≠ .error stopped ∧ ∀ n, left k < n → loop n k = result := by
    clear hleft
    induction hk : left k using Nat.strongRecOn generalizing k with
    | ind total ih =>
      rcases hround k with ⟨result, hends, hlast⟩ | ⟨next, hless, hgoes⟩
      · refine ⟨result, hends, fun n hn => ?_⟩
        obtain ⟨m, rfl⟩ := Nat.exists_eq_add_one_of_ne_zero (Nat.ne_zero_of_lt hn)
        exact hlast m
      · obtain ⟨result, hends, hsame⟩ := ih (left next) (hk ▸ hless) rfl
        refine ⟨result, hends, fun n hn => ?_⟩
        obtain ⟨m, rfl⟩ := Nat.exists_eq_add_one_of_ne_zero (Nat.ne_zero_of_lt hn)
        exact (hgoes m).trans (hsame m (by omega))
  obtain ⟨result, hends, hsame⟩ := houtcome
  refine ⟨?_, fun more hmore => ?_⟩
  · show (loop rounds k).1 ≠ _
    rw [hsame rounds hleft]
    exact hends
  · exact (hsame more (Nat.lt_of_lt_of_le hleft hmore)).trans (hsame rounds hleft).symm

end Run

open Run (Suffices suffices_of_falls)

/-- Interrupts run only while the task pauses, each pause takes time, and the clock is never set back. -/
structure World.Forward (w : World η ε) : Prop where
  onward : w.hardware.Onward
  between (p : Port η) : w.between p = p
  pause (p : Port η) : p.now w.hardware < (w.pause p).now w.hardware

namespace Session

variable {w : World η ε} {p q : Port η} {deadline : Nat}

/-! ### What is left to do -/

/-- A bound on the rounds until the deadline.  Each of them takes time, or a notice that is there already. -/
def roundsLeft (w : World η ε) (deadline : Nat) (p : Port η) : Nat :=
  2 * (deadline - p.now w.hardware) + if p.notice.isSome then 1 else 0

private theorem roundsLeft_lt (w : World η ε) (deadline : Nat) (p : Port η) :
    roundsLeft w deadline p < rounds w deadline p := by
  unfold roundsLeft rounds
  split <;> omega

private theorem roundsLeft_of_later (hlater : p.now w.hardware < q.now w.hardware)
    (htime : p.now w.hardware < deadline) :
    roundsLeft w deadline q < roundsLeft w deadline p := by
  unfold roundsLeft
  split <;> split <;> omega

private theorem roundsLeft_of_taken (hclock : p.now w.hardware ≤ q.now w.hardware) (htold : p.notice.isSome = true)
    (htaken : q.notice = none) : roundsLeft w deadline q < roundsLeft w deadline p := by
  unfold roundsLeft
  rw [htold, htaken]
  simp only [Option.isSome_none, Bool.false_eq_true, ↓reduceIte]
  omega

/-- The call does not end because its rounds have run out. -/
def Ends (a : Session η ε α) : Prop := Fails (· ≠ .clockStopped) a

/-- The call to a link does not end because its rounds have run out. -/
def LinkEnds (a : Linked η ε α) : Prop := Fails (· ≠ .driver .clockStopped) a

private theorem ends_look (f : Port η → α) : Ends (look w f : Session η ε α) := fun _ _ _ h => nomatch h

private theorem ends_throw_bind {e : PortError ε} (h : e ≠ .clockStopped) (f : α → Session η ε β) :
    Ends (throw e >>= f) := by
  rw [Run.throw_bind]
  exact fails_throw h

private theorem Ends.onPort {a : Session η ε α} (h : Ends a) : LinkEnds (onPort a) := by
  intro p e q hrun
  unfold Session.onPort at hrun
  rw [Run.runFrom_mapError] at hrun
  rcases hfirst : a.runFrom p with ⟨e' | x, p'⟩ <;> rw [hfirst] at hrun <;> cases hrun
  exact fun heq => h p e' p' hfirst (LinkError.driver.inj heq)

private theorem fails_of_suffices {σ ε' : Type} (loop : Nat → Run σ ε' α) {stopped : ε'} {rounds : σ → Nat}
    (h : ∀ s, Suffices (fun n => (loop n).runFrom s) stopped (rounds s)) :
    Fails (· ≠ stopped) (fun s => loop (rounds s) s : Run σ ε' α) := by
  intro s e t hrun heq
  refine (h s).ends ?_
  rw [show (loop (rounds s)).runFrom s = _ from hrun, heq]

private theorem check_ne_driver (n : Notice) (e : PortError ε) : n.check ≠ .error (.driver e) := by
  unfold Notice.check
  split <;> exact nofun

/-- The response with the number, if this is it. -/
def answer? (transaction : UInt8) : Package → Option Response
  | .response r => if r.transaction = transaction then some r else none
  | .request _ => none

/-- Only the hardware can fail to do what an event asks for. -/
private theorem ends_dispatch {f : Port η → Applied ε × Port η} (hnone : ∀ p, (f p).1.notice = none)
    (hfault : ∀ p e, (f p).1.result = .error e → e.isFault = true) : Ends (dispatch w f) := by
  intro p e q hrun
  obtain ⟨hresult, -⟩ := error_of_dispatch (hnone p) hrun
  intro heq
  have := hfault p e hresult
  rw [heq] at this
  cases this

end Session

open Session

namespace World.Forward

variable {w : World η ε} {p q : Port η} {deadline timeout : Nat}

/-! ### The clock -/

private theorem clock_dispatch (h : w.Forward) (event : BusEvent) :
    p.now w.hardware ≤ (p.dispatch w.hardware event).2.now w.hardware :=
  Port.clock_dispatchAt h.onward event _

private theorem keptByOthers_clock (h : w.Forward) (time : Nat) :
    KeptByOthers w fun p => time ≤ p.now w.hardware where
  between {p} hp := by rwa [h.between]
  pause {p} hp := Nat.le_trans hp (Nat.le_of_lt (h.pause p))

/-- No call sets the clock back. -/
theorem keptByCalls_clock (h : w.Forward) (time : Nat) : KeptByCalls w fun p => time ≤ p.now w.hardware where
  toKeptByOthers := h.keptByOthers_clock time
  listen {p} hp _ := by
    rw [h.between, h.between]
    exact Nat.le_trans hp (h.clock_dispatch _)
  take {p} hp := by rwa [h.between]
  answer {p q _} hp _ _ _ hq := by
    rw [h.between, hq, h.between]
    exact hp
  start {p q size withBreak} hp _ hready := by
    have hq : time ≤ q.now w.hardware :=
      (Message.keeps_ready (h.keptByOthers_clock time) size withBreak).of_runFrom hp hready
    have hstamp : (stamp q size withBreak).now w.hardware = q.now w.hardware :=
      congrArg w.hardware.clock (hardware_stamp q size withBreak)
    rw [h.between]
    refine Nat.le_trans hq (hstamp ▸ ?_)
    unfold startFrame
    exact h.clock_dispatch (p := { stamp q size withBreak with
      lastTransfer := transferOf (q.bus.frame.take size) withBreak, notice := none }) _
  write {p} _ _ hp _ := by rwa [h.between]
  put {p q} _ hp hsent := by
    have hq : time ≤ q.now w.hardware := ((h.keptByOthers_clock time).waitSent _).of_runFrom hp hsent
    rw [h.between]
    exact hq
  ticket {p} hp := by rwa [h.between]

/-! ### Loops without a reception -/

theorem suffices_awaitSent (h : w.Forward) (deadline : Nat) (p : Port η) :
    Suffices (fun n => (awaitSent w deadline n).runFrom p) .clockStopped (rounds w deadline p) := by
  refine suffices_of_falls _ (roundsLeft w deadline) (fun p => ?_) (roundsLeft_lt w deadline p)
  have hround (n : Nat) : (awaitSent w deadline (n + 1)).runFrom p =
      (if !p.bus.isSending then return () else do
        if deadline ≤ p.now w.hardware then throw .stillSending
        Session.pause w
        awaitSent w deadline n : Session η ε Unit).runFrom (w.between p) := rfl
  cases hsending : p.bus.isSending with
  | false =>
    refine .inl ⟨(.ok (), w.between p), nofun, fun n => ?_⟩
    rw [hround, hsending]
    rfl
  | true =>
    by_cases hlate : deadline ≤ p.now w.hardware
    · refine .inl ⟨(.error .stillSending, w.between p), nofun, fun n => ?_⟩
      rw [hround, hsending, if_pos hlate]
      rfl
    · refine .inr ⟨w.pause p, roundsLeft_of_later (h.pause p) (Nat.not_le.1 hlate), fun n => ?_⟩
      rw [hround, hsending, if_neg hlate, h.between]
      rfl

theorem suffices_awaitTime (h : w.Forward) (time : Nat) (p : Port η) :
    Suffices (fun n => (awaitTime w time n).runFrom p) .clockStopped (rounds w time p) := by
  refine suffices_of_falls _ (roundsLeft w time) (fun p => ?_) (roundsLeft_lt w time p)
  have hround (n : Nat) : (awaitTime w time (n + 1)).runFrom p =
      (if time ≤ p.now w.hardware then return () else do
        Session.pause w
        awaitTime w time n : Session η ε Unit).runFrom (w.between p) := rfl
  by_cases hcome : time ≤ p.now w.hardware
  · refine .inl ⟨(.ok (), w.between p), nofun, fun n => ?_⟩
    rw [hround, if_pos hcome]
    rfl
  · refine .inr ⟨w.pause p, roundsLeft_of_later (h.pause p) (Nat.not_le.1 hcome), fun n => ?_⟩
    rw [hround, if_neg hcome, h.between]
    rfl

/-! ### Receiving -/

/-- One round of a task that waits for a notice.  The notice is taken first. -/
private theorem runFrom_awaitNotice (h : w.Forward) (rounds : Nat) : (awaitNotice w deadline (rounds + 1)).runFrom p =
    let taken : Port η := { p with notice := none }
    match p.notice with
    | some notice =>
      if notice.origin = .transmit then (awaitNotice w deadline rounds).runFrom taken
      else (.ok notice, if 0 < notice.size then { taken with lastTransfer := answered p.lastTransfer } else taken)
    | none =>
      if deadline ≤ p.now w.hardware then (.ok .timeout, taken)
      else (awaitNotice w deadline rounds).runFrom (w.pause taken) := by
  have hround : (awaitNotice w deadline (rounds + 1)).runFrom p =
      (match p.notice with
      | some notice =>
        if notice.origin = .transmit then awaitNotice w deadline rounds
        else do
          if 0 < notice.size then step w fun p => ((), { p with lastTransfer := answered p.lastTransfer })
          return notice
      | none => do
        if deadline ≤ (← now w) then return .timeout
        Session.pause w
        awaitNotice w deadline rounds : Session η ε Notice).runFrom (w.between { p with notice := none }) := rfl
  rw [hround, h.between]
  cases p.notice with
  | some notice =>
    dsimp only
    split
    · rfl
    split
    · exact congrArg (Prod.mk _) (h.between _)
    · rfl
  | none =>
    show ((if deadline ≤ p.now w.hardware then _ else _ : Session η ε Notice).runFrom
      (w.between { p with notice := none })) = _
    rw [h.between]
    dsimp only
    split <;> rfl

/-- A round that takes no notice takes time. -/
theorem suffices_awaitNotice (h : w.Forward) (deadline : Nat) (p : Port η) :
    Suffices (fun n => (awaitNotice w deadline n).runFrom p) .clockStopped (rounds w deadline p) := by
  refine suffices_of_falls _ (roundsLeft w deadline) (fun p => ?_) (roundsLeft_lt w deadline p)
  simp only [h.runFrom_awaitNotice]
  cases hnotice : p.notice with
  | some notice =>
    by_cases horigin : notice.origin = .transmit
    · have htold : p.notice.isSome = true := by
        rw [hnotice]
        rfl
      refine .inr ⟨{ p with notice := none }, roundsLeft_of_taken (Nat.le_refl _) htold rfl, fun n => ?_⟩
      exact if_pos horigin
    · exact .inl ⟨(.ok notice, _), nofun, fun n => if_neg horigin⟩
  | none =>
    by_cases hlate : deadline ≤ p.now w.hardware
    · exact .inl ⟨(.ok .timeout, _), nofun, fun n => if_pos hlate⟩
    · exact .inr ⟨_, roundsLeft_of_later (h.pause { p with notice := none }) (Nat.not_le.1 hlate),
        fun n => if_neg hlate⟩

/-- A task that does not pause takes the notice that waits. -/
private theorem time_or_notice_awaitNotice (h : w.Forward) {rounds : Nat} {n : Notice}
    (hrun : (awaitNotice w deadline rounds).runFrom p = (.ok n, q)) (htime : p.now w.hardware < deadline) :
    p.now w.hardware < q.now w.hardware ∨ p.notice.isSome = true ∧ q.notice = none := by
  induction rounds generalizing p with
  | zero => cases hrun
  | succ rounds ih =>
    rw [h.runFrom_awaitNotice] at hrun
    cases hnotice : p.notice with
    | some notice =>
      rw [hnotice] at hrun
      dsimp only at hrun
      split at hrun
      · -- It tells of a transmission, so that the task goes on without a notice.
        rcases ih hrun htime with hlater | ⟨hsome, -⟩
        · exact .inl hlater
        · cases hsome
      · refine .inr ⟨rfl, ?_⟩
        rw [← (Prod.mk.inj hrun).2]
        split <;> rfl
    | none =>
      rw [hnotice] at hrun
      dsimp only at hrun
      rw [if_neg (Nat.not_le.2 htime)] at hrun
      have hpause : p.now w.hardware < (w.pause { p with notice := none }).now w.hardware :=
        h.pause { p with notice := none }
      have hkept := (h.keptByCalls_clock (p.now w.hardware + 1)).awaitNotice deadline rounds
      exact .inl (hkept.of_runFrom hpause hrun)

private theorem exists_of_receive (h : w.Forward) {n : Notice} (hrun : (receive w timeout).runFrom p = (.ok n, q)) :
    let r := (p.dispatch w.hardware .receiveRequested).2
    ∃ rounds, (awaitNotice w (r.now w.hardware + timeout) rounds).runFrom r = (.ok n, q) := by
  unfold receive at hrun
  obtain ⟨enabled, p', hlook, hrun⟩ := Run.exists_of_bind hrun
  cases hlook
  rw [h.between] at hrun
  split at hrun
  · cases hrun
  obtain ⟨_, r, hlisten, hrun⟩ := Run.exists_of_bind hrun
  rw [runFrom_dispatch Port.notice_dispatch_receiveRequested, h.between] at hlisten
  obtain ⟨now, r', hlook, hrun⟩ := Run.exists_of_bind hrun
  cases hlook
  rw [h.between, ← (Prod.mk.inj hlisten).2] at hrun
  exact ⟨_, hrun⟩

/-- A reception takes time, or it takes the notice that waits. -/
theorem time_or_notice (h : w.Forward) {n : Notice} (hrun : (receive w timeout).runFrom p = (.ok n, q))
    (htimeout : 0 < timeout) :
    p.now w.hardware < q.now w.hardware ∨ p.notice.isSome = true ∧ q.notice = none := by
  obtain ⟨rounds, hawait⟩ := h.exists_of_receive hrun
  have hclock : p.now w.hardware ≤ (p.dispatch w.hardware .receiveRequested).2.now w.hardware := h.clock_dispatch _
  have hnotice : (p.dispatch w.hardware .receiveRequested).2.notice = p.notice := by
    rw [Port.dispatch, Port.dispatchAt_frame]
  rcases h.time_or_notice_awaitNotice hawait (Nat.lt_add_of_pos_right htimeout) with hlater | htaken
  · exact .inl (Nat.lt_of_le_of_lt hclock hlater)
  · exact .inr (hnotice ▸ htaken)

/-- After a reception that was given the rest of the time, less is left to do. -/
private theorem roundsLeft_receive (h : w.Forward) {n : Notice} (htime : p.now w.hardware < deadline)
    (hrun : (receive w (deadline - p.now w.hardware)).runFrom p = (.ok n, q)) :
    roundsLeft w deadline q < roundsLeft w deadline p := by
  rcases h.time_or_notice hrun (Nat.sub_pos_of_lt htime) with hlater | ⟨htold, htaken⟩
  · exact roundsLeft_of_later hlater htime
  · have hkept := (h.keptByCalls_clock (p.now w.hardware)).receive (deadline - p.now w.hardware)
    exact roundsLeft_of_taken (hkept.of_runFrom (Nat.le_refl _) hrun) htold htaken

/-- A task is never told of a transmission when it receives. -/
theorem origin_receive (h : w.Forward) {n : Notice} (hrun : (receive w timeout).runFrom p = (.ok n, q)) :
    n.origin = .receive := by
  have hattends : Attends w (fun _ _ => True) (fun _ _ => True) := by
    refine ⟨fun {p} _ => ?_, fun _ _ => ⟨trivial, fun _ _ _ => trivial⟩, fun _ => ⟨trivial, fun _ _ => trivial⟩⟩
    rw [h.between]
    exact ⟨trivial, .refl p, fun _ _ => trivial⟩
  exact ((hattends.receive timeout p ⟨trivial, fun _ _ _ => trivial⟩).1 n q hrun).1

/-! ### Calls of a port -/

theorem ends_waitSent (h : w.Forward) (timeout : Nat) : Ends (waitSent w timeout) :=
  (ends_look _).bind fun _ => fails_of_suffices _ fun p => h.suffices_awaitSent _ p

private theorem ends_waitUntil (h : w.Forward) (time : Nat) : Ends (waitUntil w time) :=
  fails_of_suffices (awaitTime w time) fun p => h.suffices_awaitTime time p

private theorem ends_ready (h : w.Forward) (size : Nat) (withBreak : Bool) : Ends (ready w size withBreak) := by
  unfold ready
  dsimp only
  split
  · exact ends_throw_bind (e := .frameTooLarge) nofun _
  refine (ends_look _).bind fun enabled => ?_
  split
  · exact ends_throw_bind (e := .disabled) nofun _
  · refine (h.ends_waitSent _).bind fun _ => Fails.bind (fun p e q hrun heq => ?_) fun time => h.ends_waitUntil time
    cases heq.symm.trans (sendTime_error (congrArg Prod.fst hrun))

theorem ends_sendFrame (h : w.Forward) (size : Nat) (withBreak : Bool) : Ends (sendFrame w size withBreak) := by
  by_cases hsize : size = 0
  · intro p e q hrun
    rw [hsize, sendFrame_zero] at hrun
    split at hrun <;> cases hrun
    exact nofun
  · rw [sendFrame_eq hsize]
    refine (h.ends_ready size withBreak).bind fun _ => Fails.bind ?_ fun _ => fails_pure _
    exact ends_dispatch (fun p => (isSending_startFrame w.hardware p hsize withBreak).1) fun p e =>
      Port.isFault_applyAll

theorem ends_receive (h : w.Forward) (timeout : Nat) : Ends (receive w timeout) := by
  unfold receive
  refine (ends_look _).bind fun enabled => ?_
  dsimp only
  split
  · exact ends_throw_bind (e := .disabled) nofun _
  · have hlisten : Ends (dispatch w (Port.dispatch w.hardware .receiveRequested)) :=
      ends_dispatch (fun _ => Port.notice_dispatch_receiveRequested) fun p e => Port.isFault_applyAll
    exact hlisten.bind fun _ => (ends_look _).bind fun now => fails_of_suffices _ fun p => h.suffices_awaitNotice _ p

theorem ends_request (h : w.Forward) (size timeout : Nat) : Ends (request w size timeout) := by
  unfold request send
  refine (ends_look _).bind fun expects => (h.ends_sendFrame size true).bind fun _ => ?_
  split
  · exact (h.ends_receive timeout).bind fun _ => fails_pure _
  · refine (h.ends_waitSent _).bind fun _ => (ends_look _).bind fun last => ?_
    exact (h.ends_waitUntil _).bind fun _ => fails_pure _

private theorem ends_putFrame (h : w.Forward) (frame : List UInt8) : Ends (putFrame w frame) :=
  (h.ends_waitSent _).bind fun _ => Fails.bind (fun _ _ _ hrun => nomatch hrun) fun _ => fails_pure _

private theorem ends_loadRequest (h : w.Forward) (r : Request) : Ends (loadRequest w r) :=
  (ends_look _).bind fun _ => (h.ends_putFrame _).bind fun _ => fails_pure _

/-! ### Loops of receptions -/

/-- To read a package takes no time. -/
theorem keeps_readPackage (h : w.Forward) (n : Notice) (p : Port η) : Keeps (· = p) (readPackage w n) := by
  have hread (start size : Nat) : Keeps (· = p) (onPort (read w start size)) := fun s hs => (h.between s).trans hs
  unfold readPackage
  refine (Run.keeps_ofExcept _).bind fun _ => ?_
  dsimp only
  split
  · exact Run.keeps_throw _
  · exact (hread _ _).bind fun _ => Run.keeps_ofExcept _

private theorem linkEnds_readPackage (w : World η ε) (n : Notice) : LinkEnds (readPackage w n) := by
  have hcheck : LinkEnds (Run.ofExcept n.check : Linked η ε Unit) := fun _ _ _ hrun heq =>
    check_ne_driver n _ ((Prod.mk.inj hrun).1.trans (congrArg Except.error heq))
  unfold readPackage
  refine Fails.bind hcheck fun _ => ?_
  dsimp only
  split
  · exact fails_throw (e := LinkError.frame .wrongStart) nofun
  · refine (ends_look _).onPort.bind fun frame => fun _ e _ hrun => ?_
    have herror : (Package.ofFrame? frame).mapError LinkError.frame = .error e := (Prod.mk.inj hrun).1
    cases hframe : Package.ofFrame? frame <;> rw [hframe] at herror <;> cases herror
    exact nofun

/-- One round of a task that waits for a response. -/
private theorem runFrom_awaitResponse (h : w.Forward) (transaction : UInt8) (rounds : Nat) (n : Notice) :
    (awaitResponse w transaction deadline (rounds + 1) n).runFrom p =
      match ((readPackage w n).runFrom p).1 with
      | .error e => (.error e, p)
      | .ok package =>
        match answer? transaction package with
        | some r => (.ok r, p)
        | none =>
          if deadline ≤ p.now w.hardware then (.error .timeout, p)
          else
            match (receive w (deadline - p.now w.hardware)).runFrom p with
            | (.error e, q) => (.error (.driver e), q)
            | (.ok next, q) => (awaitResponse w transaction deadline rounds next).runFrom q := by
  -- What is done about a package that is skipped.
  have hagain : (do
      let now ← onPort (now w)
      if deadline ≤ now then throw .timeout
      awaitResponse w transaction deadline rounds (← onPort (receive w (deadline - now))) : Linked η ε
        Response).runFrom p =
      if deadline ≤ p.now w.hardware then (.error .timeout, p)
      else
        match (receive w (deadline - p.now w.hardware)).runFrom p with
        | (.error e, q) => (.error (.driver e), q)
        | (.ok next, q) => (awaitResponse w transaction deadline rounds next).runFrom q := by
    show (if deadline ≤ p.now w.hardware then throw .timeout else _ : Linked η ε Response).runFrom (w.between p) = _
    rw [h.between]
    split
    · rfl
    · rw [Run.runFrom_bind, onPort, Run.runFrom_mapError]
      rcases (receive w (deadline - p.now w.hardware)).runFrom p with ⟨e | next, q⟩ <;> rfl
  show (readPackage w n >>= fun package => _ : Linked η ε Response).runFrom p = _
  rw [Run.runFrom_bind]
  rcases hread : (readPackage w n).runFrom p with ⟨e | package, p'⟩ <;>
    obtain rfl := (h.keeps_readPackage n p).of_runFrom rfl hread
  · rfl
  · cases package with
    | request r => exact hagain
    | response r =>
      unfold answer?
      dsimp only
      split
      · rfl
      · exact hagain

theorem suffices_awaitResponse (h : w.Forward) (transaction : UInt8) (deadline : Nat) (n : Notice) (p : Port η) :
    Suffices (fun rounds => (awaitResponse w transaction deadline rounds n).runFrom p) (.driver .clockStopped)
      (rounds w deadline p) := by
  refine suffices_of_falls (k := (n, p))
    (fun rounds k => (awaitResponse w transaction deadline rounds k.1).runFrom k.2)
    (fun k => roundsLeft w deadline k.2) (fun k => ?_) (roundsLeft_lt w deadline p)
  obtain ⟨n, p⟩ := k
  simp only [h.runFrom_awaitResponse]
  rcases hread : (readPackage w n).runFrom p with ⟨e | package, p'⟩
  · exact .inl ⟨(.error e, p), fun heq => linkEnds_readPackage w n p e p' hread (Except.error.inj heq), fun _ => rfl⟩
  dsimp only
  cases answer? transaction package with
  | some r => exact .inl ⟨(.ok r, p), nofun, fun _ => rfl⟩
  | none =>
    by_cases hlate : deadline ≤ p.now w.hardware
    · exact .inl ⟨(.error .timeout, p), nofun, fun _ => if_pos hlate⟩
    · rcases hreceive : (receive w (deadline - p.now w.hardware)).runFrom p with ⟨e | next, q⟩
      · refine .inl ⟨(.error (.driver e), q), fun heq => ?_, fun _ => if_neg hlate⟩
        exact h.ends_receive _ p e q hreceive (LinkError.driver.inj (Except.error.inj heq))
      · exact .inr ⟨(next, q), h.roundsLeft_receive (Nat.not_le.1 hlate) hreceive, fun _ => if_neg hlate⟩

/-- One round of a task that waits for a frame. -/
private theorem runFrom_awaitFrame (h : w.Forward) (rounds : Nat) : (awaitFrame w deadline (rounds + 1)).runFrom p =
    if deadline ≤ p.now w.hardware then (.error .timeout, p)
    else
      match (receive w (deadline - p.now w.hardware)).runFrom p with
      | (.error e, q) => (.error (.driver e), q)
      | (.ok n, q) =>
        match n.check with
        | .error e => (.error e, q)
        | .ok () =>
          if n.kind = .discoveryReply ∨ n.kind = .empty then (awaitFrame w deadline rounds).runFrom q
          else (.ok (slice q.bus.frame 0 n.size), q) := by
  show (if deadline ≤ p.now w.hardware then throw .timeout else _ : Linked η ε (List UInt8)).runFrom (w.between p) = _
  rw [h.between]
  split
  · rfl
  rw [Run.runFrom_bind, onPort, Run.runFrom_mapError]
  rcases (receive w (deadline - p.now w.hardware)).runFrom p with ⟨e | n, q⟩
  · rfl
  · dsimp only [Except.mapError]
    rw [Run.runFrom_bind, Run.runFrom_ofExcept]
    cases n.check (ε := PortError ε) with
    | error e => rfl
    | ok =>
      dsimp only
      split
      · rfl
      · exact congrArg (Prod.mk _) (h.between q)

theorem suffices_awaitFrame (h : w.Forward) (deadline : Nat) (p : Port η) :
    Suffices (fun rounds => (awaitFrame w deadline rounds).runFrom p) (.driver .clockStopped)
      (rounds w deadline p) := by
  refine suffices_of_falls _ (roundsLeft w deadline) (fun p => ?_) (roundsLeft_lt w deadline p)
  simp only [h.runFrom_awaitFrame]
  by_cases hlate : deadline ≤ p.now w.hardware
  · exact .inl ⟨(.error .timeout, p), nofun, fun _ => if_pos hlate⟩
  simp only [if_neg hlate]
  rcases hreceive : (receive w (deadline - p.now w.hardware)).runFrom p with ⟨e | n, q⟩
  · refine .inl ⟨(.error (.driver e), q), fun heq => ?_, fun _ => rfl⟩
    exact h.ends_receive _ p e q hreceive (LinkError.driver.inj (Except.error.inj heq))
  dsimp only
  cases hcheck : n.check (ε := PortError ε) with
  | error e =>
    refine .inl ⟨(.error e, q), fun heq => ?_, fun _ => rfl⟩
    exact check_ne_driver n _ (hcheck.trans (congrArg Except.error (Except.error.inj heq)))
  | ok =>
    by_cases hkind : n.kind = .discoveryReply ∨ n.kind = .empty
    · exact .inr ⟨q, h.roundsLeft_receive (Nat.not_le.1 hlate) hreceive, fun _ => if_pos hkind⟩
    · exact .inl ⟨(.ok (slice q.bus.frame 0 n.size), q), nofun, fun _ => if_neg hkind⟩

/-! ### Calls of a link -/

private theorem linkEnds_askAnswer (h : w.Forward) (transaction : UInt8) (deadline : Nat) (notice : Option Notice) :
    LinkEnds (askAnswer w transaction deadline notice) := by
  unfold askAnswer
  split
  · exact fails_pure _
  · rename_i n
    have hawait := fails_of_suffices (awaitResponse w transaction deadline · n)
      fun p => h.suffices_awaitResponse transaction deadline n p
    exact hawait.bind fun _ => fails_pure _

theorem linkEnds_ask (h : w.Forward) (r : Request) : LinkEnds (ask w r) := by
  refine (h.ends_loadRequest r).onPort.bind fun loaded => (ends_look _).onPort.bind fun now => ?_
  exact (h.ends_request _ _).onPort.bind fun notice => h.linkEnds_askAnswer _ _ notice

theorem linkEnds_probe (h : w.Forward) (r : Request) : LinkEnds (probe w r) := by
  refine (h.ends_loadRequest r).onPort.bind fun loaded => (h.ends_request _ _).onPort.bind fun notice => ?_
  show LinkEnds (probeAnswer w notice)
  unfold probeAnswer
  split
  · exact fails_pure _
  split
  · exact (ends_look _).onPort.bind fun _ => fails_pure _
  · refine (ends_look _).onPort.bind fun slots => ?_
    split <;> exact fails_pure _
  · exact fails_pure _

theorem linkEnds_receiveFrame (h : w.Forward) : LinkEnds (receiveFrame w) :=
  (ends_look _).onPort.bind fun now => fails_of_suffices (awaitFrame w (now + maxPacketMicros))
    fun p => h.suffices_awaitFrame _ p

end World.Forward

end LightBus
