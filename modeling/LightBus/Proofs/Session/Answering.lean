import LightBus.Proofs.Bus.Delivery
import LightBus.Proofs.Bus.Turnaround
import LightBus.Proofs.Session.Watching

/-!
# Answers in time

A responder answers between 176 and 2000 microseconds after the last slot of the request, or not at all.  It counts
this time from the last frame that went over the bus, which is the request as long as nothing else comes in: the port
turns around for a request that it has to answer, and its receiver stays off (`Attentive`).

The notes about a run (`Queries`) tell which request a task has taken and when the transmission after it has begun.
If nothing has come in since the request, the transmission begins in the window, or the task is told that it is too
late (`Port.answer_in_window`).

A request may be complete before a task begins to receive.  The task then switches the receiver on again, and what
comes in while it works on the request starts the window anew (`Port.answer_after_window`).
-/

namespace LightBus

variable {η ε α β : Type} {hw : Hardware η ε} {mask : η → Interrupts}

/-! ### Waits that end -/

/-- While nothing is sent, the clock goes on in each pause, by less than 100 microseconds, and stands still between
two steps. -/
structure World.Paced (w : World η ε) : Prop where
  between (p : Port η) : (w.between p).now w.hardware = p.now w.hardware
  pause (p : Port η) (hidle : p.bus.isSending = false) :
    p.now w.hardware < (w.pause p).now w.hardware ∧ (w.pause p).now w.hardware < p.now w.hardware + 100

namespace Session

variable {w : World η ε} {I : Port η → Prop} {p q : Port η}

private theorem runFrom_bind_of_ok {a : Run (Port η) ε α} {f : α → Run (Port η) ε β} {x : α}
    (h : a.runFrom p = (.ok x, q)) :
    (a >>= f).runFrom p = (f x).runFrom q := by
  rw [Run.runFrom_bind, h]

/-- While nothing is sent, nobody waits for the end of a transmission. -/
private theorem KeptByOthers.runFrom_waitSent (hI : KeptByOthers w I) (hidle : ∀ p, I p → p.bus.isSending = false)
    (hp : I p) (timeout : Nat) : ∃ q, (Session.waitSent w timeout).runFrom p = (.ok (), q) ∧ I q := by
  have hround {p : Port η} (hp : I p) (deadline rounds : Nat) :
      (Session.awaitSent w deadline (rounds + 1)).runFrom p = (.ok (), w.between p) := by
    show (if !p.bus.isSending then _ else _ : Session η ε Unit).runFrom (w.between p) = _
    rw [hidle p hp]
    rfl
  refine ⟨w.between (w.between p), ?_, hI.between (hI.between hp)⟩
  exact hround (hI.between hp) _ _

/-- A task that waits for a time pauses until it has come, and no more than that. -/
private theorem KeptByOthers.runFrom_waitUntil (hI : KeptByOthers w I) (hpaced : w.Paced)
    (hidle : ∀ p, I p → p.bus.isSending = false) (hp : I p) (time : Nat) :
    ∃ q, (Session.waitUntil w time).runFrom p = (.ok (), q) ∧ I q ∧ time ≤ q.now w.hardware ∧
      (q.now w.hardware = p.now w.hardware ∨ q.now w.hardware < time + 100) := by
  have hrounds (rounds : Nat) {p : Port η} (hp : I p) (hleft : time - p.now w.hardware < rounds) :
      ∃ q, (Session.awaitTime w time rounds).runFrom p = (.ok (), q) ∧ I q ∧ time ≤ q.now w.hardware ∧
        (q.now w.hardware = p.now w.hardware ∨ q.now w.hardware < time + 100) := by
    induction rounds generalizing p with
    | zero => cases hleft
    | succ rounds ih =>
      have hround : (Session.awaitTime w time (rounds + 1)).runFrom p =
          (if time ≤ p.now w.hardware then pure () else do Session.pause w; Session.awaitTime w time rounds :
            Session η ε Unit).runFrom (w.between p) := rfl
      have hstill := hpaced.between p
      by_cases hcome : time ≤ p.now w.hardware
      · refine ⟨w.between p, ?_, hI.between hp, by rw [hstill]; exact hcome, .inl hstill⟩
        rw [hround, if_pos hcome]
        rfl
      · have hpause := hpaced.pause (w.between p) (hidle _ (hI.between hp))
        obtain ⟨q, hrun, hq, hcome', hclock⟩ := ih (hI.pause (hI.between hp)) (by omega)
        refine ⟨q, ?_, hq, hcome', .inr (by omega)⟩
        rw [hround, if_neg hcome]
        exact hrun
  refine hrounds _ hp ?_
  unfold rounds
  omega

end Session

/-! ### Notes -/

/-- A request that the port has to answer. -/
structure Query where
  /-- When its last slot was received. -/
  time : Nat
  /-- The port was receiving again, and slots or an error came in. -/
  disturbed : Bool
deriving DecidableEq

/-- The request when the port is looked at again. -/
def Query.goOn (disturbs : Bool) (i : Query) : Query := { i with disturbed := i.disturbed || disturbs }

/-- A transmission, and the request that a task has taken before it. -/
structure Utterance where
  begun : Nat
  query : Option Query
deriving DecidableEq

/-- The requests to a port, and what it was like when it was looked at last. -/
structure Queries where
  /-- The time of the last look. -/
  clock : Nat
  sending : Bool
  receiving : Bool
  rx : RxState
  notice : Option Notice
  /-- The request that was received last, until a task takes its notice. -/
  waiting : Option Query
  /-- The request that a task has taken, until something is sent. -/
  taken : Option Query
  /-- The latest one comes first. -/
  utterances : List Utterance

namespace Queries

/-- The notes about a port that has not received anything so far. -/
def first (hw : Hardware η ε) (p : Port η) : Queries where
  clock := p.now hw
  sending := p.bus.isSending
  receiving := p.bus.receiving
  rx := p.bus.rx
  notice := p.notice
  waiting := none
  taken := none
  utterances := []

/-- The notes after a look at the port. -/
def next (now : Nat) (p : Port η) (notes : Queries) : Queries :=
  let ended := p.bus.frameFinished && p.bus.rx != notes.rx
  let disturbs := notes.receiving && (ended || decide (0 < p.bus.cursor))
  let begins := !notes.sending && p.bus.isSending
  let takes := notes.notice.isSome && p.notice.isNone
  let waiting := notes.waiting.map (Query.goOn disturbs)
  { clock := now
    sending := p.bus.isSending
    receiving := p.bus.receiving
    rx := p.bus.rx
    notice := p.notice
    waiting :=
      if begins || takes then none
      else if ended then (if p.bus.holdsRequest then some ⟨notes.clock, false⟩ else none)
      else waiting
    taken := if begins then none else if takes then waiting else notes.taken.map (Query.goOn disturbs)
    utterances := if begins then ⟨notes.clock, notes.taken⟩ :: notes.utterances else notes.utterances }

end Queries

/-- Writes down what is asked of a port, and when it answers. -/
def inquiring : Watcher η Queries where
  writes _ notes := notes
  stirs notes := notes
  begins notes := notes
  looks := Queries.next

private theorem Queries.hears_eq (frame : List UInt8) (effects : List Effect) (notes : Queries) :
    effects.foldl (fun notes effect => (inquiring : Watcher η Queries).hears frame effect notes) notes = notes :=
  Watcher.hears_of_silent (fun _ _ => rfl) (fun _ => rfl) frame effects notes

/-! ### Ports -/

/-- Nothing is sent after the request.  As long as nothing comes in either, it is the last frame. -/
def Query.Open (b : Bus) (i : Query) : Prop :=
  b.isSending = false ∧ (i.disturbed = false → b.Calm ∧ b.lastFrameAt = i.time)

/-- A responder whose port is on, and knows its requests.  It was looked at at the time `now`. -/
structure Attentive (mask : η → Interrupts) (now : Nat) (p : Port (η × Queries)) : Prop where
  reachable : p.bus.Reachable
  fits : p.bare.Fits mask
  responder : p.bus.mode ≠ .controller
  on : p.enabled = true
  clock : p.hardware.2.clock = now
  sending : p.hardware.2.sending = p.bus.isSending
  receiving : p.hardware.2.receiving = p.bus.receiving
  rx : p.hardware.2.rx = p.bus.rx
  notice : p.hardware.2.notice = p.notice
  waiting {i : Query} (hi : p.hardware.2.waiting = some i) : i.Open p.bus
  taken {i : Query} (hi : p.hardware.2.taken = some i) : i.Open p.bus

/-- What others can have done to a port from `p` to `q`. -/
structure Meanwhile (p q : Port (η × Queries)) : Prop where
  utterances : q.hardware.2.utterances = p.hardware.2.utterances
  taken {i : Query} (hi : p.hardware.2.taken = some i) : ∃ j, q.hardware.2.taken = some j ∧ j.time = i.time ∧
    (j.disturbed = false → i.disturbed = false ∧ q.bus.frame = p.bus.frame)

variable {p p' q r : Port (η × Queries)} {now now' : Nat}

theorem Meanwhile.refl (p : Port (η × Queries)) : Meanwhile p p := ⟨rfl, fun hi => ⟨_, hi, rfl, fun h => ⟨h, rfl⟩⟩⟩

theorem Meanwhile.trans (hpq : Meanwhile p q) (hqr : Meanwhile q r) : Meanwhile p r where
  utterances := hqr.utterances.trans hpq.utterances
  taken hi := by
    obtain ⟨j, hj, htime, hcalm⟩ := hpq.taken hi
    obtain ⟨k, hk, htime', hcalm'⟩ := hqr.taken hj
    exact ⟨k, hk, htime'.trans htime,
      fun h => ⟨(hcalm (hcalm' h).1).1, (hcalm' h).2.trans (hcalm (hcalm' h).1).2⟩⟩

/-- A bus that receives sends nothing. -/
private theorem Port.Fits.idle_of_receiving {p : Port η} (h : p.Fits mask) (hreceiving : p.bus.receiving = true) :
    p.bus.isSending = false := by
  obtain ⟨l, -, hcoupled⟩ := h
  exact (hcoupled.receiving hreceiving).2

private theorem Port.mode_of_install {config : PortConfig} {hardware : η} {p : Port η}
    (h : install hw config hardware = .ok p) :
    p.bus.mode = config.mode := by
  unfold install at h
  split at h
  · cases h
  split at h
  · cases h
  split at h
  · cases h
  · cases h
    rfl

private theorem Port.mode_enable (hw : Hardware η ε) (p : Port η) :
    ((enable hw).runFrom p).2.bus.mode = p.bus.mode := by
  rcases enable_cases hw p with ⟨-, hsame⟩ | ⟨-, hardware, -, hrefused | hstarted⟩
  · rw [hsame]
  · rw [hrefused]
  · rw [hstarted]
    dsimp only
    rw [applyAll_frame]
    rfl

namespace Attentive

/-- Slots or an error have come in since the last look. -/
def disturbs (p p' : Port (η × Queries)) : Bool :=
  p.bus.receiving && (p'.bus.frameFinished && p'.bus.rx != p.bus.rx || decide (0 < p'.bus.cursor))

theorem disturbs_iff : disturbs p p' = true ↔ Bus.Disturbs p.bus p'.bus := by
  simp [disturbs, Bus.Disturbs]

/-- What the look finds where no transmission has begun. -/
private theorem notes_seen (h : Attentive mask now p) (now' : Nat)
    (hidle : p.bus.isSending = false → p'.bus.isSending = false) (hnotes : p'.hardware.2 = p.hardware.2) :
    let notes := (p'.seen inquiring now').hardware.2
    let takes := p.notice.isSome && p'.notice.isNone
    let waiting := p.hardware.2.waiting.map (Query.goOn (disturbs p p'))
    (notes.waiting = if takes then none
      else if p'.bus.frameFinished && p'.bus.rx !=
        p.bus.rx then (if p'.bus.holdsRequest then some ⟨now, false⟩ else none)
      else waiting) ∧
    (notes.taken = if takes then waiting else p.hardware.2.taken.map (Query.goOn (disturbs p p'))) ∧
    notes.utterances = p.hardware.2.utterances := by
  have hnone : (!p.bus.isSending && p'.bus.isSending) = false := by
    cases hsends : p.bus.isSending with
    | true => rfl
    | false => rw [hidle hsends]; rfl
  dsimp only [Port.seen, inquiring, Queries.next]
  have hbus : p'.bare.bus = p'.bus := rfl
  have hnotice : p'.bare.notice = p'.notice := rfl
  rw [hbus, hnotice, hnotes, h.sending, h.receiving, h.rx, h.notice, h.clock, hnone]
  exact ⟨rfl, rfl, rfl⟩

/-- What it finds where one has begun. -/
private theorem notes_begun (h : Attentive mask now p) (now' : Nat) (hidle : p.bus.isSending = false)
    (hstarts : p'.bus.isSending = true) (hnotes : p'.hardware.2 = p.hardware.2) :
    let notes := (p'.seen inquiring now').hardware.2
    notes.waiting = none ∧ notes.taken = none ∧ notes.utterances = ⟨now, p.hardware.2.taken⟩ ::
      p.hardware.2.utterances := by
  have hbegins : (!p.bus.isSending && p'.bus.isSending) = true := by rw [hidle, hstarts]; rfl
  dsimp only [Port.seen, inquiring, Queries.next]
  have hbus : p'.bare.bus = p'.bus := rfl
  rw [hbus, hnotes, h.sending, h.clock, hbegins]
  exact ⟨rfl, rfl, rfl⟩

private theorem open_goOn {i : Query} (hi : i.Open p.bus) (hbus : Bus.Heeds p.bus now p'.bus) :
    (i.goOn (disturbs p p')).Open p'.bus := by
  refine ⟨hbus.idle hi.1, fun hundisturbed => ?_⟩
  obtain ⟨hbefore, hnothing⟩ := Bool.or_eq_false_iff.1 hundisturbed
  obtain ⟨hcalm, hlast⟩ := hi.2 hbefore
  rcases hbus.calm hcalm with ⟨hcalm', hlast'⟩ | hdisturbs
  · exact ⟨hcalm', hlast'.trans hlast⟩
  · rw [disturbs_iff.2 hdisturbs] at hnothing
    cases hnothing

private theorem seen_of (h : Attentive mask now p) (hbus : Bus.Heeds p.bus now p'.bus) (hreachable : p'.bus.Reachable)
    (hfits : p'.bare.Fits mask) (hmode : p'.bus.mode ≠ .controller) (hon : p'.enabled = p.enabled)
    (hnotes : p'.hardware.2 = p.hardware.2) : Attentive mask now' (p'.seen inquiring now') := by
  obtain ⟨hwaiting, htaken, -⟩ := h.notes_seen now' hbus.idle hnotes
  have hgoes {i : Query} (hi : p.hardware.2.waiting.map (Query.goOn (disturbs p p')) = some i) : i.Open p'.bus := by
    obtain ⟨before, hbefore, rfl⟩ := Option.map_eq_some_iff.1 hi
    exact open_goOn (h.waiting hbefore) hbus
  refine ⟨hreachable, hfits, hmode, hon.trans h.on, rfl, rfl, rfl, rfl, rfl, fun {i} hi => ?_, fun {i} hi => ?_⟩
  · rw [hwaiting] at hi
    split at hi
    · cases hi
    split at hi
    · rename_i hended
      split at hi
      · rename_i hrequest
        cases hi
        have hrequest' := hbus.request (bne_iff_ne.1 (Bool.and_eq_true_iff.1 hended).2) hrequest
        exact ⟨hrequest'.1.idle, fun _ => hrequest'⟩
      · cases hi
    · exact hgoes hi
  · rw [htaken] at hi
    split at hi
    · exact hgoes hi
    · obtain ⟨before, hbefore, rfl⟩ := Option.map_eq_some_iff.1 hi
      exact open_goOn (h.taken hbefore) hbus

/-- Whatever others do, they do not take the notice. -/
private theorem meanwhile_seen (h : Attentive mask now p) (hbus : Bus.Heeds p.bus now p'.bus)
    (hnotes : p'.hardware.2 = p.hardware.2) (hnotice : p'.notice = none → p.notice = none)
    (hframe : p.bus.Calm → p'.bus.frame = p.bus.frame ∨ Bus.Disturbs p.bus p'.bus) :
    Meanwhile p (p'.seen inquiring now') := by
  obtain ⟨-, htaken, hutterances⟩ := h.notes_seen now' hbus.idle hnotes
  have hleft : (p.notice.isSome && p'.notice.isNone) = false := by
    cases hafter : p'.notice with
    | none => rw [hnotice hafter]; rfl
    | some n => exact Bool.and_false _
  rw [hleft, if_neg Bool.false_ne_true] at htaken
  refine ⟨hutterances, fun {i} hi => ⟨i.goOn (disturbs p p'), ?_, rfl, fun hundisturbed => ?_⟩⟩
  · rw [htaken, hi]
    rfl
  · obtain ⟨hbefore, hnothing⟩ := Bool.or_eq_false_iff.1 hundisturbed
    refine ⟨hbefore, ?_⟩
    rcases hframe ((h.taken hi).2 hbefore).1 with hsame | hdisturbs
    · exact hsame
    · rw [disturbs_iff.2 hdisturbs] at hnothing
      cases hnothing

/-- What others have done at the time `now`, and the look after it. -/
private theorem seen_meanwhile (h : Attentive mask now p) (hbus : Bus.Heeds p.bus now p'.bus)
    (hreachable : p'.bus.Reachable) (hfits : p'.bare.Fits mask) (hmode : p'.bus.mode ≠ .controller)
    (hon : p'.enabled = p.enabled) (hnotes : p'.hardware.2 = p.hardware.2)
    (hnotice : p'.notice = none → p.notice = none)
    (hframe : p.bus.Calm → p'.bus.frame = p.bus.frame ∨ Bus.Disturbs p.bus p'.bus) :
    Attentive mask now' (p'.seen inquiring now') ∧ Meanwhile p (p'.seen inquiring now') :=
  ⟨h.seen_of hbus hreachable hfits hmode hon hnotes, h.meanwhile_seen hbus hnotes hnotice hframe⟩

/-- The books may be changed, but not what was noted about the port. -/
private theorem keep (h : Attentive mask now p) (hmask : mask p'.hardware.1 = mask p.hardware.1)
    (hbus : p'.bus = p.bus) (hon : p'.enabled = p.enabled) (hnotes : p'.hardware.2 = p.hardware.2)
    (hnotice : p'.notice = p.notice) :
    Attentive mask now p' where
  reachable := hbus ▸ h.reachable
  fits := h.fits.keep hmask hbus
  responder := hbus ▸ h.responder
  on := hon.trans h.on
  clock := by rw [hnotes, h.clock]
  sending := by rw [hnotes, hbus, h.sending]
  receiving := by rw [hnotes, hbus, h.receiving]
  rx := by rw [hnotes, hbus, h.rx]
  notice := by rw [hnotes, hnotice, h.notice]
  waiting hi := by
    rw [hbus]
    exact h.waiting (hnotes ▸ hi)
  taken hi := by
    rw [hbus]
    exact h.taken (hnotes ▸ hi)

/-- What is done to the port may leave its bus alone. -/
private theorem seen_aside (h : Attentive mask now p) (hmask : mask p'.hardware.1 = mask p.hardware.1)
    (hbus : p'.bus = p.bus) (hon : p'.enabled = p.enabled) (hnotes : p'.hardware.2 = p.hardware.2)
    (hnotice : p'.notice = p.notice) :
    Attentive mask now' (p'.seen inquiring now') ∧ Meanwhile p (p'.seen inquiring now') := by
  have hafter := h.keep hmask hbus hon hnotes hnotice
  refine h.seen_meanwhile ?_ hafter.reachable hafter.fits hafter.responder hon hnotes
    (fun hnone => hnotice ▸ hnone) fun _ => ?_
  · rw [hbus]
    exact .of_eq rfl rfl rfl rfl rfl rfl
  · exact .inl (congrArg Bus.frame hbus)

private theorem seen (h : Attentive mask now p) (now' : Nat) :
    Attentive mask now' (p.seen inquiring now') ∧ Meanwhile p (p.seen inquiring now') :=
  h.seen_aside rfl rfl rfl rfl rfl

/-! ### What happens -/

/-- What an event does.  Slots may have been read before it. -/
private theorem raised (h : Attentive mask now p) (hlaw : hw.Masking mask) {event : BusEvent} {frame : List UInt8}
    (hbus : q.bus = { p.bus with frame }) (hheeds : Bus.Heeds p.bus now (q.bus.handle event now).2)
    (hframe : p.bus.Calm → frame = p.bus.frame ∨ Bus.Disturbs p.bus (q.bus.handle event now).2)
    (hreachable : q.bus.Reachable) (hfits : q.bare.Fits mask) (hon : q.enabled = p.enabled)
    (hnotes : q.hardware.2 = p.hardware.2) (hnotice : q.notice = p.notice) :
    Attentive mask now' ((q.raise (hw.watched inquiring) event now).seen inquiring now') ∧
      Meanwhile p ((q.raise (hw.watched inquiring) event now).seen inquiring now') := by
  have hafter : (q.raise (hw.watched inquiring) event now).bus = (q.bus.handle event now).2 := Port.bus_raise _ _
  refine h.seen_meanwhile ?_ ?_ ?_ ?_ ?_ ?_ (fun hnone => ?_) fun hcalm => ?_
  · rw [hafter]
    exact hheeds
  · rw [hafter]
    exact hreachable.handle event now
  · rw [Port.bare_raise]
    exact hfits.raise hlaw event now
  · rw [hafter, Bus.mode_handle, hbus]
    exact h.responder
  · rw [Port.enabled_raise]
    exact hon
  · rw [Port.notes_raise, Queries.hears_eq, hnotes]
  · rcases Port.notice_raise (hw.watched inquiring) q event now with hsame | ⟨m, timing, -, hsome⟩
    · rw [← hnotice, ← hsame, hnone]
    · rw [hsome] at hnone
      cases hnone
  · rw [hafter, Bus.frame_handle, hbus]
    rw [hbus] at hframe
    exact hframe hcalm

/-- An event that brings nothing in. -/
private theorem raised_of_bringsNothing (h : Attentive mask now p) (hlaw : hw.Masking mask) {event : BusEvent}
    (hevent : event.bringsNothing = true) (estimator : BreakEstimator) :
    Attentive mask now' ((Port.raise (hw.watched inquiring) event now { p with estimator }).seen inquiring now') ∧
      Meanwhile p ((Port.raise (hw.watched inquiring) event now { p with estimator }).seen inquiring now') :=
  h.raised (q := { p with estimator }) hlaw rfl (Bus.heeds_of_bringsNothing h.reachable.inStep hevent now)
    (fun _ => .inl rfl)
    h.reachable (h.fits.keep rfl rfl) rfl rfl rfl

private theorem receiveSlots (h : Attentive mask now p) (hlaw : hw.Masking mask) {pending : Interrupts}
    (hpending : pending.intersects .allRx = true → p.bus.receiving = true) :
    Attentive mask now ((p.receiveSlots (hw.watched inquiring) pending now).seen inquiring now) ∧
      Meanwhile p ((p.receiveSlots (hw.watched inquiring) pending now).seen inquiring now) := by
  have hfits : (p.drain (hw.watched inquiring)).2.bare.Fits mask :=
    h.fits.of_frame (Port.mask_drain (p := p.bare) hlaw) rfl
  -- Slots come in only while the receiver is on, and they disturb the calm.
  have hbrings (event : BusEvent) (hreceiving : p.bus.receiving = true) (hevent : event.bringsIn = true)
      (estimator : BreakEstimator) :
      Attentive mask now ((Port.raise (hw.watched inquiring) event now
          { (p.drain (hw.watched inquiring)).2 with estimator }).seen inquiring now) ∧
        Meanwhile p ((Port.raise (hw.watched inquiring) event now
          { (p.drain (hw.watched inquiring)).2 with estimator }).seen inquiring now) := by
    have hdrained : (p.drain (hw.watched inquiring)).2.bus.Reachable := h.reachable.fill _
    have hheeds := Bus.heeds_of_bringsIn hdrained.bounded hreceiving (h.fits.idle_of_receiving hreceiving) hevent now
    exact h.raised (q := { (p.drain (hw.watched inquiring)).2 with estimator }) hlaw rfl hheeds.of_frame
      (fun hcalm => .inr (Bus.disturbs_of_bringsIn hdrained.bounded hreceiving (hcalm.of_eq rfl rfl rfl rfl rfl)
        hevent now))
      hdrained (hfits.keep rfl rfl) rfl rfl rfl
  unfold Port.receiveSlots
  split
  · rename_i hfault
    exact hbrings (.lineFault _ _) (hpending (Interrupts.intersects_of_subset hfault rfl)) rfl _
  split
  · rename_i hdata
    dsimp only
    split
    · rename_i hnone
      refine h.seen_meanwhile ?_ (h.reachable.fill _) hfits h.responder rfl rfl id fun _ =>
        .inl (Port.frame_drain hnone)
      exact .of_eq rfl rfl rfl rfl rfl rfl
    · rename_i hsome
      exact hbrings (.received _) (hpending (Interrupts.intersects_of_subset hdata rfl))
        (decide_eq_true (Nat.pos_of_ne_zero hsome)) _
  · exact h.seen now

private theorem attend (h : Attentive mask (hw.clock p.hardware.1) p) (hlaw : hw.Masking mask) :
    ∃ now, Attentive mask now (p.attend hw inquiring) ∧ Meanwhile p (p.attend hw inquiring) := by
  cases hempty : (hw.interrupts p.hardware.1).isEmpty with
  | true =>
    have hsame : p.attend hw inquiring = p := if_pos hempty
    rw [hsame]
    exact ⟨_, h, .refl p⟩
  | false =>
    generalize hnow : hw.clock (hw.clear (hw.interrupts p.hardware.1) p.hardware.1) = now
    -- An interrupt of the receiver comes only while it is on.
    have hpending (hrx : (hw.interrupts p.hardware.1).intersects .allRx = true) : p.bus.receiving = true := by
      refine eq_true_of_ne_false fun hdeaf => ?_
      have hquiet : (hw.interrupts p.hardware.1).intersects .allRx = false :=
        hlaw.not_pending (h.fits.rx_of_deaf hdeaf) rfl
      rw [hquiet] at hrx
      cases hrx
    have hcleared : Attentive mask (hw.clock p.hardware.1)
        { p with hardware := (hw.clear (hw.interrupts p.hardware.1) p.hardware.1, p.hardware.2) } :=
      h.keep (hlaw.clear _ _) rfl rfl rfl rfl
    have hafter {q r : Port (η × Queries)} (hq : Meanwhile p q) (hr : Attentive mask now r ∧ Meanwhile q r) :
        Attentive mask now r ∧ Meanwhile p r := ⟨hr.1, hq.trans hr.2⟩
    refine ⟨now, Port.attend_rule_of_read
      (J := fun q => (Attentive mask now q ∧ Meanwhile p q) ∧
        ((hw.interrupts p.hardware.1).intersects .allRx = true → q.bus.receiving = true))
      (I := fun q => Attentive mask now q ∧ Meanwhile p q) rfl hnow (fun hnothing => ?_) ⟨?_, hpending⟩
      (fun q hq => ?_) (fun q event estimator hevent hq => ?_) fun q hq => ?_⟩
    · rw [hempty] at hnothing
      cases hnothing
    · refine hafter ?_ (hcleared.seen now)
      exact ⟨rfl, fun hi => ⟨_, hi, rfl, fun h => ⟨h, rfl⟩⟩⟩
    · exact hafter hq.1.2 (hq.1.1.receiveSlots hlaw hq.2)
    · have hnothing : event.bringsNothing = true := by cases event <;> first | rfl | cases hevent
      exact hafter hq.2 (hq.1.raised_of_bringsNothing hlaw hnothing estimator)
    · exact hafter hq.2 (hq.1.seen now)

end Attentive

/-- The port is left on and stays that of a responder, and the interrupt mask is left alone. -/
def Incident.Attends (mask : η → Interrupts) : Incident η → Prop
  | .goesOn change => ∀ h, mask (change h) = mask h
  | .setMode mode => mode ≠ .controller
  | .enable | .disable => False
  | _ => True

namespace Attentive

private theorem occur (h : Attentive mask (hw.clock p.hardware.1) p) (hlaw : hw.Masking mask) {i : Incident η}
    (hi : i.Attends mask) :
    Attentive mask (hw.clock (i.occur hw inquiring p).hardware.1) (i.occur hw inquiring p) ∧
      Meanwhile p (i.occur hw inquiring p) := by
  unfold Incident.occur
  cases i with
  | uart =>
    obtain ⟨now, hattended, hmeanwhile⟩ := h.attend hlaw
    have hseen := hattended.seen (hw.clock (p.attend hw inquiring).hardware.1)
    exact ⟨hseen.1, hmeanwhile.trans hseen.2⟩
  | alarm => exact h.raised_of_bringsNothing hlaw rfl p.estimator
  | edge level =>
    dsimp only [Incident.beside, Incident.happen]
    obtain ⟨meter, hedge | ⟨hbreak, hedge⟩⟩ := Port.onEdge_cases (hw.watched inquiring) p level <;> rw [hedge]
    · exact h.seen_aside rfl rfl rfl rfl rfl
    · have hrising : p.bus.handle .lineRising (hw.clock p.hardware.1) = ([], { p.bus with rx := .inMark }) :=
        congrArg (Prod.mk []) (if_pos hbreak)
      have hnothing : BusEvent.bringsNothing .lineRising = true := rfl
      have hheeds := Bus.heeds_of_bringsNothing h.reachable.inStep hnothing (hw.clock p.hardware.1)
      have hreachable := h.reachable.handle .lineRising (hw.clock p.hardware.1)
      rw [hrising] at hheeds hreachable
      exact h.seen_meanwhile hheeds hreachable (h.fits.of_eq rfl rfl rfl rfl rfl rfl rfl) h.responder rfl rfl id
        fun _ => .inl rfl
  | goesOn change =>
    exact h.seen_aside (hi _) rfl rfl rfl rfl
  | enable | disable => exact hi.elim
  | setMode mode =>
    dsimp only [Incident.beside, Incident.happen]
    rcases Port.setMode_cases (ε := ε) mode p with hmode | hmode <;> rw [hmode]
    · exact h.seen _
    · exact h.seen_meanwhile (.of_eq rfl rfl rfl rfl rfl rfl) (h.reachable.setMode mode)
        (h.fits.of_eq rfl rfl rfl rfl rfl rfl rfl) hi rfl rfl id fun _ => .inl rfl
  | setBaud baud =>
    dsimp only [Incident.beside, Incident.happen]
    obtain ⟨rate, hrate⟩ := Port.setBaud_frame (hw.watched inquiring) baud p
    rw [hrate]
    exact h.seen_aside (hlaw.setBaud _ _) rfl rfl rfl rfl
  | setBreak micros | setMark micros =>
    exact h.seen_meanwhile (.of_eq rfl rfl rfl rfl rfl rfl) (h.reachable.setTiming _)
      (h.fits.of_eq rfl rfl rfl rfl rfl rfl rfl)
      h.responder rfl rfl id fun _ => .inl rfl

/-! ### Calls -/

/-- The books that a task keeps and the buffer may be changed. -/
private theorem seen_books (h : Attentive mask now p) (hon : p'.enabled = p.enabled)
    (hhardware : p'.hardware = p.hardware) (hbus : ∃ frame, p'.bus = { p.bus with frame })
    (hreachable : p'.bus.Reachable) :
    Attentive mask now' (p'.seen inquiring now') := by
  obtain ⟨frame, hbus⟩ := hbus
  have hfits : p'.bare.Fits mask := h.fits.of_frame (congrArg (fun h => mask h.1) hhardware) hbus
  refine h.seen_of ?_ hreachable hfits ?_ hon (congrArg Prod.snd hhardware)
  · rw [hbus]
    exact .of_eq rfl rfl rfl rfl rfl rfl
  · rw [hbus]
    exact h.responder

private theorem listen (h : Attentive mask (hw.clock p.hardware.1) p) (hlaw : hw.Masking mask) :
    Attentive mask now' ((p.dispatch (hw.watched inquiring) .receiveRequested).2.seen inquiring now') := by
  unfold Port.dispatch
  refine h.seen_of ?_ ?_ ?_ ?_ (Port.enabled_dispatchAt _ _) ?_
  · rw [Port.bus_dispatchAt]
    exact Bus.heeds_of_bringsNothing h.reachable.inStep rfl _
  · rw [Port.bus_dispatchAt]
    exact h.reachable.handle _ _
  · rw [(Port.bare_dispatchAt _ _).2]
    exact h.fits.dispatchAt hlaw _ _
  · rw [Port.bus_dispatchAt, Bus.mode_handle]
    exact h.responder
  · rw [Port.notes_dispatchAt, Queries.hears_eq]

/-- A transmission begins only when no other one is under way, and then all requests are over. -/
private theorem seen_started (h : Attentive mask (hw.clock p.hardware.1) p) (hlaw : hw.Masking mask) {size : Nat}
    (hsize : size ≠ 0) (withBreak : Bool) :
    let started := (Session.startFrame (hw.watched inquiring) size withBreak p).2.seen inquiring now'
    Attentive mask now' started ∧ (p.bus.isSending = false →
      started.hardware.2.utterances = ⟨hw.clock p.hardware.1, p.hardware.2.taken⟩ :: p.hardware.2.utterances) := by
  generalize hp' : (Session.startFrame (hw.watched inquiring) size withBreak p).2 = p'
  obtain ⟨frame, hstamped, hreachable⟩ := Session.bus_stamp p size withBreak
  have hbus : p'.bus = ((Session.stamp p size withBreak).bus.startTransmit size
      (Frame.expectsResponse (p.bus.frame.take size)) withBreak (hw.space p.hardware.1)).2 := by
    rw [← hp', Session.bus_startFrame]
    rfl
  have hafter : p'.bus.Reachable := by
    rw [hbus]
    exact (hreachable h.reachable).handle (.startTransmit size _ withBreak _) 0
  have hfits : p'.bare.Fits mask := by
    rw [← hp', Port.bare_startFrame]
    exact h.fits.startFrame hlaw size withBreak
  have hmode : p'.bus.mode ≠ .controller := by
    rw [hbus, (Bus.frame_startTransmit _ _ _ _ _).2, hstamped]
    exact h.responder
  have hon : p'.enabled = p.enabled := by rw [← hp', Port.enabled_startFrame]
  have hnotes : p'.hardware.2 = p.hardware.2 := by rw [← hp', Port.notes_startFrame, Queries.hears_eq]
  cases hsends : p.bus.isSending with
  | true =>
    refine ⟨h.seen_of ?_ hafter hfits hmode hon hnotes, nofun⟩
    have hsame : p'.bus = { p.bus with frame } := by
      rw [hbus, hstamped, Bus.startTransmit_of_sending (b := { p.bus with frame }) hsends]
    rw [hsame]
    exact .of_eq rfl rfl rfl rfl rfl rfl
  | false =>
    have hstarts : p'.bus.isSending = true := by
      rw [hbus]
      exact Bus.isSending_startTransmit hsize
    obtain ⟨hwaiting, htaken, hutterances⟩ := h.notes_begun now' hsends hstarts hnotes
    refine ⟨⟨hafter, hfits, hmode, hon.trans h.on, rfl, rfl, rfl, rfl, rfl, fun hi => ?_, fun hi => ?_⟩,
      fun _ => hutterances⟩
    · rw [hwaiting] at hi
      cases hi
    · rw [htaken] at hi
      cases hi

/-- After a step of a task, others do something. -/
private theorem between_of_seen (h : Attentive mask (hw.clock p.hardware.1)
    (p.seen inquiring (hw.clock p.hardware.1)))
    (hlaw : hw.Masking mask) {e : Environment η Queries} (he : e.Only (Incident.Attends mask)) :
    Attentive mask (hw.clock ((e.world hw inquiring).between p).hardware.1) ((e.world hw inquiring).between p) ∧
      Meanwhile (p.seen inquiring (hw.clock p.hardware.1)) ((e.world hw inquiring).between p) := by
  refine he.between_of (I := fun q => Attentive mask (hw.clock q.hardware.1) q ∧ Meanwhile _ q)
    (fun i q hi hq => ?_) ⟨h, .refl _⟩
  obtain ⟨hafter, hmeanwhile⟩ := hq.1.occur hlaw hi
  exact ⟨hafter, hq.2.trans hmeanwhile⟩

/-- What tasks do and what others do keeps the port attentive. -/
private theorem keptByCalls (hlaw : hw.Masking mask) {e : Environment η Queries}
    (he : e.Only (Incident.Attends mask)) :
    Session.KeptByCalls (e.world hw inquiring) fun p => Attentive mask (hw.clock p.hardware.1) p := by
  have hoccur (i : Incident η) (p : Port (η × Queries)) (hi : i.Attends mask)
    (hp : Attentive mask (hw.clock p.hardware.1) p) :
      Attentive mask (hw.clock (i.occur hw inquiring p).hardware.1) (i.occur hw inquiring p) := (hp.occur hlaw hi).1
  have hothers : Session.KeptByOthers (e.world hw inquiring) fun p => Attentive mask (hw.clock p.hardware.1) p :=
    he.keptByOthers hoccur fun _ hp => (hp.seen _).1
  have hstep {p : Port (η × Queries)} (hp : Attentive mask (hw.clock p.hardware.1)
    (p.seen inquiring (hw.clock p.hardware.1))) :
      Attentive mask (hw.clock ((e.world hw inquiring).between p).hardware.1) ((e.world hw inquiring).between p) :=
    (hp.between_of_seen hlaw he).1
  exact {
    toKeptByOthers := hothers
    listen := fun hp _ => hstep ((hothers.between hp).listen hlaw)
    take := fun {p} hp => hstep (p := { p with notice := none }) (hp.seen_books rfl rfl ⟨_, rfl⟩ hp.reachable)
    answer := fun {p q n} hp _ _ _ hq => by
      have hq : Attentive mask (hw.clock q.hardware.1) q :=
        hq ▸ hstep (p := { p with notice := none }) (hp.seen_books rfl rfl ⟨_, rfl⟩ hp.reachable)
      exact hstep (hq.seen_books rfl rfl ⟨_, rfl⟩ hq.reachable)
    start := fun {p q size withBreak} hp hsize hready => by
      have hq := (Message.keeps_ready hothers size withBreak).of_runFrom hp hready
      exact hstep (hq.seen_started hlaw hsize withBreak).1
    write := fun start bytes hp _ => hstep (hp.seen_books rfl rfl ⟨_, rfl⟩ (hp.reachable.write start bytes))
    put := fun frame hp hsent => by
      have hq := (hothers.waitSent _).of_runFrom hp hsent
      exact hstep (hq.seen_books rfl rfl ⟨_, rfl⟩ (hq.reachable.write 0 frame))
    ticket := fun {p} hp => hstep (p := { p with tickets := p.tickets.take.2 })
      (hp.seen_books rfl rfl ⟨_, rfl⟩ hp.reachable) }

/-! ### Runs -/

private theorem run (h : Attentive mask (hw.clock p.hardware.1) p) (hlaw : hw.Masking mask)
    {acts : List (Act η Queries)} (hacts : ∀ act ∈ acts, act.Permitted (Incident.Attends mask) (Incident.Attends mask)
      fun _ => True) :
    Attentive mask (hw.clock (Act.run hw inquiring acts p).hardware.1) (Act.run hw inquiring acts p) := by
  refine Act.keeps (I := fun p => Attentive mask (hw.clock p.hardware.1) p) (fun i p hi hp => (hp.occur hlaw hi).1)
    (fun e c p he _ hp => ?_) hacts h
  refine (keptByCalls hlaw he).call c (fun _ q hq => ?_) hp
  exact he.between_of (I := fun p => Attentive mask (hw.clock p.hardware.1) p) (fun i p hi hp => (hp.occur hlaw hi).1)
    (hq.listen hlaw)

end Attentive

/-! ### Answers -/

/-- The message answers a request. -/
def Message.isAnswer : Message → Bool
  | .response _ | .here _ => true
  | _ => false

private theorem Message.isReply_of_isAnswer {m : Message} (h : m.isAnswer = true) :
    (m.frame 0).length ≠ 0 ∧ (m.frame 0).length ≤ maxFrameSize ∧ Session.isReply (m.frame 0) m.withBreak = true := by
  cases m with
  | response r =>
    refine ⟨?_, Nat.le_trans (Package.response r).length_frame_le (by decide), Package.isResponse_response r⟩
    show (Package.response r).frame.length ≠ 0
    rw [Package.length_frame, minPackageSize]
    omega
  | here uid => exact ⟨Nat.succ_ne_zero _, (by decide : 24 ≤ maxFrameSize), rfl⟩
  | ask | probe | slots => cases h

private theorem Session.runFrom_onPort_bind_of_ok {a : Session η ε α} {f : α → Session.Linked η ε β}
    {p q : Port η} {x : α} (h : a.runFrom p = (.ok x, q)) : (Session.onPort a >>= f).runFrom p = (f x).runFrom q := by
  rw [Run.runFrom_bind]
  unfold Session.onPort
  rw [Run.runFrom_mapError, h]
  rfl

/-- An answer is put into the buffer as soon as nothing is sent, and begins when the bus may be used. -/
private theorem Message.call_of_isAnswer {w : World η ε} {m : Message} (h : m.isAnswer = true) : m.call w = (do
    Session.onPort (Session.waitSent w maxPacketMicros)
    Session.onPort (Session.put w (m.frame 0))
    Session.onPort (Session.ready w (m.frame 0).length m.withBreak)
    Session.onPort (Session.dispatch w (Session.startFrame w.hardware (m.frame 0).length m.withBreak))
    Session.onPort (Session.waitSent w maxPacketMicros)) := by
  rw [Message.call_eq_rest]
  cases m with
  | response r | here uid =>
    unfold beforeLoad beforeStart inspect rest
    simp only [Session.onPort_bind, Session.onPort_pure, bind_assoc, pure_bind]
    rfl
  | ask | probe | slots => cases h

/-- As soon as nothing is sent, a task on a port that is on waits until its frame may be sent, or is told that it is
too late. -/
private theorem Session.runFrom_ready {w : World η ε} {p q : Port η} {size : Nat} {withBreak : Bool}
    (hsize : size ≤ maxFrameSize) (hon : p.enabled = true)
    (hsent : (waitSent w maxPacketMicros).runFrom (w.between p) = (.ok (), q)) :
    (ready w size withBreak).runFrom p =
      match sendTime w.hardware q (q.bus.frame.take size) withBreak with
      | .ok time => (waitUntil w time).runFrom (w.between q)
      | .error error => (.error error, w.between q) := by
  have hlooked : (isEnabled w).runFrom p = (.ok true, w.between p) := by
    show (Except.ok p.enabled, w.between p) = _
    rw [hon]
  have hattempt : (attempt w fun q => (sendTime w.hardware q (q.bus.frame.take size) withBreak, q)).runFrom q =
      (sendTime w.hardware q (q.bus.frame.take size) withBreak, w.between q) := rfl
  unfold ready
  dsimp only
  rw [if_neg (Nat.not_lt.2 hsize), runFrom_bind_of_ok hlooked, if_neg (by simp), runFrom_bind_of_ok hsent,
    Run.runFrom_bind, hattempt]
  cases sendTime w.hardware q (q.bus.frame.take size) withBreak with
  | error | ok => rfl

namespace Attentive

variable {e : Environment η Queries} {i : Query} {size : Nat} {withBreak : Bool}

/-- As long as nothing comes in, the window is that of the request. -/
private theorem sendTime_of_undisturbed (h : Attentive mask now p) (hi : p.hardware.2.taken = some i)
    (hundisturbed : i.disturbed = false) {frame : List UInt8} (hreply : Session.isReply frame withBreak = true) :
    Session.sendTime (hw.watched inquiring) p frame withBreak =
      if 2000 < hw.clock p.hardware.1 - i.time then .error .tooLateToRespond else .ok (i.time + 176) := by
  unfold Session.sendTime
  rw [if_pos ⟨hreply, h.responder⟩, ((h.taken hi).2 hundisturbed).2]
  rfl

private theorem keptByOthers (hlaw : hw.Masking mask) (he : e.Only (Incident.Attends mask)) (l : Port (η × Queries)) :
    Session.KeptByOthers (e.world hw inquiring) fun p => Attentive mask (hw.clock p.hardware.1) p ∧
    Meanwhile l p := by
  refine he.keptByOthers (fun i p hi hp => ?_) fun p hp => ?_
  · obtain ⟨hafter, hmeanwhile⟩ := hp.1.occur hlaw hi
    exact ⟨hafter, hp.2.trans hmeanwhile⟩
  · obtain ⟨hafter, hmeanwhile⟩ := hp.1.seen (hw.clock p.hardware.1)
    exact ⟨hafter, hp.2.trans hmeanwhile⟩

/-- While a request is open, nothing is sent. -/
private theorem idle_of_taken (h : Attentive mask now p) (hmeanwhile : Meanwhile q p)
    (hi : q.hardware.2.taken = some i) :
    p.bus.isSending = false := by
  obtain ⟨j, hj, -⟩ := hmeanwhile.taken hi
  exact (h.taken hj).1

/-- What a task that is to answer has found when it has waited for the bus: it is in time, or too late. -/
structure Waited (mask : η → Interrupts) (hw : Hardware η ε) (l : Port (η × Queries)) (i : Query)
    (outcome : Except (PortError ε) Unit) (q : Port (η × Queries)) : Prop where
  attentive : Attentive mask (hw.clock q.hardware.1) q
  meanwhile : Meanwhile l q
  window : ∃ j, q.hardware.2.taken = some j ∧ j.time = i.time ∧
    (outcome = .ok () ∧
        (j.disturbed = false → i.time + 176 ≤ hw.clock q.hardware.1 ∧ hw.clock q.hardware.1 ≤ i.time + 2000) ∨
      outcome = .error .tooLateToRespond ∧ (j.disturbed = false → i.time + 2000 < hw.clock q.hardware.1))

private theorem waited_ready {l : Port (η × Queries)} (h : Attentive mask (hw.clock r.hardware.1) r)
    (hl : Meanwhile l r) (hlaw : hw.Masking mask) (he : e.Only (Incident.Attends mask))
    (hpaced : (e.world hw inquiring).Paced) (hi : l.hardware.2.taken = some i) (hsize : size ≤ maxFrameSize)
    (hreply : Session.isReply (l.bus.frame.take size) withBreak = true) :
    ∃ outcome q, (Session.ready (e.world hw inquiring) size withBreak).runFrom r = (outcome, q) ∧
      Waited mask hw l i outcome q := by
  generalize hw' : e.world hw inquiring = w at *
  have hhardware : w.hardware = hw.watched inquiring := by rw [← hw']; rfl
  have hothers (l : Port (η × Queries)) := hw' ▸ keptByOthers hlaw he l
  -- The task finds the port on, and nothing is being sent.
  obtain ⟨p, hsent, hp⟩ := (hothers l).runFrom_waitSent (fun p hp => hp.1.idle_of_taken hp.2 hi)
    ((hothers l).between ⟨h, hl⟩) maxPacketMicros
  obtain ⟨j, hj, htime, hframe⟩ := hp.2.taken hi
  have hnext := (hothers p).between ⟨hp.1, .refl p⟩
  have hstill : hw.clock (w.between p).hardware.1 = hw.clock p.hardware.1 := by
    have hbetween := hpaced.between p
    rw [hhardware] at hbetween
    exact hbetween
  rw [Session.runFrom_ready hsize h.on hsent, hhardware]
  have htold (hundisturbed : j.disturbed = false) :
      Session.sendTime (hw.watched inquiring) p (p.bus.frame.take size) withBreak =
        if 2000 < hw.clock p.hardware.1 - i.time then .error .tooLateToRespond else .ok (i.time + 176) := by
    rw [hp.1.sendTime_of_undisturbed hj hundisturbed (by rw [(hframe hundisturbed).2]; exact hreply), htime]
  cases htold' : Session.sendTime (hw.watched inquiring) p (p.bus.frame.take size) withBreak with
  | error error =>
    rw [htold'] at htold
    obtain rfl := Session.sendTime_error htold'
    refine ⟨_, _, rfl, hnext.1, hp.2.trans hnext.2, ?_⟩
    obtain ⟨k, hk, htime', hframe'⟩ := hnext.2.taken hj
    refine ⟨k, hk, htime'.trans htime, .inr ⟨rfl, fun hundisturbed => ?_⟩⟩
    have hlate := htold (hframe' hundisturbed).1
    rw [hstill]
    split at hlate
    · omega
    · cases hlate
  | ok time =>
    rw [htold'] at htold
    dsimp only
    obtain ⟨q, hwait, hq, hcome, hclock⟩ :=
      (hothers p).runFrom_waitUntil hpaced (fun p hp => hp.1.idle_of_taken hp.2 hj)
      hnext time
    rw [hhardware] at hcome hclock
    refine ⟨_, _, hwait, hq.1, hp.2.trans hq.2, ?_⟩
    obtain ⟨k, hk, htime', hframe'⟩ := hq.2.taken hj
    refine ⟨k, hk, htime'.trans htime, .inl ⟨rfl, fun hundisturbed => ?_⟩⟩
    have hsoon := htold (hframe' hundisturbed).1
    have hcome : time ≤ hw.clock q.hardware.1 := hcome
    have hclock : hw.clock q.hardware.1 = hw.clock (w.between p).hardware.1 ∨ hw.clock q.hardware.1 < time + 100 :=
      hclock
    rw [hstill] at hclock
    split at hsoon
    · cases hsoon
    · obtain rfl := Except.ok.inj hsoon
      omega

/-- A task puts a frame into the buffer. -/
private theorem seen_put (h : Attentive mask now p) {frame : List UInt8} (hsize : frame.length ≤ maxFrameSize)
    (now' : Nat) :
    let put := ({ p with bus := p.bus.write 0 frame } : Port (η × Queries)).seen inquiring now'
    Attentive mask now' put ∧ put.bus.frame.take frame.length = frame ∧
      put.hardware.2.utterances = p.hardware.2.utterances ∧
        (p.hardware.2.taken = some i → ∃ j, put.hardware.2.taken = some j ∧ j.time = i.time) := by
  have hwritten : (overwrite p.bus.frame 0 frame).take frame.length = frame := by
    have hfits : 0 + frame.length ≤ p.bus.frame.length := by
      rw [h.reachable.bounded.frame]
      omega
    have htaken := take_overwrite hfits
    rwa [Nat.zero_add] at htaken
  let put : Port (η × Queries) := { p with bus := p.bus.write 0 frame }
  obtain ⟨-, htaken, hutterances⟩ := @notes_seen _ _ _ put _ h now' id rfl
  have hleft : (p.notice.isSome && p.notice.isNone) = false := by cases p.notice <;> rfl
  rw [hleft, if_neg Bool.false_ne_true] at htaken
  refine ⟨h.seen_books rfl rfl ⟨_, rfl⟩ (h.reachable.write 0 frame), hwritten, hutterances, fun hi =>
    ⟨i.goOn (disturbs p { p with bus := p.bus.write 0 frame }), ?_, rfl⟩⟩
  rw [htaken, hi]
  rfl

end Attentive

/-- From the port `before` on, a task has begun to answer the request in its window, or it was told that it is too
late, and has sent nothing.  The window is known for a request that was not disturbed. -/
def Query.Settled (hw : Hardware η ε) (i : Query) (before : Port (η × Queries))
    (result : Except (LinkError (PortError ε)) Unit × Port (η × Queries)) : Prop :=
  (∃ begun j, result.2.hardware.2.utterances = ⟨begun, some j⟩ :: before.hardware.2.utterances ∧ j.time = i.time ∧
    (j.disturbed = false → i.time + 176 ≤ begun ∧ begun ≤ i.time + 2000)) ∨
  result.1 = .error (.driver .tooLateToRespond) ∧ result.2.hardware.2.utterances = before.hardware.2.utterances ∧
    ∃ j, result.2.hardware.2.taken = some j ∧ j.time = i.time ∧
      (j.disturbed = false → i.time + 2000 < hw.clock result.2.hardware.1)

namespace Attentive

variable {e : Environment η Queries} {i : Query}

/-- A transmission begins at the port `q`, and no other one until the task has finished. -/
private theorem utterances_started (h : Attentive mask (hw.clock q.hardware.1) q) (hlaw : hw.Masking mask)
    (he : e.Only (Incident.Attends mask)) (hidle : q.bus.isSending = false) {size : Nat} (hsize : size ≠ 0)
    (withBreak : Bool) (timeout : Nat) :
    let w := e.world hw inquiring
    ((do
      Session.onPort (Session.dispatch w (Session.startFrame w.hardware size withBreak))
      Session.onPort (Session.waitSent w timeout) : Session.Linked (η × Queries) ε Unit).after
        q).hardware.2.utterances =
        ⟨hw.clock q.hardware.1, q.hardware.2.taken⟩ :: q.hardware.2.utterances := by
  intro w
  let p' := (Session.startFrame (hw.watched inquiring) size withBreak q).2
  obtain ⟨hstarted, hbegun⟩ :
      Attentive mask (hw.clock p'.hardware.1) (p'.seen inquiring (hw.clock p'.hardware.1)) ∧ _ :=
    h.seen_started hlaw hsize withBreak
  have hnext := hstarted.between_of_seen hlaw he
  have hdispatch : (Session.onPort (Session.dispatch w (Session.startFrame w.hardware size withBreak))).runFrom q =
      ((Session.startFrame w.hardware size withBreak q).1.result.mapError .driver, w.between p') := by
    unfold Session.onPort
    rw [Run.runFrom_mapError, Session.runFrom_dispatch (Session.isSending_startFrame _ _ hsize _).1]
    rfl
  rw [← hbegun hidle]
  refine Meanwhile.utterances ?_
  unfold Run.after
  rw [Run.runFrom_bind, hdispatch]
  cases (Session.startFrame w.hardware size withBreak q).1.result with
  | error error => exact hnext.2
  | ok _ =>
    have hwaits := (keptByOthers hlaw he (p'.seen inquiring (hw.clock p'.hardware.1))).waitSent timeout
    exact (Session.KeptByReceiving.keeps_onPort hwaits _ hnext).2

/-- A task answers a request that it has taken. -/
private theorem settled (h : Attentive mask (hw.clock p.hardware.1) p) (hlaw : hw.Masking mask)
    (he : e.Only (Incident.Attends mask)) (hpaced : (e.world hw inquiring).Paced) {m : Message}
    (hm : m.isAnswer = true) (hi : p.hardware.2.taken = some i) :
    i.Settled hw p ((m.call (e.world hw inquiring)).runFrom p) := by
  obtain ⟨hsize, hfits, hreply⟩ := Message.isReply_of_isAnswer hm
  -- The frame is put into the buffer.
  obtain ⟨q, hsent, hq⟩ := (keptByOthers hlaw he p).runFrom_waitSent (fun r hr => hr.1.idle_of_taken hr.2 hi)
    ⟨h, .refl p⟩
    maxPacketMicros
  obtain ⟨j, hj, htime, -⟩ := hq.2.taken hi
  obtain ⟨hput, hbuffer, hutterances, htaken⟩ := hq.1.seen_put (i := j) hfits (hw.clock q.hardware.1)
  obtain ⟨k, hk, htime'⟩ := htaken hj
  have hr := between_of_seen (p := { q with bus := q.bus.write 0 (m.frame 0) }) hput hlaw he
  -- Then the task waits for the bus.
  obtain ⟨outcome, r, hready, hwaited⟩ := waited_ready hr.1 hr.2 hlaw he hpaced hk hfits (hbuffer.symm ▸ hreply)
  have hsame : r.hardware.2.utterances = p.hardware.2.utterances :=
    hwaited.meanwhile.utterances.trans (hutterances.trans hq.2.utterances)
  have hidle := hwaited.attentive.idle_of_taken hwaited.meanwhile hk
  obtain ⟨last, hlast, hlastTime, hoks⟩ := hwaited.window
  have htimes : last.time = i.time := hlastTime.trans (htime'.trans htime)
  have hwritten : (Session.put (e.world hw inquiring) (m.frame 0)).runFrom q =
      (.ok (), (e.world hw inquiring).between { q with bus := q.bus.write 0 (m.frame 0) }) := rfl
  rw [Message.call_of_isAnswer hm, Session.runFrom_onPort_bind_of_ok hsent,
    Session.runFrom_onPort_bind_of_ok hwritten]
  rcases hoks with ⟨rfl, hwindow⟩ | ⟨rfl, hlate⟩
  · refine .inl ⟨hw.clock r.hardware.1, last, ?_, htimes, fun hundisturbed => ?_⟩
    · rw [Session.runFrom_onPort_bind_of_ok hready, ← hsame, ← hlast]
      exact hwaited.attentive.utterances_started hlaw he hidle hsize m.withBreak maxPacketMicros
    · rw [← htimes, hlastTime]
      exact hwindow hundisturbed
  · refine .inr ?_
    rw [Run.runFrom_bind]
    unfold Session.onPort
    rw [Run.runFrom_mapError, hready]
    refine ⟨rfl, hsame, last, hlast, htimes, fun hundisturbed => ?_⟩
    rw [← htimes, hlastTime]
    exact hlate hundisturbed

private theorem run_installed (hlaw : hw.Masking mask) {config : PortConfig} {hardware : η} {p : Port η}
    (hinstalled : Port.install hw config hardware = .ok p) (hmode : config.mode ≠ .controller)
    (hon : ((Port.enable hw).runFrom p).2.enabled = true) {acts : List (Act η Queries)}
    (hacts : ∀ act ∈ acts, act.Permitted (Incident.Attends mask) (Incident.Attends mask) fun _ => True) :
    let on := ((Port.enable hw).runFrom p).2
    let before := Act.run hw inquiring acts (on.watched (.first hw on))
    Attentive mask (hw.clock before.hardware.1) before := by
  intro on before
  have hreachable := Port.reachable_install hinstalled
  have hfits : on.Fits mask := by
    refine (Port.Fits.install hlaw hinstalled).enable hlaw fun _ => ?_
    obtain ⟨-, -, mode, timing, hnew⟩ := Port.new_of_install hinstalled
    rw [hnew]
    rfl
  have hresponder : on.bus.mode ≠ .controller := by
    rw [Port.mode_enable, Port.mode_of_install hinstalled]
    exact hmode
  have hfirst : Attentive mask (hw.clock on.hardware) (on.watched (Queries.first hw on)) :=
    ⟨Port.reachable_enable hreachable, hfits, hresponder, hon, rfl, rfl, rfl, rfl, rfl, nofun, nofun⟩
  exact run (p := on.watched (.first hw on)) hfirst hlaw hacts

end Attentive

/-- In every run of a responder whose port is on, a task that answers the request that it has taken begins between 176
and 2000 microseconds after its last slot, or it is told that it is too late and sends nothing.  This holds for all
requests after which nothing has come in. -/
theorem Port.answer_in_window (hlaw : hw.Masking mask) {config : PortConfig} {hardware : η} {p : Port η}
    (hinstalled : install hw config hardware = .ok p) (hmode : config.mode ≠ .controller)
    (hon : ((enable hw).runFrom p).2.enabled = true) {acts : List (Act η Queries)}
    (hacts : ∀ act ∈ acts, act.Permitted (Incident.Attends mask) (Incident.Attends mask) fun _ => True)
    {e : Environment η Queries} (he : e.Only (Incident.Attends mask)) (hpaced : (e.world hw inquiring).Paced)
    {m : Message} (hm : m.isAnswer = true) :
    let on := ((enable hw).runFrom p).2
    let before := Act.run hw inquiring acts (on.watched (.first hw on))
    ∀ i, before.hardware.2.taken = some i → i.Settled hw before ((m.call (e.world hw inquiring)).runFrom before) :=
  fun _ hi => (Attentive.run_installed hlaw hinstalled hmode hon hacts).settled hlaw he hpaced hm hi

/-! ### On a bench -/

open Simulation

/-- After so many microseconds, bytes have come in and interrupts are pending. -/
def coming (micros : Nat) (received : List UInt8) (pending : Interrupts) : Incident Bench :=
  .goesOn fun b => { b with time := b.time + micros, rxFifo := received, pending }

/-- Transmissions go out while the task pauses. -/
def outgoing : Environment Bench Queries :=
  ⟨fun _ => [], fun p => if p.bus.isSending then [coming 50 [] .allTx, .alarm, .uart] else [coming 50 [] .none]⟩

private theorem only_outgoing : outgoing.Only (Incident.Attends Bench.enabled) := by
  constructor
  · simp [outgoing]
  · intro p
    simp only [outgoing]
    split <;> simp [coming, Incident.Attends]

private theorem paced_outgoing : (outgoing.world Bench.hardware inquiring).Paced where
  between _ := rfl
  pause p hidle := by
    have hpause : (outgoing.world Bench.hardware inquiring).pause p = (coming 50 [] .none).occur Bench.hardware
        inquiring p := by
      unfold outgoing Environment.world
      dsimp only
      rw [hidle]
      rfl
    rw [hpause]
    show p.hardware.1.time < p.hardware.1.time + 50 ∧ p.hardware.1.time + 50 < p.hardware.1.time + 100
    omega

/-- A request to a device. -/
def inquiry (uid : Uid) : Request := { Message.wholeProbe with destination := .device uid, commandClass := .get }

/-- A request to the device comes in, so many microseconds after its break. -/
def inquired (uid : Uid) (micros : Nat) : List (Incident Bench) :=
  [coming micros [] .rxBreak, .uart, coming micros (Package.request (inquiry uid)).frame .rxData, .uart]

/-- What the device answers. -/
def inquiryAnswer : Message := .response ((inquiry ⟨1, 2⟩).reply ⟨1, 2⟩ .ack .empty 0)

/-- The request comes in while the task waits for it. -/
def ingoing : Environment Bench Queries :=
  ⟨fun _ => [], fun p => if p.bus.rx = .idle then (inquired ⟨1, 2⟩ 50).take 2 else (inquired ⟨1, 2⟩ 50).drop 2⟩

private theorem only_ingoing : ingoing.Only (Incident.Attends Bench.enabled) := by
  constructor
  · simp [ingoing]
  · intro p
    simp only [ingoing, inquired]
    split <;> simp [coming, Incident.Attends]

/-- A port that answers what goes to its device. -/
def answeringConfig : PortConfig := { PortConfig.standard with mode := .responder ⟨1, 2⟩ }

theorem Port.answer_in_window_inquiry : ∃ p, install Bench.hardware answeringConfig (.new 128 []) = .ok p ∧
    let on := ((enable Bench.hardware).runFrom p).2
    let acts : List (Act Bench Queries) := [.call ingoing (.receive 1000)]
    let before := Act.run Bench.hardware inquiring acts (on.watched (.first Bench.hardware on))
    let result := (inquiryAnswer.call (outgoing.world Bench.hardware inquiring)).runFrom before
    before.hardware.2.taken = some ⟨100, false⟩ ∧ result.2.hardware.2.utterances = [⟨300, some ⟨100, false⟩⟩] ∧
      Query.Settled Bench.hardware ⟨100, false⟩ before result := by
  have hpermitted : ∀ act ∈ ([.call ingoing (.receive 1000)] : List (Act Bench Queries)),
      act.Permitted (Incident.Attends Bench.enabled) (Incident.Attends Bench.enabled) fun _ => True := by
    simp [Act.Permitted, only_ingoing]
  have hsettled {p : Port Bench} (hp : install Bench.hardware answeringConfig (.new 128 []) = .ok p)
      (hon : ((enable Bench.hardware).runFrom p).2.enabled = true) :=
    answer_in_window Bench.masking hp nofun hon hpermitted only_outgoing paced_outgoing (m := inquiryAnswer) rfl
  exact ⟨_, rfl, by decide +kernel, by decide +kernel, hsettled rfl (by decide +kernel) _ (by decide +kernel)⟩

/-- A responder answers 3400 microseconds after the request.  The request was complete when the task began to receive,
and a request to another device has come in since. -/
theorem Port.answer_after_window : ∃ p, install Bench.hardware answeringConfig (.new 128 []) = .ok p ∧
    let on := ((enable Bench.hardware).runFrom p).2
    let acts : List (Act Bench Queries) :=
      (inquired ⟨1, 2⟩ 50).map .incident ++ [.call outgoing (.receive 1000)] ++ (inquired ⟨1, 3⟩ 850).map .incident ++
        [.incident (coming 1700 [] .none)]
    let before := Act.run Bench.hardware inquiring acts (on.watched (.first Bench.hardware on))
    let result := (inquiryAnswer.call (outgoing.world Bench.hardware inquiring)).runFrom before
    before.hardware.2.taken = some ⟨100, true⟩ ∧ result.1.isOk = true ∧
      result.2.hardware.2.utterances = [⟨3500, some ⟨100, true⟩⟩] :=
  ⟨_, rfl, by decide +kernel, by decide +kernel, by decide +kernel⟩

end LightBus
