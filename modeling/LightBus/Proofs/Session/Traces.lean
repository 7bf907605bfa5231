import LightBus.Proofs.Bus.Listening
import LightBus.Proofs.Session.Surroundings

/-!
# What is left of the slots that come in

From the beginning of a request on, what comes in leaves a trace (`Port.Expects`), until a break makes the cursor
begin anew.  While a task waits, the trace is the cursor or the notice that waits (`Awake`).  When its time is over,
the task looks at the cursor only, and a fault that comes at this moment goes unnoticed (`Overdue`).  Whatever else
others do keeps the traces (`Awake.occur`, `Overdue.occur`).
-/

namespace LightBus

variable {η ε α : Type} {hw : Hardware η ε}

/-! ### What shows that something was received -/

/-- The notice tells that something was received. -/
def Noticed (notice : Option Notice) : Prop := ∃ n, notice = some n ∧ n.origin = .receive ∧ n.status ≠ .timeout

/-- Whether a reception was told, and whether one has turned the bus around, can be seen from the notice that waits.
A reception that was told goes on being told with the next one.  A `faulty` one is told by its notice. -/
structure Signs (faulty : Prop) (told turned : Option Notice → Prop) : Prop where
  kept {old new : Option Notice} (hnew : Noticed new) (h : told old) : told new
  turned {new : Option Notice} (hnew : Noticed new) : turned new
  faulty {new : Option Notice} (hnew : Noticed new) (h : faulty) : told new

private theorem signs_noticed (faulty : Prop) : Signs faulty Noticed Noticed :=
  ⟨fun hnew _ => hnew, id, fun hnew _ => hnew⟩

private theorem signs_counted {faulty counted : Prop} (h : faulty → counted) :
    Signs faulty (fun _ => counted) fun _ => True :=
  ⟨fun _ => id, fun _ => trivial, fun _ => h⟩

namespace Port

variable {p : Port η} {faulty heard heard' : Prop} {told turned : Option Notice → Prop} {now : Nat}

/-- A request is being sent, or the port listens after it. -/
def Expects (told turned : Option Notice → Prop) (heard : Prop) (p : Port η) : Prop :=
  p.bus.Reachable ∧ p.bus.Expects heard (told p.notice) (turned p.notice)

/-- What a step of the receiver tells is noticed, or else the notice stays. -/
private theorem noticed_raise (hw : Hardware η ε) {event : BusEvent}
    (hreceived : ∃ ended around, Bus.Received p.bus ended around (p.bus.handle event now))
    (hreports : Bus.Reports p.bus (p.bus.handle event now)) :
    Noticed (p.raise hw event now).notice ∨
      (p.raise hw event now).notice = p.notice ∧ ¬∃ n, .notify n ∈ (p.bus.handle event now).1 := by
  obtain ⟨_, _, hreceived⟩ := hreceived
  by_cases htold : ∃ n, .notify n ∈ (p.bus.handle event now).1
  · obtain ⟨n, hn⟩ := htold
    obtain ⟨m, timing, hm, hnew⟩ := notice_raise_of_notify hw hn
    exact .inl ⟨_, hnew, hreceived.origin m hm, hreports.status m hm⟩
  · refine .inr ⟨?_, htold⟩
    rcases notice_raise hw p event now with hold | ⟨m, _, hm, -⟩
    · exact hold
    · exact absurd ⟨m, hm⟩ htold

namespace Expects

theorem mono {told' turned' : Option Notice → Prop} (h : p.Expects told turned heard) (hheard : heard' → heard)
    (htold : ∀ n, told n → told' n) (hturned : ∀ n, turned n → turned' n) : p.Expects told' turned' heard' :=
  ⟨h.1, h.2.mono hheard (htold _) (hturned _)⟩

private theorem of_heard (h : p.Expects told turned heard) (hheard : heard' → heard) : p.Expects told turned heard' :=
  h.mono hheard (fun _ => id) fun _ => id

private theorem drain (h : p.Expects told turned heard) : (p.drain hw).2.Expects told turned heard :=
  ⟨h.1.fill _, h.2.fill _⟩

private theorem estimate (h : p.Expects told turned heard) (estimator : BreakEstimator) :
    Port.Expects told turned heard { p with estimator } := h

/-- The bus expects an answer after an event, if it does so with the notice that then waits. -/
private theorem raise (h : p.Expects told turned heard) (event : BusEvent)
    (hbus : (p.bus.handle event now).2.Expects heard' (told (p.raise hw event now).notice)
      (turned (p.raise hw event now).notice)) :
    (p.raise hw event now).Expects told turned heard' := by
  unfold Port.Expects
  rw [bus_raise]
  exact ⟨h.1.handle event now, hbus⟩

/-- An event of the receiver. -/
private theorem receive (h : p.Expects told turned heard) (hs : Signs faulty told turned) {event : BusEvent}
    (hreceived : ∃ ended around, Bus.Received p.bus ended around (p.bus.handle event now))
    (hreports : Bus.Reports p.bus (p.bus.handle event now)) (hheard : p.bus.isSending = true → heard' → heard)
    (hlistens : ∀ {told' turned' : Prop}, p.bus.Listens heard (told p.notice) (turned p.notice) →
      (told p.notice → told') → (turned p.notice → turned') →
      ((∃ n, .notify n ∈ (p.bus.handle event now).1) → (faulty → told') ∧ turned') →
      (p.bus.handle event now).2.Listens heard' told' turned') :
    (p.raise hw event now).Expects told turned heard' := by
  refine h.raise event (h.2.received hreceived hheard fun h => ?_)
  rcases noticed_raise hw hreceived hreports with hnoticed | ⟨hsame, hquiet⟩
  · exact hlistens h (hs.kept hnoticed) (fun _ => hs.turned hnoticed) fun _ =>
      ⟨hs.faulty hnoticed, hs.turned hnoticed⟩
  · rw [hsame]
    exact hlistens h id id fun htold => absurd htold hquiet

private theorem received (h : p.Expects told turned heard) (hs : Signs faulty told turned) {count : Nat}
    (hcount : 0 < count) (hheard : p.bus.isSending = true → heard' → heard) :
    (p.raise hw (.received count) now).Expects told turned heard' :=
  h.receive hs (Bus.received_onReceived count now) (Bus.reports_onReceived count now) hheard
    fun hlistens htold hturned hnew =>
      hlistens.onReceived h.1.bounded hcount now heard' htold hturned fun hn => (hnew hn).2

private theorem lineFault (h : p.Expects told turned heard) (hs : Signs faulty told turned) (hfaulty : faulty)
    (fault : LineFault) (count : Nat) (hheard : p.bus.isSending = true → heard' → heard) :
    (p.raise hw (.lineFault fault count) now).Expects told turned heard' :=
  h.receive hs (Bus.received_onLineFault fault count now) (Bus.reports_onLineFault fault count now) hheard
    fun hlistens htold hturned hnew =>
      hlistens.onLineFault fault count now heard' htold hturned fun hn => ⟨(hnew hn).1 hfaulty, (hnew hn).2⟩

private theorem collision (h : p.Expects told turned heard) (hs : Signs faulty told turned) (hfaulty : faulty) :
    (p.raise hw .collision now).Expects told turned heard :=
  h.receive hs (Bus.received_onCollision now) (Bus.reports_onCollision now) (fun _ => id)
    fun hlistens htold hturned hnew => hlistens.onCollision now htold hturned fun hn =>
      ⟨(hnew hn).1 hfaulty, (hnew hn).2⟩

/-- If nothing has been heard, a break cannot make it forgotten. -/
private theorem onBreak (h : p.Expects told turned heard) (hs : Signs faulty told turned) (hheard : ¬heard) :
    (p.raise hw .break now).Expects told turned heard :=
  h.receive hs Bus.received_onBreak (Bus.reports_of_quiet rfl (.inr rfl)) (fun _ => id)
    fun hlistens htold hturned _ => (hlistens.mono id htold hturned).onBreak.mono hheard id id

/-- The transmitter only ends the request. -/
private theorem sender (h : p.Expects told turned heard) {event : BusEvent}
    (hevent : event = .txDone ∨ ∃ space, event = .txReady space) :
    (p.raise hw event now).Expects told turned heard := by
  rcases h.2 with ⟨hsending, hheard⟩ | hlistens
  · exact h.raise event ((Bus.expects_handle_sender hsending hevent now _ _).mono hheard id id)
  · rw [raise_of_nothing (hlistens.handle_sender hevent now)]
    exact h

private theorem lineRising (h : p.Expects told turned heard) :
    (p.raise hw .lineRising now).Expects told turned heard :=
  ⟨h.1.handle .lineRising now,
    h.2.received (Bus.received_lineRising now) (fun _ => id) fun hlistens => hlistens.lineRising now⟩

/-! ### Interrupts -/

/-- What is heard must be read, and not while the request is being sent. -/
private theorem receiveSlots (h : p.Expects told turned heard) (hs : Signs faulty told turned) {pending : Interrupts}
    (hfaulty : pending.intersects (.union .rxFraming .rxOverflow) = true → faulty)
    (hheard : p.bus.isSending = true ∨ (if pending.intersects (.union .rxFraming .rxOverflow) ||
      pending.intersects .rxData then (p.drain hw).1 else 0) = 0 → heard' → heard) :
    (p.receiveSlots hw pending now).Expects told turned heard' := by
  unfold Port.receiveSlots
  split
  · rename_i hfault
    exact h.drain.lineFault hs (hfaulty hfault) _ _ fun hsending => hheard (.inl hsending)
  split
  · rename_i hfault hdata
    rw [hdata, Bool.or_true, if_pos rfl] at hheard
    dsimp only
    split
    · rename_i hcount
      exact h.drain.of_heard (hheard (.inr hcount))
    · rename_i hcount
      exact (h.drain.estimate _).received hs (Nat.pos_of_ne_zero hcount) fun hsending => hheard (.inl hsending)
  · rename_i hfault hdata
    exact h.of_heard (hheard (.inr (by simp [hfault, hdata])))

/-- An interrupt of the uart.  If there is a break, the request is still being sent. -/
private theorem onUart (h : p.Expects told turned heard) (hw : Hardware η ε) (hs : Signs faulty told turned)
    (hfaulty :
      (hw.interrupts p.hardware).intersects (.union (.union .rxFraming .rxOverflow) .rxCollision) = true → faulty)
    (hbreak : (hw.interrupts p.hardware).intersects .rxBreak = true → p.bus.isSending = true)
    (hheard : p.bus.isSending = true ∨ p.slotsToRead hw = 0 → heard' → heard) :
    (p.onUart hw).Expects told turned heard' := by
  have hcleared : Port.Expects told turned heard
    { p with hardware := hw.clear (hw.interrupts p.hardware) p.hardware } := h
  refine onUart_rule (fun hempty => ?_) (fun now => ?_) (fun q event hevent now hq => ?_)
    fun q estimator hq => hq.estimate estimator
  · have hnone : hw.interrupts p.hardware = .none := congrArg Interrupts.mk (eq_of_beq hempty)
    rw [slotsToRead, hnone] at hheard
    exact h.of_heard (hheard (.inr rfl))
  · exact hcleared.receiveSlots hs (fun hfault => hfaulty (Interrupts.intersects_of_subset hfault rfl)) hheard
  · cases event with
    | «break» =>
      have hsending := hbreak hevent
      exact hq.onBreak hs fun hh => h.2.not_heard hsending (hheard (.inl hsending) hh)
    | collision => exact hq.collision hs (hfaulty (Interrupts.intersects_of_subset hevent rfl))
    | txReady space => exact hq.sender (.inr ⟨space, rfl⟩)
    | txDone => exact hq.sender (.inl rfl)
    | startTransmit | alarm | lineRising | received | lineFault | receiveRequested => cases hevent

/-- When the time for a response is over, the task is told of it only if nothing has come. -/
private theorem onAlarm (h : p.Expects told turned heard) : (p.onAlarm hw).Expects told turned heard := by
  unfold Port.onAlarm
  generalize hw.space p.hardware = space
  generalize p.now hw = now
  refine h.raise _ (h.2.imp (fun h => ⟨Bus.isSending_onAlarm h.1 space, h.2⟩) fun hlistens => ?_)
  refine hlistens.onAlarm h.1.inStep space fun hnot => ?_
  -- Nothing is told, so that the notice stays.
  have hquiet : (p.bus.handle (.alarm space) now).1 = [] := by
    show (p.bus.onAlarm space).1 = []
    rw [Bus.onAlarm_idle (h.1.inStep.phase_of_not_sending hlistens.idle)]
    split
    · rename_i hawaiting
      exact if_neg fun hrx => hnot ⟨hawaiting, hrx⟩
    · rfl
  have hsame : (p.raise hw (.alarm space) now).notice = p.notice := by
    rcases notice_raise hw p (.alarm space) now with hold | ⟨m, _, hm, -⟩
    · exact hold
    · rw [hquiet] at hm
      cases hm
  rw [hsame]
  exact ⟨id, id⟩

private theorem onEdge (h : p.Expects told turned heard) (level : LineLevel) :
    (p.onEdge hw level).Expects told turned heard := by
  have hmeasured (now : Nat) :
      Port.Expects told turned heard (if p.hasEdges then { p with meter := p.meter.onEdge level now } else p) := by
    split <;> exact h
  unfold Port.onEdge
  cases level with
  | high => exact (hmeasured _).lineRising
  | low => exact hmeasured _

end Expects

end Port

/-! ### What is counted -/

private theorem Tally.heard_served {t : Tally} {pending : Interrupts} {count before : Nat} {sending paused : Bool}
    (hquiet : sending = true ∨ count = 0) (h : (t.served pending count sending paused).heard ≠ before) :
    t.heard ≠ before := by
  rcases hquiet with rfl | rfl
  · exact h
  · cases sending <;> exact h

/-- Since the tally was `t`, a break has come in, or else the slots that came in have left a trace. -/
structure Traced (t : Tally) (told turned : Option Notice → Prop) (p : Port (η × Tally)) : Prop where
  breaks : t.breaks ≤ p.hardware.2.breaks
  faults : t.faults ≤ p.hardware.2.faults
  trace : t.breaks < p.hardware.2.breaks ∨ p.Expects told turned (p.hardware.2.heard ≠ t.heard)

variable {t : Tally} {p q : Port (η × Tally)} {paused : Bool}

namespace Traced

variable {told turned told' turned' : Option Notice → Prop}

theorem mono (h : Traced t told turned p) (htold : ∀ n, told n → told' n) (hturned : ∀ n, turned n → turned' n) :
    Traced t told' turned' p :=
  ⟨h.breaks, h.faults, h.trace.imp_right fun h => h.mono id htold hturned⟩

/-- A step that is not counted leaves the traces. -/
theorem uncounted (h : Traced t told turned p) (htally : q.hardware.2 = p.hardware.2)
    (hexpects : ∀ heard, p.Expects told turned heard → q.Expects told' turned' heard) : Traced t told' turned' q := by
  refine ⟨?_, ?_, ?_⟩ <;> rw [htally]
  · exact h.breaks
  · exact h.faults
  · exact h.trace.imp_right (hexpects _)

/-- After an interrupt of the uart, a break has been counted, or what came in before has left its trace. -/
private theorem uart {faulty : Prop} (h : Traced t told turned p) (hs : Signs faulty told turned)
    (hfaulty : (hw.interrupts p.hardware.1).intersects (.union (.union .rxFraming .rxOverflow) .rxCollision) = true →
      faulty) :
    Traced t told turned (Happening.uart.occur hw paused p) := by
  refine ⟨Nat.le_trans h.breaks (Nat.le_add_right _ _), Nat.le_trans h.faults (Nat.le_add_right _ _), ?_⟩
  rcases h.trace with hbroken | hexpects
  · exact .inl (Nat.lt_of_lt_of_le hbroken (Nat.le_add_right _ _))
  by_cases hbreak : p.bus.isSending = false ∧ (hw.interrupts p.hardware.1).intersects .rxBreak = true
  · left
    show t.breaks < p.hardware.2.breaks + if _ then 1 else 0
    rw [hbreak.1, hbreak.2]
    exact Nat.lt_succ_of_le h.breaks
  · right
    refine hexpects.onUart hw.tallied hs hfaulty (fun hpending => ?_) Tally.heard_served
    simpa using fun hidle => hbreak ⟨hidle, hpending⟩

/-- The timer, the line and the hardware itself leave the traces. -/
private theorem occur {happening : Happening η} (h : Traced t told turned p) (hquiet : happening ≠ .uart) :
    Traced t told turned (happening.occur hw paused p) := by
  cases happening with
  | uart => exact absurd rfl hquiet
  | alarm => exact h.uncounted (Port.tally_raise _ _) fun _ hexpects => hexpects.onAlarm
  | edge level =>
    exact h.uncounted (congrArg Prod.snd (Port.hardware_onEdge level)) fun _ hexpects => hexpects.onEdge level
  | goesOn change => exact h.uncounted rfl fun _ => id

end Traced

private theorem tally_occur {happening : Happening η} (hquiet : happening ≠ .uart) :
    (happening.occur hw paused p).hardware.2 = p.hardware.2 := by
  cases happening with
  | uart => exact absurd rfl hquiet
  | alarm => exact Port.tally_raise _ _
  | edge level => exact congrArg Prod.snd (Port.hardware_onEdge level)
  | goesOn change => rfl

/-- The task waits, and will look at the notice. -/
def Awake (t : Tally) (p : Port (η × Tally)) : Prop := Traced t Noticed Noticed p

/-- The task will look at the cursor only. -/
def Overdue (t : Tally) (p : Port (η × Tally)) : Prop :=
  Traced t (fun _ => t.faults < p.hardware.2.faults) (fun _ => True) p

variable {s : Surroundings η}

theorem Awake.occur (h : Awake t p) (happening : Happening η) : Awake t (happening.occur hw paused p) := by
  by_cases huart : happening = .uart
  · rw [huart]
    exact h.uart (signs_noticed True) fun _ => trivial
  · exact Traced.occur h huart

/-- A fault that comes between two steps of the task is counted. -/
theorem Overdue.occur (h : Overdue t p) (happening : Happening η) : Overdue t (happening.occur hw false p) := by
  by_cases huart : happening = .uart
  · rw [huart]
    have hcounted : t.faults < p.hardware.2.faults → t.faults < (Happening.uart.occur hw false p).hardware.2.faults :=
      fun hlt => Nat.lt_of_lt_of_le hlt (Nat.le_add_right _ _)
    have hkept := h.mono (fun _ => hcounted) fun _ => id
    refine hkept.uart (signs_counted fun hfault => ?_) id
    show t.faults < p.hardware.2.faults + if _ then 1 else 0
    rw [hfault]
    exact Nat.lt_succ_of_le h.faults
  · unfold Overdue
    rw [tally_occur huart]
    exact Traced.occur h huart

theorem Awake.between (h : Awake t p) : Awake t ((s.world hw).between p) :=
  Happening.keeps (fun _ _ h => h.occur _) _ h

theorem Awake.pause (h : Awake t p) : Awake t ((s.world hw).pause p) :=
  Happening.keeps (fun _ _ h => h.occur _) _ h

theorem Overdue.between (h : Overdue t p) : Overdue t ((s.world hw).between p) :=
  Happening.keeps (fun _ _ h => h.occur _) _ h

/-- When the notice is taken, and it is not about a reception, then the cursor is the only trace. -/
theorem Awake.take (h : Awake t p) (hnotice : ¬Noticed p.notice) :
    Awake t { p with notice := none } ∧ Overdue t { p with notice := none } := by
  have hcursor (told turned : Option Notice → Prop) : Traced t told turned { p with notice := none } :=
    h.uncounted rfl fun _ hexpects => ⟨hexpects.1, hexpects.2.mono id (absurd · hnotice) (absurd · hnotice)⟩
  exact ⟨hcursor _ _, hcursor _ _⟩

theorem Awake.listen (h : Awake t p) : Awake t (p.dispatch hw.tallied .receiveRequested).2 := by
  refine h.uncounted (Port.tally_dispatch _ _ _) fun heard hexpects => ?_
  unfold Port.Expects
  rw [Port.dispatch, Port.dispatchAt_frame]
  exact ⟨hexpects.1.handle _ _, hexpects.2.receiveRequested id _⟩

/-- If the cursor shows nothing, and no break and no fault has come, then nothing was heard. -/
theorem Overdue.heard (h : Overdue t p) (hcursor : p.bus.cursor = 0) (hbreaks : p.hardware.2.breaks = t.breaks)
    (hfaults : p.hardware.2.faults = t.faults) : p.hardware.2.heard = t.heard := by
  refine Decidable.byContradiction fun hheard => ?_
  rcases h.trace with hbroken | ⟨-, ⟨-, hsilent⟩ | hlistens⟩
  · omega
  · exact hsilent hheard
  · rcases hlistens.shown hheard with hcounted | hfault <;> omega

end LightBus
