import LightBus.Proofs.Session.Reception
import LightBus.Simulation.Bench

/-!
# What a port hears on the bench

The receive interrupts of the bench are unmasked as long as the bus receives, and then no slot waits in the fifo and
no interrupt is left over (`Bench.Attentive`).  Effects keep it that way (`Bench.attentive_applyAll`).

What happens to a port that keeps up with the line (`Bench.Heeds`) keeps it so, as long as no slots come in while the
notice of a whole frame waits (`Bench.Heeds.occur`).  Without slots it also leaves the buffer alone
(`Bench.Heeds.play`).
-/

namespace LightBus

/-- The receive interrupts are unmasked after the effects, if they were before (`listens`). -/
def listensAfter (listens : Bool) (effects : List Effect) : Bool :=
  effects.foldl (fun listens effect =>
    match effect with
    | .enableRx => true
    | .disableRx => false
    | _ => listens) listens

theorem listensAfter_append {listens : Bool} (first second : List Effect) :
    listensAfter listens (first ++ second) = listensAfter (listensAfter listens first) second :=
  List.foldl_append

private theorem listensAfter_controls {listens : Bool} (effects : List Effect) :
    listensAfter listens (controls effects) = listensAfter listens effects := by
  induction effects generalizing listens with
  | nil => rfl
  | cons effect rest ih =>
    cases effect <;> exact ih

namespace Bus

variable {b : Bus} {now : Nat} {result : List Effect × Bus}

/-- The step unmasks the receive interrupts when the bus begins to receive, with an empty fifo, and masks them when it
does no longer. -/
structure Hears (b : Bus) (result : List Effect × Bus) : Prop where
  listens : listensAfter b.receiving result.1 = result.2.receiving
  emptied : result.2.receiving = true → b.receiving = true ∨ .resetRxFifo ∈ result.1

private theorem hears_unchanged : Hears b ([], b) := ⟨rfl, .inl⟩

private theorem Received.hears (h : ∃ ended turned, Received b ended turned result) : Hears b result := by
  obtain ⟨ended, turned, hreceived⟩ := h
  refine ⟨?_, fun hreceiving => ?_⟩
  · rw [← listensAfter_controls, hreceived.controls, hreceived.receiving, listensAfter_append]
    cases ended <;> cases turned <;> cases b.awaiting <;> simp [listensAfter]
  · rw [hreceived.receiving, Bool.and_eq_true] at hreceiving
    exact .inl hreceiving.1

private theorem hears_writeChunk (space : Nat) : Hears b (b.writeChunk space) := by
  refine ⟨?_, .inl⟩
  unfold writeChunk
  dsimp only
  split <;> split <;> rfl

private theorem hears_onAlarm (space : Nat) : Hears b (b.onAlarm space) := by
  cases hphase : b.sequence.phase with
  | low =>
    rw [onAlarm_low hphase]
    exact ⟨rfl, .inl⟩
  | mark =>
    rw [onAlarm_mark hphase]
    have hsent := hears_writeChunk (b := { b with sequence := { b.sequence with phase := .idle }, tx := .sending })
      space
    exact ⟨hsent.listens, .inl⟩
  | idle =>
    rw [onAlarm_idle hphase]
    split
    · refine ⟨?_, .inl⟩
      dsimp only
      split <;> rfl
    · exact hears_unchanged

private theorem hears_onTxDone : Hears b (b.onTxDone now) := by
  rcases onTxDone_cases b now with heq | ⟨-, -, ⟨-, heq⟩ | ⟨-, heq⟩⟩ <;> rw [heq]
  · exact hears_unchanged
  · exact ⟨rfl, fun _ => .inr (by simp)⟩
  · exact ⟨rfl, fun _ => .inr (by simp)⟩

private theorem hears_txReady (space : Nat) : Hears b (b.handle (.txReady space) now) := by
  simp only [handle]
  split
  · exact hears_writeChunk space
  · exact hears_unchanged

theorem hears_listen : Hears b b.listen := ⟨rfl, fun _ => .inr (by simp [listen])⟩

theorem hears_receiveRequested : Hears b (b.handle .receiveRequested now) := by
  simp only [handle]
  split
  · exact hears_listen
  · exact hears_unchanged

end Bus

namespace Simulation.Bench

variable {p : Port Bench} {h : Bench} {b : Bus} {listens : Bool} {f : Option (List UInt8)} {line : List (List UInt8)}
  {effects : List Effect}

/-! ### Effects -/

/-- What an effect does to the bench, but for its log. -/
def heard (h : Bench) : Effect → Bench
  | .resetRxFifo => { h with rxFifo := [] }
  | .enableRx => { h with enabled := h.enabled.union .allRx, pending := h.pending.without .allRx }
  | .disableRx => { h with enabled := h.enabled.without .allRx }
  | .enableTx => { h with enabled := h.enabled.union .allTx, pending := h.pending.without .allTx }
  | .disableTxData => { h with enabled := h.enabled.without .txData }
  | .disableTx => { h with enabled := h.enabled.without .allTx }
  | _ => h

private theorem hardware_apply (effect : Effect) :
    ∃ log, ((Port.apply hardware effect).runFrom p).2.hardware = { p.hardware.heard effect with log } := by
  cases effect with
  | resetRxFifo =>
    rw [Port.apply, Port.runFrom_onHardware_none]
    exact note_frame _ _ { p.hardware with rxFifo := [] }
  | turn | invert | setAlarm | cancelAlarm =>
    rw [Port.apply, Port.runFrom_onHardware_none]
    exact note_frame _ _ _
  | writeFifo first last =>
    rw [Port.runFrom_apply_writeFifo]
    exact note_frame _ _ _
  | enableRx | disableRx | enableTx | disableTxData | disableTx | notify => exact ⟨_, rfl⟩

/-- What the effects keep of the bench, they keep together. -/
private theorem applyAll_induction {motive : List Effect → Bench → Bench → Prop} (nil : ∀ h, motive [] h h)
    (cons : ∀ effect rest h log h', motive rest { h.heard effect with log } h' → motive (effect :: rest) h h')
    (effects : List Effect) (p : Port Bench) :
    motive effects p.hardware (Port.applyAll hardware effects p).2.hardware := by
  induction effects generalizing p with
  | nil => exact nil _
  | cons effect rest ih =>
    rw [Port.applyAll_cons]
    obtain ⟨log, hlog⟩ := hardware_apply (p := p) effect
    have hrest := ih ((Port.apply hardware effect).runFrom p).2
    rw [hlog] at hrest
    exact cons effect rest _ log _ hrest

theorem script_applyAll (effects : List Effect) (p : Port Bench) :
    (Port.applyAll hardware effects p).2.hardware.script = p.hardware.script := by
  refine applyAll_induction (motive := fun _ h h' => h'.script = h.script) (fun _ => rfl) ?_ effects p
  intro effect rest h log h' ih
  rw [ih]
  cases effect <;> rfl

private theorem rxFifo_applyAll (effects : List Effect) (p : Port Bench) :
    p.hardware.rxFifo = [] ∨ .resetRxFifo ∈ effects → (Port.applyAll hardware effects p).2.hardware.rxFifo = [] := by
  refine applyAll_induction (motive := fun effects h h' => h.rxFifo = [] ∨ .resetRxFifo ∈ effects → h'.rxFifo = [])
    (fun _ hempty => by simpa using hempty) ?_ effects p
  intro effect rest h log h' ih hempty
  refine ih ?_
  rw [List.mem_cons] at hempty
  rcases hempty with hempty | rfl | hrest
  · left
    cases effect <;> first | rfl | exact hempty
  · exact .inl rfl
  · exact .inr hrest

/-- Nothing goes wrong with the fifo, and the receive interrupts are unmasked (`listens`) or masked.  None of them is
left over when they are unmasked. -/
structure Attentive (listens : Bool) (h : Bench) : Prop where
  reads : "read" ∉ h.failing
  enabled : h.enabled.inter .allRx = if listens then .allRx else .none
  pending : listens = true → h.pending.inter .allRx = .none

private theorem Attentive.heard (hh : Attentive listens h) (effect : Effect) (log : List String) :
    Attentive (listensAfter listens [effect]) { h.heard effect with log } := by
  cases effect with
  | enableRx =>
    exact ⟨hh.reads, Interrupts.inter_union_of_subset rfl, fun _ => Interrupts.inter_without_of_subset rfl⟩
  | disableRx => exact ⟨hh.reads, Interrupts.inter_without_of_subset rfl, nofun⟩
  | enableTx =>
    exact ⟨hh.reads, (Interrupts.inter_union_of_disjoint rfl).trans hh.enabled,
      fun hlistens => (Interrupts.inter_without_of_disjoint rfl).trans (hh.pending hlistens)⟩
  | disableTxData | disableTx =>
    exact ⟨hh.reads, (Interrupts.inter_without_of_disjoint rfl).trans hh.enabled, hh.pending⟩
  | resetRxFifo | turn | invert | setAlarm | cancelAlarm | writeFifo | notify =>
    exact ⟨hh.reads, hh.enabled, hh.pending⟩

theorem attentive_applyAll (effects : List Effect) (p : Port Bench) :
    ∀ listens, Attentive listens p.hardware →
      Attentive (listensAfter listens effects) (Port.applyAll hardware effects p).2.hardware := by
  refine applyAll_induction
    (motive := fun effects h h' => ∀ listens, Attentive listens h → Attentive (listensAfter listens effects) h')
    (fun _ _ hh => hh) ?_ effects p
  intro effect rest h log h' ih listens hh
  exact ih _ (hh.heard effect log)

/-! ### Frames -/

/-- The port keeps up with the line: `f` is the frame that is coming in, and the slots `waiting` are still in the
fifo. -/
structure Follows (waiting : List UInt8) (f : Option (List UInt8)) (h : Bench) (b : Bus) : Prop where
  bounded : b.Bounded
  attentive : Attentive b.receiving h
  fifo : b.receiving = true → h.rxFifo = waiting
  tracks : Bus.Tracks f b

/-- Slots have come in as the beginning of a frame. -/
def Arrived (line : List (List UInt8)) (slots : List UInt8) : Prop := ∃ frame ∈ line, slots <+: frame

/-- The port keeps up with the line, on which the frames `line` have come in, the latest first, and tells no more than
has arrived. -/
structure Heeds (line : List (List UInt8)) (p : Port Bench) : Prop where
  follows : Follows [] line.head? p.hardware p.bus
  whole : p.Whole (Arrived line)

theorem Arrived.cons {slots : List UInt8} (h : Arrived line slots) (frame : List UInt8) :
    Arrived (frame :: line) slots := by
  obtain ⟨first, hfirst, hbegins⟩ := h
  exact ⟨first, List.mem_cons_of_mem _ hfirst, hbegins⟩

private theorem arrived_of_head {slots frame : List UInt8} (h : line.head? = some frame) (hbegins : slots <+: frame) :
    Arrived line slots :=
  ⟨frame, List.mem_of_head? h, hbegins⟩

theorem Follows.applyAll {g : Option (List UInt8)} {result : List Effect × Bus} (h : Follows [] f p.hardware p.bus)
    (hbounded : result.2.Bounded) (hhears : Bus.Hears p.bus result) (htracks : Bus.Tracks g result.2) :
    Follows [] g (Port.applyAll hardware result.1 { p with bus := result.2 }).2.hardware result.2 := by
  refine ⟨hbounded, ?_, fun hreceiving => ?_, htracks⟩
  · rw [← hhears.listens]
    exact attentive_applyAll _ _ _ h.attentive
  · exact rxFifo_applyAll _ _ ((hhears.emptied hreceiving).imp_left h.fifo)

theorem Follows.dispatchAt {event : BusEvent} {now : Nat} {g : Option (List UInt8)}
    (h : Follows [] f p.hardware p.bus) (hhears : Bus.Hears p.bus (p.bus.handle event now))
    (htracks : Bus.Tracks g (p.bus.handle event now).2) :
    Follows [] g (Port.dispatchAt hardware event now p).2.hardware (Port.dispatchAt hardware event now p).2.bus := by
  rw [Port.bus_dispatchAt]
  exact h.applyAll (h.bounded.handle event now) hhears htracks

private theorem Follows.raise {event : BusEvent} {now : Nat} {g : Option (List UInt8)}
    (h : Follows [] f p.hardware p.bus) (hhears : Bus.Hears p.bus (p.bus.handle event now))
    (htracks : Bus.Tracks g (p.bus.handle event now).2) :
    Follows [] g (p.raise hardware event now).hardware (p.raise hardware event now).bus := by
  rw [Port.raise_eq_signal, Port.signal_frame]
  exact h.dispatchAt hhears htracks

private theorem Follows.heeds_raise {event : BusEvent} {now : Nat} (h : Follows [] f p.hardware p.bus)
    (hkept : p.Vacant ∨ p.Whole (Arrived line) ∧ (p.bus.handle event now).2.frame = p.bus.frame)
    (hhears : Bus.Hears p.bus (p.bus.handle event now)) (htracks : Bus.Tracks line.head? (p.bus.handle event now).2)
    (htells : Bus.Tells line.head? (p.bus.handle event now)) : Heeds line (p.raise hardware event now) :=
  ⟨h.raise hhears htracks, Port.whole_raise hkept htells fun _ _ => arrived_of_head⟩

/-- An event that has nothing to do with the slots of a frame. -/
private theorem Heeds.raise (h : Heeds line p) {event : BusEvent} {now : Nat}
    (hhears : Bus.Hears p.bus (p.bus.handle event now)) (hpasses : Bus.Passes p.bus (p.bus.handle event now)) :
    Heeds line (p.raise hardware event now) :=
  ⟨h.follows.raise hhears (hpasses.tracks h.follows.tracks), h.whole.raise hpasses.frame hpasses.quiet⟩

private theorem Heeds.raise_break (h : Heeds line p) (now : Nat) :
    Heeds ([] :: line) (p.raise hardware .break now) := by
  refine ⟨h.follows.raise (Bus.Received.hears Bus.received_onBreak) Bus.tracks_onBreak, ?_⟩
  have hwhole : p.Whole (Arrived ([] :: line)) := fun n hn hframe => (h.whole n hn hframe).cons []
  exact hwhole.raise rfl (Bus.quiet_of_nil rfl)

/-! ### Slots -/

private theorem drain_eq (hreads : "read" ∉ p.hardware.failing) :
    p.drain hardware = (p.hardware.rxFifo.length,
      { p with
        hardware := { p.hardware with rxFifo := [] }
        bus := p.bus.fill (p.hardware.rxFifo.take p.bus.window) }) := by
  have hread : (hardware.readFifo p.bus.window).runFrom p.hardware =
      (.ok (p.hardware.rxFifo.take p.bus.window),
        { p.hardware with rxFifo := p.hardware.rxFifo.drop p.bus.window }) :=
    if_neg hreads
  have hdiscard : hardware.discardFifo { p.hardware with rxFifo := p.hardware.rxFifo.drop p.bus.window } =
      ((p.hardware.rxFifo.drop p.bus.window).length, { p.hardware with rxFifo := [] }) :=
    if_neg hreads
  have hlength : (p.hardware.rxFifo.take p.bus.window).length + (p.hardware.rxFifo.drop p.bus.window).length =
      p.hardware.rxFifo.length := by
    rw [← List.length_append, List.take_append_drop]
  exact (Port.drain_of_read hread hdiscard).trans (congrArg (Prod.mk · _) hlength)

theorem modifyHead_append_nil : line.modifyHead (· ++ []) = line := by
  cases line <;> simp

private theorem heeds_of_deaf {waiting : List UInt8} (h : Follows waiting f p.hardware p.bus)
    (hdeaf : p.bus.receiving = false) (hwhole : p.Whole (Arrived line)) : Heeds line p :=
  ⟨⟨h.bounded, h.attentive, fun hreceiving => absurd hreceiving (ne_true_of_eq_false hdeaf), .of_deaf hdeaf⟩, hwhole⟩

variable {received : List UInt8} {raised served : Interrupts} {now : Nat}

/-- The slots that wait in the fifo are served at once.  No notice of a whole frame waits if there are any. -/
private theorem Follows.receiveSlots (h : Follows received line.head? p.hardware p.bus)
    (hwhole : p.Whole (Arrived line)) (hkept : p.Vacant ∨ received = []) (hreceiving : p.bus.receiving = true)
    (hprompt : received = [] ∨ served.intersects (.union .rxFraming .rxOverflow) = true ∨
      served.intersects .rxData = true) :
    Heeds (line.modifyHead (· ++ received)) (p.receiveSlots hardware served now) := by
  have hhead : (line.modifyHead (· ++ received)).head? = line.head?.map (· ++ received) := List.head?_modifyHead
  have hdrain := drain_eq h.attentive.reads
  rw [h.fifo hreceiving] at hdrain
  have hdrained : Follows [] line.head? { p.hardware with rxFifo := [] } (p.bus.fill (received.take p.bus.window)) :=
    ⟨h.bounded.write _ _, ⟨h.attentive.reads, h.attentive.enabled, h.attentive.pending⟩, fun _ => rfl,
      h.tracks.filled h.bounded _⟩
  have hsame (hnil : received = []) :
      line.modifyHead (· ++ received) = line ∧ p.bus.fill (received.take p.bus.window) = p.bus := by
    rw [hnil, List.take_nil, Bus.fill_nil]
    exact ⟨modifyHead_append_nil, rfl⟩
  unfold Port.receiveSlots
  rw [hdrain]
  dsimp only
  split
  · have hfault (fault : LineFault) := Bus.tracks_lineFault (b := p.bus.fill (received.take p.bus.window))
      (line.modifyHead (· ++ received)).head? fault received.length now
    refine Follows.heeds_raise (f := line.head?) ?_ (hkept.imp_right fun hnil => ⟨?_, (hfault _).2.2⟩) ?_ ?_ ?_
    · exact hdrained
    · rw [(hsame hnil).1, (hsame hnil).2]
      exact hwhole
    · exact Bus.Received.hears (Bus.received_onLineFault _ _ _)
    · exact (hfault _).1
    · exact (hfault _).2.1.tells
  rename_i hfine
  split
  · split
    · rename_i hcount
      have hnil := List.eq_nil_of_length_eq_zero hcount
      rw [(hsame hnil).2] at hdrained ⊢
      rw [(hsame hnil).1]
      exact ⟨hdrained, hwhole⟩
    · rename_i hcount
      obtain ⟨htracks, htells⟩ := h.tracks.received h.bounded hreceiving received now
      rw [← hhead] at htracks htells
      refine Follows.heeds_raise (f := line.head?) ?_ (.inl ?_) ?_ ?_ ?_
      · exact hdrained
      · exact hkept.resolve_right fun hnil => hcount (hnil ▸ rfl)
      · exact Bus.Received.hears (Bus.received_onReceived _ _)
      · exact htracks
      · exact htells
  · rename_i hidle
    obtain rfl : received = [] := hprompt.resolve_right (not_or.2 ⟨hfine, hidle⟩)
    rw [modifyHead_append_nil]
    exact ⟨h, hwhole⟩

/-! ### Interrupts -/

/-- The frames on the line after an event, the latest first.  The slots of an event come before its break. -/
def follow (line : List (List UInt8)) : BenchEvent → List (List UInt8)
  | .interrupt received raised =>
    let line := line.modifyHead (· ++ received)
    if raised.intersects .rxBreak then [] :: line else line
  | _ => line

/-- Slots are told by the interrupt that they come with, and reading them never fails. -/
def Prompt : BenchEvent → Prop
  | .interrupt received raised =>
    received = [] ∨ raised.intersects (.union .rxFraming .rxOverflow) = true ∨ raised.intersects .rxData = true
  | .fail calls => "read" ∉ calls
  | _ => True

instance : DecidablePred Prompt
  | .interrupt _ _ => inferInstanceAs (Decidable (_ ∨ _))
  | .fail calls => inferInstanceAs (Decidable ("read" ∉ calls))
  | .alarm | .edge _ | .nothing | .space _ => isTrue trivial

private theorem receive_of_masked (h : served.inter .allRx = .none) :
    p.receiveSlots hardware served now = p ∧ p.receiveBreak hardware served now = p := by
  have hnot {set : Interrupts} (hset : Interrupts.allRx.inter set = set) : ¬served.intersects set = true :=
    ne_true_of_eq_false (Interrupts.not_intersects_of_disjoint h hset)
  refine ⟨?_, if_neg (hnot rfl)⟩
  unfold Port.receiveSlots
  rw [if_neg (hnot rfl), if_neg (hnot rfl)]

/-- What has arrived once stays the beginning of a frame. -/
private theorem Arrived.follow {slots : List UInt8} (h : Arrived line slots) (event : BenchEvent) :
    Arrived (follow line event) slots := by
  have hgrown (more : List UInt8) : Arrived (line.modifyHead (· ++ more)) slots := by
    obtain ⟨frame, hframe, hbegins⟩ := h
    cases line with
    | nil => cases hframe
    | cons head rest =>
      rcases List.mem_cons.1 hframe with rfl | hrest
      · exact ⟨_, List.mem_cons_self, hbegins.trans (List.prefix_append _ _)⟩
      · exact ⟨frame, List.mem_cons_of_mem _ hrest, hbegins⟩
  cases event with
  | interrupt received raised =>
    unfold Bench.follow
    dsimp only
    split
    · exact (hgrown received).cons []
    · exact hgrown received
  | alarm | edge | nothing | space | fail => exact h

/-- A port that receives is served all receive interrupts that are raised, and another port is served none. -/
private theorem Follows.receive (h : Follows received line.head? p.hardware p.bus) (hwhole : p.Whole (Arrived line))
    (hkept : p.Vacant ∨ received = [])
    (hserved : served.inter .allRx = if p.bus.receiving then raised.inter .allRx else .none)
    (hprompt : Prompt (.interrupt received raised)) (now : Nat) :
    Heeds (follow line (.interrupt received raised))
      ((p.receiveSlots hardware served now).receiveBreak hardware served now) := by
  cases hreceiving : p.bus.receiving with
  | false =>
    -- The break may be missed, which does not matter before the bus listens again.
    rw [hreceiving] at hserved
    rw [(receive_of_masked hserved).1, (receive_of_masked hserved).2]
    exact heeds_of_deaf h hreceiving fun n hn hframe => (hwhole n hn hframe).follow (.interrupt received raised)
  | true =>
    rw [hreceiving] at hserved
    have hsame (set : Interrupts) (hset : Interrupts.allRx.inter set = set) :
        raised.intersects set = served.intersects set :=
      (Interrupts.intersects_congr hserved hset).symm
    simp only [Prompt, hsame (.union .rxFraming .rxOverflow) rfl, hsame .rxData rfl] at hprompt
    have hslots : Heeds (line.modifyHead (· ++ received)) (p.receiveSlots hardware served now) :=
      h.receiveSlots hwhole hkept hreceiving hprompt
    unfold Port.receiveBreak follow
    dsimp only
    rw [hsame .rxBreak rfl]
    split
    · refine Heeds.raise_break ?_ now
      exact ⟨hslots.follows, hslots.whole⟩
    · exact hslots

private theorem Heeds.receiveCollision (h : Heeds line p) : Heeds line (p.receiveCollision hardware served now) := by
  unfold Port.receiveCollision
  split
  · exact h.raise (Bus.Received.hears (Bus.received_onCollision now)) (Bus.passes_onCollision now)
  · exact h

private theorem Heeds.sendSlots (h : Heeds line p) : Heeds line (p.sendSlots hardware served now) := by
  unfold Port.sendSlots
  split
  · exact h.raise (Bus.hears_txReady _) (Bus.passes_txReady _ now)
  · exact h

private theorem Heeds.sendDone (h : Heeds line p) : Heeds line (p.sendDone hardware served now) := by
  unfold Port.sendDone
  split
  · exact h.raise Bus.hears_onTxDone (Bus.passes_onTxDone now)
  · exact h

/-- The interrupts that are served when these are raised. -/
def unmasked (h : Bench) (raised : Interrupts) : Interrupts := (h.pending.union raised).inter h.enabled

private theorem Attentive.pending_union (hh : Attentive true h) (raised : Interrupts) :
    (h.pending.union raised).inter .allRx = raised.inter .allRx := by
  rw [Interrupts.inter_union_distrib, hh.pending rfl]
  simp [Interrupts.union, Interrupts.none]

private theorem Attentive.unmasked_inter (hh : Attentive listens h) (raised : Interrupts) :
    (h.unmasked raised).inter .allRx = if listens then raised.inter .allRx else .none := by
  rw [unmasked, Interrupts.inter_assoc, hh.enabled]
  cases listens with
  | false => simp [Interrupts.inter, Interrupts.none]
  | true => exact hh.pending_union raised

private theorem Follows.arrive (h : Follows [] f p.hardware p.bus) (received : List UInt8) {left : Interrupts}
    (log : List String) (hleft : p.bus.receiving = true → left.inter .allRx = .none) :
    Follows received f { p.hardware with rxFifo := p.hardware.rxFifo ++ received, pending := left, log } p.bus := by
  refine ⟨h.bounded, ⟨h.attentive.reads, h.attentive.enabled, hleft⟩, fun hreceiving => ?_, h.tracks⟩
  show p.hardware.rxFifo ++ received = received
  rw [h.fifo hreceiving]
  rfl

/-- A port that receives serves all receive interrupts that are raised. -/
private theorem Heeds.raised_inter (h : Heeds line p) (raised : Interrupts) (hreceiving : p.bus.receiving = true) :
    (p.hardware.pending.union raised).inter .allRx = (p.hardware.unmasked raised).inter .allRx := by
  rw [h.follows.attentive.unmasked_inter, if_pos hreceiving]
  exact (hreceiving ▸ h.follows.attentive).pending_union raised

private theorem Heeds.interrupt (h : Heeds line p) (hkept : p.Vacant ∨ received = [])
    (hprompt : Prompt (.interrupt received raised)) :
    Heeds (follow line (.interrupt received raised)) (occur (.interrupt received raised) p) := by
  have hserved := h.follows.attentive.unmasked_inter raised
  have hraised := h.raised_inter raised
  simp only [occur]
  rw [Port.onUart_of_interrupts (p.hardware.unmasked raised) rfl]
  split
  · -- Nothing is served, and so all handlers do nothing.
    rename_i hempty
    have hnothing : (p.hardware.unmasked raised).inter .allRx = .none := by
      rw [show p.hardware.unmasked raised = .none from congrArg Interrupts.mk (eq_of_beq hempty)]
      rfl
    have hfollows := h.follows.arrive received p.hardware.log fun hreceiving => (hraised hreceiving).trans hnothing
    have hheeds {q : Port Bench} (hq : Follows received line.head? q.hardware q.bus) (hwhole : q.Whole (Arrived line))
        (hquiet : q.Vacant ∨ received = []) (hbus : q.bus = p.bus) :
        Heeds (follow line (.interrupt received raised)) q := by
      have hstep := hq.receive hwhole hquiet (hbus ▸ hserved) hprompt 0
      rwa [(receive_of_masked hnothing).1, (receive_of_masked hnothing).2] at hstep
    refine hheeds ?_ ?_ ?_ ?_
    · exact hfollows
    · exact h.whole
    · exact hkept
    · rfl
  · refine Heeds.sendDone (Heeds.sendSlots (Heeds.receiveCollision ?_))
    refine Follows.receive ?_ ?_ ?_ ?_ hprompt _
    · -- All receive interrupts are served at once, and none is left over.
      refine h.follows.arrive received _ fun hreceiving => ?_
      exact Interrupts.inter_without_of_inter_eq (hraised hreceiving)
    · exact h.whole
    · exact hkept
    · exact hserved

/-! ### Events -/

theorem Follows.of_eq {h' : Bench} {waiting : List UInt8} (hf : Follows waiting f h b)
    (hfailing : "read" ∉ h'.failing) (henabled : h'.enabled = h.enabled) (hpending : h'.pending = h.pending)
    (hfifo : h'.rxFifo = h.rxFifo) :
    Follows waiting f h' b :=
  ⟨hf.bounded, ⟨hfailing, henabled ▸ hf.attentive.enabled, hpending ▸ hf.attentive.pending⟩,
    hfifo ▸ hf.fifo, hf.tracks⟩

theorem Heeds.onBench (h : Heeds line p) (change : Bench → Bench) (hfailing : "read" ∉ (change p.hardware).failing)
    (henabled : (change p.hardware).enabled = p.hardware.enabled)
    (hpending : (change p.hardware).pending = p.hardware.pending)
    (hfifo : (change p.hardware).rxFifo = p.hardware.rxFifo) : Heeds line (onBench change p) :=
  ⟨h.follows.of_eq hfailing henabled hpending hfifo, h.whole⟩

private theorem Heeds.onAlarm (h : Heeds line p) : Heeds line (p.onAlarm hardware) :=
  h.raise (Bus.hears_onAlarm _) (Bus.passes_onAlarm _)

private theorem Heeds.onEdge (h : Heeds line p) (level : LineLevel) : Heeds line (p.onEdge hardware level) := by
  have hmeasured (meter : EdgeMeter) : Heeds line { p with meter } := ⟨h.follows, h.whole⟩
  have hbefore :
      Heeds line (if p.hasEdges then { p with meter := p.meter.onEdge level (p.now hardware) } else p) := by
    split
    · exact hmeasured _
    · exact h
  unfold Port.onEdge
  cases level with
  | low => exact hbefore
  | high => exact hbefore.raise (Bus.Received.hears (Bus.received_lineRising _)) (Bus.passes_lineRising _)

/-- The slots that come in with an event. -/
def slotsOf : BenchEvent → List UInt8
  | .interrupt received _ => received
  | _ => []

/-- As long as no slots come in while the notice of a whole frame waits, the port keeps up with the line. -/
theorem Heeds.occur (h : Heeds line p) {event : BenchEvent} (hkept : p.Vacant ∨ slotsOf event = [])
    (hprompt : Prompt event) : Heeds (follow line event) (occur event p) := by
  cases event with
  | interrupt received raised => exact h.interrupt hkept hprompt
  | alarm => exact h.onAlarm
  | edge level => exact h.onEdge level
  | nothing => exact h
  | space space => exact h.onBench (fun b => { b with space }) h.follows.attentive.reads rfl rfl rfl
  | fail calls => exact h.onBench (fun b => { b with failing := calls }) hprompt rfl rfl rfl

/-! ### Events without slots -/

open Port (Undisturbed)

/-- An empty fifo gives no slots to count. -/
private theorem undisturbed_receiveSlots (hreads : "read" ∉ p.hardware.failing) (hempty : p.hardware.rxFifo = []) :
    Undisturbed p (p.receiveSlots hardware served now) := by
  have hdrain := drain_eq hreads
  rw [hempty, List.take_nil, Bus.fill_nil] at hdrain
  unfold Port.receiveSlots
  rw [hdrain]
  dsimp only
  split
  · have hfault (fault : LineFault) := Bus.tracks_lineFault (b := p.bus) none fault 0 now
    exact Undisturbed.raise (.of_eq rfl rfl) (hfault _).2.2 (hfault _).2.1
  · split
    · exact .of_eq rfl rfl
    · exact .refl p

private theorem undisturbed_receiveBreak : Undisturbed p (p.receiveBreak hardware served now) := by
  unfold Port.receiveBreak
  split
  · exact Undisturbed.raise (.of_eq rfl rfl) rfl (Bus.quiet_of_nil rfl)
  · exact .refl p

private theorem undisturbed_raise {event : BusEvent} (h : Bus.Passes p.bus (p.bus.handle event now)) :
    Undisturbed p (p.raise hardware event now) :=
  (Undisturbed.refl p).raise h.frame h.quiet

private theorem undisturbed_receiveCollision : Undisturbed p (p.receiveCollision hardware served now) := by
  unfold Port.receiveCollision
  split
  · exact undisturbed_raise (Bus.passes_onCollision now)
  · exact .refl p

private theorem undisturbed_sendSlots : Undisturbed p (p.sendSlots hardware served now) := by
  unfold Port.sendSlots
  split
  · exact undisturbed_raise (Bus.passes_txReady (hardware.space p.hardware) now)
  · exact .refl p

private theorem undisturbed_sendDone : Undisturbed p (p.sendDone hardware served now) := by
  unfold Port.sendDone
  split
  · exact undisturbed_raise (Bus.passes_onTxDone now)
  · exact .refl p

/-- A port that receives has an empty fifo, and another port is served no receive interrupt. -/
private theorem Follows.undisturbed_receive (h : Follows [] f p.hardware p.bus)
    (hserved : served.inter .allRx = if p.bus.receiving then raised.inter .allRx else .none) (now : Nat) :
    Undisturbed p ((p.receiveSlots hardware served now).receiveBreak hardware served now) := by
  cases hreceiving : p.bus.receiving with
  | false =>
    rw [hreceiving] at hserved
    rw [(receive_of_masked hserved).1, (receive_of_masked hserved).2]
    exact .refl p
  | true => exact (undisturbed_receiveSlots h.attentive.reads (h.fifo hreceiving)).trans undisturbed_receiveBreak

private theorem Heeds.undisturbed_interrupt (h : Heeds line p) (raised : Interrupts) :
    Undisturbed p (Bench.occur (.interrupt [] raised) p) := by
  have hserved := h.follows.attentive.unmasked_inter raised
  have hreceived {q : Port Bench} (hq : Follows [] line.head? q.hardware q.bus) (hsame : Undisturbed p q)
      (hbus : q.bus = p.bus) (now : Nat) : Undisturbed p
        ((q.receiveSlots hardware (p.hardware.unmasked raised) now).receiveBreak hardware
          (p.hardware.unmasked raised) now) :=
    hsame.trans (hq.undisturbed_receive (hbus ▸ hserved) now)
  simp only [Bench.occur]
  rw [Port.onUart_of_interrupts (p.hardware.unmasked raised) rfl]
  split
  · exact .of_eq rfl rfl
  · refine Undisturbed.trans ?_ (undisturbed_receiveCollision.trans
      (undisturbed_sendSlots.trans undisturbed_sendDone))
    refine hreceived ?_ ?_ ?_ _
    · exact h.follows.arrive [] _ fun hreceiving => Interrupts.inter_without_of_inter_eq
        (h.raised_inter raised hreceiving)
    · exact .of_eq rfl rfl
    · rfl

private theorem undisturbed_onAlarm : Undisturbed p (p.onAlarm hardware) :=
  undisturbed_raise (Bus.passes_onAlarm (hardware.space p.hardware))

private theorem undisturbed_onEdge (level : LineLevel) : Undisturbed p (p.onEdge hardware level) := by
  have hmeasured :
      Undisturbed p (if p.hasEdges then { p with meter := p.meter.onEdge level (p.now hardware) } else p) := by
    split <;> exact .of_eq rfl rfl
  unfold Port.onEdge
  cases level with
  | low => exact hmeasured
  | high =>
    have hpasses (q : Port Bench) := Bus.passes_lineRising (b := q.bus) (p.now hardware)
    exact hmeasured.raise (hpasses _).frame (hpasses _).quiet

/-- An event without slots leaves the buffer alone, and no whole frame ends with it. -/
private theorem Heeds.undisturbed_occur (h : Heeds line p) {event : BenchEvent} (hslots : slotsOf event = []) :
    Undisturbed p (Bench.occur event p) := by
  cases event with
  | interrupt received raised =>
    obtain rfl : received = [] := hslots
    exact h.undisturbed_interrupt raised
  | alarm => exact undisturbed_onAlarm
  | edge level => exact undisturbed_onEdge level
  | nothing | space | fail => exact .of_eq rfl rfl

/-! ### Pauses -/

private theorem script_drain : (p.drain hardware).2.hardware.script = p.hardware.script := by
  have hread (room : Nat) : ((readFifo room).runFrom p.hardware).2.script = p.hardware.script := by
    unfold readFifo Run.runFrom
    dsimp only
    split <;> rfl
  have hdiscard (h : Bench) : (discardFifo h).2.script = h.script := by
    unfold discardFifo
    split <;> rfl
  exact (hdiscard _).trans (hread _)

private theorem keptByInterrupts_script (script : List (Nat × BenchEvent)) :
    Port.KeptByInterrupts hardware fun p => p.hardware.script = script where
  raise _ now hp := by
    rw [Port.hardware_raise, script_applyAll]
    exact hp
  clear _ hp := hp
  drain hp := script_drain.trans hp
  estimate _ hp := hp
  measure _ hp := hp

private theorem script_occur (event : BenchEvent) : (occur event p).hardware.script = p.hardware.script := by
  cases event with
  | interrupt received raised => exact (keptByInterrupts_script p.hardware.script).onUart rfl
  | alarm => exact (congrArg Bench.script (Port.hardware_raise _ _)).trans (script_applyAll _ _)
  | edge level => exact (keptByInterrupts_script p.hardware.script).onEdge level rfl
  | nothing | space | fail => rfl

/-- The frames on the line after a part of the script. -/
def followAll (line : List (List UInt8)) (played : List (Nat × BenchEvent)) : List (List UInt8) :=
  played.foldl (fun line step => follow line step.2) line

theorem followAll_append (played more : List (Nat × BenchEvent)) :
    followAll line (played ++ more) = followAll (followAll line played) more :=
  List.foldl_append

theorem Arrived.followAll {slots : List UInt8} (h : Arrived line slots) (played : List (Nat × BenchEvent)) :
    Arrived (followAll line played) slots := by
  induction played generalizing line with
  | nil => exact h
  | cons step rest ih => exact ih (h.follow step.2)

/-- Each event happens after so many microseconds. -/
def play (steps : List (Nat × BenchEvent)) (p : Port Bench) : Port Bench :=
  steps.foldl (fun p step => occur step.2 (wait step.1 p)) p

theorem script_play (steps : List (Nat × BenchEvent)) : (play steps p).hardware.script = p.hardware.script := by
  induction steps generalizing p with
  | nil => rfl
  | cons step rest ih => exact ih.trans (script_occur step.2)

theorem Heeds.wait (h : Heeds line p) (micros : Nat) : Heeds line (wait micros p) :=
  h.onBench (fun b => { b with time := b.time + micros }) h.follows.attentive.reads rfl rfl rfl

/-- Events without slots leave the buffer to the task. -/
theorem Heeds.play {steps : List (Nat × BenchEvent)} (h : Heeds line p) (hslots : ∀ step ∈ steps, slotsOf step.2 = [])
    (hprompt : ∀ step ∈ steps, Prompt step.2) :
    Heeds (followAll line steps) (play steps p) ∧ Undisturbed p (Bench.play steps p) := by
  induction steps generalizing line p with
  | nil => exact ⟨h, .refl p⟩
  | cons step rest ih =>
    obtain ⟨hstep, hrest⟩ := List.forall_mem_cons.1 hslots
    obtain ⟨hnow, hlater⟩ := List.forall_mem_cons.1 hprompt
    have hwaited := h.wait step.1
    have hundisturbed : Undisturbed p (Bench.wait step.1 p) := .of_eq rfl rfl
    obtain ⟨hplayed, hafter⟩ := ih (hwaited.occur (.inr hstep) hnow) hrest hlater
    exact ⟨hplayed, hundisturbed.trans ((hwaited.undisturbed_occur hstep).trans hafter)⟩

/-- The bench between the beginning of a pause and the next event. -/
def paused (micros : Nat) (rest : List (Nat × BenchEvent)) (h : Bench) : Bench :=
  { h with pauses := h.pauses + 1, time := h.time + h.pauseMicros + micros, script := rest }

private theorem pause_eq : pause p = match p.hardware.script with
    | [] => onBench (paused 0 p.hardware.script) p
    | (micros, event) :: rest => occur event (onBench (paused micros rest) p) := rfl

/-- In a pause after the last notice of a whole frame was taken, the port keeps up with the line. -/
theorem Heeds.pause (h : Heeds line p) (hvacant : p.Vacant) (hprompt : ∀ step ∈ p.hardware.script, Prompt step.2) :
    ∃ played, p.hardware.script = played ++ (pause p).hardware.script ∧ Heeds (followAll line played) (pause p) := by
  have hpaused (micros : Nat) (rest : List (Nat × BenchEvent)) : Heeds line (Bench.onBench (paused micros rest) p) :=
    h.onBench _ h.follows.attentive.reads rfl rfl rfl
  cases hscript : p.hardware.script with
  | nil =>
    rw [pause_eq, hscript]
    exact ⟨[], rfl, hpaused _ _⟩
  | cons step rest =>
    obtain ⟨micros, event⟩ := step
    have hevent : Prompt event := hprompt (micros, event) (hscript ▸ List.mem_cons_self)
    rw [pause_eq, hscript, script_occur]
    exact ⟨[(micros, event)], rfl, (hpaused micros rest).occur (.inl hvacant) hevent⟩

end Simulation.Bench

end LightBus
