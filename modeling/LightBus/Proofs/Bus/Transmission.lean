import LightBus.Proofs.Bus.Reception
import LightBus.Proofs.Bus.Steps

/-!
# Transmission

While a frame is on its way, events may come in any order.  The ranges that are written to the fifo lie one behind the
other (`Tiles`), and the end of the transmission is reported once, when they cover the frame.

What one event does to a frame `Underway` is `Bus.Underway.handle`.  `Bus.Underway.handleAll` follows a whole run, and
`Bus.transmission_in_order` is the result.
-/

namespace LightBus

/-! ### What goes to the fifo -/

/-- The slots of the frame buffer that an effect writes to the fifo, as a range. -/
def Effect.range? : Effect → Option (Nat × Nat)
  | .writeFifo first last => some (first, last)
  | _ => none

/-- All ranges that are written, in their order. -/
def written (effects : List Effect) : List (Nat × Nat) := effects.filterMap Effect.range?

/-- No range is empty, the first one begins at `first`, each begins where the one before it ends, and the last one
ends at `last`. -/
inductive Tiles : Nat → List (Nat × Nat) → Nat → Prop where
  | nil (first : Nat) : Tiles first [] first
  | cons {first middle last : Nat} {ranges : List (Nat × Nat)} (h : first < middle)
    (rest : Tiles middle ranges last) :
    Tiles first ((first, middle) :: ranges) last

variable {first middle last : Nat} {ranges more : List (Nat × Nat)}

theorem Tiles.append (h : Tiles first ranges middle) (h' : Tiles middle more last) :
    Tiles first (ranges ++ more) last := by
  induction h with
  | nil => exact h'
  | cons hlt _ ih => exact .cons hlt (ih h')

private theorem Tiles.le (h : Tiles first ranges last) : first ≤ last := by
  induction h with
  | nil => exact Nat.le_refl _
  | cons hlt _ ih => exact Nat.le_trans (Nat.le_of_lt hlt) ih

theorem Tiles.eq_nil (h : Tiles first ranges first) : ranges = [] := by
  cases h with
  | nil => rfl
  | cons hlt rest =>
    have := rest.le
    omega

theorem written_append (effects later : List Effect) :
    written (effects ++ later) = written effects ++ written later :=
  List.filterMap_append

private theorem written_controls (effects : List Effect) : written (controls effects) = written effects := by
  unfold written controls
  rw [List.filterMap_filter]
  congr 1
  funext effect
  cases effect <;> rfl

namespace Bus

variable {b b' : Bus} {effects : List Effect} {total : Nat}

/-! ### Runs -/

/-- Events come one after the other, each at its time. -/
def handleAll (b : Bus) : List (BusEvent × Nat) → List Effect × Bus
  | [] => ([], b)
  | (event, now) :: rest =>
    let (effects, b) := b.handle event now
    let (more, b) := b.handleAll rest
    (effects ++ more, b)

/-- Each of the events comes while a frame is on its way. -/
def SendsThrough (b : Bus) : List (BusEvent × Nat) → Prop
  | [] => True
  | (event, now) :: rest => b.isSending = true ∧ (b.handle event now).2.SendsThrough rest

/-- The step reports that a frame was sent: the task is told, or the bus turns around and waits for the response. -/
def reportsSent (result : List Effect × Bus) : Bool :=
  (notices result.1).any (fun n => n.origin == .transmit) || (result.2.awaiting && result.1.contains (.turn .receive))

/-- How often it is reported that a frame was sent. -/
def reports (b : Bus) : List (BusEvent × Nat) → Nat
  | [] => 0
  | (event, now) :: rest => (if reportsSent (b.handle event now) then 1 else 0) + (b.handle event now).2.reports rest

/-- How often the timer rings. -/
def alarms (events : List (BusEvent × Nat)) : Nat := events.countP fun event => event.1.isAlarm

/-- The alarms that are still to come before the first slot may be sent. -/
def alarmsLeft (b : Bus) : Nat :=
  match b.tx with
  | .inBreak => 2
  | .inMark => 1
  | _ => 0

/-! ### One event -/

/-- A frame of `total` slots is on its way. -/
structure Underway (total : Nat) (b : Bus) : Prop where
  inStep : b.InStep
  sending : b.isSending = true
  size : b.txSize = total
  cursor_le : b.txCursor ≤ total
  /-- Before the first slot may be sent none is written. -/
  untouched : b.tx ≠ .sending → b.txCursor = 0
  silent : b.awaiting = false

/-- An event leaves the frame on its way. -/
structure Advances (total : Nat) (b : Bus) (alarms : Nat) (result : List Effect × Bus) : Prop where
  underway : Underway total result.2
  tiles : Tiles b.txCursor (written result.1) result.2.txCursor
  unreported : reportsSent result = false
  alarms_le : b.alarmsLeft ≤ result.2.alarmsLeft + alarms

/-- With an event the transmission is over. -/
structure Completes (total : Nat) (b : Bus) (result : List Effect × Bus) : Prop where
  ended : result.2.isSending = false
  cursor : b.txCursor = total
  cursor_eq : result.2.txCursor = b.txCursor
  written : written result.1 = []
  reported : reportsSent result = true
  noAlarms : b.alarmsLeft = 0

private theorem alarmsLeft_of_sending (h : b.tx = .sending) : b.alarmsLeft = 0 := by
  unfold alarmsLeft
  rw [h]

private theorem waits_of_alarmsLeft (h : 0 < b.alarmsLeft) : b.isSending = true ∧ b.tx ≠ .sending := by
  unfold alarmsLeft at h
  unfold isSending
  cases htx : b.tx <;> simp_all

private theorem reportsSent_eq_false (horigin : ∀ n, .notify n ∈ effects → n.origin = .receive)
    (hsilent : b.awaiting = false) :
    reportsSent (effects, b) = false := by
  have htold : (notices effects).any (fun n => n.origin == .transmit) = false := by
    rw [List.any_eq_false]
    intro n hn
    obtain ⟨effect, hmem, heffect⟩ := List.mem_filterMap.1 hn
    obtain rfl : effect = .notify n := by
      cases effect <;> simp_all [Effect.notice?]
    rw [horigin n hmem]
    decide
  unfold reportsSent
  rw [htold, hsilent]
  rfl

private theorem Underway.advances_of_eq (h : Underway total b) (hstep : b'.InStep) (htx : b'.tx = b.tx)
    (hcursor : b'.txCursor = b.txCursor) (hsize : b'.txSize = b.txSize) (hsilent : b'.awaiting = false)
    (horigin : ∀ n, .notify n ∈ effects → n.origin = .receive) (hwritten : written effects = []) (alarms : Nat) :
    Advances total b alarms (effects, b') := by
  have hleft : b'.alarmsLeft = b.alarmsLeft := by
    unfold alarmsLeft
    rw [htx]
  refine ⟨⟨hstep, ?_, hsize.trans h.size, hcursor ▸ h.cursor_le, ?_, hsilent⟩, ?_,
    reportsSent_eq_false horigin hsilent, ?_⟩
  · have hsending := h.sending
    unfold isSending at hsending ⊢
    rwa [htx]
  · rw [htx, hcursor]
    exact h.untouched
  · dsimp only
    rw [hwritten, hcursor]
    exact .nil _
  · dsimp only
    omega

private theorem Underway.advances_unchanged (h : Underway total b) (alarms : Nat) : Advances total b alarms ([], b) :=
  h.advances_of_eq h.inStep rfl rfl rfl h.silent (fun _ hn => absurd hn List.not_mem_nil) rfl alarms

/-! ### The slots -/

private theorem tiles_writeChunk (hle : b.txCursor ≤ b.txSize) (space : Nat) :
    Tiles b.txCursor (written (b.writeChunk space).1) (b.writeChunk space).2.txCursor := by
  have hend : b.chunkEnd space = min (b.txCursor + space) b.txSize := by
    unfold chunkEnd
    omega
  have hwritten : written (b.writeChunk space).1 =
      if b.txCursor < b.chunkEnd space then [(b.txCursor, b.chunkEnd space)] else [] := by
    rw [hend]
    unfold writeChunk
    dsimp only
    split <;> split <;> rfl
  rw [hwritten, writeChunk_state]
  dsimp only
  split
  · rename_i hlt
    exact .cons hlt (.nil _)
  · have hnone : b.chunkEnd space = b.txCursor := by omega
    rw [hnone]
    exact .nil _

private theorem underway_writeChunk (hstep : b.InStep) (htx : b.tx = .sending) (hsize : b.txSize = total)
    (hle : b.txCursor ≤ total) (hsilent : b.awaiting = false) (space : Nat) :
    Underway total (b.writeChunk space).2 := by
  refine ⟨hstep.of_eq rfl rfl, isSending_of_tx htx, hsize, ?_, fun hne => absurd htx hne, hsilent⟩
  rw [writeChunk_state, chunkEnd]
  dsimp only
  omega

/-! ### The events -/

private theorem Underway.onAlarm (h : Underway total b) (space : Nat) : Advances total b 1 (b.onAlarm space) := by
  have hstep := h.inStep.onAlarm space
  cases htx : b.tx with
  | inBreak =>
    have hphase : b.sequence.phase = .low := by simpa only [InStep, htx] using h.inStep
    have hcursor : b.txCursor = 0 := h.untouched (by simp [htx])
    rw [onAlarm_low hphase] at hstep ⊢
    refine ⟨⟨hstep, rfl, h.size, h.cursor_le, fun _ => hcursor, h.silent⟩, .nil _, ?_, ?_⟩
    · exact reportsSent_eq_false (by simp) h.silent
    · simp only [alarmsLeft, htx, Nat.le_refl]
  | inMark =>
    have hphase : b.sequence.phase = .mark := by simpa only [InStep, htx] using h.inStep
    rw [onAlarm_mark hphase] at hstep ⊢
    have hready : InStep { b with sequence := { b.sequence with phase := .idle }, tx := .sending } := rfl
    refine ⟨underway_writeChunk hready rfl h.size h.cursor_le h.silent space, ?_, ?_, ?_⟩
    · exact tiles_writeChunk (b := { b with sequence := _, tx := .sending }) (h.size ▸ h.cursor_le) space
    · refine reportsSent_eq_false (fun n hn => ?_) h.silent
      simp [not_notify_writeChunk] at hn
    · simp only [alarmsLeft, htx, Nat.le_add_left]
  | sending =>
    have hphase : b.sequence.phase = .idle := by simpa only [InStep, htx] using h.inStep
    rw [onAlarm_idle hphase, if_neg (ne_true_of_eq_false h.silent)]
    exact h.advances_unchanged 1
  | idle | done =>
    have hsending := h.sending
    simp [isSending, htx] at hsending

private theorem Underway.txReady (h : Underway total b) (space now : Nat) :
    Advances total b 0 (b.handle (.txReady space) now) := by
  unfold handle
  dsimp only
  split
  · rename_i htx
    refine ⟨underway_writeChunk h.inStep htx h.size h.cursor_le h.silent space,
      tiles_writeChunk (h.size ▸ h.cursor_le) space, ?_, ?_⟩
    · exact reportsSent_eq_false (fun n hn => absurd hn (not_notify_writeChunk n)) h.silent
    · rw [alarmsLeft_of_sending htx]
      exact Nat.zero_le _
  · exact h.advances_unchanged 0

private theorem Underway.onTxDone (h : Underway total b) (now : Nat) :
    Advances total b 0 (b.onTxDone now) ∨ Completes total b (b.onTxDone now) := by
  rcases onTxDone_cases b now with heq | ⟨htx, hall, hend⟩
  · rw [heq]
    exact .inl (h.advances_unchanged 0)
  · have hcursor : b.txCursor = total := by
      have := h.size
      have := h.cursor_le
      omega
    right
    rcases hend with ⟨hreply, heq⟩ | ⟨hreply, heq⟩ <;> rw [heq] <;>
      exact ⟨rfl, hcursor, rfl, rfl, rfl, alarmsLeft_of_sending htx⟩

private theorem Underway.received (h : Underway total b) {result : List Effect × Bus}
    (hresult : ∃ ended turned, Received b ended turned result) : Advances total b 0 result := by
  obtain ⟨ended, turned, hreceived⟩ := hresult
  have hsilent : result.2.awaiting = false := by rw [hreceived.awaiting, h.silent, Bool.false_and]
  have hwritten : written result.1 = [] := by
    rw [← written_controls, hreceived.controls, h.silent, Bool.and_false]
    cases turned <;> rfl
  exact h.advances_of_eq (h.inStep.of_eq hreceived.tx hreceived.sequence) hreceived.tx hreceived.txCursor
    hreceived.txSize
    hsilent hreceived.origin hwritten 0

/-- An event leaves a frame on its way, or it tells that all of it was sent. -/
theorem Underway.handle (h : Underway total b) (event : BusEvent) (now : Nat) :
    Advances total b (alarms [(event, now)]) (b.handle event now) ∨ Completes total b (b.handle event now) := by
  cases event with
  | startTransmit length expectsReply withBreak space =>
    left
    have hrefused : b.handle (.startTransmit length expectsReply withBreak space) now = ([], b) :=
      startTransmit_of_sending h.sending
    rw [hrefused]
    exact h.advances_unchanged 0
  | alarm space => exact .inl (h.onAlarm space)
  | txReady space => exact .inl (h.txReady space now)
  | txDone => exact h.onTxDone now
  | «break» => exact .inl (h.received received_onBreak)
  | lineRising => exact .inl (h.received (received_lineRising now))
  | received count => exact .inl (h.received (received_onReceived count now))
  | lineFault fault count => exact .inl (h.received (received_onLineFault fault count now))
  | collision => exact .inl (h.received (received_onCollision now))
  | receiveRequested =>
    left
    have hrefused : b.handle .receiveRequested now = ([], b) := if_neg (by simp [h.sending])
    rw [hrefused]
    exact h.advances_unchanged 0

/-! ### A run -/

/-- How far a frame has come after `events`. -/
structure Progress (total : Nat) (b : Bus) (events : List (BusEvent × Nat)) : Prop where
  tiles : Tiles b.txCursor (written (b.handleAll events).1) (b.handleAll events).2.txCursor
  underway : (b.handleAll events).2.isSending = true → Underway total (b.handleAll events).2
  covered : (b.handleAll events).2.isSending = false → (b.handleAll events).2.txCursor = total
  reports : b.reports events = if (b.handleAll events).2.isSending then 0 else 1
  alarms_le : b.alarmsLeft ≤ (b.handleAll events).2.alarmsLeft + alarms events

/-- As long as the break or its mark lasts no slot is written. -/
private theorem Progress.cursor_of_alarmsLeft {events : List (BusEvent × Nat)} (h : Progress total b events)
    (hleft : 0 < (b.handleAll events).2.alarmsLeft) : (b.handleAll events).2.txCursor = 0 := by
  obtain ⟨hsending, hwaits⟩ := waits_of_alarmsLeft hleft
  exact (h.underway hsending).untouched hwaits

theorem Underway.handleAll {events : List (BusEvent × Nat)} (h : Underway total b)
    (hthrough : b.SendsThrough events) :
    Progress total b events := by
  induction events generalizing b with
  | nil =>
    refine ⟨.nil _, fun _ => h, fun hover => ?_, ?_, Nat.le_refl _⟩
    · exact absurd h.sending (ne_true_of_eq_false hover)
    · exact (if_pos h.sending).symm
  | cons first rest ih =>
    obtain ⟨event, now⟩ := first
    have halarms : alarms ((event, now) :: rest) = alarms [(event, now)] + alarms rest := by
      show alarms ([(event, now)] ++ rest) = _
      exact List.countP_append
    rcases h.handle event now with hadvances | hcompletes
    · have hrest := ih hadvances.underway hthrough.2
      refine ⟨?_, hrest.underway, hrest.covered, ?_, ?_⟩
      · rw [Bus.handleAll, written_append]
        exact hadvances.tiles.append hrest.tiles
      · rw [Bus.reports, hadvances.unreported, hrest.reports, if_neg Bool.false_ne_true, Nat.zero_add]
        rfl
      · have := hadvances.alarms_le
        have := hrest.alarms_le
        rw [Bus.handleAll, halarms]
        dsimp only
        omega
    · -- Nothing comes after the end, since every event comes while the frame is on its way.
      obtain rfl : rest = [] := by
        cases rest with
        | nil => rfl
        | cons => exact absurd hthrough.2.1 (ne_true_of_eq_false hcompletes.ended)
      have hover : (b.handleAll [(event, now)]).2.isSending = false := hcompletes.ended
      have heffects : (b.handleAll [(event, now)]).1 = (b.handle event now).1 ++ [] := rfl
      refine ⟨?_, fun hsending => ?_, fun _ => ?_, ?_, ?_⟩
      · rw [heffects, List.append_nil, hcompletes.written, ← hcompletes.cursor_eq]
        exact .nil _
      · exact absurd hsending (ne_true_of_eq_false hover)
      · exact hcompletes.cursor_eq.trans hcompletes.cursor
      · rw [hover, Bus.reports, hcompletes.reported]
        rfl
      · rw [hcompletes.noAlarms]
        exact Nat.zero_le _

/-! ### From the beginning -/

/-- The transmission has begun, and of its slots those are written for which there is room. -/
structure Begins (total : Nat) (result : List Effect × Bus) : Prop where
  underway : Underway total result.2
  tiles : Tiles 0 (written result.1) result.2.txCursor
  unreported : reportsSent result = false

private theorem InStep.begins_withBreak {length : Nat} (hstep : b.InStep) (hidle : b.isSending = false)
    (hlength : length ≠ 0) (expectsReply : Bool) (space : Nat) :
    Begins (min length maxFrameSize) (b.startTransmit length expectsReply true space) ∧
      (b.startTransmit length expectsReply true space).2.alarmsLeft = 2 := by
  have hstep := hstep.startTransmit length expectsReply true space
  rw [startTransmit_withBreak hidle hlength] at hstep ⊢
  exact ⟨⟨⟨hstep, rfl, rfl, Nat.zero_le _, fun _ => rfl, rfl⟩, .nil _, reportsSent_eq_false (by simp) rfl⟩, rfl⟩

private theorem InStep.begins_bare {length : Nat} (hstep : b.InStep) (hidle : b.isSending = false)
    (hlength : length ≠ 0) (expectsReply : Bool) (space : Nat) :
    Begins (min length maxFrameSize) (b.startTransmit length expectsReply false space) := by
  have hready : InStep { b.prepared length expectsReply false with tx := .sending } :=
    hstep.phase_of_not_sending hidle
  rw [startTransmit_bare hidle hlength]
  refine ⟨underway_writeChunk hready rfl rfl (Nat.zero_le _) rfl space, ?_, ?_⟩
  · have htiles := tiles_writeChunk (b := { b.prepared length expectsReply false with tx := .sending })
      (Nat.zero_le _) space
    exact (Tiles.nil 0).append htiles
  · refine reportsSent_eq_false (fun n hn => ?_) rfl
    simp [not_notify_writeChunk] at hn

theorem InStep.begins {length : Nat} (hstep : b.InStep) (hidle : b.isSending = false) (hlength : length ≠ 0)
    (expectsReply withBreak : Bool) (space : Nat) :
    Begins (min length maxFrameSize) (b.startTransmit length expectsReply withBreak space) := by
  cases withBreak with
  | true => exact (hstep.begins_withBreak hidle hlength expectsReply space).1
  | false => exact hstep.begins_bare hidle hlength expectsReply space

theorem SendsThrough.before {before after : List (BusEvent × Nat)} {event : BusEvent} {now : Nat}
    (h : b.SendsThrough (before ++ (event, now) :: after)) :
    b.SendsThrough before ∧ (b.handleAll before).2.isSending = true := by
  induction before generalizing b with
  | nil => exact ⟨trivial, h.1⟩
  | cons first rest ih => exact ⟨⟨h.1, (ih h.2).1⟩, (ih h.2).2⟩

/-- Whatever happens while a frame is sent, the slots of the frame go to the fifo one behind the other and each of
them once.  The end is reported once, after all of them are written.  A break and its mark come before the first
one. -/
theorem transmission_in_order {length : Nat} (hb : b.Reachable) (hidle : b.isSending = false) (hlength : 1 ≤ length)
    (expectsReply withBreak : Bool) (space now : Nat) (events : List (BusEvent × Nat))
    (hthrough : (b.handle (.startTransmit length expectsReply withBreak space) now).2.SendsThrough events) :
    let begun := b.handle (.startTransmit length expectsReply withBreak space) now
    let run := begun.2.handleAll events
    let total := min length maxFrameSize
    begun.2.isSending = true ∧
    (∃ last ≤ total, Tiles 0 (written (begun.1 ++ run.1)) last ∧ (run.2.isSending = false → last = total)) ∧
    reportsSent begun = false ∧
    begun.2.reports events = (if run.2.isSending then 0 else 1) ∧
    (∀ before event time after, events = before ++ (event, time) :: after →
      reportsSent ((begun.2.handleAll before).2.handle event time) = true →
      Tiles 0 (written (begun.1 ++ (begun.2.handleAll before).1)) total) ∧
    (withBreak = true → alarms events < 2 → written (begun.1 ++ run.1) = []) ∧
    (run.2.isSending = true → ∀ length expectsReply withBreak space now,
      run.2.handle (.startTransmit length expectsReply withBreak space) now = ([], run.2)) := by
  intro begun run total
  have hbegins : Begins total begun := hb.inStep.begins hidle (Nat.ne_of_gt hlength) expectsReply withBreak space
  have hprogress := hbegins.underway.handleAll hthrough
  have htiles : Tiles 0 (written (begun.1 ++ run.1)) run.2.txCursor := by
    rw [written_append]
    exact hbegins.tiles.append hprogress.tiles
  refine ⟨hbegins.underway.sending, ⟨run.2.txCursor, ?_, htiles, hprogress.covered⟩, hbegins.unreported,
    hprogress.reports, ?_, ?_, ?_⟩
  · cases hsending : run.2.isSending with
    | true => exact (hprogress.underway hsending).cursor_le
    | false => exact Nat.le_of_eq (hprogress.covered hsending)
  · rintro before event time after rfl hreports
    obtain ⟨hbefore, hsending⟩ := SendsThrough.before hthrough
    have hsofar := hbegins.underway.handleAll hbefore
    -- Only the event that ends the transmission reports it, and then all slots are written.
    rcases (hsofar.underway hsending).handle event time with hadvances | hcompletes
    · exact absurd hreports (ne_true_of_eq_false hadvances.unreported)
    · rw [written_append, ← hcompletes.cursor]
      exact hbegins.tiles.append hsofar.tiles
  · rintro rfl hfew
    -- Two alarms are due before the first slot, and each event that is no alarm leaves them due.
    have hleft : begun.2.alarmsLeft = 2 :=
      (hb.inStep.begins_withBreak hidle (Nat.ne_of_gt hlength) expectsReply space).2
    have halarms := hprogress.alarms_le
    have hcursor : run.2.txCursor = 0 := hprogress.cursor_of_alarmsLeft (by omega)
    rw [hcursor] at htiles
    exact htiles.eq_nil
  · intro hsending length expectsReply withBreak space now
    exact startTransmit_of_sending hsending

/-- Three slots are sent after a break.  The fifo has room for one, then for none, then for two, and the uart tells an
end too early. -/
theorem transmission_in_order_three :
    let b := Bus.new .controller .standard
    let events : List (BusEvent × Nat) :=
      [(.alarm 4, 100), (.alarm 1, 112), (.txDone, 120), (.txReady 0, 130), (.«break», 140),
      (.txReady 2, 150), (.startTransmit 7 true false 8, 160), (.txDone, 250)]
    let begun := b.handle (.startTransmit 3 false true 5) 0
    written (begun.1 ++ (begun.2.handleAll events).1) = [(0, 1), (1, 3)] ∧ begun.2.reports events = 1 := by
  have hthrough : ((Bus.new .controller .standard).handle (.startTransmit 3 false true 5) 0).2.SendsThrough
      [(.alarm 4, 100), (.alarm 1, 112), (.txDone, 120), (.txReady 0, 130), (.«break», 140), (.txReady 2, 150),
        (.startTransmit 7 true false 8, 160), (.txDone, 250)] :=
    ⟨rfl, rfl, rfl, rfl, rfl, rfl, rfl, rfl, trivial⟩
  have hsent := transmission_in_order (.new .controller .standard) rfl (by decide : 1 ≤ 3) false true 5 0 _ hthrough
  exact ⟨rfl, hsent.2.2.2.1⟩

end Bus

end LightBus
