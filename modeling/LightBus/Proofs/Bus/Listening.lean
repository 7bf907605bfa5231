import LightBus.Proofs.Bus.Steps

/-!
# A bus that listens

After a request the bus listens for an answer.  Whatever comes in leaves a trace, which is the cursor or a notice
(`Bus.Listens`).  Each event keeps the trace, but a break, with which the cursor begins anew (`Bus.Listens.onBreak`).
`Bus.Expects` is about the time since the request began.

What the receiver tells of a reception is never that nothing came (`Bus.Reports`).  Before a reception nothing was
counted (`Bus.Fresh`).
-/

namespace LightBus.Bus

variable {b b' : Bus} {heard heard' told told' turned turned' : Prop} {effects : List Effect}
  {result : List Effect × Bus}

/-! ### Counting -/

theorem cursor_conclude (overflow : Bool) (now : Nat) : (b.conclude overflow now).2.cursor = b.cursor := by
  have hconcluded := b.concluded_conclude overflow now
  generalize b.conclude overflow now = result at hconcluded ⊢
  cases hconcluded with
  | goesOn | failed => rfl
  | ended _ _ hover => exact hover.after.2.2.2.1

private theorem rx_conclude (hrx : b.rx ≠ .idle) (overflow : Bool) (now : Nat) :
    (b.conclude overflow now).2.rx ≠ .idle := by
  have hconcluded := b.concluded_conclude overflow now
  generalize b.conclude overflow now = result at hconcluded ⊢
  cases hconcluded with
  | goesOn => exact hrx
  | failed => exact nofun
  | ended _ _ hover =>
    rw [hover.after.1]
    exact nofun

theorem rx_onReceived (count now : Nat) : (b.onReceived count now).2.rx ≠ .idle := by
  unfold onReceived
  dsimp only
  split
  · rename_i hcomplete
    have hover : b.rx ≠ .idle := by
      rw [hcomplete]
      exact nofun
    split
    · split
      · exact nofun
      · exact hover
    · exact hover
  · rename_i hfailed
    rw [hfailed]
    exact nofun
  · exact rx_conclude (by exact nofun) _ now

private theorem isFinished_of_rx (h : b.frameFinished = true) : b.rx ≠ .idle := by
  intro hrx
  simp [frameFinished, hrx] at h

/-- There is always room for the first slot. -/
private theorem Bounded.cursor_advance (hb : b.Bounded) {count : Nat} (hcount : 0 < count) :
    0 < (b.advance count).cursor := by
  have hframe := hb.frame
  have hcursor := hb.cursor
  rw [maxFrameSize] at hframe hcursor
  rw [Bus.advance, window]
  dsimp only
  omega

/-- Slots are counted, unless a reception has ended before them. -/
theorem onReceived_cases (hb : b.Bounded) {count : Nat} (hcount : 0 < count) (now : Nat) :
    (b.onReceived count now).2.rx ≠ .idle ∧
      (0 < (b.onReceived count now).2.cursor ∨ b.frameFinished = true ∧ b.onReceived count now = ([], b)) := by
  have hadvanced := hb.cursor_advance hcount
  unfold onReceived
  dsimp only
  split
  · rename_i hrx
    have hfinished : b.frameFinished = true := by simp [frameFinished, hrx]
    split
    · split
      · exact ⟨nofun, .inl hadvanced⟩
      · refine ⟨?_, .inl hadvanced⟩
        show b.rx ≠ .idle
        rw [hrx]
        exact nofun
    · exact ⟨isFinished_of_rx hfinished, .inr ⟨hfinished, rfl⟩⟩
  · rename_i hrx
    have hfinished : b.frameFinished = true := by simp [frameFinished, hrx]
    exact ⟨isFinished_of_rx hfinished, .inr ⟨hfinished, rfl⟩⟩
  · refine ⟨rx_conclude (b := { b.advance count with rx := .receiving }) nofun _ now, .inl ?_⟩
    rw [cursor_conclude]
    exact hadvanced

/-! ### Nothing has come yet -/

/-- As long as a reception has not begun, no slots were counted and no break was seen. -/
def Fresh (b : Bus) : Prop := b.rx = .idle → b.cursor = 0 ∧ b.afterBreak = false

private theorem fresh_of_ne (h : b.rx ≠ .idle) : b.Fresh := fun hidle => absurd hidle h

theorem Fresh.of_eq (h : b.Fresh) (hrx : b'.rx = b.rx) (hcursor : b'.cursor = b.cursor)
    (hbreak : b'.afterBreak = b.afterBreak) : b'.Fresh := by
  intro hidle
  rw [hcursor, hbreak]
  exact h (hrx ▸ hidle)

private theorem fresh_startTransmit (h : b.Fresh) (length : Nat) (expectsReply withBreak : Bool) (space : Nat) :
    (b.startTransmit length expectsReply withBreak space).2.Fresh := by
  unfold startTransmit
  split
  · exact h
  split
  · dsimp only
    split <;> exact fun _ => ⟨rfl, rfl⟩
  · exact fun _ => ⟨rfl, rfl⟩

private theorem fresh_onAlarm (h : b.Fresh) (space : Nat) : (b.onAlarm space).2.Fresh := by
  unfold onAlarm
  dsimp only
  split
  · exact h.of_eq rfl rfl rfl
  · exact h.of_eq rfl rfl rfl
  · exact h.of_eq rfl rfl rfl
  · split <;> exact h.of_eq rfl rfl rfl

private theorem fresh_onTxDone (h : b.Fresh) (now : Nat) : (b.onTxDone now).2.Fresh := by
  unfold onTxDone
  split
  · exact h
  · dsimp only
    split <;> exact fun _ => ⟨rfl, rfl⟩

private theorem Fresh.handle (h : b.Fresh) (event : BusEvent) (now : Nat) : (b.handle event now).2.Fresh := by
  cases event with
  | startTransmit length expectsReply withBreak space =>
    exact fresh_startTransmit h length expectsReply withBreak space
  | alarm space => exact fresh_onAlarm h space
  | txReady space =>
    simp only [Bus.handle]
    split
    · exact h.of_eq rfl rfl rfl
    · exact h
  | txDone => exact fresh_onTxDone h now
  | «break» =>
    intro hidle
    cases hidle
  | lineRising =>
    simp only [Bus.handle]
    split
    · intro hidle
      cases hidle
    · exact h
  | received count => exact fresh_of_ne (rx_onReceived count now)
  | lineFault fault count =>
    simp only [Bus.handle, onLineFault]
    split
    · exact h
    · intro hidle
      cases hidle
  | collision =>
    simp only [Bus.handle, onCollision]
    split
    · intro hidle
      cases hidle
    · exact h
  | receiveRequested =>
    simp only [Bus.handle]
    split
    · exact fun _ => ⟨rfl, rfl⟩
    · exact h

theorem Reachable.fresh (h : b.Reachable) : b.Fresh := by
  induction h with
  | new mode timing => exact fun _ => ⟨rfl, rfl⟩
  | handle _ event now ih => exact ih.handle event now
  | start _ _ => exact fun _ => ⟨rfl, rfl⟩
  | stop _ ih | write _ _ _ ih | setMode _ _ ih | setTiming _ _ ih => exact ih.of_eq rfl rfl rfl

/-! ### Notices -/

/-- What a step of the receiver tells: something was received, and the bus turns around only after that. -/
structure Reports (b : Bus) (result : List Effect × Bus) : Prop where
  status (n : Notice) (hn : .notify n ∈ result.1) : n.status ≠ .timeout
  turned (h : result.2.receiving = false) :
    b.receiving = false ∨ (∃ n, .notify n ∈ result.1) ∧ result.2.awaiting = false

theorem reports_of_quiet (hreceiving : b'.receiving = b.receiving)
    (heffects : effects = [] ∨ effects = [.resetRxFifo]) :
    Reports b (effects, b') := by
  refine ⟨fun n hn => ?_, fun h => .inl (hreceiving ▸ h)⟩
  rcases heffects with rfl | rfl <;> simp at hn

theorem notify_finish (status : Status) (kind : FrameKind) (size now : Nat) :
    .notify ⟨status, .receive, kind, size, none⟩ ∈ (b.finish status kind size now).1 :=
  List.mem_append_right _ List.mem_cons_self

private theorem reports_finish (status : Status) (hstatus : status ≠ .timeout) (kind : FrameKind) (size now : Nat) :
    Reports b (b.finish status kind size now) := by
  refine ⟨fun n hn => ?_, .inl⟩
  rcases List.mem_append.1 hn with hn | hn
  · split at hn <;> simp at hn
  · simp only [List.mem_singleton, Effect.notify.injEq] at hn
    rw [hn]
    exact hstatus

private theorem reports_fail (status : Status) (hstatus : status ≠ .timeout) (kind : FrameKind) (now : Nat) :
    Reports b (b.fail status kind now) := by
  have h := reports_finish (b := b) status hstatus kind b.cursor now
  exact ⟨h.status, h.turned⟩

private theorem reports_turnAround (status : Status) (hstatus : status ≠ .timeout) (kind : FrameKind)
    (size now : Nat) :
    Reports b ((b.finish status kind size now).1 ++ (b.finish status kind size now).2.turnAround.1,
      (b.finish status kind size now).2.turnAround.2) := by
  refine ⟨fun n hn => ?_, fun _ => .inr ⟨⟨_, List.mem_append_left _ (notify_finish status kind size now)⟩, rfl⟩⟩
  rcases List.mem_append.1 hn with hn | hn
  · exact (reports_finish status hstatus kind size now).status n hn
  · simp [turnAround] at hn

private theorem reports_conclude (overflow : Bool) (now : Nat) : Reports b (b.conclude overflow now) := by
  have hconcluded := b.concluded_conclude overflow now
  generalize b.conclude overflow now = result at hconcluded ⊢
  cases hconcluded with
  | goesOn => exact reports_of_quiet rfl (.inl rfl)
  | failed hstatus => exact reports_fail _ hstatus _ now
  | ended hstatus _ hover =>
    cases hover with
    | stays => exact reports_finish _ hstatus _ _ now
    | turns => exact reports_turnAround _ hstatus _ _ now

private theorem Reports.of_receiving (h : Reports b' result) (hreceiving : b'.receiving = b.receiving) :
    Reports b result :=
  ⟨h.status, fun hturned => (h.turned hturned).imp_left fun hoff => hreceiving ▸ hoff⟩

private theorem Reports.resetRxFifo (h : Reports b result) : Reports b (result.1 ++ [.resetRxFifo], result.2) := by
  refine ⟨fun n hn => ?_, fun hturned => (h.turned hturned).imp_right fun ⟨⟨n, hn⟩, hawaiting⟩ => ?_⟩
  · rcases List.mem_append.1 hn with hn | hn
    · exact h.status n hn
    · simp at hn
  · exact ⟨⟨n, List.mem_append_left _ hn⟩, hawaiting⟩

theorem reports_onReceived (count now : Nat) : Reports b (b.onReceived count now) := by
  unfold onReceived
  dsimp only
  split
  · split
    · split
      · exact (reports_fail .tooLarge (by decide) _ now).of_receiving rfl
      · exact reports_of_quiet rfl (.inl rfl)
    · exact reports_of_quiet rfl (.inl rfl)
  · exact reports_of_quiet rfl (.inl rfl)
  · exact (reports_conclude _ now).of_receiving rfl

theorem reports_onLineFault (fault : LineFault) (count now : Nat) : Reports b (b.onLineFault fault count now) := by
  unfold onLineFault
  split
  · exact reports_of_quiet rfl (.inr rfl)
  · have hfail (status : Status) (hstatus : status ≠ .timeout) (kind : FrameKind) :
        Reports b ((b.advance count).fail status kind now) := (reports_fail status hstatus kind now).of_receiving rfl
    cases fault with
    | framing => exact (hfail .framing (by decide) _).resetRxFifo
    | overflow => exact (hfail .overflow (by decide) _).resetRxFifo

theorem reports_onCollision (now : Nat) : Reports b (b.onCollision now) := by
  unfold onCollision
  split
  · exact (reports_fail .collision (by decide) _ now).resetRxFifo
  · exact reports_of_quiet rfl (.inr rfl)

/-! ### Traces -/

/-- Nothing is being sent.  If something was heard, the slots that were counted show it, or it has been `told`.  If
the bus has turned around, then because of a reception (`turned`). -/
structure Listens (heard told turned : Prop) (b : Bus) : Prop where
  idle : b.isSending = false
  shown : heard → 0 < b.cursor ∨ told
  finished : b.frameFinished = true → 0 < b.cursor ∨ told
  silent : b.awaiting = true → b.rx = .idle → ¬heard
  turned : b.receiving = false → turned ∧ b.awaiting = false

theorem Listens.mono (h : b.Listens heard told turned) (hheard : heard' → heard) (htold : told → told')
    (hturned : turned → turned') : b.Listens heard' told' turned' where
  idle := h.idle
  shown hh := (h.shown (hheard hh)).imp_right htold
  finished hf := (h.finished hf).imp_right htold
  silent ha hrx hh := h.silent ha hrx (hheard hh)
  turned hoff := (h.turned hoff).imp_left hturned

private theorem Listens.fill (h : b.Listens heard told turned) (slots : List UInt8) :
    (b.fill slots).Listens heard told turned :=
  ⟨h.idle, h.shown, h.finished, h.silent, h.turned⟩

/-- A step of the receiver that leaves a trace. -/
private theorem Listens.received (h : b.Listens heard told turned)
    (hreceived : ∃ ended around, Received b ended around result) (hreports : Reports b result)
    (hturned : turned → turned') (hnew : (∃ n, .notify n ∈ result.1) → turned')
    (hshown : heard' → 0 < result.2.cursor ∨ told')
    (hfinished : result.2.frameFinished = true → 0 < result.2.cursor ∨ told')
    (hsilent : result.2.awaiting = true → result.2.rx = .idle → ¬heard') : result.2.Listens heard' told' turned' where
  idle := (isSending_of_received hreceived).trans h.idle
  shown := hshown
  finished := hfinished
  silent := hsilent
  turned hoff := by
    rcases hreports.turned hoff with hbefore | ⟨htold, hawaiting⟩
    · obtain ⟨hyes, hawaiting⟩ := h.turned hbefore
      obtain ⟨_, _, hreceived⟩ := hreceived
      refine ⟨hturned hyes, ?_⟩
      rw [hreceived.awaiting, hawaiting]
      rfl
    · exact ⟨hnew htold, hawaiting⟩

theorem Listens.onReceived (h : b.Listens heard told turned) (hb : b.Bounded) {count : Nat}
    (hcount : 0 < count) (now : Nat) (heard' : Prop) (htold : told → told') (hturned : turned → turned')
    (hnew : (∃ n, .notify n ∈ (b.onReceived count now).1) → turned') :
    (b.onReceived count now).2.Listens heard' told' turned' := by
  obtain ⟨hrx, hcases⟩ := onReceived_cases hb hcount now
  have hshown : 0 < (b.onReceived count now).2.cursor ∨ told' := by
    rcases hcases with hcursor | ⟨hfinished, hsame⟩
    · exact .inl hcursor
    · rw [hsame]
      exact (h.finished hfinished).imp_right htold
  exact h.received (received_onReceived count now) (reports_onReceived count now) hturned hnew (fun _ => hshown)
    (fun _ => hshown) fun _ hidle => absurd hidle hrx

/-- A fault of the line ends the reception, if it has not ended before. -/
theorem Listens.onLineFault (h : b.Listens heard told turned) (fault : LineFault) (count now : Nat) (heard' : Prop)
    (htold : told → told') (hturned : turned → turned')
    (hnew : (∃ n, .notify n ∈ (b.onLineFault fault count now).1) → told' ∧ turned') :
    (b.onLineFault fault count now).2.Listens heard' told' turned' := by
  have hresult :
      (b.onLineFault fault count now).2.rx ≠ .idle ∧ (0 < (b.onLineFault fault count now).2.cursor ∨ told') := by
    unfold Bus.onLineFault at hnew ⊢
    split
    · rename_i hfinished
      exact ⟨isFinished_of_rx hfinished, (h.finished hfinished).imp_right htold⟩
    · rename_i hopen
      rw [if_neg hopen] at hnew
      exact ⟨nofun, .inr (hnew ⟨_, List.mem_append_left _ (notify_finish _ _ _ now)⟩).1⟩
  exact h.received (received_onLineFault fault count now) (reports_onLineFault fault count now) hturned
    (fun htold => (hnew htold).2) (fun _ => hresult.2) (fun _ => hresult.2) fun _ hidle => absurd hidle hresult.1

theorem Listens.onCollision (h : b.Listens heard told turned) (now : Nat) (htold : told → told')
    (hturned : turned → turned') (hnew : (∃ n, .notify n ∈ (b.onCollision now).1) → told' ∧ turned') :
    (b.onCollision now).2.Listens heard told' turned' := by
  have hkept := h.mono id htold hturned
  unfold Bus.onCollision at hnew ⊢
  split
  · rename_i hends
    rw [if_pos hends] at hnew
    obtain ⟨hyes, hturned'⟩ := hnew ⟨_, List.mem_append_left _ (notify_finish _ _ _ now)⟩
    exact ⟨h.idle, fun _ => .inr hyes, fun _ => .inr hyes, fun _ => nofun, fun _ => ⟨hturned', rfl⟩⟩
  · exact hkept

theorem Listens.lineRising (h : b.Listens heard told turned) (now : Nat) :
    (b.handle .lineRising now).2.Listens heard told turned := by
  unfold handle
  dsimp only
  split
  · exact ⟨h.idle, h.shown, nofun, fun _ => nofun, h.turned⟩
  · exact h

/-- With a break the slots are counted anew, and those before it have left no trace. -/
theorem Listens.onBreak (h : b.Listens heard told turned) : b.onBreak.2.Listens False told turned :=
  ⟨h.idle, nofun, nofun, fun _ => nofun, h.turned⟩

/-- If nothing has come by the time that the bus no longer waits for a response, nothing was heard. -/
theorem Listens.onAlarm (h : b.Listens heard told turned) (hstep : b.InStep) (space : Nat)
    (hkept : ¬(b.awaiting = true ∧ b.rx = .idle) → (told → told') ∧ (turned → turned')) :
    (b.onAlarm space).2.Listens heard told' turned' := by
  rw [onAlarm_idle (hstep.phase_of_not_sending h.idle)]
  by_cases hsilent : b.awaiting = true ∧ b.rx = .idle
  · rw [if_pos hsilent.1]
    refine ⟨h.idle, fun hheard => absurd hheard (h.silent hsilent.1 hsilent.2), fun hfinished => ?_, nofun,
      fun hoff => ?_⟩
    · exact absurd hsilent.2 (isFinished_of_rx hfinished)
    · exact absurd hsilent.1 (ne_true_of_eq_false (h.turned hoff).2)
  · have hlistens := h.mono id (hkept hsilent).1 (hkept hsilent).2
    split
    · exact ⟨hlistens.idle, hlistens.shown, hlistens.finished, nofun, fun hoff => ⟨(hlistens.turned hoff).1, rfl⟩⟩
    · exact hlistens

/-- The transmitter has nothing to do. -/
theorem Listens.handle_sender (h : b.Listens heard told turned) {event : BusEvent}
    (hevent : event = .txDone ∨ ∃ space, event = .txReady space) (now : Nat) : b.handle event now = ([], b) := by
  have htx : b.tx ≠ .sending := by
    intro htx
    have hidle := h.idle
    simp [isSending, htx] at hidle
  rcases hevent with rfl | ⟨space, rfl⟩
  · exact onTxDone_early (.inl htx)
  · exact if_neg htx

/-- When the last slot leaves, the bus begins to listen, and nothing has been received. -/
private theorem listens_onTxDone (hsending : b.isSending = true) (now : Nat) (told turned : Prop) :
    (b.onTxDone now).2.isSending = true ∨ (b.onTxDone now).2.Listens False told turned := by
  rcases onTxDone_cases b now with heq | ⟨-, -, ⟨-, heq⟩ | ⟨-, heq⟩⟩ <;> rw [heq]
  · exact .inl hsending
  · exact .inr ⟨rfl, nofun, nofun, fun _ _ => id, nofun⟩
  · exact .inr ⟨rfl, nofun, nofun, fun _ _ => id, nofun⟩

/-- If the bus begins to listen anew, what it has heard was told. -/
private theorem Listens.receiveRequested (h : b.Listens heard told turned) (htold : turned → told) (now : Nat) :
    (b.handle .receiveRequested now).2.Listens heard told turned := by
  unfold handle
  dsimp only
  split
  · rename_i hready
    obtain ⟨hyes, hawaiting⟩ := h.turned (by simpa using hready.2)
    refine ⟨h.idle, fun _ => .inr (htold hyes), nofun, fun hwaits => ?_, nofun⟩
    exact absurd hwaits (ne_true_of_eq_false hawaiting)
  · exact h

/-! ### From the request on -/

/-- A request is being sent, and nothing has been heard, or the bus listens after it. -/
def Expects (heard told turned : Prop) (b : Bus) : Prop := b.isSending = true ∧ ¬heard ∨ b.Listens heard told turned

theorem Expects.mono (h : b.Expects heard told turned) (hheard : heard' → heard) (htold : told → told')
    (hturned : turned → turned') : b.Expects heard' told' turned' :=
  h.imp (fun h => ⟨h.1, fun hh => h.2 (hheard hh)⟩) fun h => h.mono hheard htold hturned

theorem Expects.fill (h : b.Expects heard told turned) (slots : List UInt8) :
    (b.fill slots).Expects heard told turned :=
  h.imp id fun h => h.fill slots

theorem Expects.not_heard (h : b.Expects heard told turned) (hsending : b.isSending = true) : ¬heard := by
  rcases h with h | h
  · exact h.2
  · exact absurd (h.idle.symm.trans hsending) Bool.false_ne_true

/-- While the request is being sent, the receiver does not matter. -/
theorem Expects.received (h : b.Expects heard told turned)
    (hreceived : ∃ ended around, Received b ended around result) (hheard : b.isSending = true → heard' → heard)
    (hlistens : b.Listens heard told turned → result.2.Listens heard' told' turned') :
    result.2.Expects heard' told' turned' :=
  h.imp (fun h => ⟨(isSending_of_received hreceived).trans h.1, fun hh => h.2 (hheard h.1 hh)⟩) hlistens

theorem isSending_onAlarm (hsending : b.isSending = true) (space : Nat) :
    (b.onAlarm space).2.isSending = true := by
  cases hphase : b.sequence.phase with
  | low =>
    rw [onAlarm_low hphase]
    rfl
  | mark =>
    rw [onAlarm_mark hphase]
    rfl
  | idle =>
    rw [onAlarm_idle hphase]
    split <;> exact hsending

/-- While the request is being sent, and when its last slot leaves, nothing is heard. -/
theorem expects_handle_sender (hsending : b.isSending = true) {event : BusEvent}
    (hevent : event = .txDone ∨ ∃ space, event = .txReady space) (now : Nat) (told turned : Prop) :
    (b.handle event now).2.Expects False told turned := by
  rcases hevent with rfl | ⟨space, rfl⟩
  · exact (listens_onTxDone hsending now told turned).imp_left fun h => ⟨h, id⟩
  · left
    simp only [handle]
    split <;> exact ⟨hsending, id⟩

theorem Expects.receiveRequested (h : b.Expects heard told turned) (htold : turned → told) (now : Nat) :
    (b.handle .receiveRequested now).2.Expects heard told turned := by
  refine h.imp (fun h => ?_) fun h => h.receiveRequested htold now
  unfold handle
  dsimp only
  rw [if_neg (by simp [h.1])]
  exact h

end LightBus.Bus
