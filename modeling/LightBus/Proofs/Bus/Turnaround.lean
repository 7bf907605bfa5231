import LightBus.Proofs.Bus.Listening
import LightBus.Proofs.Bus.Reception

/-!
# The bus after a request

A bus that has received a request for its port turns around: it receives nothing more, and is ready for the answer.
As long as nothing comes in (`Bus.Calm`), the time of the last frame stays that of the request, whatever else happens
(`Bus.heeds_of_bringsNothing`).

A task may switch the receiver on again before it takes the request.  Then the first slot or error that comes in
disturbs the calm (`Bus.Disturbs`).
-/

namespace LightBus

/-- The event tells of slots, or of an error after them. -/
def BusEvent.bringsIn : BusEvent → Bool
  | .received count => decide (0 < count)
  | .lineFault _ _ => true
  | _ => false

/-- The event tells of no slots, and is not the start of a transmission. -/
def BusEvent.bringsNothing : BusEvent → Bool
  | .received _ | .lineFault _ _ | .startTransmit _ _ _ _ => false
  | _ => true

private theorem BusEvent.not_start_of_bringsNothing {event : BusEvent} (h : event.bringsNothing = true) :
    event.isStart = false := by
  cases event <;> first | rfl | cases h

/-- A full buffer is never part of a longer package. -/
private theorem classify_of_full {slots : List UInt8} (hstart : slots.head? = some rdmStart)
    (hfull : slots.length = maxFrameSize) (afterBreak : Bool) (sizeGuess : Nat) :
    classify slots afterBreak sizeGuess ≠ .incomplete := by
  cases afterBreak with
  | false =>
    obtain ⟨rest, rfl⟩ := List.head?_eq_some_iff.1 hstart
    have hreply : classifyReply (rdmStart :: rest) = .malformed .discoveryReply :=
      if_pos ⟨(by decide : some rdmStart ≠ some preambleByte), (by decide : some rdmStart ≠ some separatorByte)⟩
    show classifyReply (rdmStart :: rest) ≠ .incomplete
    rw [hreply]
    intro h
    cases h
  | true =>
    have hlong : 2 < slots.length := by rw [hfull, maxFrameSize]; omega
    have hle := announcedSize_le slots[2]
    rw [maxPackageSize] at hle
    rw [classify_package hstart (List.getElem?_eq_getElem hlong) (by rw [hfull, maxFrameSize]; omega)]
    intro h
    cases h

namespace Bus

variable {b b' : Bus} {now : Nat}

/-- The last frame is a request that the port has to answer. -/
def holdsRequest (b : Bus) : Bool :=
  b.rx == .complete && b.rxKind == .package && packageStatus (b.frame.take b.rxSize) == .ok && b.isOwnRequest b.rxSize

/-- Nothing is being sent or awaited, and nothing has come in since the bus turned around or began to receive. -/
structure Calm (b : Bus) : Prop where
  idle : b.isSending = false
  settled : b.awaiting = false
  deaf : b.frameFinished = true → b.receiving = false
  empty : b.frameFinished = false → b.cursor = 0

/-- Slots or an error have come in from `b` to `b'`, with the receiver switched on. -/
def Disturbs (b b' : Bus) : Prop :=
  b.receiving = true ∧ (b'.frameFinished = true ∧ b'.rx ≠ b.rx ∨ 0 < b'.cursor)

/-- What the bus knows of its last request is heeded from `b` to `b'`, at the time `now`. -/
structure Heeds (b : Bus) (now : Nat) (b' : Bus) : Prop where
  idle (h : b.isSending = false) : b'.isSending = false
  calm (h : b.Calm) : b'.Calm ∧ b'.lastFrameAt = b.lastFrameAt ∨ Disturbs b b'
  request (hends : b'.rx ≠ b.rx) (h : b'.holdsRequest = true) : b'.Calm ∧ b'.lastFrameAt = now

private theorem complete_of_holdsRequest (h : b.holdsRequest = true) :
    b.rx = .complete ∧ b.rxKind = .package ∧ packageStatus (b.frame.take b.rxSize) = .ok ∧
    b.isOwnRequest b.rxSize = true := by
  unfold holdsRequest at h
  simpa [and_assoc] using h

/-- What neither sends nor receives may be changed. -/
theorem Calm.of_eq (h : b.Calm) (htx : b'.tx = b.tx) (hawaiting : b'.awaiting = b.awaiting) (hrx : b'.rx = b.rx)
    (hreceiving : b'.receiving = b.receiving) (hcursor : b'.cursor = b.cursor) : b'.Calm := by
  have hsending : b'.isSending = b.isSending := by unfold isSending; rw [htx]
  have hfinished : b'.frameFinished = b.frameFinished := by unfold frameFinished; rw [hrx]
  exact ⟨hsending.trans h.idle, hawaiting.trans h.settled,
    fun hf => hreceiving.trans (h.deaf (hfinished.symm.trans hf)),
    fun hf => hcursor.trans (h.empty (hfinished.symm.trans hf))⟩

theorem Heeds.of_eq (htx : b'.tx = b.tx) (hawaiting : b'.awaiting = b.awaiting) (hrx : b'.rx = b.rx)
    (hreceiving : b'.receiving = b.receiving) (hcursor : b'.cursor = b.cursor)
    (hlast : b'.lastFrameAt = b.lastFrameAt) :
    Heeds b now b' where
  idle h := by
    unfold isSending
    rw [htx]
    exact h
  calm h := .inl ⟨h.of_eq htx hawaiting hrx hreceiving hcursor, hlast⟩
  request hends _ := absurd hrx hends

/-- The buffer may have been changed before. -/
theorem Heeds.of_frame {frame : List UInt8} (h : Heeds { b with frame } now b') : Heeds b now b' where
  idle hidle := h.idle hidle
  calm hcalm := h.calm (hcalm.of_eq rfl rfl rfl rfl rfl)
  request hends hrequest := h.request hends hrequest

/-! ### Events -/

/-- Only slots end the reception of a whole frame. -/
private theorem rx_of_bringsNothing {event : BusEvent} (hevent : event.bringsNothing = true) (now : Nat) :
    (b.handle event now).2.rx = b.rx ∨ (b.handle event now).2.rx ≠ .complete := by
  cases event with
  | startTransmit | received | lineFault => cases hevent
  | alarm space =>
    simp only [handle, onAlarm]
    split
    · exact .inl rfl
    · exact .inl rfl
    · exact .inl rfl
    · split <;> exact .inl rfl
  | txReady space =>
    simp only [handle]
    split <;> exact .inl rfl
  | txDone =>
    show (b.onTxDone now).2.rx = b.rx ∨ (b.onTxDone now).2.rx ≠ .complete
    rcases onTxDone_cases b now with heq | ⟨-, -, ⟨-, heq⟩ | ⟨-, heq⟩⟩ <;> rw [heq]
    · exact .inl rfl
    · exact .inr (fun h => by cases h)
    · exact .inr (fun h => by cases h)
  | «break» => exact .inr (fun h => by cases h)
  | lineRising =>
    simp only [handle]
    split
    · exact .inr (fun h => by cases h)
    · exact .inl rfl
  | collision =>
    simp only [handle, onCollision]
    split
    · exact .inr (fun h => by cases h)
    · exact .inl rfl
  | receiveRequested =>
    simp only [handle]
    split
    · exact .inr (fun h => by cases h)
    · exact .inl rfl

/-- Where nothing has come in, there is nothing that an event could end. -/
private theorem Calm.handle (h : b.Calm) (hstep : b.InStep) {event : BusEvent} (hevent : event.bringsNothing = true)
    (now : Nat) :
    (b.handle event now).2.Calm ∧ (b.handle event now).2.lastFrameAt = b.lastFrameAt := by
  have htx : b.tx ≠ .sending := by
    intro htx
    have hidle := h.idle
    simp [isSending, htx] at hidle
  cases event with
  | startTransmit | received | lineFault => cases hevent
  | alarm space =>
    simp only [Bus.handle]
    rw [onAlarm_idle (hstep.phase_of_not_sending h.idle), h.settled, if_neg Bool.false_ne_true]
    exact ⟨h, rfl⟩
  | txReady space =>
    simp only [Bus.handle]
    rw [if_neg htx]
    exact ⟨h, rfl⟩
  | txDone =>
    simp only [Bus.handle]
    rw [onTxDone_early (.inl htx)]
    exact ⟨h, rfl⟩
  | «break» => exact ⟨⟨h.idle, h.settled, (fun hfinished => by cases hfinished), fun _ => rfl⟩, rfl⟩
  | lineRising =>
    simp only [Bus.handle]
    split
    · rename_i hbreak
      have hunfinished : b.frameFinished = false := by unfold frameFinished; rw [hbreak]
      exact ⟨⟨h.idle, h.settled, (fun hfinished => by cases hfinished), fun _ => h.empty hunfinished⟩, rfl⟩
    · exact ⟨h, rfl⟩
  | collision =>
    simp only [Bus.handle, onCollision]
    have hnothing : ¬((!b.frameFinished) = true ∧ (b.awaiting = true ∨ 0 < b.cursor)) := by
      rintro ⟨hunfinished, hawaiting | hcursor⟩
      · rw [h.settled] at hawaiting
        cases hawaiting
      · rw [h.empty (by simpa using hunfinished)] at hcursor
        cases hcursor
    rw [if_neg hnothing]
    exact ⟨h, rfl⟩
  | receiveRequested =>
    simp only [Bus.handle]
    split
    · exact ⟨⟨h.idle, h.settled, (fun hfinished => by cases hfinished), fun _ => rfl⟩, rfl⟩
    · exact ⟨h, rfl⟩

theorem heeds_of_bringsNothing (hstep : b.InStep) {event : BusEvent} (hevent : event.bringsNothing = true)
    (now : Nat) :
    Heeds b now (b.handle event now).2 where
  idle h := hstep.isSending_handle h (BusEvent.not_start_of_bringsNothing hevent) now
  calm h := .inl (h.handle hstep hevent now)
  request hends h := by
    rcases rx_of_bringsNothing (b := b) hevent now with hsame | hunfinished
    · exact absurd hsame hends
    · exact absurd (complete_of_holdsRequest h).1 hunfinished

/-! ### Slots -/

/-- A reception ends as that of a package only where the package is whole. -/
private theorem finishPackage_of_complete (hb : b.Bounded) (hrx : b.rx ≠ .complete) {overflow : Bool}
    {result : List Effect × Bus} (hresult : b.conclude overflow now = result) (hcomplete : result.2.rx = .complete)
    (hkind : result.2.rxKind = .package) :
    ∃ size, b.finishPackage size now = result := by
  unfold conclude at hresult
  split at hresult
  · rename_i hincomplete
    split at hresult
    · rename_i hfull
      split at hresult
      · rw [← hresult] at hcomplete
        cases hcomplete
      · -- A package does not fill the buffer.
        exfalso
        have hstart : (b.frame.take b.cursor).head? = some rdmStart := by
          have hkind : b.kindByStart = .package := by rwa [← hresult] at hkind
          rw [List.take_of_length_le (Nat.le_of_eq (hb.frame.trans hfull.symm))]
          unfold kindByStart at hkind
          split at hkind
          · rename_i hframe
            split at hkind
            · rename_i hstart
              rw [hframe, hstart]
              rfl
            · cases hkind
          · cases hkind
        exact classify_of_full hstart (by rw [List.length_take, hb.frame, hfull]; rfl) _ _ hincomplete
    · rw [← hresult] at hcomplete
      exact absurd hcomplete hrx
  · rw [← hresult] at hcomplete
    cases hcomplete
  · exact ⟨_, hresult⟩
  · rw [← hresult] at hkind
    unfold finishReply at hkind
    dsimp only at hkind
    split at hkind <;> cases hkind
  · rename_i hother _ _
    split at hresult
    · rw [← hresult] at hcomplete
      cases hcomplete
    · rw [← hresult] at hkind
      exact absurd hkind hother

/-- The bus turns around for a request. -/
private theorem calm_conclude (hb : b.Bounded) (hidle : b.isSending = false) (hrx : b.rx ≠ .complete)
    (overflow : Bool) (h : (b.conclude overflow now).2.holdsRequest = true) :
    (b.conclude overflow now).2.Calm ∧ (b.conclude overflow now).2.lastFrameAt = now := by
  obtain ⟨hcomplete, hkind, hstatus, hown⟩ := complete_of_holdsRequest h
  obtain ⟨size, hfinished⟩ := finishPackage_of_complete hb hrx rfl hcomplete hkind
  rw [← hfinished] at hstatus hown ⊢
  unfold finishPackage at hstatus hown ⊢
  dsimp only at hstatus hown ⊢
  split
  · exact ⟨⟨hidle, rfl, fun _ => rfl, (fun hunfinished => by cases hunfinished)⟩, rfl⟩
  · rename_i hstays
    rw [if_neg hstays] at hstatus hown
    exact absurd (.inr ⟨hstatus, hown⟩) hstays

theorem disturbs_of_bringsIn (hb : b.Bounded) (hreceiving : b.receiving = true) (h : b.Calm) {event : BusEvent}
    (hevent : event.bringsIn = true) (now : Nat) : Disturbs b (b.handle event now).2 := by
  have hunfinished : b.frameFinished = false := by
    refine eq_false_of_ne_true fun hfinished => ?_
    rw [h.deaf hfinished] at hreceiving
    cases hreceiving
  refine ⟨hreceiving, ?_⟩
  cases event with
  | received count =>
    rcases (onReceived_cases hb (of_decide_eq_true hevent) now).2 with hcursor | ⟨hfinished, -⟩
    · exact .inr hcursor
    · rw [hunfinished] at hfinished
      cases hfinished
  | lineFault fault count =>
    left
    simp only [handle, onLineFault]
    rw [hunfinished, if_neg Bool.false_ne_true]
    refine ⟨rfl, fun hsame => ?_⟩
    have hfailed : b.rx = .failed := hsame.symm
    unfold frameFinished at hunfinished
    rw [hfailed] at hunfinished
    cases hunfinished
  | _ => cases hevent

theorem heeds_of_bringsIn (hb : b.Bounded) (hreceiving : b.receiving = true) (hidle : b.isSending = false)
    {event : BusEvent} (hevent : event.bringsIn = true) (now : Nat) : Heeds b now (b.handle event now).2 := by
  refine ⟨fun _ => ?_, fun h => .inr (disturbs_of_bringsIn hb hreceiving h hevent now), fun hends h => ?_⟩
  · cases event with
    | received count => exact (isSending_of_received (received_onReceived count now)).trans hidle
    | lineFault fault count => exact (isSending_of_received (received_onLineFault fault count now)).trans hidle
    | _ => cases hevent
  have hcomplete := (complete_of_holdsRequest h).1
  cases event with
  | received count =>
    simp only [handle] at hends h hcomplete ⊢
    cases hfinished : b.frameFinished with
    | false =>
      rw [onReceived_of_not_finished hfinished] at h ⊢
      exact calm_conclude (b := { b.advance count with rx := .receiving })
        ((hb.advance count).keep rfl (.inl rfl) rfl) hidle (fun hends => by cases hends) _ h
    | true =>
      -- A reception that is over does not end once more, but with an error.
      exfalso
      unfold onReceived at hends hcomplete
      dsimp only at hends hcomplete
      split at hends
      · rename_i hrx
        rw [hrx] at hends hcomplete
        exact hends hcomplete
      · exact hends rfl
      · rename_i hcomplete' hfailed'
        unfold frameFinished at hfinished
        split at hfinished
        · exact hcomplete' ‹_›
        · exact hfailed' ‹_›
        · cases hfinished
  | lineFault fault count =>
    simp only [handle, onLineFault] at hends hcomplete
    split at hends
    · exact absurd rfl hends
    · rename_i hgoes
      rw [if_neg hgoes] at hcomplete
      cases hcomplete
  | _ => cases hevent

end Bus

end LightBus
