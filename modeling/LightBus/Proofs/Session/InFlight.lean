import LightBus.Proofs.Bus.Transmission
import LightBus.Proofs.Session.Watching

/-!
# Frames in flight

Frames are sent from the buffer that is also used for reception and for loading, while they are sent.  A frame that
its receiver checks as a whole stays as it was when its transmission began, whatever happens and whatever tasks do in
the meantime, and its bytes go to the fifo one after the other (`Port.frame_in_flight`).

For this the receiver has to be off while a frame is sent (`Port.Fits`), and each task that writes to the buffer has
to look what is being sent.
-/

namespace LightBus

variable {η ε : Type} {hw : Hardware η ε} {mask : η → Interrupts}

/-! ### Ranges of the buffer -/

/-- Ranges that lie one behind the other cover what is between them. -/
theorem Tiles.take_append {first last : Nat} {ranges : List (Nat × Nat)} (h : Tiles first ranges last)
    (buffer : List UInt8) :
    buffer.take first ++ ranges.flatMap (fun range => slice buffer range.1 (range.2 - range.1)) =
      buffer.take last := by
  induction h with
  | nil => exact List.append_nil _
  | @cons first middle last ranges hlt rest ih =>
    have hpart : buffer.take first ++ slice buffer first (middle - first) = buffer.take middle := by
      unfold slice
      rw [← List.take_add, Nat.add_sub_cancel' (Nat.le_of_lt hlt)]
    rw [List.flatMap_cons, ← List.append_assoc, hpart, ih]

/-! ### Notes -/

/-- A transmission, from its beginning on. -/
structure Transmission where
  kind : FrameKind
  /-- What was to be sent when it began. -/
  frame : List UInt8
  /-- That was in the buffer whenever the port was looked at. -/
  kept : Bool
  /-- The bytes that were put into the fifo. -/
  bytes : List UInt8
  ended : Bool
deriving DecidableEq

/-- The transmissions of a port. -/
structure Transmissions where
  /-- A frame was being sent when the port was looked at last. -/
  sending : Bool
  /-- The bytes that were put into the fifo since then. -/
  fresh : List UInt8
  /-- The latest one comes first. -/
  all : List Transmission

/-- The notes about a port that has sent nothing so far. -/
def Transmissions.none : Transmissions := ⟨false, [], []⟩

/-- The transmission when the port is looked at again. -/
def Transmission.goOn (bus : Bus) (fresh : List UInt8) (t : Transmission) : Transmission where
  kind := t.kind
  frame := t.frame
  kept := t.kept && bus.frame.take t.frame.length == t.frame
  bytes := t.bytes ++ fresh
  ended := !bus.isSending

/-- Writes down what a port sends. -/
def recording : Watcher η Transmissions where
  writes bytes notes := { notes with fresh := notes.fresh ++ bytes }
  stirs := id
  begins := id
  looks _ p notes := {
    sending := p.bus.isSending
    fresh := []
    all :=
      if notes.sending then notes.all.modifyHead (Transmission.goOn p.bus notes.fresh)
      else if p.bus.isSending then
        ⟨p.bus.txKind, p.bus.frame.take p.bus.txSize, true, notes.fresh, false⟩ :: notes.all
      else notes.all }

/-- The bytes that the effects put into the fifo. -/
def bytesOf (buffer : List UInt8) (effects : List Effect) : List UInt8 :=
  (written effects).flatMap fun range => slice buffer range.1 (range.2 - range.1)

private theorem Transmissions.hears_eq (buffer : List UInt8) (effects : List Effect) (notes : Transmissions) :
    effects.foldl (fun notes effect => (recording : Watcher η Transmissions).hears buffer effect notes) notes =
      { notes with fresh := notes.fresh ++ bytesOf buffer effects } := by
  induction effects generalizing notes with
  | nil => exact congrArg (fun fresh => { notes with fresh }) (List.append_nil _).symm
  | cons effect rest ih =>
    rw [List.foldl_cons, ih]
    cases effect with
    | writeFifo first last =>
      exact congrArg (fun fresh => { notes with fresh }) (List.append_assoc ..)
    | turn direction => cases direction <;> rfl
    | invert inverted => cases inverted <;> rfl
    | _ => rfl

/-! ### One transmission -/

/-- Its receiver checks the frame as a whole. -/
def FrameKind.isWhole (kind : FrameKind) : Bool := kind == .package || kind == .discoveryReply

namespace Transmission

/-- A frame that is checked as a whole is what was put into the fifo, as far as it got. -/
def Sound (t : Transmission) : Prop :=
  t.kind.isWhole = true → t.kept = true ∧ t.bytes <+: t.frame ∧ (t.ended = true → t.bytes = t.frame)

/-- The bus is sending, and this is what it sends. -/
structure Current (t : Transmission) (b : Bus) : Prop where
  underway : b.Underway b.txSize
  kind : t.kind = b.txKind
  running : t.ended = false
  length : t.frame.length = b.txSize
  held : t.kind.isWhole = true → t.kept = true ∧ b.frame.take b.txSize = t.frame ∧ t.bytes = b.frame.take b.txCursor

variable {t : Transmission} {b b' : Bus}

private theorem Current.sound (h : t.Current b) : t.Sound := by
  intro hwhole
  obtain ⟨hkept, hframe, hbytes⟩ := h.held hwhole
  refine ⟨hkept, ?_, fun hended => ?_⟩
  · rw [hbytes, ← hframe]
    exact List.take_prefix_take_left h.underway.cursor_le
  · rw [h.running] at hended
    cases hended

private theorem Current.kept_goOn (h : t.Current b) {fresh : List UInt8}
    (hframe : t.kind.isWhole = true → b'.frame.take b.txSize = b.frame.take b.txSize)
    (hwhole : t.kind.isWhole = true) :
    (t.goOn b' fresh).kept = true := by
  obtain ⟨hkept, hheld, -⟩ := h.held hwhole
  show (t.kept && b'.frame.take t.frame.length == t.frame) = true
  rw [hkept, h.length, hframe hwhole, hheld, beq_self_eq_true]
  rfl

/-- The transmission goes on as long as the bytes go to the fifo in their order and the frame stays in the buffer. -/
private theorem Current.goOn (h : t.Current b) {fresh : List UInt8} (hunderway : b'.Underway b.txSize)
    (hkind : b'.txKind = b.txKind) (hframe : t.kind.isWhole = true → b'.frame.take b.txSize = b.frame.take b.txSize)
    (hwritten : b.frame.take b.txCursor ++ fresh = b.frame.take b'.txCursor) : (t.goOn b' fresh).Current b' := by
  have hsize : b'.txSize = b.txSize := hunderway.size
  refine ⟨hsize ▸ hunderway, h.kind.trans hkind.symm, ?_, h.length.trans hsize.symm, fun hwhole => ?_⟩
  · show (!b'.isSending) = false
    rw [hunderway.sending]
    rfl
  · obtain ⟨-, hheld, hbytes⟩ := h.held hwhole
    have hsofar : b'.frame.take b'.txCursor = b.frame.take b'.txCursor := by
      rw [← Nat.min_eq_left hunderway.cursor_le, ← List.take_take, ← List.take_take, hframe hwhole]
    refine ⟨h.kept_goOn hframe hwhole, ?_, ?_⟩
    · rw [hsize, hframe hwhole]
      exact hheld
    · show t.bytes ++ fresh = _
      rw [hbytes, hwritten, hsofar]

/-- An event leaves the buffer alone.  The transmission goes on, or it ends when all of the frame was put into the
fifo. -/
private theorem Current.handle (h : t.Current b) {event : BusEvent} (hevent : event.isStart = false) (now : Nat) :
    let result := b.handle event now
    let t' := t.goOn result.2 (bytesOf b.frame result.1)
    if result.2.isSending then t'.Current result.2 else t'.Sound := by
  intro result t'
  have halike : Bus.Alike b result.2 := Bus.alike_handle b hevent now
  have hframe : t.kind.isWhole = true → result.2.frame.take b.txSize = b.frame.take b.txSize :=
    fun _ => by rw [halike.frame]
  rcases h.underway.handle event now with hadvances | hcompletes
  · rw [if_pos hadvances.underway.sending]
    exact h.goOn hadvances.underway halike.txKind hframe (hadvances.tiles.take_append b.frame)
  · rw [hcompletes.ended, if_neg Bool.false_ne_true]
    intro hwhole
    obtain ⟨-, hheld, hbytes⟩ := h.held hwhole
    have hall : t'.bytes = t.frame := by
      show t.bytes ++ (written result.1).flatMap _ = t.frame
      rw [hcompletes.written, List.flatMap_nil, List.append_nil, hbytes, hcompletes.cursor, hheld]
    refine ⟨h.kept_goOn hframe hwhole, ?_, fun _ => hall⟩
    rw [hall]
    exact List.prefix_refl _

end Transmission

/-! ### Ports -/

/-- A port in a run: what it sends is sound, and what it is sending is in its buffer. -/
structure Faithful (mask : η → Interrupts) (p : Port (η × Transmissions)) : Prop where
  reachable : p.bus.Reachable
  fits : p.bare.Fits mask
  quiet : p.enabled = false → p.bus.isSending = false
  sending : p.hardware.2.sending = p.bus.isSending
  fresh : p.hardware.2.fresh = []
  sound : ∀ t ∈ p.hardware.2.all, t.Sound
  current : p.bus.isSending = true → ∃ t rest, p.hardware.2.all = t :: rest ∧ t.Current p.bus

namespace Faithful

variable {p p' : Port (η × Transmissions)} {now : Nat}

/-- Nothing is sent before and after. -/
private theorem seen_of_idle (h : Faithful mask p) (fresh : List UInt8)
    (hnotes : p'.hardware.2 = { p.hardware.2 with fresh }) (hidle : p.bus.isSending = false)
    (hidle' : p'.bus.isSending = false) (hreachable : p'.bus.Reachable) (hfits : p'.bare.Fits mask) :
    Faithful mask (p'.seen recording now) := by
  have hseen : (p'.seen recording now).hardware.2.all = p.hardware.2.all := by
    show (if p'.hardware.2.sending then _ else if p'.bus.isSending then _ else p'.hardware.2.all) = _
    rw [hnotes, h.sending, hidle, hidle', if_neg Bool.false_ne_true, if_neg Bool.false_ne_true]
  refine ⟨hreachable, hfits, fun _ => hidle', rfl, rfl, hseen ▸ h.sound, fun hsends => ?_⟩
  rw [show (p'.seen recording now).bus.isSending = false from hidle'] at hsends
  cases hsends

/-- A frame is sent before, and it is sent on, or it has ended. -/
private theorem seen_of_current (h : Faithful mask p) {fresh : List UInt8}
    (hnotes : p'.hardware.2 = { p.hardware.2 with fresh }) (hsends : p.bus.isSending = true)
    (hreachable : p'.bus.Reachable) (hfits : p'.bare.Fits mask) (henabled : p'.enabled = p.enabled)
    (hgoes : ∀ t : Transmission, t.Current p.bus →
      if p'.bus.isSending then (t.goOn p'.bus fresh).Current p'.bus else (t.goOn p'.bus fresh).Sound) :
    Faithful mask (p'.seen recording now) := by
  obtain ⟨t, rest, hlatest, hcurrent⟩ := h.current hsends
  have hseen : (p'.seen recording now).hardware.2.all = t.goOn p'.bus fresh :: rest := by
    show (if p'.hardware.2.sending then p'.hardware.2.all.modifyHead (Transmission.goOn p'.bus p'.hardware.2.fresh)
      else _) = _
    rw [hnotes, h.sending, if_pos hsends, hlatest]
    rfl
  have hgone := hgoes t hcurrent
  have hsound : (t.goOn p'.bus fresh).Sound := by
    split at hgone
    · exact hgone.sound
    · exact hgone
  refine ⟨hreachable, hfits, fun hoff => ?_, rfl, rfl, fun s hs => ?_, fun hsends' => ⟨_, rest, hseen, ?_⟩⟩
  · have hidle := h.quiet (henabled ▸ hoff)
    rw [hsends] at hidle
    cases hidle
  · rw [hseen] at hs
    rcases List.mem_cons.1 hs with rfl | hs
    · exact hsound
    · exact h.sound s (hlatest ▸ List.mem_cons_of_mem t hs)
  · have hsends' : p'.bus.isSending = true := hsends'
    rwa [if_pos hsends'] at hgone

private theorem seen_of_event (h : Faithful mask p) {event : BusEvent} (hevent : event.isStart = false) {time : Nat}
    (hbus : p'.bus = (p.bus.handle event time).2)
    (hnotes : p'.hardware.2 = { p.hardware.2 with fresh := bytesOf p.bus.frame (p.bus.handle event time).1 })
    (henabled : p'.enabled = p.enabled) (hfits : p'.bare.Fits mask) : Faithful mask (p'.seen recording now) := by
  have hreachable : p'.bus.Reachable := hbus ▸ h.reachable.handle event time
  cases hsends : p.bus.isSending with
  | false =>
    refine h.seen_of_idle _ hnotes hsends ?_ hreachable hfits
    rw [hbus]
    exact h.fits.inStep.isSending_handle hsends hevent time
  | true =>
    refine h.seen_of_current hnotes hsends hreachable hfits henabled fun t ht => ?_
    rw [hbus]
    exact ht.handle hevent time

/-- The buffer may be changed, but not while a frame is sent that its receiver checks as a whole.  So may the
settings. -/
private theorem seen_of_frame (h : Faithful mask p) {frame : List UInt8} {mode : Mode} {timing : BreakTiming}
    (hbus : p'.bus = { p.bus with frame, mode, timing }) (hreachable : p'.bus.Reachable)
    (hhardware : p'.hardware.2 = p.hardware.2) (hmask : mask p'.hardware.1 = mask p.hardware.1)
    (henabled : p'.enabled = p.enabled)
    (hfree : p.bus.isSending = true → p.bus.txKind.isWhole = true →
      frame.take p.bus.txSize = p.bus.frame.take p.bus.txSize) : Faithful mask (p'.seen recording now) := by
  have hbare : p'.bare.bus = { p.bare.bus with frame, mode, timing } := hbus
  have hfits : p'.bare.Fits mask := by
    refine h.fits.of_eq hmask ?_ ?_ ?_ ?_ ?_ ?_ <;> rw [hbare]
  have hnotes : p'.hardware.2 = { p.hardware.2 with fresh := [] } := by rw [hhardware, ← h.fresh]
  cases hsends : p.bus.isSending with
  | false =>
    refine h.seen_of_idle _ hnotes hsends ?_ hreachable hfits
    rw [hbus]
    exact hsends
  | true =>
    refine h.seen_of_current hnotes hsends hreachable hfits henabled fun t ht => ?_
    have hunder := ht.underway
    have hunderway : Bus.Underway p.bus.txSize { p.bus with frame, mode, timing } :=
      ⟨hunder.inStep.of_eq rfl rfl, hunder.sending, rfl, hunder.cursor_le, hunder.untouched, hunder.silent⟩
    have hsends' : Bus.isSending { p.bus with frame, mode, timing } = true := hsends
    rw [hbus, if_pos hsends']
    exact ht.goOn hunderway rfl (fun hwhole => hfree hsends (ht.kind ▸ hwhole)) (List.append_nil _)

/-- The books that a task keeps may be changed, and the hardware may go on. -/
private theorem keep (h : Faithful mask p) (hbus : p'.bus = p.bus) (hnotes : p'.hardware.2 = p.hardware.2)
    (hmask : mask p'.hardware.1 = mask p.hardware.1) (henabled : p'.enabled = p.enabled) : Faithful mask p' where
  reachable := hbus ▸ h.reachable
  fits := h.fits.keep hmask hbus
  quiet hoff := hbus ▸ h.quiet (henabled ▸ hoff)
  sending := by rw [hnotes, hbus, h.sending]
  fresh := by rw [hnotes, h.fresh]
  sound := hnotes ▸ h.sound
  current := by
    rw [hbus, hnotes]
    exact h.current

private theorem seen (h : Faithful mask p) : Faithful mask (p.seen recording now) :=
  h.seen_of_frame rfl h.reachable rfl rfl rfl fun _ _ => rfl

/-- A transmission begins. -/
private theorem seen_start (h : Faithful mask p) (hlaw : hw.Masking mask) (hon : p.enabled = true)
    (hidle : p.bus.isSending = false) {size : Nat} (hsize : size ≠ 0) (withBreak : Bool) :
    Faithful mask ((Session.startFrame (hw.watched recording) size withBreak p).2.seen recording now) := by
  generalize hp' : (Session.startFrame (hw.watched recording) size withBreak p).2 = p'
  obtain ⟨frame, hstamped, hreachable⟩ := Session.bus_stamp p size withBreak
  generalize hb : (Session.stamp p size withBreak).bus = b at hstamped hreachable
  generalize hresult : b.startTransmit size (Frame.expectsResponse (p.bus.frame.take size)) withBreak
    (hw.space p.hardware.1) = result
  have hbus : p'.bus = result.2 := by
    rw [← hp', Session.bus_startFrame, hb, ← hresult]
    rfl
  have hfresh : p'.hardware.2 = { p.hardware.2 with fresh := bytesOf b.frame result.1 } := by
    rw [← hp', Port.notes_startFrame, Transmissions.hears_eq, hb, h.fresh, hresult]
    rfl
  have hfits : p'.bare.Fits mask := by
    rw [← hp', Port.bare_startFrame]
    exact h.fits.startFrame hlaw size withBreak
  have hbidle : b.isSending = false := by
    rw [hstamped]
    exact hidle
  have hbegins : Bus.Begins (min size maxFrameSize) result := by
    rw [← hresult]
    exact (hreachable h.reachable).inStep.begins hbidle hsize _ withBreak _
  have hframe : result.2.frame = b.frame := by
    rw [← hresult]
    exact (b.frame_startTransmit _ _ _ _).1
  have hafter : result.2.Reachable := by
    rw [← hresult]
    exact (hreachable h.reachable).handle (.startTransmit size _ withBreak _) 0
  have hsize := hbegins.underway.size
  let t : Transmission := ⟨p'.bus.txKind, p'.bus.frame.take p'.bus.txSize, true, bytesOf b.frame result.1, false⟩
  have hseen : (p'.seen recording now).hardware.2.all = t :: p.hardware.2.all := by
    show (if p'.hardware.2.sending then _ else if p'.bus.isSending then Transmission.mk _ _ _ p'.hardware.2.fresh _ ::
      p'.hardware.2.all else _) = _
    have hsends : p'.bus.isSending = true := hbus ▸ hbegins.underway.sending
    rw [hfresh, h.sending, hidle, if_neg Bool.false_ne_true, if_pos hsends]
    rfl
  have hcurrent : t.Current p'.bus := by
    refine ⟨?_, rfl, rfl, ?_, fun _ => ⟨rfl, rfl, ?_⟩⟩
    · rw [hbus, hsize]
      exact hbegins.underway
    · show (p'.bus.frame.take p'.bus.txSize).length = p'.bus.txSize
      rw [List.length_take, hbus, hafter.bounded.frame, hsize]
      omega
    · show bytesOf b.frame result.1 = p'.bus.frame.take p'.bus.txCursor
      rw [hbus, hframe, ← hbegins.tiles.take_append b.frame]
      rfl
  refine ⟨?_, hfits, fun hoff => ?_, rfl, rfl, fun s hs => ?_, fun _ => ⟨t, p.hardware.2.all, hseen, hcurrent⟩⟩
  · show p'.bus.Reachable
    rw [hbus]
    exact hafter
  · have hon' : p'.enabled = p.enabled := by rw [← hp', Port.enabled_startFrame]
    rw [show p'.enabled = false from hoff, hon] at hon'
    cases hon'
  · rw [hseen] at hs
    rcases List.mem_cons.1 hs with rfl | hs
    · exact hcurrent.sound
    · exact h.sound s hs

/-! ### What happens -/

private theorem raise (h : Faithful mask p) (hlaw : hw.Masking mask) {event : BusEvent}
    (hevent : event.isStart = false) (time : Nat) :
    Faithful mask ((p.raise (hw.watched recording) event time).seen recording now) := by
  refine h.seen_of_event hevent (Port.bus_raise _ _) ?_ (Port.enabled_raise _ _) ?_
  · rw [Port.notes_raise, Transmissions.hears_eq, h.fresh]
    rfl
  · rw [Port.bare_raise]
    exact h.fits.raise hlaw _ _

private theorem listen (h : Faithful mask p) (hlaw : hw.Masking mask) :
    Faithful mask ((p.dispatch (hw.watched recording) .receiveRequested).2.seen recording now) := by
  unfold Port.dispatch
  refine h.seen_of_event rfl (Port.bus_dispatchAt _ _) ?_ (Port.enabled_dispatchAt _ _) ?_
  · rw [Port.notes_dispatchAt, Transmissions.hears_eq, h.fresh]
    rfl
  · rw [(Port.bare_dispatchAt _ _).2]
    exact h.fits.dispatchAt hlaw _ _

/-- Slots go to the buffer only when the receiver is on, and then nothing is sent. -/
private theorem receiveSlots (h : Faithful mask p) (hlaw : hw.Masking mask) {pending : Interrupts}
    (hreads : pending.intersects .allRx = true → p.bus.isSending = false) :
    Faithful mask ((p.receiveSlots (hw.watched recording) pending now).seen recording now) := by
  rcases Port.receiveSlots_cases (hw.watched recording) p pending now with hsame | ⟨hrx, hread⟩
  · rw [hsame]
    exact h.seen
  have hidle := hreads hrx
  have hdrained : (p.drain (hw.watched recording)).2.bare.Fits mask :=
    (Port.Fits.keptByInterrupts hlaw).drain h.fits
  have hnotes : (p.drain (hw.watched recording)).2.hardware.2 = { p.hardware.2 with fresh := [] } := by
    rw [← h.fresh]
    rfl
  have hreachable : (p.drain (hw.watched recording)).2.bus.Reachable := h.reachable.fill _
  rcases hread with hread | ⟨event, estimator, hevent, hread⟩ <;> rw [hread]
  · exact h.seen_of_idle _ hnotes hidle hidle hreachable hdrained
  · have hstart := (BusEvent.not_alarm_of_isInterrupt hevent).2
    have hraised (q : Port (η × Transmissions)) : (q.raise (hw.watched recording) event now).hardware.2 =
        { q.hardware.2 with fresh := q.hardware.2.fresh ++ bytesOf q.bus.frame (q.bus.handle event now).1 } := by
      rw [Port.notes_raise, Transmissions.hears_eq]
    refine h.seen_of_idle _ (hraised { (p.drain (hw.watched recording)).2 with estimator }) hidle ?_ ?_ ?_
    · rw [Port.bus_raise]
      exact hreachable.inStep.isSending_handle hidle hstart now
    · rw [Port.bus_raise]
      exact hreachable.handle event now
    · rw [Port.bare_raise]
      refine Port.Fits.raise ?_ hlaw _ _
      exact hdrained.keep rfl rfl

private theorem attend (h : Faithful mask p) (hlaw : hw.Masking mask) : Faithful mask (p.attend hw recording) := by
  -- What was being sent when the interrupts were looked at is all that can be sent while they are served.
  generalize hpending : hw.interrupts p.hardware.1 = pending
  have hfirst : pending.intersects .allRx = true → p.bus.isSending = false := by
    intro hrx
    refine eq_false_of_ne_true fun hsends => ?_
    have hnone : (hw.interrupts p.hardware.1).intersects .allRx = false :=
      hlaw.not_pending (h.fits.rx_of_sending hsends) rfl
    rw [hpending, hrx] at hnone
    cases hnone
  have hraise (q : Port (η × Transmissions)) (event : BusEvent) (estimator : BreakEstimator)
    (hevent : event.isStart = false)
      (hq : Faithful mask q ∧ (pending.intersects .allRx = true → q.bus.isSending = false)) (time : Nat) :
      Faithful mask ((Port.raise (hw.watched recording) event time { q with estimator }).seen recording time) ∧
        (pending.intersects .allRx = true →
          (Port.raise (hw.watched recording) event time { q with estimator }).bus.isSending = false) := by
    have hkept : Faithful mask { q with estimator } := hq.1.keep rfl rfl rfl rfl
    refine ⟨hkept.raise hlaw hevent _, fun hrx => ?_⟩
    rw [Port.bus_raise]
    exact hq.1.reachable.inStep.isSending_handle (hq.2 hrx) hevent _
  refine (Port.attend_rule (I := fun q => Faithful mask q ∧
    (pending.intersects .allRx = true → q.bus.isSending = false))
    hpending rfl (fun _ => ⟨h, hfirst⟩) ?_ (fun q hq => ?_) (fun q event estimator hevent hq => ?_)
    fun q hq => ⟨hq.1.seen, hq.2⟩).1
  · exact ⟨Faithful.seen (h.keep rfl rfl (hlaw.clear _ _) rfl), hfirst⟩
  · refine ⟨hq.1.receiveSlots hlaw hq.2, fun hrx => ?_⟩
    show (q.receiveSlots (hw.watched recording) pending _).bus.isSending = false
    rcases Port.receiveSlots_cases (hw.watched recording) q pending _ with hsame
      | ⟨-, hread | ⟨event, estimator, hevent, hread⟩⟩
    · rw [hsame]
      exact hq.2 hrx
    · rw [hread]
      exact hq.2 hrx
    · rw [hread, Port.bus_raise]
      exact (hq.1.reachable.fill _).inStep.isSending_handle (hq.2 hrx) (BusEvent.not_alarm_of_isInterrupt hevent).2 _
  · refine hraise q event estimator ?_ hq _
    cases event <;> first | rfl | cases hevent

private theorem occur (h : Faithful mask p) (hlaw : hw.Masking mask) {i : Incident η} (hi : i.KeepsMask mask) :
    Faithful mask (i.occur hw recording p) := by
  unfold Incident.occur
  cases i with
  | uart => exact (h.attend hlaw).seen
  | alarm => exact h.raise hlaw rfl _
  | edge level =>
    dsimp only [Incident.beside, Incident.happen]
    unfold Port.onEdge
    have hmeasured : Faithful mask
        (if p.hasEdges then { p with meter := p.meter.onEdge level (p.now (hw.watched recording)) } else p) := by
      split
      · exact h.keep rfl rfl rfl rfl
      · exact h
    cases level with
    | high => exact hmeasured.raise hlaw rfl _
    | low => exact hmeasured.seen
  | goesOn change => exact Faithful.seen (h.keep rfl rfl (hi _) rfl)
  | enable =>
    dsimp only [Incident.beside, Incident.happen]
    rcases Port.enable_cases (hw.watched recording) p with ⟨-, hsame⟩ | ⟨hoff, hardware, hreset, hrefused | hstarted⟩
    · rw [hsame]
      exact Faithful.seen (h.keep rfl rfl rfl rfl)
    · rw [hrefused, hreset]
      exact Faithful.seen (h.keep rfl rfl (hlaw.resetTxFifo _) rfl)
    · have hidle := h.quiet hoff
      have hfits : ((Port.enable (hw.watched recording)).runFrom p).2.bare.Fits mask := by
        rw [Port.bare_enable]
        exact h.fits.enable hlaw h.quiet
      refine h.seen_of_idle [] ?_ hidle ?_ ?_ hfits <;> rw [hstarted] <;> dsimp only
      · rw [Port.notes_applyAll, Transmissions.hears_eq, hreset, ← h.fresh]
        exact congrArg (fun fresh => { p.hardware.2 with fresh }) (List.append_nil _)
      · rw [Port.applyAll_frame]
        exact hidle
      · rw [Port.applyAll_frame]
        exact h.reachable.start
  | disable =>
    dsimp only [Incident.beside, Incident.happen]
    rcases Port.disable_cases (hw.watched recording) p with ⟨-, hsame⟩ | ⟨-, hidle, hstopped⟩
    · rw [hsame]
      exact h.seen
    · rw [hstopped]
      refine h.seen_of_idle [] ?_ hidle ?_ ?_ ?_
      · rw [Port.port_stopBus, Port.notes_applyAll, Transmissions.hears_eq, ← h.fresh]
        exact congrArg (fun fresh => { p.hardware.2 with fresh }) (List.append_nil _)
      · rw [Port.port_stopBus, Port.applyAll_frame]
        rfl
      · rw [Port.port_stopBus, Port.applyAll_frame]
        exact h.reachable.stop
      · rw [Port.bare_stopBus]
        exact Port.Fits.stopBus hlaw
  | setMode mode =>
    dsimp only [Incident.beside, Incident.happen]
    rcases Port.setMode_cases (ε := ε) mode p with hsame | hset
    · rw [hsame]
      exact h.seen
    · rw [hset]
      exact h.seen_of_frame rfl (h.reachable.setMode mode) rfl rfl rfl fun _ _ => rfl
  | setBaud baud =>
    dsimp only [Incident.beside, Incident.happen]
    obtain ⟨rate, hset⟩ := Port.setBaud_frame (hw.watched recording) baud p
    rw [hset]
    exact Faithful.seen (h.keep rfl rfl (hlaw.setBaud _ _) rfl)
  | setBreak micros =>
    exact h.seen_of_frame rfl (h.reachable.setTiming _) rfl rfl rfl fun _ _ => rfl
  | setMark micros =>
    exact h.seen_of_frame rfl (h.reachable.setTiming _) rfl rfl rfl fun _ _ => rfl

/-! ### Calls -/

/-- Nobody switches the port, and tasks alone begin transmissions. -/
private theorem occur_idle (h : Faithful mask p) {i : Incident η} (hi : i.switches = false) :
    (i.occur hw recording p).enabled = p.enabled ∧
      (p.bus.isSending = false → (i.occur hw recording p).bus.isSending = false) := by
  have hbare : (i.occur hw recording p).bare = i.happen hw p.bare := Incident.bare_occur i
  have henabled : (i.happen hw p.bare).enabled = p.enabled := Incident.enabled_happen hi
  have hquiet (hp : Quiet p.bare) : Quiet (i.happen hw p.bare) := Incident.quiet_happen hp hi
  rw [← hbare] at henabled hquiet
  exact ⟨henabled, fun hidle => (hquiet ⟨h.reachable, hidle⟩).idle⟩

private theorem keptByCalls (hlaw : hw.Masking mask) {e : Environment η Transmissions}
    (he : e.Only fun i => i.KeepsMask mask ∧ i.switches = false) :
    Session.KeptByCalls (e.world hw recording) (Faithful mask) := by
  have hoccur (i : Incident η) (p : Port (η × Transmissions)) (hi : i.KeepsMask mask ∧ i.switches = false)
      (hp : Faithful mask p) : Faithful mask (i.occur hw recording p) := hp.occur hlaw hi.1
  have hstep {p : Port (η × Transmissions)} (hp : Faithful mask (p.seen recording (hw.clock p.hardware.1))) :
      Faithful mask ((e.world hw recording).between p) := he.between_of hoccur hp
  have hothers : Session.KeptByOthers (e.world hw recording) (Faithful mask) :=
    he.keptByOthers hoccur fun _ hp => hp.seen
  -- Nobody switches the port while a task waits, and nobody else sends.
  have hsame (enabled : Bool) :
      Session.KeptByOthers (e.world hw recording) fun p => Faithful mask p ∧ p.enabled = enabled :=
    he.keptByOthers (fun i p hi hp => ⟨hoccur i p hi hp.1, (hp.1.occur_idle hi.2).1.trans hp.2⟩)
      fun _ hp => ⟨hp.1.seen, hp.2⟩
  have hidle (enabled : Bool) : Session.KeptByOthers (e.world hw recording) fun p =>
      (Faithful mask p ∧ p.enabled = enabled) ∧ p.bus.isSending = false :=
    he.keptByOthers
      (fun i p hi hp => ⟨⟨hoccur i p hi hp.1.1, (hp.1.1.occur_idle hi.2).1.trans hp.1.2⟩,
        (hp.1.1.occur_idle hi.2).2 hp.2⟩)
      fun _ hp => ⟨⟨hp.1.1.seen, hp.1.2⟩, hp.2⟩
  have htake {p : Port (η × Transmissions)} (hp : Faithful mask p) :
      Faithful mask ((e.world hw recording).between { p with notice := none }) :=
    hstep (Faithful.seen (hp.keep rfl rfl rfl rfl))
  exact {
    toKeptByOthers := hothers
    listen := fun hp _ => hstep ((hothers.between hp).listen hlaw)
    take := htake
    answer := fun {p q n} hp _ _ _ hq => by
      have hq : Faithful mask q := hq ▸ htake hp
      exact hstep (Faithful.seen (hq.keep rfl rfl rfl rfl))
    start := fun {p q size withBreak} hp hsize hready => by
      have hon := Session.enabled_of_ready hready
      obtain ⟨r, time, hr, -, hwait⟩ :=
        (hsame true).of_ready (hidle true) (fun _ hp hsent => ⟨hp, hsent⟩) ⟨hp, hon⟩ hready
      have hq := ((hidle true).waitUntil time).of_runFrom ((hidle true).between hr) hwait
      exact hstep (hq.1.1.seen_start hlaw hq.1.2 hq.2 hsize withBreak)
    write := fun start bytes hp hfree => by
      refine hstep (hp.seen_of_frame rfl (hp.reachable.write start bytes) rfl rfl rfl fun hsends hwhole => ?_)
      have hbusy : Session.isBusy _ = true := Bool.and_eq_true_iff.2 ⟨hsends, hwhole⟩
      rw [hfree] at hbusy
      cases hbusy
    put := fun {p q} frame hp hsent => by
      have hq := (hsame p.enabled).of_waitSent (hidle p.enabled) (fun _ hp hsent => ⟨hp, hsent⟩) ⟨hp, rfl⟩ hsent
      refine hstep (hq.1.1.seen_of_frame rfl (hq.1.1.reachable.write 0 frame) rfl rfl rfl fun hsends _ => ?_)
      rw [hq.2] at hsends
      cases hsends
    ticket := fun hp => hstep (Faithful.seen (hp.keep rfl rfl rfl rfl)) }

/-! ### Runs -/

private theorem install (hlaw : hw.Masking mask) {config : PortConfig} {hardware : η} {p : Port η}
    (h : Port.install hw config hardware = .ok p) : Faithful mask (p.watched .none) := by
  obtain ⟨-, -, mode, timing, hbus⟩ := Port.new_of_install h
  have hnew : (p.watched Transmissions.none).bus = .new mode timing := hbus
  refine ⟨?_, Port.Fits.install hlaw h, fun _ => ?_, ?_, rfl, fun t ht => (List.not_mem_nil ht).elim,
    fun hsends => ?_⟩
  · rw [hnew]
    exact .new mode timing
  · rw [hnew]
    rfl
  · rw [hnew]
    rfl
  · rw [hnew] at hsends
    cases hsends

private theorem run (h : Faithful mask p) (hlaw : hw.Masking mask) {acts : List (Act η Transmissions)}
    (hacts : ∀ act ∈ acts, act.Permitted (Incident.KeepsMask mask) (fun i => i.KeepsMask mask ∧ i.switches = false)
      fun _ => True) : Faithful mask (Act.run hw recording acts p) := by
  refine Act.keeps (fun i p hi hp => hp.occur hlaw hi) (fun e c p he _ hp => ?_) hacts h
  have hkept := keptByCalls hlaw he
  exact hkept.call c (fun _ q hq => he.between_of (fun i p hi hp => hp.occur hlaw hi.1) (hq.listen hlaw)) hp

end Faithful

/-- In every run in which nobody switches a port on or off while a task uses it, each frame that its receiver checks
as a whole stays in the buffer as long as it is sent.  What was put into the fifo is its beginning, and all of it when
the transmission has ended. -/
theorem Port.frame_in_flight (hlaw : hw.Masking mask) {config : PortConfig} {hardware : η} {p : Port η}
    (hinstalled : install hw config hardware = .ok p) {acts : List (Act η Transmissions)}
    (hacts : ∀ act ∈ acts, act.Permitted (Incident.KeepsMask mask) (fun i => i.KeepsMask mask ∧ i.switches = false)
      fun _ => True) :
    ∀ t ∈ (Act.run hw recording acts (p.watched .none)).hardware.2.all, t.kind = .package ∨ t.kind = .discoveryReply →
      t.kept = true ∧ t.bytes <+: t.frame ∧ (t.ended = true → t.bytes = t.frame) := by
  intro t ht hkind
  refine ((Faithful.install hlaw hinstalled).run hlaw hacts).sound t ht ?_
  rcases hkind with hkind | hkind <;> rw [FrameKind.isWhole, hkind] <;> rfl

open Simulation

/-- While a frame is sent, slots come in, and there is room for two slots in the fifo. -/
def meddlers : Environment Bench Transmissions :=
  let incidents : List (Incident Bench) :=
    [.goesOn fun b => { b with
      time := b.time + 20000
      rxFifo := [7, 7]
      pending := b.pending.union (.union .allRx .txData) },
      .uart, .edge .high]
  ⟨fun p => if p.bus.isSending then incidents else [], fun _ => incidents⟩

private theorem only_meddlers : meddlers.Only fun i => i.KeepsMask Bench.enabled ∧ i.switches = false := by
  constructor
  · intro p
    simp only [meddlers]
    split <;> simp [Incident.KeepsMask, Incident.switches]
  · simp [meddlers, Incident.KeepsMask, Incident.switches]

/-- While a package is sent, tasks want to receive and to write. -/
def meddling : List (Act Bench Transmissions) :=
  [.incident .enable, .call meddlers (.write 0 [0xCC, 1, 2, 3, 4]), .call meddlers (.sendFrame 5 true),
    .incident .alarm, .call meddlers (.receive 1000), .incident .alarm, .call meddlers (.write 1 [9, 9]),
    .call meddlers (.sendSlots 0 [5, 5, 5]), .incident (.goesOn fun b => { b with pending := .txDone }),
    .incident .uart]

private theorem permitted_meddling : ∀ act ∈ meddling, act.Permitted (Incident.KeepsMask Bench.enabled)
    (fun i => i.KeepsMask Bench.enabled ∧ i.switches = false) fun _ => True := by
  simpa [meddling, Act.Permitted, Incident.KeepsMask] using only_meddlers

theorem Port.frame_in_flight_meddling : ∃ p, Port.install Bench.hardware .standard (.new 2 []) = .ok p ∧
    ∃ t ∈ (Act.run Bench.hardware recording meddling (p.watched .none)).hardware.2.all,
      t.kind = .package ∧ t.frame = [0xCC, 1, 2, 3, 4] ∧ t.ended = true ∧ t.kept = true ∧ t.bytes = t.frame := by
  let t : Transmission := ⟨.package, [0xCC, 1, 2, 3, 4], true, [0xCC, 1, 2, 3, 4], true⟩
  have hsent {p : Port Bench} (hp : install Bench.hardware .standard (.new 2 []) = .ok p)
      (hall : (Act.run Bench.hardware recording meddling (p.watched .none)).hardware.2.all = [t]) :
      ∃ t ∈ (Act.run Bench.hardware recording meddling (p.watched .none)).hardware.2.all,
        t.kind = .package ∧ t.frame = [0xCC, 1, 2, 3, 4] ∧ t.ended = true ∧ t.kept = true ∧ t.bytes = t.frame := by
    have hmem : t ∈ (Act.run Bench.hardware recording meddling (p.watched .none)).hardware.2.all := by
      rw [hall]
      exact List.mem_singleton_self t
    obtain ⟨hkept, -, hbytes⟩ := frame_in_flight Bench.masking hp permitted_meddling t hmem (.inl rfl)
    exact ⟨t, hmem, rfl, rfl, rfl, hkept, hbytes rfl⟩
  exact ⟨_, rfl, hsent rfl (by decide +kernel)⟩

end LightBus
