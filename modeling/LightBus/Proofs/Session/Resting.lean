import LightBus.Proofs.Session.Watching

/-!
# Ports that are switched off

A port stirs when it enables interrupts, turns the transceiver to transmit, inverts the line or sets the alarm.  After
a port was switched off it rests (`Port.Resting`), and as long as it rests it does not stir, whatever happens and
whatever tasks do (`Asleep`).

Only what makes the bus send or receive wakes it.  A task looks whether the port is on before it does so, but not when
it skips a response, and the port may be switched off after the task has looked (`stirs_while_off`).  With these
exceptions a port that is off stays quiet (`quiet_while_off`).
-/

namespace LightBus

variable {η ε : Type} {hw : Hardware η ε} {mask : η → Interrupts}

/-! ### Notes -/

/-- How a port stirs. -/
structure Stirring where
  /-- How often it has stirred. -/
  count : Nat
  /-- It was on when it was looked at last. -/
  enabled : Bool
  /-- How often it had stirred when it was switched off. -/
  before : Nat
  /-- Since then its bus was sending or receiving. -/
  woken : Bool
deriving DecidableEq

/-- The notes about a port that has been off so far. -/
def Stirring.none : Stirring := ⟨0, false, 0, false⟩

/-- Counts how often a port stirs. -/
def stirring : Watcher η Stirring where
  writes _ notes := notes
  stirs notes := { notes with count := notes.count + 1 }
  begins := id
  looks _ p notes := {
    count := notes.count
    enabled := p.enabled
    before := if p.enabled || notes.enabled then notes.count else notes.before
    woken := !p.enabled && (notes.woken || p.bus.isSending || p.bus.receiving) }

namespace Port

variable {p p' : Port η}

/-- The bus does nothing and waits for nothing, and no interrupt comes. -/
structure Resting (mask : η → Interrupts) (p : Port η) : Prop where
  fits : p.Fits mask
  idle : p.bus.isSending = false
  deaf : p.bus.receiving = false
  settled : p.bus.awaiting = false

private theorem Resting.keep (h : p.Resting mask) (hmask : mask p'.hardware = mask p.hardware)
    (hbus : p'.bus = p.bus) :
    p'.Resting mask :=
  ⟨h.fits.keep hmask hbus, hbus ▸ h.idle, hbus ▸ h.deaf, hbus ▸ h.settled⟩

/-- What neither sends nor receives may be changed. -/
theorem Resting.of_eq (h : p.Resting mask) (hmask : mask p'.hardware = mask p.hardware) (htx : p'.bus.tx = p.bus.tx)
    (hsequence : p'.bus.sequence = p.bus.sequence) (hcursor : p'.bus.txCursor = p.bus.txCursor)
    (hsize : p'.bus.txSize = p.bus.txSize) (hawaiting : p'.bus.awaiting = p.bus.awaiting)
    (hreceiving : p'.bus.receiving = p.bus.receiving) : p'.Resting mask := by
  refine ⟨h.fits.of_eq hmask htx hsequence hcursor hsize hawaiting hreceiving, ?_, hreceiving.trans h.deaf,
    hawaiting.trans h.settled⟩
  have hidle := h.idle
  unfold Bus.isSending at hidle ⊢
  rwa [htx]

/-- The frame buffer may be changed. -/
private theorem Resting.of_frame (h : p.Resting mask) {frame : List UInt8}
    (hmask : mask p'.hardware = mask p.hardware) (hbus : p'.bus = { p.bus with frame }) : p'.Resting mask := by
  refine h.of_eq hmask ?_ ?_ ?_ ?_ ?_ ?_ <;> rw [hbus]

/-- An alarm that rings has nothing to tell. -/
private theorem Resting.handle_alarm (h : p.Resting mask) (space now : Nat) :
    p.bus.handle (.alarm space) now = ([], p.bus) := by
  show p.bus.onAlarm space = ([], p.bus)
  rw [Bus.onAlarm_idle (h.fits.inStep.phase_of_not_sending h.idle), h.settled, if_neg Bool.false_ne_true]

private theorem resting_stopBus (hlaw : hw.Masking mask) : (stopBus hw p).2.Resting mask := by
  have hfits := Fits.stopBus (p := p) hlaw
  have hbus : (stopBus hw p).2.bus = p.bus.stop.2 := by rw [port_stopBus, applyAll_frame]
  exact ⟨hfits, by rw [hbus]; rfl, by rw [hbus]; rfl, by rw [hbus]; rfl⟩

end Port

/-! ### Wakeful and asleep -/

variable {p p' : Port (η × Stirring)} {n now : Nat}

/-- The port is on, or it was woken since it was switched off. -/
def Roused (p : Port (η × Stirring)) : Prop := p.enabled = true ∨ p.hardware.2.woken = true

/-- The port was looked at, and it is roused. -/
structure Wakeful (p : Port (η × Stirring)) : Prop where
  known : p.hardware.2.enabled = p.enabled
  fresh : p.enabled = true → p.hardware.2.woken = false
  roused : Roused p

/-- The port is off and rests, and it has stirred `n` times. -/
structure Asleep (mask : η → Interrupts) (n : Nat) (p : Port (η × Stirring)) : Prop where
  off : p.enabled = false
  known : p.hardware.2 = ⟨n, false, n, false⟩
  resting : p.bare.Resting mask

/-- Nothing but the count is changed by what the port does. -/
private theorem Stirring.hears_eq (frame : List UInt8) (effects : List Effect) (notes : Stirring) :
    ∃ count, effects.foldl (fun notes effect => (stirring : Watcher η Stirring).hears frame effect notes) notes =
      { notes with count } := by
  induction effects generalizing notes with
  | nil => exact ⟨_, rfl⟩
  | cons effect rest ih =>
    have hfirst : ∃ count, (stirring : Watcher η Stirring).hears frame effect notes = { notes with count } := by
      cases effect with
      | turn direction => cases direction <;> exact ⟨_, rfl⟩
      | invert inverted => cases inverted <;> exact ⟨_, rfl⟩
      | _ => exact ⟨_, rfl⟩
    obtain ⟨count, hfirst⟩ := hfirst
    obtain ⟨total, hrest⟩ := ih { notes with count }
    exact ⟨total, by rw [List.foldl_cons, hfirst, hrest]⟩

/-- A look tells that a port is awake if it does something. -/
private theorem wakeful_seen (h : Roused p ∨ p.bus.isSending = true ∨ p.bus.receiving = true) :
    Wakeful (p.seen stirring now) := by
  refine ⟨rfl, fun hon => ?_, ?_⟩
  · show (!p.enabled && _) = false
    rw [show p.enabled = true from hon]
    rfl
  show p.enabled = true ∨ (!p.enabled && (p.hardware.2.woken || p.bus.isSending || p.bus.receiving)) = true
  unfold Roused at h
  cases henabled : p.enabled with
  | true => exact .inl rfl
  | false =>
    right
    rw [henabled] at h
    rcases h with (h | h) | h | h
    · cases h
    all_goals simp [h]

private theorem Asleep.seen (h : Asleep mask n p) : Asleep mask n (p.seen stirring now) := by
  refine ⟨h.off, ?_, h.resting⟩
  have hbare : p.bare.enabled = false := h.off
  have hidle : p.bare.bus.isSending = false := h.resting.idle
  have hdeaf : p.bare.bus.receiving = false := h.resting.deaf
  show stirring.looks now p.bare p.hardware.2 = _
  simp [stirring, h.known, hbare, hidle, hdeaf]

private theorem Asleep.keep (h : Asleep mask n p) (hoff : p'.enabled = p.enabled)
    (hmask : mask p'.hardware.1 = mask p.hardware.1) (hnotes : p'.hardware.2 = p.hardware.2) (hbus : p'.bus = p.bus) :
    Asleep mask n p' :=
  ⟨hoff.trans h.off, hnotes.trans h.known, h.resting.keep hmask hbus⟩

/-- The books that a task keeps and the buffer may be changed. -/
private theorem Asleep.seen_of (h : Asleep mask n p) (henabled : p'.enabled = p.enabled)
    (hhardware : p'.hardware = p.hardware) (hbus : ∃ frame, p'.bus = { p.bus with frame }) :
    Asleep mask n (p'.seen stirring now) := by
  obtain ⟨frame, hbus⟩ := hbus
  have hresting : p'.bare.Resting mask := h.resting.of_frame (congrArg (fun h => mask h.1) hhardware) hbus
  have hnotes : p'.hardware.2 = p.hardware.2 := congrArg Prod.snd hhardware
  exact Asleep.seen ⟨henabled.trans h.off, hnotes.trans h.known, hresting⟩

/-! ### What happens -/

private theorem woken_raise (event : BusEvent) (now : Nat) :
    (p.raise (hw.watched stirring) event now).hardware.2.woken = p.hardware.2.woken := by
  obtain ⟨count, hcount⟩ := Stirring.hears_eq (η := η) p.bus.frame (p.bus.handle event now).1 p.hardware.2
  rw [Port.notes_raise, hcount]

private theorem Roused.raise (h : Roused p) (event : BusEvent) (now : Nat) :
    Roused (p.raise (hw.watched stirring) event now) := by
  unfold Roused
  rw [Port.enabled_raise, woken_raise]
  exact h

private theorem Roused.attend (h : Roused p) : Roused (p.attend hw stirring) := by
  have hseen (now : Nat) {q : Port (η × Stirring)} (hq : Roused q) : Roused (q.seen stirring now) :=
    (wakeful_seen (.inl hq)).roused
  refine Port.attend_rule (I := Roused) rfl rfl (fun _ => h) (hseen _ h) (fun q hq => hseen _ ?_)
    (fun q event estimator _ hq => hseen _ (Roused.raise (p := { q with estimator }) hq event _)) fun q hq =>
      hseen _ hq
  rcases Port.receiveSlots_cases (hw.watched stirring) q _ _ with hsame | ⟨-, hread | ⟨event, estimator, -, hread⟩⟩
  · rw [hsame]
    exact hq
  · rw [hread]
    exact hq
  · rw [hread]
    exact Roused.raise (p := { (q.drain (hw.watched stirring)).2 with estimator }) hq event _

/-- Nothing comes, and so nothing is done. -/
private theorem Asleep.attend (h : Asleep mask n p) (hlaw : hw.Masking mask) :
    Asleep mask n (p.attend hw stirring) := by
  have hquiet {part : Interrupts} (hpart : Interrupts.allRx.inter part = part ∨ Interrupts.allTx.inter part = part) :
      (hw.interrupts p.hardware.1).intersects part = false := by
    rcases hpart with hrx | htx
    · exact hlaw.not_pending (h.resting.fits.rx_of_deaf h.resting.deaf) hrx
    · exact hlaw.not_pending (h.resting.fits.tx_of_idle h.resting.idle) htx
  refine Port.attend_rule (I := Asleep mask n) rfl rfl (fun _ => h) ?_ (fun q hq => ?_)
    (fun q event _ hraised _ => ?_)
    fun q hq => hq.seen
  · exact Asleep.seen (h.keep rfl (hlaw.clear _ _) rfl rfl)
  · rcases Port.receiveSlots_cases (hw.watched stirring) q (hw.interrupts p.hardware.1) _ with hsame | ⟨hrx, -⟩
    · rw [hsame]
      exact hq.seen
    · rw [hquiet (.inl rfl)] at hrx
      cases hrx
  · exfalso
    cases event with
    | «break» => exact absurd hraised (ne_true_of_eq_false (hquiet (.inl rfl)))
    | collision => exact absurd hraised (ne_true_of_eq_false (hquiet (.inl rfl)))
    | txReady space => exact absurd hraised (ne_true_of_eq_false (hquiet (.inr rfl)))
    | txDone => exact absurd hraised (ne_true_of_eq_false (hquiet (.inr rfl)))
    | startTransmit | alarm | lineRising | received | lineFault | receiveRequested => cases hraised

/-! ### Switching -/

/-- The port is switched on. -/
def Incident.switchesOn : Incident η → Bool
  | .enable => true
  | _ => false

private theorem Roused.enable (h : Roused p) : Roused ((Port.enable (hw.watched stirring)).runFrom p).2 := by
  rcases Port.enable_cases (hw.watched stirring) p with ⟨-, hsame⟩ | ⟨-, hardware, hreset, hrefused | hstarted⟩
  · rw [hsame]
    exact h
  · rw [hrefused, hreset]
    exact h
  · rw [hstarted]
    left
    dsimp only
    rw [Port.applyAll_frame]

/-- The port was on, and is put to rest. -/
private theorem Wakeful.stopBus (h : Wakeful p) (hlaw : hw.Masking mask) (hon : p.enabled = true) :
    Asleep mask p.hardware.2.count ((Port.stopBus (hw.watched stirring) { p with enabled := false }).2.seen
      stirring now) := by
  generalize hq : (Port.stopBus (hw.watched stirring) { p with enabled := false }).2 = q
  have hresting : q.bare.Resting mask := by
    rw [← hq, Port.bare_stopBus]
    exact Port.resting_stopBus hlaw
  have hoff : q.enabled = false := by rw [← hq, Port.port_stopBus, Port.applyAll_frame]
  have hnotes : q.hardware.2 = p.hardware.2 := by
    rw [← hq, Port.port_stopBus, Port.notes_applyAll]
    rfl
  refine ⟨hoff, ?_, hresting⟩
  have hbare : q.bare.enabled = false := hoff
  have hidle := hresting.idle
  have hdeaf := hresting.deaf
  show stirring.looks now q.bare q.hardware.2 = _
  simp [stirring, hnotes, hbare, hidle, hdeaf, h.known, h.fresh hon, hon]

private theorem Wakeful.occur (h : Wakeful p) (hlaw : hw.Masking mask) (i : Incident η) :
    Wakeful (i.occur hw stirring p) ∨ ∃ n, Asleep mask n (i.occur hw stirring p) := by
  have hseen {q : Port (η × Stirring)} (hq : Roused q) : Wakeful (q.seen stirring (hw.clock q.hardware.1)) :=
    wakeful_seen (.inl hq)
  unfold Incident.occur
  cases i with
  | uart => exact .inl (hseen h.roused.attend)
  | alarm => exact .inl (hseen (h.roused.raise _ _))
  | edge level =>
    left
    refine hseen ?_
    show Roused (p.onEdge (hw.watched stirring) level)
    obtain ⟨meter, hedge | ⟨-, hedge⟩⟩ :=
      Port.onEdge_cases (hw.watched stirring) p level <;> rw [hedge] <;> exact h.roused
  | goesOn change => exact .inl (hseen h.roused)
  | enable => exact .inl (hseen h.roused.enable)
  | disable =>
    dsimp only [Incident.beside, Incident.happen]
    rcases Port.disable_cases (hw.watched stirring) p with ⟨-, hsame⟩ | ⟨hon, -, hstopped⟩
    · rw [hsame]
      exact .inl (hseen h.roused)
    · rw [hstopped]
      exact .inr ⟨_, h.stopBus hlaw hon⟩
  | setMode mode =>
    left
    refine hseen ?_
    show Roused ((Port.setMode mode : Run (Port (η × Stirring)) (PortError ε) Unit).runFrom p).2
    rcases Port.setMode_cases (ε := ε) mode p with hset | hset <;> rw [hset] <;> exact h.roused
  | setBaud baud =>
    left
    refine hseen ?_
    obtain ⟨rate, hset⟩ := Port.setBaud_frame (hw.watched stirring) baud p
    show Roused ((Port.setBaud (hw.watched stirring) baud).runFrom p).2
    rw [hset]
    exact h.roused
  | setBreak micros => exact .inl (hseen h.roused)
  | setMark micros => exact .inl (hseen h.roused)

private theorem Asleep.occur (h : Asleep mask n p) (hlaw : hw.Masking mask) {i : Incident η} (hi : i.KeepsMask mask) :
    Asleep mask n (i.occur hw stirring p) ∨ i.switchesOn = true ∧ Wakeful (i.occur hw stirring p) := by
  -- What is set of the bus does not wake it.
  have hset (q : Port (η × Stirring)) (hoff : q.enabled = p.enabled) (hnotes : q.hardware.2 = p.hardware.2)
      (hresting : q.bare.Resting mask) : Asleep mask n (q.seen stirring (hw.clock q.hardware.1)) :=
    Asleep.seen ⟨hoff.trans h.off, hnotes.trans h.known, hresting⟩
  unfold Incident.occur
  cases i with
  | uart => exact .inl (h.attend hlaw).seen
  | alarm =>
    left
    have hquiet : p.onAlarm (hw.watched stirring) = p := Port.raise_of_nothing (h.resting.handle_alarm _ _)
    dsimp only [Incident.beside, Incident.happen]
    rw [hquiet]
    exact h.seen
  | edge level =>
    left
    dsimp only [Incident.beside, Incident.happen]
    obtain ⟨meter, hedge | ⟨-, hedge⟩⟩ := Port.onEdge_cases (hw.watched stirring) p level <;> rw [hedge] <;>
      exact hset _ rfl rfl (h.resting.of_eq rfl rfl rfl rfl rfl rfl rfl)
  | goesOn change => exact .inl (hset _ rfl rfl (h.resting.keep (hi _) rfl))
  | enable =>
    dsimp only [Incident.beside, Incident.happen]
    rcases Port.enable_cases (hw.watched stirring) p with ⟨hon, -⟩ | ⟨-, hardware, hreset, hrefused | hstarted⟩
    · rw [h.off] at hon
      cases hon
    · rw [hrefused, hreset]
      exact .inl (hset _ rfl rfl (h.resting.keep (hlaw.resetTxFifo _) rfl))
    · rw [hstarted]
      refine .inr ⟨rfl, wakeful_seen (.inl (.inl ?_))⟩
      dsimp only
      rw [Port.applyAll_frame]
  | disable =>
    left
    dsimp only [Incident.beside, Incident.happen]
    rcases Port.disable_cases (hw.watched stirring) p with ⟨-, hsame⟩ | ⟨hon, -, -⟩
    · rw [hsame]
      exact h.seen
    · rw [h.off] at hon
      cases hon
  | setMode mode =>
    left
    dsimp only [Incident.beside, Incident.happen]
    rcases Port.setMode_cases (ε := ε) mode p with hmode | hmode <;> rw [hmode]
    · exact h.seen
    · exact hset _ rfl rfl (h.resting.of_eq rfl rfl rfl rfl rfl rfl rfl)
  | setBaud baud =>
    left
    obtain ⟨rate, hrate⟩ := Port.setBaud_frame (hw.watched stirring) baud p
    dsimp only [Incident.beside, Incident.happen]
    rw [hrate]
    exact hset _ rfl rfl (h.resting.keep (hlaw.setBaud _ _) rfl)
  | setBreak micros => exact .inl (hset _ rfl rfl (h.resting.of_eq rfl rfl rfl rfl rfl rfl rfl))
  | setMark micros => exact .inl (hset _ rfl rfl (h.resting.of_eq rfl rfl rfl rfl rfl rfl rfl))

/-! ### Calls -/

/-- A port in a run: unless something wakes it, it rests while it is off. -/
def Still (mask : η → Interrupts) (p : Port (η × Stirring)) : Prop := Wakeful p ∨ ∃ n, Asleep mask n p

namespace Still

private theorem occur (h : Still mask p) (hlaw : hw.Masking mask) {i : Incident η} (hi : i.KeepsMask mask) :
    Still mask (i.occur hw stirring p) := by
  rcases h with hwakeful | ⟨n, hasleep⟩
  · exact hwakeful.occur hlaw i
  · rcases hasleep.occur hlaw hi with hsame | ⟨-, hwoken⟩
    · exact .inr ⟨n, hsame⟩
    · exact .inl hwoken

private theorem seen_of (h : Still mask p) (henabled : p'.enabled = p.enabled) (hhardware : p'.hardware = p.hardware)
    (hbus : ∃ frame, p'.bus = { p.bus with frame }) : Still mask (p'.seen stirring now) := by
  rcases h with hwakeful | ⟨n, hasleep⟩
  · refine .inl (wakeful_seen (.inl ?_))
    unfold Roused
    rw [henabled, hhardware]
    exact hwakeful.roused
  · exact .inr ⟨n, hasleep.seen_of henabled hhardware hbus⟩

private theorem seen_listen (h : Still mask p) :
    Still mask ((p.dispatch (hw.watched stirring) .receiveRequested).2.seen stirring now) := by
  left
  unfold Port.dispatch
  rcases h with hwakeful | ⟨n, hasleep⟩
  · refine wakeful_seen (.inl ?_)
    obtain ⟨count, hcount⟩ := Stirring.hears_eq (η := η) p.bus.frame
      (p.bus.handle .receiveRequested (p.now (hw.watched stirring))).1 p.hardware.2
    unfold Roused
    rw [Port.enabled_dispatchAt, Port.notes_dispatchAt, hcount]
    exact hwakeful.roused
  · -- A bus that does nothing begins to receive.
    refine wakeful_seen (.inr (.inr ?_))
    have hready : !p.bus.isSending ∧ !p.bus.receiving := by
      have hidle : p.bus.isSending = false := hasleep.resting.idle
      have hdeaf : p.bus.receiving = false := hasleep.resting.deaf
      simp [hidle, hdeaf]
    rw [Port.bus_dispatchAt]
    show (if !p.bus.isSending ∧ !p.bus.receiving then p.bus.listen else ([], p.bus)).2.receiving = true
    rw [if_pos hready]
    rfl

/-- Whatever tasks do, a port that is off rests until something wakes it. -/
private theorem keptByCalls (hlaw : hw.Masking mask) {e : Environment η Stirring}
    (he : e.Only (Incident.KeepsMask mask)) :
    Session.KeptByCalls (e.world hw stirring) (Still mask) := by
  have hoccur (i : Incident η) (p : Port (η × Stirring)) (hi : i.KeepsMask mask) (hp : Still mask p) :
      Still mask (i.occur hw stirring p) := hp.occur hlaw hi
  have hothers : Session.KeptByOthers (e.world hw stirring) (Still mask) :=
    he.keptByOthers hoccur fun _ hp => hp.seen_of rfl rfl ⟨_, rfl⟩
  refine he.keptByCalls hoccur seen_of (fun p hp _ => ?_) fun p q size withBreak _ hsize _ => ?_
  · exact he.between_of hoccur (seen_listen (hothers.between hp))
  · refine he.between_of hoccur (.inl (wakeful_seen (.inr (.inl ?_))))
    exact (Session.isSending_startFrame _ q hsize withBreak).2

end Still

/-- A task that looks whether the port is on leaves it alone if it is off. -/
private theorem Asleep.keptByCalls (hlaw : hw.Masking mask) {e : Environment η Stirring}
    (he : e.Only fun i => i.KeepsMask mask ∧ i.switchesOn = false) (n : Nat) :
    Session.KeptByCalls (e.world hw stirring) (Asleep mask n) := by
  have hoccur (i : Incident η) (p : Port (η × Stirring)) (hi : i.KeepsMask mask ∧ i.switchesOn = false)
      (hp : Asleep mask n p) : Asleep mask n (i.occur hw stirring p) := by
    rcases hp.occur hlaw hi.1 with hsame | ⟨hon, -⟩
    · exact hsame
    · rw [hi.2] at hon
      cases hon
  have hoff {p : Port (η × Stirring)} (hp : Asleep mask n p) (hon : p.enabled = true) : False := by
    rw [hp.off] at hon
    cases hon
  refine he.keptByCalls hoccur Asleep.seen_of (fun p hp hon => ?_) fun p q size withBreak hp _ hready => ?_
  · exact (hoff hp hon).elim
  · exact (hoff hp (Session.enabled_of_ready hready)).elim

/-! ### Runs -/

private theorem asleep_install (hlaw : hw.Masking mask) {config : PortConfig} {hardware : η} {p : Port η}
    (h : Port.install hw config hardware = .ok p) : Asleep mask 0 (p.watched .none) := by
  obtain ⟨hoff, -, mode, timing, hbus⟩ := Port.new_of_install h
  have hresting : p.Resting mask := ⟨Port.Fits.install hlaw
    h, by rw [hbus]; rfl, by rw [hbus]; rfl, by rw [hbus]; rfl⟩
  exact ⟨hoff, rfl, hresting⟩

private theorem Still.run (hlaw : hw.Masking mask) (hp : Still mask p) {acts : List (Act η Stirring)}
    (hacts : ∀ act ∈ acts, act.Permitted (Incident.KeepsMask mask) (Incident.KeepsMask mask) fun _ => True) :
    Still mask (Act.run hw stirring acts p) := by
  refine Act.keeps (fun _ _ hi hp => hp.occur hlaw hi) (fun e c p he _ hp => ?_) hacts hp
  refine (Still.keptByCalls hlaw he).call c (fun _ q hq => ?_) hp
  exact he.between_of (fun _ _ hi hp => hp.occur hlaw hi) hq.seen_listen

private theorem Asleep.run (hlaw : hw.Masking mask) (hp : Asleep mask n p) {acts : List (Act η Stirring)}
    (hacts : ∀ act ∈ acts, act.Permitted (fun i => i.KeepsMask mask ∧ i.switchesOn = false)
      (fun i => i.KeepsMask mask ∧ i.switchesOn = false) fun c => c ≠ .skipResponse) :
    Asleep mask n (Act.run hw stirring acts p) := by
  refine Act.keeps (fun i p hi hp => ?_) (fun e c p he hc hp => ?_) hacts hp
  · rcases hp.occur hlaw hi.1 with hsame | ⟨hon, -⟩
    · exact hsame
    · rw [hi.2] at hon
      cases hon
  · exact (Asleep.keptByCalls hlaw he n).call c (fun hskip => absurd hskip hc) hp

/-- In every run, a port that is off has not stirred since it was switched off, unless something has made its bus send
or receive.  A port that was on and sent nothing rests when it is switched off, and the calls that are made after that
leave it at rest if no response is skipped. -/
theorem quiet_while_off (hlaw : hw.Masking mask) {config : PortConfig} {hardware : η} {p : Port η}
    (hinstalled : Port.install hw config hardware = .ok p) {acts : List (Act η Stirring)}
    (hacts : ∀ act ∈ acts, act.Permitted (Incident.KeepsMask mask) (Incident.KeepsMask mask) fun _ => True) :
    let q := Act.run hw stirring acts (p.watched .none)
    (q.enabled = true → q.bus.isSending = false →
      let off := Incident.disable.occur hw stirring q
      off.enabled = false ∧ off.hardware.2.woken = false) ∧
    (q.enabled = false → q.hardware.2.woken = false →
      q.hardware.2.count = q.hardware.2.before ∧
      ∀ more : List (Act η Stirring),
        (∀ act ∈ more, act.Permitted (fun i => i.KeepsMask mask ∧ i.switchesOn = false)
          (fun i => i.KeepsMask mask ∧ i.switchesOn = false) fun c => c ≠ .skipResponse) →
        let r := Act.run hw stirring more q
        r.enabled = false ∧ r.hardware.2.woken = false ∧ r.hardware.2.count = q.hardware.2.count) := by
  intro q
  have hstill : Still mask q := Still.run hlaw (.inr ⟨0, asleep_install hlaw hinstalled⟩) hacts
  constructor
  · intro hon hidle off
    rcases hstill with hwakeful | ⟨n, hasleep⟩
    · have hresting : Asleep mask q.hardware.2.count off := by
        show Asleep mask _ (Port.seen stirring _ ((Port.disable (hw.watched stirring)).runFrom q).2)
        rcases Port.disable_cases (hw.watched stirring) q with ⟨hoff | hsending, -⟩ | ⟨-, -, hstopped⟩
        · rw [hon] at hoff
          cases hoff
        · rw [hidle] at hsending
          cases hsending
        · rw [hstopped]
          exact hwakeful.stopBus hlaw hon
      exact ⟨hresting.off, congrArg Stirring.woken hresting.known⟩
    · rw [hasleep.off] at hon
      cases hon
  · intro hoff hunwoken
    rcases hstill with hwakeful | ⟨n, hasleep⟩
    · rcases hwakeful.roused with hon | hwoken
      · rw [hoff] at hon
        cases hon
      · rw [hunwoken] at hwoken
        cases hwoken
    · have hcount : q.hardware.2.count = n := congrArg Stirring.count hasleep.known
      refine ⟨hcount.trans (congrArg Stirring.before hasleep.known).symm, fun more hmore => ?_⟩
      have hrun : Asleep mask n (Act.run hw stirring more q) := hasleep.run hlaw hmore
      exact ⟨hrun.off, congrArg Stirring.woken hrun.known, (congrArg Stirring.count hrun.known).trans hcount.symm⟩

open Simulation

/-- Interrupts, alarms and edges come between all steps of a task, and whenever it pauses. -/
def clamour : Environment Bench Stirring :=
  let incidents : List (Incident Bench) :=
    [.goesOn fun b => { b with time := b.time + 500, pending := b.pending.union (.union .allRx .allTx) },
      .uart, .alarm, .edge .high]
  ⟨fun _ => incidents, fun _ => incidents⟩

private theorem only_clamour : clamour.Only fun i => i.KeepsMask Bench.enabled ∧ i.switchesOn = false := by
  constructor <;> simp [clamour, Incident.KeepsMask, Incident.switchesOn]

/-- A port on the bench is switched off, and then tasks want to send and to receive. -/
theorem quiet_while_off_clamour : ∃ p, Port.install Bench.hardware .standard (.new 128 []) = .ok p ∧
    let q := Act.run Bench.hardware stirring [.incident .enable, .incident .uart, .incident .disable]
      (p.watched .none)
    let r := Act.run Bench.hardware stirring
      [.call clamour (.sendFrame 3 true), .incident .alarm, .call clamour (.receive 1000)] q
    q.hardware.2 = ⟨1, false, 1, false⟩ ∧ r.hardware.2.count = 1 := by
  have hquiet {p : Port Bench} (hp : Port.install Bench.hardware .standard (.new 128 []) = .ok p)
      (hoff : (Act.run Bench.hardware stirring [.incident .enable, .incident .uart, .incident .disable]
        (p.watched .none)).enabled = false)
      (hnotes : (Act.run Bench.hardware stirring [.incident .enable, .incident .uart, .incident .disable]
        (p.watched .none)).hardware.2 = ⟨1, false, 1, false⟩) :
      (Act.run Bench.hardware stirring
        [.call clamour (.sendFrame 3 true), .incident .alarm, .call clamour (.receive 1000)]
          (Act.run Bench.hardware stirring [.incident .enable, .incident .uart, .incident .disable]
            (p.watched .none))).hardware.2.count = 1 := by
    have hpermitted : ∀ act ∈ ([.incident .enable, .incident .uart, .incident .disable] : List (Act Bench Stirring)),
        act.Permitted (Incident.KeepsMask Bench.enabled) (Incident.KeepsMask Bench.enabled) fun _ => True := by
      simp [Act.Permitted, Incident.KeepsMask]
    have hruns := quiet_while_off Bench.masking hp hpermitted
    obtain ⟨-, hmore⟩ := hruns.2 hoff (by rw [hnotes])
    have hend := hmore [.call clamour (.sendFrame 3 true), .incident .alarm, .call clamour (.receive 1000)]
      (by simpa [Act.Permitted, Incident.KeepsMask, Incident.switchesOn] using only_clamour)
    rw [hend.2.2, hnotes]
  exact ⟨_, rfl, by decide +kernel, hquiet rfl (by decide +kernel) (by decide +kernel)⟩

/-- A port that is off goes back to receiving when a response is skipped, and a transmission begins although the port
was switched off since the task looked. -/
theorem stirs_while_off : ∃ p, Port.install Bench.hardware .standard (.new 128 []) = .ok p ∧
    let off := Act.run Bench.hardware stirring [.incident .enable, .incident .disable] (p.watched .none)
    let skipped := Act.run Bench.hardware stirring [.call ⟨fun _ => [], fun _ => []⟩ .skipResponse] off
    let sent := Act.run Bench.hardware stirring
      [.incident .enable, .call ⟨fun _ => [.disable], fun _ => []⟩ (.sendFrame 3 true)] (p.watched .none)
    off.enabled = false ∧ off.hardware.2.count = 1 ∧
      skipped.enabled = false ∧ skipped.hardware.2.count = 2 ∧ skipped.hardware.1.enabled = .allRx ∧
      sent.enabled = false ∧ sent.hardware.2.before = 1 ∧ sent.hardware.2.count = 4 ∧
      sent.hardware.1.log.take 3 = ["alarm 176", "invert true", "rts true"] :=
  ⟨_, rfl, by decide +kernel⟩

end LightBus
