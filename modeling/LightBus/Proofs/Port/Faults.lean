import LightBus.Proofs.Port.Effects
import LightBus.Simulation.Bench

/-!
# Faults of the hardware

A port does what the bus asks for also after the hardware has failed to do a part of it, and tells the first failure.
So it tells none exactly if each effect was carried out (`Port.Carried`), and otherwise the error is that of the first
effect that was not (`Port.carried_or_failed`).

What was done before and after a failure is not undone.  A port that is switched on is enabled in the middle of its
start: if its first step fails, then nothing has changed, and the port can be started again as a whole.  If a later
one fails, then the port is enabled although it was not started (`Port.enable_of_disabled`).
-/

namespace LightBus

/-- The hardware could not do what it was asked for. -/
def PortError.isFault {ε : Type} : PortError ε → Bool
  | .uart _ | .timer _ => true
  | _ => false

/-- The text of the error that a call ends with. -/
def complaint? {ε α : Type} [Failure ε] : Except ε α → Option String
  | .error e => some (Failure.message e)
  | .ok _ => none

namespace Run

variable {σ ε α β : Type} {E : ε → Prop}

/-- The first computation fails, or the second one does. -/
theorem cases_of_bind {a : Run σ ε α} {f : α → Run σ ε β} {s t : σ} {e : ε}
    (h : (a >>= f).runFrom s = (.error e, t)) :
    a.runFrom s = (.error e, t) ∨ ∃ x s', a.runFrom s = (.ok x, s') ∧ (f x).runFrom s' = (.error e, t) := by
  rw [runFrom_bind] at h
  rcases hrun : a.runFrom s with ⟨e' | x, s'⟩ <;> rw [hrun] at h
  · cases h
    exact .inl rfl
  · exact .inr ⟨x, s', rfl, h⟩

/-- The computation can only fail with such an error. -/
def Fails (E : ε → Prop) (a : Run σ ε α) : Prop := ∀ s e t, a.runFrom s = (.error e, t) → E e

theorem fails_pure (x : α) : Fails E (pure x : Run σ ε α) := fun _ _ _ h => nomatch h

theorem fails_throw {e : ε} (h : E e) : Fails E (throw e : Run σ ε α) := by
  intro s e' t he
  cases he
  exact h

theorem Fails.bind {a : Run σ ε α} {f : α → Run σ ε β} (ha : Fails E a) (hf : ∀ x, Fails E (f x)) :
    Fails E (a >>= f) := by
  intro s e t h
  rcases cases_of_bind h with hfirst | ⟨x, s', -, hsecond⟩
  · exact ha s e t hfirst
  · exact hf x s' e t hsecond

end Run

open Run (Fails fails_pure)

namespace Port

variable {η ε : Type} {hw : Hardware η ε} {effects : List Effect} {p q : Port η} {e : PortError ε}

/-! ### One effect -/

private theorem isFault_onHardware {wrap : ε → PortError ε} (hwrap : ∀ error, (wrap error).isFault = true)
    (a : Run η ε Unit) :
    Fails (fun e => e.isFault = true)
      (do onHardware wrap a; return none : Run (Port η) (PortError ε) (Option Notice)) := by
  refine Fails.bind (fun p e q h => ?_) fun _ => fails_pure _
  rw [runFrom_onHardware] at h
  cases hresult : (a.runFrom p.hardware).1 <;> rw [hresult] at h
  · cases h
    exact hwrap _
  · cases h

/-- Only the hardware can fail to do what an effect asks for. -/
private theorem isFault_apply (effect : Effect) : Fails (fun e => e.isFault = true) (apply hw effect) := by
  cases effect with
  | resetRxFifo | turn | invert | setAlarm | cancelAlarm => exact isFault_onHardware (fun _ => rfl) _
  | writeFifo first last => exact Fails.bind (fun _ _ _ h => nomatch h) fun _ => isFault_onHardware (fun _ => rfl) _
  | enableRx | disableRx | enableTx | disableTxData | disableTx | notify => exact fun _ _ _ h => nomatch h

/-! ### All effects -/

/-- The hardware does what the effects ask for, one after the other, and this leads from `p` to `q`. -/
inductive Carried (hw : Hardware η ε) : List Effect → Port η → Port η → Prop where
  | nil (p : Port η) : Carried hw [] p p
  | cons {effect : Effect} {rest : List Effect} {p q r : Port η} {notice : Option Notice}
    (h : (apply hw effect).runFrom p = (.ok notice, q)) (hrest : Carried hw rest q r) :
    Carried hw (effect :: rest) p r

private theorem Carried.applyAll_eq (h : Carried hw effects p q) :
    (applyAll hw effects p).1.result = .ok () ∧ (applyAll hw effects p).2 = q := by
  induction h with
  | nil p => exact ⟨rfl, rfl⟩
  | cons h _ ih =>
    rw [applyAll, h]
    exact ih

/-- All effects are carried out, or the error is that of the first one that is not. -/
theorem carried_or_failed (hw : Hardware η ε) (effects : List Effect) (p : Port η) :
    Carried hw effects p (applyAll hw effects p).2 ∨
      ∃ done effect rest q e, effects = done ++ effect :: rest ∧ Carried hw done p q ∧
        ((apply hw effect).runFrom q).1 = .error e ∧ (applyAll hw effects p).1.result = .error e := by
  induction effects generalizing p with
  | nil => exact .inl (.nil p)
  | cons effect rest ih =>
    rw [applyAll]
    rcases happly : (apply hw effect).runFrom p with ⟨e | notice, q⟩
    · exact .inr ⟨[], effect, rest, p, e, rfl, .nil p, congrArg Prod.fst happly, rfl⟩
    · rcases ih q with hrest | ⟨done, failed, more, r, e, rfl, hdone, hfailed, hresult⟩
      · exact .inl (.cons happly hrest)
      · exact .inr ⟨effect :: done, failed, more, r, e, rfl, .cons happly hdone, hfailed, hresult⟩

private theorem carried_of_ok (h : (applyAll hw effects p).1.result = .ok ()) :
    Carried hw effects p (applyAll hw effects p).2 := by
  rcases carried_or_failed hw effects p with hcarried | ⟨_, _, _, _, _, -, -, -, hresult⟩
  · exact hcarried
  · rw [h] at hresult
    cases hresult

theorem isFault_applyAll (h : (applyAll hw effects p).1.result = .error e) : e.isFault = true := by
  rcases carried_or_failed hw effects p with hcarried | ⟨_, effect, _, q, e', -, -, hfailed, hresult⟩
  · rw [hcarried.applyAll_eq.1] at h
    cases h
  · rw [hresult] at h
    obtain rfl := Except.error.inj h
    exact isFault_apply effect q e' _ (Prod.ext hfailed rfl)

/-! ### Switching on -/

/-- All that begins the reception has been done: the transmit fifo is reset, the transceiver is turned, the receive
fifo is reset, and the interrupts of the receiver are enabled. -/
inductive Started (hw : Hardware η ε) (h : η) : η → Prop where
  | intro {h₁ h₂ h₃ : η} (hreset : hw.resetTxFifo.runFrom h = (.ok (), h₁))
    (hturn : (hw.turn .receive).runFrom h₁ = (.ok (), h₂)) (hempty : hw.resetRxFifo.runFrom h₂ = (.ok (), h₃)) :
    Started hw h (hw.enable .allRx (hw.clear .allRx h₃))

/-- The port when it has begun to receive on the hardware. -/
def started (p : Port η) (hardware : η) : Port η :=
  { p with hardware, bus := p.bus.start.2, enabled := true, notice := none }

private theorem runFrom_onHardware_of_ok {wrap : ε → PortError ε} {a : Run η ε Unit} {notice : Option Notice}
    (h : (do onHardware wrap a; return none : Run (Port η) (PortError ε) (Option Notice)).runFrom p =
      (.ok notice, q)) :
    ∃ hardware, a.runFrom p.hardware = (.ok (), hardware) ∧ q = { p with hardware } := by
  rw [Run.runFrom_bind, runFrom_onHardware] at h
  rcases hrun : a.runFrom p.hardware with ⟨_ | ⟨⟩, hardware⟩ <;> rw [hrun] at h
  · cases h
  · cases h
    exact ⟨hardware, rfl, rfl⟩

private theorem runFrom_onHardware_of_error {wrap : ε → PortError ε} {a : Run η ε Unit}
    (h : ((do onHardware wrap a; return none : Run (Port η) (PortError ε) (Option Notice)).runFrom p).1 = .error e) :
    ∃ error hardware, a.runFrom p.hardware = (.error error, hardware) ∧ e = wrap error := by
  rw [Run.runFrom_bind, runFrom_onHardware] at h
  rcases hrun : a.runFrom p.hardware with ⟨error | ⟨⟩, hardware⟩ <;> rw [hrun] at h
  · cases h
    exact ⟨error, hardware, rfl, rfl⟩
  · cases h

private theorem exists_of_carried_start (h : Carried hw p.bus.start.1 p q) :
    ∃ h₁ h₂, (hw.turn .receive).runFrom p.hardware = (.ok (), h₁) ∧ hw.resetRxFifo.runFrom h₁ = (.ok (), h₂) ∧
      q = { p with hardware := hw.enable .allRx (hw.clear .allRx h₂) } := by
  obtain _ | ⟨hturn, _ | ⟨hempty, _ | ⟨hlisten, hnil⟩⟩⟩ := h
  cases hnil
  obtain ⟨h₁, hturned, rfl⟩ := runFrom_onHardware_of_ok hturn
  obtain ⟨h₂, hemptied, rfl⟩ := runFrom_onHardware_of_ok hempty
  cases hlisten
  exact ⟨h₁, h₂, hturned, hemptied, rfl⟩

private theorem carried_start {h₁ h₂ : η} (hturn : (hw.turn .receive).runFrom p.hardware = (.ok (), h₁))
    (hempty : hw.resetRxFifo.runFrom h₁ = (.ok (), h₂)) :
    Carried hw p.bus.start.1 p { p with hardware := hw.enable .allRx (hw.clear .allRx h₂) } := by
  have hturned : (apply hw (.turn .receive)).runFrom p = (.ok none, { p with hardware := h₁ }) := by
    rw [apply, Run.runFrom_bind, runFrom_onHardware, hturn]
    rfl
  have hemptied :
      (apply hw .resetRxFifo).runFrom { p with hardware := h₁ } = (.ok none, { p with hardware := h₂ }) := by
    rw [apply, Run.runFrom_bind, runFrom_onHardware, hempty]
    rfl
  exact .cons hturned (.cons hemptied (.cons rfl (.nil _)))

/-- A start that fails stops at the transceiver or at the receive fifo. -/
private theorem start_failed (h : (applyAll hw p.bus.start.1 p).1.result = .error e) :
    (∃ error h₁, (hw.turn .receive).runFrom p.hardware = (.error error, h₁) ∧ e = .uart error) ∨
      ∃ h₁ error h₂, (hw.turn .receive).runFrom p.hardware = (.ok (), h₁) ∧ hw.resetRxFifo.runFrom h₁ =
        (.error error, h₂) ∧
        e = .uart error := by
  rcases carried_or_failed hw p.bus.start.1 p with hcarried | ⟨done, effect, rest, q, e', heffects, hdone,
    hfailed, hresult⟩
  · rw [hcarried.applyAll_eq.1] at h
    cases h
  obtain rfl : e' = e := Except.error.inj (hresult.symm.trans h)
  have hstart : p.bus.start.1 = [.turn .receive, .resetRxFifo, .enableRx] := rfl
  rw [hstart] at heffects
  cases hdone with
  | nil =>
    cases heffects
    exact .inl (runFrom_onHardware_of_error hfailed)
  | cons hturn hdone =>
    cases hdone with
    | nil =>
      cases heffects
      obtain ⟨h₁, hturned, rfl⟩ := runFrom_onHardware_of_ok hturn
      obtain ⟨error, h₂, hempty, rfl⟩ := runFrom_onHardware_of_error hfailed
      exact .inr ⟨h₁, error, h₂, hturned, hempty, rfl⟩
    | cons hempty hdone =>
      -- To enable interrupts never fails.
      cases hdone with
      | nil =>
        cases heffects
        cases hfailed
      | cons _ _ => simp at heffects

/-- A port that is disabled is started as a whole if the hardware does not fail, and no other call of it ends well.
If the transmit fifo cannot be reset, then the port stays as it was, but for a notice that nobody has taken.  If the
hardware fails after that, then the port is enabled all the same. -/
theorem enable_of_disabled (hw : Hardware η ε) (hoff : p.enabled = false) :
    let result := (enable hw).runFrom p
    (∀ hardware, Started hw p.hardware hardware → result = (.ok (), p.started hardware)) ∧
    (result.1 = .ok () → ∃ hardware, Started hw p.hardware hardware ∧ result.2 = p.started hardware) ∧
    ∀ e, result.1 = .error e →
      (∃ error hardware, hw.resetTxFifo.runFrom p.hardware = (.error error, hardware) ∧ e = .uart error ∧
        result.2 = { p with hardware, notice := none }) ∨
      result.2.enabled = true ∧ ∃ h₁, hw.resetTxFifo.runFrom p.hardware = (.ok (), h₁) ∧
        ((∃ error h₂, (hw.turn .receive).runFrom h₁ = (.error error, h₂) ∧ e = .uart error) ∨
          ∃ h₂ error h₃, (hw.turn .receive).runFrom h₁ = (.ok (), h₂) ∧ hw.resetRxFifo.runFrom h₂ =
            (.error error, h₃) ∧
            e = .uart error) := by
  intro result
  have hresult : result = (((switchOn hw).runFrom p).1, { ((switchOn hw).runFrom p).2 with notice := none }) := rfl
  -- The port with the transmit fifo reset, when its start begins.
  let fresh (hardware : η) : Port η := { p with hardware, enabled := true, bus := p.bus.start.2 }
  rcases hreset : hw.resetTxFifo.runFrom p.hardware with ⟨error | ⟨⟩, h₁⟩
  · rw [runFrom_switchOn_of_refused hoff hreset] at hresult
    rw [hresult]
    refine ⟨?_, nofun, ?_⟩
    · rintro _ ⟨hdone, -, -⟩
      rw [hreset] at hdone
      cases hdone
    · rintro _ ⟨⟩
      exact .inl ⟨error, h₁, rfl, rfl, rfl⟩
  rw [runFrom_switchOn_of_reset hoff hreset] at hresult
  rw [hresult]
  refine ⟨?_, ?_, ?_⟩
  · rintro _ ⟨hdone, hturn, hempty⟩
    rw [hreset] at hdone
    cases hdone
    obtain ⟨hok, hport⟩ := (carried_start (p := fresh h₁) hturn hempty).applyAll_eq
    exact Prod.ext hok (congrArg (fun q : Port η => { q with notice := none }) hport)
  · intro hok
    obtain ⟨h₂, h₃, hturn, hempty, hport⟩ := exists_of_carried_start (p := fresh h₁) (carried_of_ok hok)
    exact ⟨_, ⟨hreset, hturn, hempty⟩, congrArg (fun q : Port η => { q with notice := none }) hport⟩
  · intro e herror
    refine .inr ⟨?_, h₁, rfl, start_failed (p := fresh h₁) herror⟩
    show (applyAll hw p.bus.start.1 (fresh h₁)).2.enabled = true
    rw [applyAll_frame]

open Simulation

/-- If the transmit fifo cannot be reset, then the port stays disabled, and it is started as a whole when all calls
work again. -/
theorem enable_of_disabled_reset : ∃ p, install Bench.hardware .standard (.new 128 []) = .ok p ∧
    let failed := (enable Bench.hardware).runFrom (Bench.occur (.fail ["reset_tx"]) p)
    let mended := Bench.occur (.fail []) failed.2
    complaint? failed.1 = some "fault reset_tx" ∧ failed.2.enabled = false ∧
      ∃ h, Started Bench.hardware mended.hardware h ∧ (enable Bench.hardware).runFrom mended =
        (.ok (), mended.started h) := by
  have hstays {p : Port Bench} {e : PortError Fault} (hoff : p.enabled = false)
      (h : ((enable Bench.hardware).runFrom p).1 = .error e)
      (hreset : (Bench.hardware.resetTxFifo.runFrom p.hardware).1 ≠ .ok ()) :
      ((enable Bench.hardware).runFrom p).2.enabled = false := by
    rcases (enable_of_disabled Bench.hardware hoff).2.2 e h with ⟨_, _, -, -, hport⟩ | ⟨-, _, hdone, -⟩
    · rw [hport]
      exact hoff
    · rw [hdone] at hreset
      exact absurd rfl hreset
  have hstarts {p : Port Bench} {h : Bench} (hoff : p.enabled = false)
    (hstart : Started Bench.hardware p.hardware h) :
      ∃ h, Started Bench.hardware p.hardware h ∧ (enable Bench.hardware).runFrom p = (.ok (), p.started h) :=
    ⟨h, hstart, (enable_of_disabled Bench.hardware hoff).1 h hstart⟩
  exact ⟨_, rfl, by decide +kernel, hstays rfl rfl nofun, hstarts (by decide +kernel) (.intro rfl rfl rfl)⟩

/-- The transceiver cannot be turned.  The task is told so, but the port is enabled, and to enable it again does
nothing when all calls work again. -/
theorem enabled_though_refused : ∃ p, install Bench.hardware .standard (.new 128 []) = .ok p ∧
    let failed := (enable Bench.hardware).runFrom (Bench.occur (.fail ["rts"]) p)
    let mended := Bench.occur (.fail []) failed.2
    p.enabled = false ∧ complaint? failed.1 = some "fault rts" ∧ failed.2.enabled = true ∧
      ((enable Bench.hardware).runFrom mended).1.toOption = some () ∧
      ((enable Bench.hardware).runFrom mended).2.hardware.log = mended.hardware.log :=
  ⟨_, rfl, by decide +kernel, by decide +kernel, by decide +kernel, by decide +kernel, by decide +kernel⟩

end Port

end LightBus
