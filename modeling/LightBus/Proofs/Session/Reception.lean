import LightBus.Proofs.Bus.Frames
import LightBus.Proofs.Port.Effects
import LightBus.Session.Links

/-!
# What a task receives

A task that waits for a frame takes each notice before it pauses again.  If the slots that a notice tells have come in
when the notice is given (`Port.Whole`), then the task gets no other slots (`Session.Attends.receiveFrame`).

Interrupts may come between the steps of the task, as long as they leave the buffer alone and give no notice of a
whole frame (`Port.Undisturbed`).  Where slots may come in between the notice and the look into the buffer, it fails.
-/

namespace LightBus

namespace Run

variable {σ ε ε' α β : Type} {P : σ → Prop} {Q : α → σ → Prop} {R : σ → Prop}

/-- From a state with `P` the computation leads to `Q` with its value, or to `R` with an error. -/
def Yields (P : σ → Prop) (a : Run σ ε α) (Q : α → σ → Prop) (R : σ → Prop) : Prop :=
  ∀ s, P s → (∀ x s', a.runFrom s = (.ok x, s') → Q x s') ∧ ∀ e s', a.runFrom s = (.error e, s') → R s'

theorem yields_pure {x : α} (h : ∀ s, P s → Q x s) : Yields P (pure x : Run σ ε α) Q R := by
  refine fun s hs => ⟨fun y s' hrun => ?_, fun e s' hrun => ?_⟩
  · cases hrun
    exact h s hs
  · cases hrun

theorem yields_throw {e : ε} (h : ∀ s, P s → R s) : Yields P (throw e : Run σ ε α) Q R := by
  refine fun s hs => ⟨fun y s' hrun => ?_, fun e s' hrun => ?_⟩
  · cases hrun
  · cases hrun
    exact h s hs

theorem yields_ofExcept {r : Except ε α} (hok : ∀ x s, r = .ok x → P s → Q x s) (herror : ∀ s, P s → R s) :
    Yields P (ofExcept r) Q R := by
  refine fun s hs => ⟨fun y s' hrun => ?_, fun e s' hrun => ?_⟩
  · cases hrun
    exact hok y s rfl hs
  · cases hrun
    exact herror s hs

theorem Yields.bind {a : Run σ ε α} {f : α → Run σ ε β} {Q' : β → σ → Prop} (ha : Yields P a Q R)
    (hf : ∀ x, Yields (Q x) (f x) Q' R) : Yields P (a >>= f) Q' R := by
  intro s hs
  rw [runFrom_bind]
  obtain ⟨hok, herror⟩ := ha s hs
  rcases hrun : a.runFrom s with ⟨e | x, s'⟩
  · refine ⟨fun y s'' heq => ?_, fun e' s'' heq => ?_⟩
    · cases heq
    · cases heq
      exact herror e s' hrun
  · exact hf x s' (hok x s' hrun)

theorem Yields.mono {a : Run σ ε α} {P' : σ → Prop} {Q' : α → σ → Prop} (h : Yields P a Q R) (hP : ∀ s, P' s → P s)
    (hQ : ∀ x s, Q x s → Q' x s) : Yields P' a Q' R :=
  fun s hs => ⟨fun x s' hrun => hQ x s' ((h s (hP s hs)).1 x s' hrun), (h s (hP s hs)).2⟩

theorem Yields.mapError {a : Run σ ε α} (h : Yields P a Q R) (f : ε → ε') : Yields P (a.mapError f) Q R := by
  intro s hs
  rw [runFrom_mapError]
  obtain ⟨hok, herror⟩ := h s hs
  rcases hrun : a.runFrom s with ⟨e | x, s'⟩
  · refine ⟨fun y s'' heq => ?_, fun e' s'' heq => ?_⟩
    · cases heq
    · cases heq
      exact herror e s' hrun
  · refine ⟨fun y s'' heq => ?_, fun e' s'' heq => ?_⟩
    · cases heq
      exact hok x s' hrun
    · cases heq

theorem yields_rounds {f : Nat → Run σ ε α} (rounds : σ → Nat) (hf : ∀ n, Yields P (f n) Q R) :
    Yields P (fun s => f (rounds s) s : Run σ ε α) Q R :=
  fun s hs => hf (rounds s) s hs

end Run

open Run (Yields yields_pure yields_throw yields_ofExcept yields_rounds)

variable {η ε α : Type} {hw : Hardware η ε}

/-! ### Notices of whole frames -/

namespace Port

variable {p : Port η} {arrived : List UInt8 → Prop}

/-- If the notice of a whole frame waits, then the slots that it tells have arrived. -/
def Whole (arrived : List UInt8 → Prop) (p : Port η) : Prop :=
  ∀ n, p.notice = some n → n.isFrame = true → arrived (p.bus.frame.take n.size)

/-- No notice of a whole frame waits. -/
def Vacant (p : Port η) : Prop := ∀ n, p.notice = some n → n.isFrame = false

private theorem vacant_of_none (h : p.notice = none) : p.Vacant := by
  intro n hn
  rw [h] at hn
  cases hn

theorem Vacant.whole (h : p.Vacant) : p.Whole arrived := by
  intro n hn hwhole
  rw [h n hn] at hwhole
  cases hwhole

theorem whole_of_none (h : p.notice = none) : p.Whole arrived := (vacant_of_none h).whole

/-- A notice that still waits tells what it told, if the buffer was left alone. -/
theorem whole_raise {event : BusEvent} {now : Nat} {f : Option (List UInt8)}
    (hkept : p.Vacant ∨ p.Whole arrived ∧ (p.bus.handle event now).2.frame = p.bus.frame)
    (htells : Bus.Tells f (p.bus.handle event now))
    (harrived : ∀ slots frame, f = some frame → slots <+: frame → arrived slots) :
    (p.raise hw event now).Whole arrived := by
  intro n hn hwhole
  rw [bus_raise]
  rcases notice_raise hw p event now with hold | ⟨m, timing, hm, hnew⟩
  · rw [hold] at hn
    rcases hkept with hvacant | ⟨h, hframe⟩
    · rw [hvacant n hn] at hwhole
      cases hwhole
    · rw [hframe]
      exact h n hn hwhole
  · obtain rfl := Option.some.inj (hnew.symm.trans hn)
    obtain ⟨frame, hf, hbegins⟩ := htells m (List.mem_filterMap.2 ⟨_, hm, rfl⟩) hwhole
    exact harrived _ frame hf hbegins

theorem Whole.raise (h : p.Whole arrived) {event : BusEvent} {now : Nat}
    (hframe : (p.bus.handle event now).2.frame = p.bus.frame) (hquiet : Bus.Quiet (p.bus.handle event now).1) :
    (p.raise hw event now).Whole arrived :=
  whole_raise (f := none) (.inr ⟨h, hframe⟩) hquiet.tells nofun

/-- From `p` to `q` the buffer was left alone, and no notice of a whole frame was given. -/
structure Undisturbed (p q : Port η) : Prop where
  frame : q.bus.frame = p.bus.frame
  notice : ∀ n, q.notice = some n → n.isFrame = true → p.notice = some n

namespace Undisturbed

variable {q r : Port η}

theorem of_eq (hbus : q.bus = p.bus) (hnotice : q.notice = p.notice) : Undisturbed p q :=
  ⟨congrArg Bus.frame hbus, fun _ hn _ => hnotice ▸ hn⟩

theorem refl (p : Port η) : Undisturbed p p := of_eq rfl rfl

theorem trans (h : Undisturbed p q) (h' : Undisturbed q r) : Undisturbed p r :=
  ⟨h'.frame.trans h.frame, fun n hn hwhole => h.notice n (h'.notice n hn hwhole) hwhole⟩

private theorem vacant (h : Undisturbed p q) (hp : p.Vacant) : q.Vacant := by
  intro n hn
  cases hwhole : n.isFrame with
  | false => rfl
  | true => exact hwhole.symm.trans (hp n (h.notice n hn hwhole))

private theorem whole {later : List UInt8 → Prop} (h : Undisturbed p q) (hp : p.Whole arrived)
    (hlater : ∀ slots, arrived slots → later slots) : q.Whole later := by
  intro n hn hwhole
  rw [h.frame]
  exact hlater _ (hp n (h.notice n hn hwhole) hwhole)

theorem raise {event : BusEvent} {now : Nat} (h : Undisturbed p q)
    (hframe : (q.bus.handle event now).2.frame = q.bus.frame) (hquiet : Bus.Quiet (q.bus.handle event now).1) :
    Undisturbed p (q.raise hw event now) := by
  refine h.trans ⟨?_, fun n hn hwhole => ?_⟩
  · rw [bus_raise, hframe]
  · rcases notice_raise hw q event now with hold | ⟨m, timing, hm, hnew⟩
    · rwa [hold] at hn
    · -- The new notice would be that of a whole frame, which a quiet step does not give.
      obtain rfl := Option.some.inj (hnew.symm.trans hn)
      have hnone : m.isFrame = false := hquiet m (List.mem_filterMap.2 ⟨_, hm, rfl⟩)
      exact absurd (hnone.symm.trans hwhole) Bool.false_ne_true

end Undisturbed

theorem notice_dispatch_receiveRequested : (p.dispatch hw .receiveRequested).1.notice = none := by
  cases htold : (p.dispatch hw .receiveRequested).1.notice with
  | none => rfl
  | some n =>
    obtain ⟨m, -, hm, -⟩ : ∃ m timing, .notify m ∈ (p.bus.handle .receiveRequested (p.now hw)).1 ∧
        n = { m with timing } :=
      notice_applyAll htold
    simp only [Bus.handle] at hm
    split at hm
    · simp [Bus.listen] at hm
    · simp at hm

end Port

/-! ### Receiving -/

namespace Session

variable {w : World η ε} {I : η → Bus → Prop} {arrived : η → List UInt8 → Prop}

/-- No more is told than has arrived. -/
def Fine (I : η → Bus → Prop) (arrived : η → List UInt8 → Prop) (p : Port η) : Prop :=
  I p.hardware p.bus ∧ p.Whole (arrived p.hardware)

/-- All notices of whole frames have been taken. -/
def Taken (I : η → Bus → Prop) (p : Port η) : Prop := I p.hardware p.bus ∧ p.Vacant

private theorem Taken.fine {p : Port η} (h : Taken I p) : Fine I arrived p := ⟨h.1, h.2.whole⟩

/-- The notice has been taken, and what it tells of the buffer has arrived. -/
def Told (I : η → Bus → Prop) (arrived : η → List UInt8 → Prop) (n : Notice) (p : Port η) : Prop :=
  Taken I p ∧ (n.isFrame = true → arrived p.hardware (p.bus.frame.take n.size))

/-- A task on hardware where slots come in while it pauses, but not between its other steps. -/
structure Attends (w : World η ε) (I : η → Bus → Prop) (arrived : η → List UInt8 → Prop) : Prop where
  between {p : Port η} (hp : Fine I arrived p) :
    I (w.between p).hardware (w.between p).bus ∧ Port.Undisturbed p (w.between p) ∧
      ∀ slots, arrived p.hardware slots → arrived (w.between p).hardware slots
  pause {p : Port η} (hp : I p.hardware p.bus) (hvacant : p.Vacant) :
    I (w.pause p).hardware (w.pause p).bus ∧ (w.pause p).Whole (arrived (w.pause p).hardware)
  listen {p : Port η} (hp : I p.hardware p.bus) :
    I (p.dispatch w.hardware .receiveRequested).2.hardware (p.dispatch w.hardware .receiveRequested).2.bus ∧
      ∀ slots, arrived p.hardware slots → arrived (p.dispatch w.hardware .receiveRequested).2.hardware slots

namespace Attends

variable {P : Port η → Prop} {Q : α → Port η → Prop} {R : Port η → Prop}

/-! ### Between the steps -/

private theorem fine_between (h : Attends w I arrived) {p : Port η} (hp : Fine I arrived p) :
    Fine I arrived (w.between p) := by
  obtain ⟨hI, hundisturbed, hmore⟩ := h.between hp
  exact ⟨hI, hundisturbed.whole hp.2 hmore⟩

private theorem taken_between (h : Attends w I arrived) {p : Port η} (hp : Taken I p) : Taken I (w.between p) := by
  obtain ⟨hI, hundisturbed, -⟩ := h.between hp.fine
  exact ⟨hI, hundisturbed.vacant hp.2⟩

private theorem told_between (h : Attends w I arrived) {n : Notice} {p : Port η} (hp : Told I arrived n p) :
    Told I arrived n (w.between p) := by
  obtain ⟨htaken, htold⟩ := hp
  obtain ⟨-, hundisturbed, hmore⟩ := h.between htaken.fine
  refine ⟨h.taken_between htaken, fun hwhole => ?_⟩
  rw [hundisturbed.frame]
  exact hmore _ (htold hwhole)

/-! ### Steps -/

private theorem step {f : Port η → α × Port η} (hf : ∀ p, P p → Q (f p).1 (f p).2)
    (hkept : ∀ x p, Q x p → Q x (w.between p)) :
    Yields P (Session.step w f) Q R := by
  refine fun p hp => ⟨fun x p' hrun => ?_, fun e p' hrun => ?_⟩
  · cases hrun
    exact hkept _ _ (hf p hp)
  · cases hrun

private theorem look (h : Attends w I arrived) (f : Port η → α) :
    Yields (Fine I arrived) (Session.look w f) (fun _ => Fine I arrived) R :=
  step (fun _ hp => hp) fun _ _ => h.fine_between

private theorem look_taken (h : Attends w I arrived) (f : Port η → α) :
    Yields (Taken I) (Session.look w f) (fun _ => Taken I) R :=
  step (fun _ hp => hp) fun _ _ => h.taken_between

private theorem pauses (h : Attends w I arrived) :
    Yields (Taken I) (Session.pause w : Session η ε Unit) (fun _ => Fine I arrived) R := by
  refine fun p hp => ⟨fun x p' hrun => ?_, fun e p' hrun => ?_⟩
  · cases hrun
    exact h.pause hp.1 hp.2
  · cases hrun

private theorem awaitNotice (h : Attends w I arrived) (deadline rounds : Nat) :
    Yields (Fine I arrived) (Session.awaitNotice w deadline rounds)
      (fun n p => n.origin = .receive ∧ Told I arrived n p) (Fine I arrived) := by
  induction rounds with
  | zero => exact yields_throw fun _ hp => hp
  | succ rounds ih =>
    unfold Session.awaitNotice
    -- The notice is taken first, so that no notice of a whole frame waits when the task pauses.
    have htake : Yields (Fine I arrived) (Session.step w fun p => (p.notice, { p with notice := none }))
        (fun taken p => Taken I p ∧ ∀ n, taken = some n → Told I arrived n p) (Fine I arrived) := by
      refine step (fun p hp => ?_) fun taken p hp => ⟨h.taken_between hp.1, fun n hn => h.told_between (hp.2 n hn)⟩
      have hvacant : Port.Vacant { p with notice := none } := Port.vacant_of_none rfl
      exact ⟨⟨hp.1, hvacant⟩, fun n hn => ⟨⟨hp.1, hvacant⟩, hp.2 n hn⟩⟩
    refine htake.bind fun taken => ?_
    split
    · rename_i n
      have htold (p : Port η) (hp : Taken I p ∧ ∀ m, some n = some m → Told I arrived m p) : Told I arrived n p :=
        hp.2 n rfl
      split
      · exact ih.mono (fun p hp => hp.1.fine) fun _ _ hn => hn
      · rename_i horigin
        have hreceived : n.origin = .receive := by
          cases hn : n.origin with
          | transmit => exact absurd hn horigin
          | receive => rfl
        dsimp only
        split
        · refine (step (Q := fun _ => Told I arrived n) htold fun _ _ => h.told_between).bind fun _ => ?_
          exact yields_pure fun p hp => ⟨hreceived, hp⟩
        · exact yields_pure fun p hp => ⟨hreceived, htold p hp⟩
    · have htaken (p : Port η) (hp : Taken I p ∧ ∀ n, none = some n → Told I arrived n p) : Taken I p := hp.1
      refine ((h.look_taken _).mono htaken fun _ _ hp => hp).bind fun now => ?_
      split
      · exact yields_pure fun p hp => ⟨rfl, hp, nofun⟩
      · exact h.pauses.bind fun _ => ih

theorem receive (h : Attends w I arrived) (timeout : Nat) :
    Yields (Fine I arrived) (Session.receive w timeout)
      (fun n p => n.origin = .receive ∧ Told I arrived n p) (Fine I arrived) := by
  have hlisten : Yields (Fine I arrived) (Session.dispatch w (Port.dispatch w.hardware .receiveRequested))
      (fun _ => Fine I arrived) (Fine I arrived) := by
    unfold Session.dispatch
    have hsteady (applied : Applied ε) (p : Port η) (hp : applied.notice = none ∧ Fine I arrived p) :
        applied.notice = none ∧ Fine I arrived (w.between p) := ⟨hp.1, h.fine_between hp.2⟩
    refine Yields.bind (step (fun p hp => ?_) hsteady) fun applied => ?_
    · -- Nothing is told and the buffer is left alone, so that a notice that waits still tells what has arrived.
      obtain ⟨hI, harrived⟩ := h.listen hp.1
      refine ⟨Port.notice_dispatch_receiveRequested, hI, fun n hn hframe => harrived _ ?_⟩
      have hkept : (p.dispatch w.hardware .receiveRequested).2.notice = p.notice := by
        rw [Port.dispatch, Port.dispatchAt_frame]
      have hbuffer : (p.dispatch w.hardware .receiveRequested).2.bus.frame = p.bus.frame := by
        rw [Port.dispatch, Port.bus_dispatchAt]
        exact (Bus.passes_receiveRequested _).frame
      rw [hbuffer]
      exact hp.2 n (hkept ▸ hn) hframe
    · dsimp only
      split
      · rename_i htold
        refine fun p hp => absurd htold ?_
        rw [hp.1]
        exact Bool.false_ne_true
      · exact yields_ofExcept (fun _ _ _ hp => hp.2) fun _ hp => hp.2
  unfold Session.receive
  refine (h.look _).bind fun enabled => ?_
  dsimp only
  split
  · exact yields_throw fun _ hp => hp
  · refine hlisten.bind fun _ => (h.look _).bind fun now => ?_
    exact yields_rounds _ fun rounds => h.awaitNotice _ rounds

private theorem isFrame_of_check {n : Notice} (horigin : n.origin = .receive) (hchecked : n.check (ε := ε) = .ok ())
    (hkind : ¬(n.kind = .discoveryReply ∨ n.kind = .empty)) : n.isFrame = true := by
  have hstatus : n.status = .ok := by
    unfold Notice.check at hchecked
    split at hchecked <;> first | assumption | cases hchecked
  rw [not_or] at hkind
  simp [Notice.isFrame, hstatus, horigin, hkind]

private theorem awaitFrame (h : Attends w I arrived) (deadline rounds : Nat) :
    Yields (Fine I arrived) (Session.awaitFrame w deadline rounds)
      (fun slots p => Fine I arrived p ∧ arrived p.hardware slots) (Fine I arrived) := by
  induction rounds with
  | zero => exact (yields_throw fun _ hp => hp).mapError _
  | succ rounds ih =>
    unfold Session.awaitFrame
    refine ((h.look _).mapError _).bind fun now => ?_
    dsimp only
    split
    · exact yields_throw fun _ hp => hp
    · refine ((h.receive _).mapError _).bind fun n => ?_
      refine Yields.bind (Q := fun _ p => n.check (ε := PortError ε) = .ok () ∧ n.origin = .receive ∧
        Told I arrived n p)
        (yields_ofExcept (fun _ _ hchecked hp => ⟨hchecked, hp⟩) fun _ hp => hp.2.1.fine) fun _ => ?_
      split
      · exact ih.mono (fun p hp => hp.2.2.1.fine) fun _ _ hp => hp
      · rename_i hkind
        have hread : Yields (fun p => n.check (ε := PortError ε) = .ok () ∧ n.origin = .receive ∧ Told I arrived n p)
            (Session.read w 0 n.size) (fun slots p => Fine I arrived p ∧ arrived p.hardware slots)
              (Fine I arrived) := by
          unfold Session.read Session.look
          refine step (fun p hp => ?_) fun slots p hp => ?_
          · obtain ⟨hchecked, horigin, htaken, htold⟩ := hp
            exact ⟨htaken.fine, htold (isFrame_of_check horigin hchecked hkind)⟩
          · obtain ⟨-, -, hmore⟩ := h.between hp.1
            exact ⟨h.fine_between hp.1, hmore _ hp.2⟩
        exact hread.mapError _

/-- A task gets only slots that have arrived, and is ready for the next frame, also after an error. -/
theorem receiveFrame (h : Attends w I arrived) :
    Yields (Fine I arrived) (Session.receiveFrame w) (fun slots p => Fine I arrived p ∧ arrived p.hardware slots)
      (Fine I arrived) := by
  unfold Session.receiveFrame
  refine ((h.look _).mapError _).bind fun now => ?_
  exact yields_rounds _ fun rounds => h.awaitFrame _ rounds

end Attends

end Session

end LightBus
