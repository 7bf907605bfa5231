import LightBus.Proofs.Simulation.Bench

/-!
# Whole frames

On the bench a task gets nothing but the first slots of one frame, as long as no slots come in while the notice of a
whole frame waits, and none between its steps (`Bench.receiveFrame_of_attended`).  Other interrupts may come at any
time.

There is one buffer.  If the next frames come in before the task has taken the notice of a frame, the task copies
their slots, as many as the notice tells of the frame that is gone (`Bench.receiveFrame_of_unattended`).
-/

namespace LightBus.Simulation.Bench

variable {p : Port Bench} {line : List (List UInt8)} {script : List (Nat × BenchEvent)}

/-! ### The task -/

/-- The port keeps up with the line while the script is played. -/
def Playing (line : List (List UInt8)) (script : List (Nat × BenchEvent)) (h : Bench) (b : Bus) : Prop :=
  ∃ played, script = played ++ h.script ∧ Follows [] (followAll line played).head? h b

/-- The slots have arrived with the part of the script that was played. -/
def HasArrived (line : List (List UInt8)) (script : List (Nat × BenchEvent)) (h : Bench) (slots : List UInt8) :
    Prop :=
  ∃ played, script = played ++ h.script ∧ Arrived (followAll line played) slots

/-- A task on the bench to which this happens between its steps. -/
def shared (between : Port Bench → Port Bench) : World Bench Fault := ⟨hardware, pause, between⟩

/-- The script goes on between the steps of a task, but no slots come in. -/
def Discreet (between : Port Bench → Port Bench) : Prop :=
  ∀ p, ∃ steps rest, p.hardware.script = steps ++ rest ∧ (∀ step ∈ steps, slotsOf step.2 = []) ∧
    between p = play steps (onBench (fun b => { b with script := rest }) p)

/-- The task of `world` has the port for itself. -/
theorem discreet_id : Discreet id := fun p => ⟨[], p.hardware.script, rfl, nofun, rfl⟩

private theorem Heeds.of_fine {played : List (Nat × BenchEvent)} (hplayed : script = played ++ p.hardware.script)
    (h : Session.Fine (Playing line script) (HasArrived line script) p) : Heeds (followAll line played) p := by
  have hsame {other : List (Nat × BenchEvent)} (hother : script = other ++ p.hardware.script) : other = played :=
    List.append_cancel_right (hother.symm.trans hplayed)
  obtain ⟨⟨other, hother, hfollows⟩, hwhole⟩ := h
  obtain rfl := hsame hother
  refine ⟨hfollows, fun n hn hframe => ?_⟩
  obtain ⟨other', hother', harrived⟩ := hwhole n hn hframe
  exact hsame hother' ▸ harrived

private theorem attends_shared {between : Port Bench → Port Bench} (hbetween : Discreet between)
    (hprompt : ∀ step ∈ script, Prompt step.2) :
    Session.Attends (shared between) (Playing line script) (HasArrived line script) where
  between {p} hp := by
    obtain ⟨played, hscript, -⟩ := hp.1
    obtain ⟨steps, rest, hsteps, hslots, heq⟩ := hbetween p
    have hplanned : Heeds (followAll line played) (onBench (fun b => { b with script := rest }) p) :=
      have hheeds := Heeds.of_fine hscript hp
      hheeds.onBench _ hheeds.follows.attentive.reads rfl rfl rfl
    obtain ⟨hplayed, hundisturbed⟩ := hplanned.play hslots fun step hstep =>
      hprompt step (hscript ▸ List.mem_append_right _ (hsteps ▸ List.mem_append_left _ hstep))
    have hrest : (between p).hardware.script = rest := by rw [heq, script_play]; rfl
    have hsplit (before : List (Nat × BenchEvent)) (hbefore : script = before ++ p.hardware.script) :
        script = (before ++ steps) ++ (between p).hardware.script := by
      rw [hrest, hbefore, hsteps, List.append_assoc]
    rw [← followAll_append, ← heq] at hplayed
    rw [← heq] at hundisturbed
    have hsame : Port.Undisturbed p (onBench (fun b => { b with script := rest }) p) := .of_eq rfl rfl
    refine ⟨⟨_, hsplit played hscript, hplayed.follows⟩, hsame.trans hundisturbed, ?_⟩
    rintro slots ⟨before, hbefore, harrived⟩
    exact ⟨_, hsplit before hbefore, followAll_append before steps ▸ harrived.followAll steps⟩
  pause {p} hp hvacant := by
    obtain ⟨played, hscript, hfollows⟩ := hp
    have hheeds : Heeds (followAll line played) p := ⟨hfollows, hvacant.whole⟩
    obtain ⟨more, hmore, hpaused⟩ := hheeds.pause hvacant fun step hstep =>
      hprompt step (hscript ▸ List.mem_append_right _ hstep)
    have hsplit : script = (played ++ more) ++ (pause p).hardware.script := by rw [hscript, hmore, List.append_assoc]
    rw [← followAll_append] at hpaused
    exact ⟨⟨_, hsplit, hpaused.follows⟩, fun n hn hframe => ⟨_, hsplit, hpaused.whole n hn hframe⟩⟩
  listen {p} hp := by
    obtain ⟨played, hscript, hfollows⟩ := hp
    have hscripts : (p.dispatch hardware .receiveRequested).2.hardware.script = p.hardware.script :=
      script_applyAll _ _
    refine ⟨⟨played, hscripts.symm ▸ hscript, ?_⟩, fun slots harrived => ?_⟩
    · exact hfollows.dispatchAt Bus.hears_receiveRequested ((Bus.passes_receiveRequested _).tracks hfollows.tracks)
    · obtain ⟨played, hscript, harrived⟩ := harrived
      exact ⟨played, hscripts.symm ▸ hscript, harrived⟩

private theorem Heeds.receiveFrame {between : Port Bench → Port Bench} (hbetween : Discreet between)
    (h : Heeds line p) (hprompt : ∀ step ∈ p.hardware.script, Prompt step.2) :
    ∃ played, p.hardware.script = played ++ ((Session.receiveFrame (shared between)).runFrom p).2.hardware.script ∧
      Heeds (followAll line played) ((Session.receiveFrame (shared between)).runFrom p).2 ∧
      ∀ slots, ((Session.receiveFrame (shared between)).runFrom p).1 = .ok slots →
      Arrived (followAll line played) slots := by
  have hfine : Session.Fine (Playing line p.hardware.script) (HasArrived line p.hardware.script) p :=
    ⟨⟨[], rfl, h.follows⟩, fun n hn hframe => ⟨[], rfl, h.whole n hn hframe⟩⟩
  obtain ⟨hok, herror⟩ := (attends_shared hbetween hprompt).receiveFrame p hfine
  rcases hrun : (Session.receiveFrame (shared between)).runFrom p with ⟨e | slots, q⟩
  · have hend := herror e q hrun
    obtain ⟨played, hplayed, -⟩ := hend.1
    exact ⟨played, hplayed, .of_fine hplayed hend, nofun⟩
  · obtain ⟨hend, played, hplayed, harrived⟩ := hok slots q hrun
    refine ⟨played, hplayed, .of_fine hplayed hend, ?_⟩
    rintro _ ⟨⟩
    exact harrived

/-! ### Switching on -/

private theorem call_frame {name details : String} {h h' : Bench} {result : Except Fault Unit}
    (hcall : (call name details).runFrom h = (result, h')) : ∃ log, h' = { h with log } := by
  obtain ⟨log, hlog⟩ := note_frame name details h
  exact ⟨log, (congrArg Prod.snd hcall).symm.trans hlog⟩

private theorem heeds_install {config : PortConfig} {space : Nat} {failing : List String} (hreads : "read" ∉ failing)
    (hinstalled : Port.install hardware config (.new space failing) = .ok p) : Heeds [] p := by
  unfold Port.install at hinstalled
  split at hinstalled
  · cases hinstalled
  rename_i h₁ huart
  split at hinstalled
  · cases hinstalled
  rename_i h₂ hbaud
  split at hinstalled
  · cases hinstalled
  rename_i h₃ htimer
  have hattentive : Attentive false h₃ := by
    obtain ⟨log₁, rfl⟩ := call_frame huart
    obtain ⟨log₂, rfl⟩ := call_frame hbaud
    obtain ⟨log₃, rfl⟩ := call_frame htimer
    exact ⟨hreads, Interrupts.inter_without_of_subset rfl, nofun⟩
  cases hinstalled
  exact ⟨⟨Bus.bounded_new _ _, hattentive, nofun, .of_deaf rfl⟩, Port.whole_of_none rfl⟩

private theorem Heeds.enable (h : Heeds line p) : Heeds line ((Port.enable hardware).runFrom p).2 := by
  suffices hfollows : Follows [] line.head? ((Port.switchOn hardware).runFrom p).2.hardware
      ((Port.switchOn hardware).runFrom p).2.bus from ⟨hfollows, Port.whole_of_none rfl⟩
  cases henabled : p.enabled with
  | true =>
    rw [Port.runFrom_switchOn_of_enabled henabled]
    exact h.follows
  | false =>
    rw [Port.runFrom_switchOn_of_disabled henabled]
    rcases hreset : hardware.resetTxFifo.runFrom p.hardware with ⟨_ | _, h'⟩
    · obtain ⟨log, rfl⟩ := call_frame hreset
      exact h.follows.of_eq h.follows.attentive.reads rfl rfl rfl
    · obtain ⟨log, rfl⟩ := call_frame hreset
      have hbefore : Follows [] line.head? { p.hardware with log } p.bus :=
        h.follows.of_eq h.follows.attentive.reads rfl rfl rfl
      dsimp only
      rw [Port.applyAll_frame]
      exact Follows.applyAll (p := { p with hardware := { p.hardware with log }, enabled := true }) hbefore
        (h.follows.bounded.keep rfl (.inr rfl) rfl) Bus.hears_listen (Bus.passes_listen.tracks h.follows.tracks)

/-! ### Runs -/

/-- The ports of the bench that a run leads to in which no slots come in while the notice of a whole frame waits.  The
frames on the line are `line`, the latest first. -/
inductive Attended : List (List UInt8) → Port Bench → Prop where
  | install {config : PortConfig} {space : Nat} {failing : List String} {p : Port Bench} (hreads : "read" ∉ failing)
    (hinstalled : Port.install hardware config (.new space failing) = .ok p) : Attended [] p
  | enable {line : List (List UInt8)} {p : Port Bench} (h : Attended line p) :
    Attended line ((Port.enable hardware).runFrom p).2
  | wait {line : List (List UInt8)} {p : Port Bench} (h : Attended line p) (micros : Nat) :
    Attended line (wait micros p)
  | occur {line : List (List UInt8)} {p : Port Bench} {event : BenchEvent} (h : Attended line p)
    (hkept : p.Vacant ∨ slotsOf event = []) (hprompt : Prompt event) : Attended (follow line event) (occur event p)
  /-- What will happen in the next pauses, and between the steps of the task. -/
  | plan {line : List (List UInt8)} {p : Port Bench} (h : Attended line p) (script : List (Nat × BenchEvent))
    (pauseMicros : Nat) : Attended line (onBench (fun b => { b with script, pauseMicros }) p)
  | receive {line : List (List UInt8)} {p q : Port Bench} {played : List (Nat × BenchEvent)}
    {between : Port Bench → Port Bench} (h : Attended line p) (hbetween : Discreet between)
    (hprompt : ∀ step ∈ p.hardware.script, Prompt step.2)
    (hq : q = ((Session.receiveFrame (shared between)).runFrom p).2)
    (hplayed : p.hardware.script = played ++ q.hardware.script) : Attended (followAll line played) q

private theorem Attended.heeds (h : Attended line p) : Heeds line p := by
  induction h with
  | install hreads hinstalled => exact heeds_install hreads hinstalled
  | enable _ ih => exact ih.enable
  | wait _ micros ih => exact ih.wait micros
  | occur _ hkept hprompt ih => exact ih.occur hkept hprompt
  | plan _ script pauseMicros ih =>
    exact ih.onBench (fun b => { b with script, pauseMicros }) ih.follows.attentive.reads rfl rfl rfl
  | receive _ hbetween hprompt hq hplayed ih =>
    obtain ⟨played, hscript, hheeds, -⟩ := ih.receiveFrame hbetween hprompt
    rw [← hq] at hscript hheeds
    obtain rfl := List.append_cancel_right (hscript.symm.trans hplayed)
    exact hheeds

/-- A task that receives gets the first slots of one frame that came after a break, whatever happens while it waits,
and whatever happens between its steps but that slots come in. -/
theorem receiveFrame_of_attended {between : Port Bench → Port Bench} (h : Attended line p)
    (hbetween : Discreet between) (hprompt : ∀ step ∈ p.hardware.script, Prompt step.2) :
    ∃ played, p.hardware.script = played ++ ((Session.receiveFrame (shared between)).runFrom p).2.hardware.script ∧
      ∀ slots, ((Session.receiveFrame (shared between)).runFrom p).1 = .ok slots →
        ∃ frame ∈ followAll line played, slots <+: frame := by
  obtain ⟨played, hplayed, -, harrived⟩ := h.heeds.receiveFrame hbetween hprompt
  exact ⟨played, hplayed, harrived⟩

/-- A frame comes in with one interrupt after its break. -/
def frameEvents (slots : List UInt8) : List (Nat × BenchEvent) :=
  [(100, .interrupt [] .rxBreak), (100, .interrupt slots .rxData)]

def responderConfig : PortConfig := { PortConfig.standard with mode := .responder ⟨0x05E0, 1⟩ }

/-- Two frames, and the break of a third one. -/
def twoFrames : List (Nat × BenchEvent) :=
  frameEvents [0, 1, 2, 3] ++ frameEvents [0, 17, 18, 19] ++ [(0, .interrupt [] .rxBreak)]

/-- The next event of the script comes at once, if it brings no slots. -/
def eager (p : Port Bench) : Port Bench :=
  match p.hardware.script with
  | step :: rest => if slotsOf step.2 = [] then play [step] (onBench (fun b => { b with script := rest }) p) else p
  | [] => p

private theorem discreet_eager : Discreet eager := by
  intro p
  unfold eager
  split
  · rename_i step rest hscript
    split
    · rename_i hslots
      exact ⟨[step], rest, hscript, by simpa using hslots, rfl⟩
    · exact ⟨[], p.hardware.script, rfl, nofun, rfl⟩
  · exact ⟨[], p.hardware.script, rfl, nofun, rfl⟩

/-- The port is switched on before the frames come in. -/
def early (p : Port Bench) : Port Bench :=
  onBench (fun b => { b with script := twoFrames, pauseMicros := 100 }) ((Port.enable hardware).runFrom p).2

/-- The break of the second frame tells the size of such frames.  The task gets the second frame, though the third one
begins before it looks into the buffer. -/
theorem receiveFrame_of_attended_second : ∃ p, Port.install hardware responderConfig (.new 128 []) = .ok p ∧
    ((Session.receiveFrame (shared eager)).runFrom (early p)).1.toOption = some [0, 17, 18, 19] ∧
      ((Session.receiveFrame (shared eager)).runFrom (early p)).2.hardware.script = [] ∧
        ∃ frame ∈ followAll [] twoFrames, [0, 17, 18, 19] <+: frame := by
  have hprompt : ∀ step ∈ twoFrames, Prompt step.2 := by decide
  have hreceived (p : Port Bench) (hp : Port.install hardware responderConfig (.new 128 []) = .ok p)
    {slots : List UInt8}
      (hgot : ((Session.receiveFrame (shared eager)).runFrom (early p)).1.toOption = some slots)
      (hover : ((Session.receiveFrame (shared eager)).runFrom (early p)).2.hardware.script = []) :
      ∃ frame ∈ followAll [] twoFrames, slots <+: frame := by
    have hearly : Attended [] (early p) := .plan (.enable (.install (by decide) hp)) twoFrames 100
    obtain ⟨played, hplayed, harrived⟩ := receiveFrame_of_attended hearly discreet_eager hprompt
    obtain rfl : twoFrames = played := by
      rw [hover, List.append_nil] at hplayed
      exact hplayed
    refine harrived _ ?_
    cases hresult : ((Session.receiveFrame (shared eager)).runFrom (early p)).1 with
    | error e =>
      rw [hresult] at hgot
      cases hgot
    | ok received =>
      rw [hresult] at hgot
      cases hgot
      rfl
  exact ⟨_, rfl, by decide +kernel, by decide +kernel, hreceived _ rfl (by decide +kernel) (by decide +kernel)⟩

/-- Three frames come in before the task looks.  The notice tells the size of the second one, and the third one has
overwritten the beginning of the buffer. -/
theorem receiveFrame_of_unattended : ∃ p, Port.install hardware responderConfig (.new 128 []) = .ok p ∧
    let events := frameEvents [0, 1, 2, 3] ++ frameEvents [0, 17, 18, 19] ++ frameEvents [0, 33]
    let late := play events ((Port.enable hardware).runFrom p).2
    ((Session.receiveFrame world).runFrom late).1.toOption = some [0, 33, 18, 19] ∧
      ∀ frame ∈ followAll [] events, ¬[0, 33, 18, 19] <+: frame :=
  ⟨_, rfl, by decide +kernel, by decide +kernel⟩

end LightBus.Simulation.Bench
