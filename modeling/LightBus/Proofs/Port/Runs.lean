import LightBus.Proofs.Session.Calls
import LightBus.Proofs.Simulation.Line

/-!
# Whatever is done with a port

A run may be interleaved in any way, and a task may stop anywhere in a call.  The lines of the hardware fit what the
bus is doing at each step of it, and each call of a task is made of such steps.
-/

namespace LightBus.Port

variable {η ε : Type} {hw : Hardware η ε} {lines : η → Lines}

/-- In every run the lines of the hardware fit what the bus is doing, and everything that a task can do is a run.

Nothing is known of what others do at a port that no run leads to.  So all the ports at which they do something,
before each step of the task and in its pauses, are ports of the run. -/
theorem coupled_in_every_run (hlaw : hw.Lawful lines) :
    (∀ p, Reached hw lines p → Bus.Coupled (lines p.hardware) p.bus) ∧
    ∀ w : World η ε, w.hardware = hw →
      (∀ p, Reached hw lines p → Reached hw lines (w.between p) ∧ (w.between p).enabled = p.enabled) →
      (∀ p, Reached hw lines p → Reached hw lines (w.pause p) ∧ (w.pause p).enabled = p.enabled) →
      ∀ call p, Reached hw lines p → Reached hw lines (Session.afterCall w call p) := by
  refine ⟨fun p hp => (hp.coupled hlaw).bus, ?_⟩
  rintro w rfl hbetween hpause call p hp
  have hkept := keptBySteps_reached p.enabled hbetween hpause
  exact (hkept.call call ⟨hp, rfl⟩).1

open Simulation

/-- On the simulated line, a frame whose break has begun holds the line low until the alarm rings. -/
theorem coupled_in_every_run_line : ∃ p : Port Line,
    install Line.hardware .standard (.new (.script []) false false) = .ok p ∧
    let enabled := ((enable Line.hardware).runFrom p).2
    let sending := Session.afterCall Line.world (.sendFrame 3 true) enabled
    sending.bus.tx = .inBreak ∧ sending.hardware.lines = ⟨.none, .transmit, true, true⟩ ∧
      Bus.Coupled sending.hardware.lines sending.bus := by
  have hcoupled (p : Port Line) (hp : install Line.hardware .standard (.new (.script []) false false) = .ok p) :
      let sending := Session.afterCall Line.world (.sendFrame 3 true) ((enable Line.hardware).runFrom p).2
      Bus.Coupled sending.hardware.lines sending.bus := by
    have hruns := coupled_in_every_run Line.lawful
    have henabled : ((enable Line.hardware).runFrom p).2.Reached Line.hardware Line.lines :=
      .enable (.install rfl rfl hp)
    exact hruns.1 _ (hruns.2 Line.world rfl (fun _ hq => ⟨hq, rfl⟩)
      (fun _ hq => ⟨Line.reached_step hq, Line.enabled_step⟩) _ _ henabled)
  exact ⟨_, rfl, by decide +kernel, by decide +kernel, hcoupled _ rfl⟩

end LightBus.Port
