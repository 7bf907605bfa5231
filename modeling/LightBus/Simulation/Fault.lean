import LightBus.Failure

/-!
# Faults

The error of everything that is told to fail.
-/

namespace LightBus.Simulation

/-- A failure with a name. -/
structure Fault where
  name : String
deriving DecidableEq

instance : Failure Fault := ⟨fun _ => "Fault", fun fault => "fault " ++ fault.name⟩

end LightBus.Simulation
