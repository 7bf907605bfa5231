import LightBus.Limits

/-!
# Spacing

After each packet the bus stays idle for a while before a controller sends again. How long depends on the
packet, and on whether a device answered it.
-/

namespace LightBus

/-- The last packet on the bus. -/
inductive LastTransfer where
  | idle
  | levels
  | broadcast
  | request (answered : Bool)
  | probe (answered : Bool)
  | response
deriving DecidableEq

/-- The packet with the given name, answered or not. -/
def LastTransfer.ofName? (name : String) (answered : Bool) : Option LastTransfer :=
  match name with
  | "idle" => some .idle
  | "dmx" => some .levels
  | "broadcast" => some .broadcast
  | "request" => some (.request answered)
  | "discovery" => some (.probe answered)
  | "response" => some .response
  | _ => none

/-- The least idle time after the packet, in microseconds. -/
def LastTransfer.spacing : LastTransfer → Nat
  | .idle | .levels => 0
  | .broadcast => spacingAfterBroadcast
  | .request true | .probe true | .response => spacingAfterResponse
  | .request false => spacingAfterLostRequest
  | .probe false => spacingAfterLostDiscovery

end LightBus
