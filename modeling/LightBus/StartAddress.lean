import LightBus.Payload
import LightBus.Uid

/-!
# Start addresses

The first of the levels that a device takes from a DMX512 packet. A device that takes none has no address,
which is sent as the word of all ones.
-/

namespace LightBus

/-- The first level that a device takes. -/
inductive StartAddress where
  | none
  | address (slot : UInt16)
deriving DecidableEq

namespace StartAddress

def toWord : StartAddress → UInt16
  | .none => 0xFFFF
  | .address slot => slot

/-- Only the slots 1 to 512 can be addressed. -/
def ofWord? (w : UInt16) : Except Malformed StartAddress :=
  if w = 0xFFFF then .ok .none
  else if 1 ≤ w ∧ w ≤ 512 then .ok (.address w)
  else .error .malformed

def payload (a : StartAddress) : Payload := .ofList (word a.toWord)

def ofBytes? : List UInt8 → Except Malformed StartAddress
  | [hi, lo] => ofWord? (wordOf hi lo)
  | _ => .error .malformed

end StartAddress

end LightBus
