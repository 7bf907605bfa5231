import LightBus.Address
import LightBus.Payload

/-!
# Answers to mute requests

A device that is muted or un-muted tells in a control field what it is, and which device it belongs to if it
has several ports.
-/

namespace LightBus

/-- The parameter data of a response to DISC_MUTE or DISC_UN_MUTE. -/
structure MuteReply where
  /-- The device is a proxy. -/
  managedProxy : Bool
  /-- The device has sub-devices. -/
  subDevice : Bool
  /-- The device works only after an update. -/
  bootLoader : Bool
  /-- A proxy answered for the device. -/
  proxied : Bool
  /-- The primary port of a device with several ports. -/
  binding : Option Uid
deriving DecidableEq

namespace MuteReply

/-- Nothing to report. -/
def plain : MuteReply := ⟨false, false, false, false, none⟩

instance : Inhabited MuteReply := ⟨plain⟩

/-- The low byte of the control field; the high byte is reserved. -/
def flags (m : MuteReply) : UInt8 :=
  (if m.managedProxy then 1 else 0) + (if m.subDevice then 2 else 0) + (if m.bootLoader then 4 else 0) +
    (if m.proxied then 8 else 0)

def ofFlags (flags : UInt8) (binding : Option Uid) : MuteReply where
  managedProxy := flags.toNat.testBit 0
  subDevice := flags.toNat.testBit 1
  bootLoader := flags.toNat.testBit 2
  proxied := flags.toNat.testBit 3
  binding := binding

def payload (m : MuteReply) : Payload :=
  .ofList ([0, m.flags] ++ (m.binding.map Uid.bytes).getD [])

/-- The binding identifier in the field of an address: the null one stands for none, and a broadcast address is
refused. -/
def bindingOf? : Address → Except Malformed (Option Uid)
  | .device uid => .ok (if uid.isNull then none else some uid)
  | _ => .error .malformed

/-- A control field, and after it possibly a binding identifier. -/
def ofBytes? : List UInt8 → Except Malformed MuteReply
  | [_, flags] => .ok (ofFlags flags none)
  | [_, flags, b0, b1, b2, b3, b4, b5] => (bindingOf? (.ofBytes b0 b1 b2 b3 b4 b5)).map (ofFlags flags)
  | _ => .error .malformed

end MuteReply

end LightBus
