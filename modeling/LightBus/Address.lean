import LightBus.Uid

/-!
# Addresses

A package is addressed to one device, to all devices of one manufacturer, or to everybody. All three have a
six byte form; the device number of all ones marks the last two.
-/

namespace LightBus

/-- Where a package goes. -/
inductive Address where
  | broadcast
  | manufacturer (number : UInt16)
  | device (uid : Uid)
deriving DecidableEq

namespace Address

/-- The address that has the bytes of `uid`. -/
def ofUid (uid : Uid) : Address :=
  if uid.device = 0xFFFFFFFF then
    if uid.manufacturer = 0xFFFF then .broadcast else .manufacturer uid.manufacturer
  else .device uid

/-- The identifier that has the bytes of the address. -/
def uid : Address → Uid
  | .broadcast => ⟨0xFFFF, 0xFFFFFFFF⟩
  | .manufacturer number => ⟨number, 0xFFFFFFFF⟩
  | .device uid => uid

/-- The six bytes of the address, most significant first. -/
def bytes (address : Address) : List UInt8 := address.uid.bytes

/-- The address as a number below `2 ^ 48`. -/
def value (address : Address) : Nat := address.uid.value

/-- The address with the given value. -/
def ofValue? (value : Nat) : Except Malformed Address :=
  if broadcastValue < value then .error .malformed else .ok (ofUid (Uid.ofValue value))

/-- The address goes to more than one device. -/
def isBroadcast : Address → Bool
  | .device _ => false
  | _ => true

/-- A device with this identifier has to process what is sent to the address. -/
def addresses (address : Address) (uid : Uid) : Bool :=
  match address with
  | .broadcast => true
  | .manufacturer number => number == uid.manufacturer
  | .device other => other == uid

/-- The kind of the address, and whom it goes to. -/
def text : Address → String
  | .broadcast => "broadcast"
  | .manufacturer number => "manufacturer:" ++ String.ofList (Hex.upper 4 number.toNat)
  | .device uid => "device:" ++ uid.text

end Address

/-- The address with the given six bytes. -/
def Address.ofBytes (b0 b1 b2 b3 b4 b5 : UInt8) : Address :=
  .ofUid (.ofBytes b0 b1 b2 b3 b4 b5)

end LightBus
