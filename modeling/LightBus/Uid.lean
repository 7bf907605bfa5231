import LightBus.Bytes
import LightBus.Failure
import LightBus.Hex
import LightBus.Limits

/-!
# Unique identifiers

Every device on the bus has a 48 bit identifier: the manufacturer's number above the number that the
manufacturer gave the device.

* `Uid.value`, `Uid.bytes` and `Uid.ofBytes` pass between the identifier, its 48 bit value and its six bytes.
* `Uid.make?` and `Uid.ofValue?` refuse the numbers that are kept for broadcasts.
-/

namespace LightBus

/-- A number or a field has a value that it must not have. -/
inductive Malformed where
  | malformed
deriving DecidableEq

/-- The text shown for refused parameter data. -/
def Malformed.message : Malformed → String
  | .malformed => "There was a deserialization error."

def Malformed.kind : Malformed → String
  | .malformed => "DeserializationError"

instance : Failure Malformed := ⟨Malformed.kind, Malformed.message⟩

/-- The 48 bit identifier of a device. -/
structure Uid where
  manufacturer : UInt16
  device : UInt32
deriving DecidableEq, Inhabited

/-- Identifiers are ordered by their manufacturers, and those of one manufacturer by their devices. -/
instance : Ord Uid := ⟨fun u v => (compare u.manufacturer v.manufacturer).then (compare u.device v.device)⟩

namespace Uid

/-- An identifier that a device may have: neither half is the number kept for broadcasts. -/
def Valid (uid : Uid) : Prop := uid.manufacturer ≠ 0xFFFF ∧ uid.device ≠ 0xFFFFFFFF

instance (uid : Uid) : Decidable uid.Valid := inferInstanceAs (Decidable (_ ∧ _))

/-- The identifier with the given halves, if a device may have it. -/
def make? (manufacturer : UInt16) (device : UInt32) : Except Malformed Uid :=
  let uid : Uid := ⟨manufacturer, device⟩
  if uid.Valid then .ok uid else .error .malformed

/-- The identifier as a number below `2 ^ 48`. -/
def value (uid : Uid) : Nat := uid.manufacturer.toNat * 4294967296 + uid.device.toNat

/-- The halves of a number below `2 ^ 48`. -/
def ofValue (value : Nat) : Uid := ⟨UInt16.ofNat (value / 4294967296), UInt32.ofNat value⟩

/-- The identifier with the given value, if a device may have it. -/
def ofValue? (value : Nat) : Except Malformed Uid :=
  if maxUidValue < value then .error .malformed
  else make? (ofValue value).manufacturer (ofValue value).device

/-- The all zero identifier stands for "none" where an identifier is optional. -/
def isNull (uid : Uid) : Bool := uid.manufacturer == 0 && uid.device == 0

/-- The six bytes of the identifier, most significant first. -/
def bytes (uid : Uid) : List UInt8 := word uid.manufacturer ++ dword uid.device

/-- The identifier with the given six bytes. -/
def ofBytes (b0 b1 b2 b3 b4 b5 : UInt8) : Uid := ⟨wordOf b0 b1, dwordOf b2 b3 b4 b5⟩

/-- The identifier with its six bytes in reverse order, if a device may have it. Some devices answer only to
the reverse of the identifier that they told. -/
def swapBytes (uid : Uid) : Option Uid :=
  match uid.bytes.reverse with
  | [b0, b1, b2, b3, b4, b5] => (ofValue? (ofBytes b0 b1 b2 b3 b4 b5).value).toOption
  | _ => none

/-- Manufacturer and device in upper case hexadecimal digits, with a colon between them. -/
def text (uid : Uid) : String :=
  String.ofList (Hex.upper 4 uid.manufacturer.toNat ++ ':' :: Hex.upper 8 uid.device.toNat)

/-- The identifier with the given text. -/
def ofText (text : String) : Uid :=
  let digits := text.toList
  ⟨UInt16.ofNat (Hex.number (digits.take 4)), UInt32.ofNat (Hex.number ((digits.drop 5).take 8))⟩

end Uid

/-- The six bytes of a number, most significant first; what lies above 48 bits is dropped. -/
def sixBytes (value : Nat) : List UInt8 := (Uid.ofValue value).bytes

@[simp] theorem length_sixBytes (value : Nat) : (sixBytes value).length = 6 := rfl

end LightBus
