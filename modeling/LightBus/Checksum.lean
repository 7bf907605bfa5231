import LightBus.Bytes

/-!
# Checksums

Packages and discovery responses end with the sum of their bytes, modulo `2 ^ 16`.
-/

namespace LightBus

/-- The sum of the bytes, modulo `2 ^ 16`. -/
def checksum (bytes : List UInt8) : UInt16 :=
  UInt16.ofNat (bytes.foldr (fun b total => b.toNat + total) 0)

/-- The bytes followed by their checksum. -/
def withChecksum (bytes : List UInt8) : List UInt8 :=
  bytes ++ word (checksum bytes)

/-- The last two bytes are the checksum of those before them. -/
def checksumValid (frame : List UInt8) : Bool :=
  decide (2 ≤ frame.length) &&
    frame.drop (frame.length - 2) == word (checksum (frame.take (frame.length - 2)))

end LightBus
