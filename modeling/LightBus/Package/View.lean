import LightBus.Address
import LightBus.Checksum
import LightBus.Command
import LightBus.ParameterId

/-!
# Looking at a frame

Questions about a frame that are answered from single bytes, without reading the whole package, and the one
change that is made to a finished frame: putting in the number of the transaction.
-/

namespace LightBus.Frame

/-- The frame is long enough for a package and has the start code of one. -/
def isPackage (frame : List UInt8) : Bool :=
  decide (minPackageSize ≤ frame.length) && frame.head? == some rdmStart

/-- The code of the command class. -/
def classCode (frame : List UInt8) : UInt8 := frame.getD 20 0

/-- The number of the parameter. -/
def parameterId (frame : List UInt8) : ParameterId := wordOf (frame.getD 21 0) (frame.getD 22 0)

/-- The address in the six bytes from `start` on. -/
def address (frame : List UInt8) (start : Nat) : Address :=
  .ofBytes (frame.getD start 0) (frame.getD (start + 1) 0) (frame.getD (start + 2) 0) (frame.getD (start + 3) 0)
    (frame.getD (start + 4) 0) (frame.getD (start + 5) 0)

/-- The address that the frame goes to. -/
def destination (frame : List UInt8) : Address := address frame 3

/-- The address that the frame comes from. -/
def source (frame : List UInt8) : Address := address frame 9

def isRequest (frame : List UInt8) : Bool :=
  isPackage frame && (CommandClass.ofRequestCode? (classCode frame)).isSome

def isResponse (frame : List UInt8) : Bool :=
  isPackage frame && (CommandClass.ofResponseCode? (classCode frame)).isSome

/-- The frame is a request for the devices of a branch. -/
def isBranchProbe (frame : List UInt8) : Bool :=
  isRequest frame && classCode frame == CommandClass.discovery.requestCode &&
    parameterId frame == .discUniqueBranch

/-- The frame is a request that a device answers. -/
def expectsResponse (frame : List UInt8) : Bool :=
  isRequest frame && (!(destination frame).isBroadcast || isBranchProbe frame)

/-- The frame with another transaction number and the checksum that goes with it; bytes after the package
stay. A frame whose length byte does not fit is left alone. -/
def stamp? (frame : List UInt8) (transaction : UInt8) : Option (List UInt8) :=
  let size := (frame.getD 2 0).toNat + 2
  if isPackage frame ∧ minPackageSize ≤ size ∧ size ≤ frame.length then
    some (withChecksum ((frame.set 15 transaction).take (size - 2)) ++ frame.drop size)
  else none

end LightBus.Frame
