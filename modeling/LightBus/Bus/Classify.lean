import LightBus.Bus.Notice
import LightBus.Discovery.Reply

/-!
# Telling frames apart

The first slots of a frame tell what it is and where it ends. Without a break only a discovery response can
come. After one, a package tells its own length; any other frame is as long as the last one was.
-/

namespace LightBus

/-- What the slots received so far amount to. -/
inductive Classification where
  | incomplete
  | complete (kind : FrameKind) (size : Nat)
  /-- No further slot can make a frame of it. -/
  | malformed (kind : FrameKind)
deriving DecidableEq

/-- The size of a package whose third slot tells `length`. -/
def packageSize (length : UInt8) : Nat := min (max length.toNat rdmHeaderSize + 2) maxPackageSize

/-- Without a break only a discovery response can come. -/
def classifyReply (slots : List UInt8) : Classification :=
  if slots.head? ≠ some preambleByte ∧ slots.head? ≠ some separatorByte then .malformed .discoveryReply
  else
    match Discovery.separatorIndex? slots with
    | some index =>
      if index + 1 + discoveryBodySize ≤ slots.length then
        .complete .discoveryReply (index + 1 + discoveryBodySize)
      else .incomplete
    | none =>
      if slots.all (· == preambleByte) && decide (slots.length ≤ maxPreambleLength) then .incomplete
      else .malformed .discoveryReply

/-- Looks at the slots that were received since the last break, or without one. -/
def classify (slots : List UInt8) (afterBreak : Bool) (sizeGuess : Nat) : Classification :=
  match slots with
  | [] => .incomplete
  | startCode :: _ =>
    if !afterBreak then classifyReply slots
    else if startCode = rdmStart then
      match slots[2]? with
      | none => .incomplete
      | some length =>
        if packageSize length ≤ slots.length then .complete .package (packageSize length) else .incomplete
    else if sizeGuess ≤ slots.length then .complete (.levels startCode) sizeGuess
    else .incomplete

end LightBus
