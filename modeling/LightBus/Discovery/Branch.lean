import LightBus.Payload
import LightBus.Uid

/-!
# Branches of the address space

A branch is an interval of 48 bit values, both ends included. Discovery halves branches until each holds one
device; a pending set of branches of limited size is a `BranchStack`.
-/

namespace LightBus

/-- An interval of 48 bit values with both ends. -/
structure Branch where
  lower : Nat
  upper : Nat
deriving DecidableEq

namespace Branch

/-- All values that a device can have. -/
def whole : Branch := ⟨0, maxUidValue⟩

/-- The branch holds one value. -/
def isLeaf (b : Branch) : Bool := b.lower == b.upper

/-- Two halves of a branch that holds more than one value. -/
def split (b : Branch) : Option (Branch × Branch) :=
  if b.isLeaf then none
  else
    let middle := (b.lower + b.upper) / 2
    some (⟨b.lower, middle⟩, ⟨middle + 1, b.upper⟩)

/-- The parameter data of a branch probe. -/
def payload (b : Branch) : Payload := .ofList (sixBytes b.lower ++ sixBytes b.upper)

/-- The branch that a branch probe asks about. -/
def ofBytes? : List UInt8 → Option Branch
  | [l0, l1, l2, l3, l4, l5, u0, u1, u2, u3, u4, u5] =>
    some ⟨(Uid.ofBytes l0 l1 l2 l3 l4 l5).value, (Uid.ofBytes u0 u1 u2 u3 u4 u5).value⟩
  | _ => none

/-- The identifier lies in the branch. -/
def contains (b : Branch) (uid : Uid) : Bool := decide (b.lower ≤ uid.value ∧ uid.value ≤ b.upper)

end Branch

/-- Branches that still have to be searched, the next one first. At most 49 are kept. -/
structure BranchStack where
  pending : List Branch
deriving DecidableEq

namespace BranchStack

/-- The whole address space is pending. -/
def whole : BranchStack := ⟨[.whole]⟩

def size (s : BranchStack) : Nat := s.pending.length

def isEmpty (s : BranchStack) : Bool := s.pending.isEmpty

/-- The next branch and the others. -/
def pop? : BranchStack → Option (Branch × BranchStack)
  | ⟨[]⟩ => none
  | ⟨b :: rest⟩ => some (b, ⟨rest⟩)

/-- Both halves of the branch go on the stack, the lower one on top. A leaf has no halves, and a stack with
fewer than two free places takes none. -/
def pushSplit? (s : BranchStack) (b : Branch) : Option BranchStack :=
  match b.split with
  | none => none
  | some (lower, upper) =>
    if branchStackCapacity < s.size + 2 then none else some ⟨lower :: upper :: s.pending⟩

end BranchStack

end LightBus
