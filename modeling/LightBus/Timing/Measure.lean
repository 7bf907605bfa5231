import LightBus.Timing.Break

/-!
# Measuring breaks

* `EdgeMeter` measures break and mark from the edges of the line. A low period is a break if it is long enough
  for one.
* `BreakEstimator` has no edges. It takes one slot as the length of the break, which is the least that lets the
  receiver see it, and reckons the mark from the time at which slots are read.
-/

namespace LightBus

inductive LineLevel where
  | low | high
deriving DecidableEq

/-- Measures breaks and marks from the edges of the line. -/
structure EdgeMeter where
  lastFall : Option Nat
  lastRise : Option Nat
  /-- The length of a break that is over while its mark is not. -/
  pendingBreak : Option UInt32
  latest : Option BreakMeasurement
deriving DecidableEq

namespace EdgeMeter

def new : EdgeMeter := ⟨none, none, none, none⟩

/-- The line changes to `level`. A break is at most as long as its counter can hold; a mark is counted modulo
`2 ^ 32`. -/
def onEdge (m : EdgeMeter) (level : LineLevel) (now : Nat) : EdgeMeter :=
  match level with
  | .low =>
    let latest :=
      match m.pendingBreak, m.lastRise with
      | some breakLength, some rise => some ⟨breakLength, UInt32.ofNat (now - rise)⟩
      | _, _ => m.latest
    { m with lastFall := some now, pendingBreak := none, latest }
  | .high =>
    let pendingBreak :=
      match m.lastFall with
      | some fall =>
        if minBreak.toNat ≤ now - fall then some (UInt32.ofNat (min (now - fall) 0xFFFFFFFF))
        else m.pendingBreak
      | none => m.pendingBreak
    { m with lastRise := some now, pendingBreak }

/-- A break is over and no slot has begun. -/
def inMark (m : EdgeMeter) : Bool := m.pendingBreak.isSome

end EdgeMeter

/-- Reckons breaks and marks from what the receiver tells. -/
structure BreakEstimator where
  breakAt : Option Nat
  latest : Option BreakMeasurement
deriving DecidableEq

namespace BreakEstimator

def new : BreakEstimator := ⟨none, none⟩

def onBreak (e : BreakEstimator) (now : Nat) : BreakEstimator := { e with breakAt := some now }

/-- So many slots have just been read. The mark is counted modulo `2 ^ 32`. -/
def onData (e : BreakEstimator) (now slots : Nat) : BreakEstimator :=
  match e.breakAt with
  | none => e
  | some start =>
    let firstSlot := now - slots * slotMicros
    ⟨none, some ⟨UInt32.ofNat slotMicros, UInt32.ofNat (firstSlot - start)⟩⟩

end BreakEstimator

end LightBus
