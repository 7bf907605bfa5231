/-!
# Interrupts of a uart

A set of interrupts is a byte with a bit for each of them, used for what is pending and for what is enabled.
-/

namespace LightBus

/-- A set of interrupts. The highest bit stands for none and is kept as it is. -/
structure Interrupts where
  bits : UInt8
deriving DecidableEq

namespace Interrupts

def none : Interrupts := ⟨0⟩

/-- The receive fifo holds data. -/
def rxData : Interrupts := ⟨1⟩

def rxBreak : Interrupts := ⟨2⟩

def rxFraming : Interrupts := ⟨4⟩

def rxOverflow : Interrupts := ⟨8⟩

/-- The line was not at the level that was sent. -/
def rxCollision : Interrupts := ⟨16⟩

/-- The transmit fifo has room. -/
def txData : Interrupts := ⟨32⟩

/-- The last slot has left. -/
def txDone : Interrupts := ⟨64⟩

/-- All interrupts with their names. -/
def named : List (String × Interrupts) :=
  [("rx_data", rxData), ("rx_break", rxBreak), ("rx_framing_error", rxFraming), ("rx_overflow", rxOverflow),
    ("rx_collision", rxCollision), ("tx_data", txData), ("tx_done", txDone)]

def union (a b : Interrupts) : Interrupts := ⟨a.bits ||| b.bits⟩

def inter (a b : Interrupts) : Interrupts := ⟨a.bits &&& b.bits⟩

/-- The interrupts of `a` that are not in `b`. -/
def without (a b : Interrupts) : Interrupts := ⟨a.bits &&& ~~~b.bits⟩

def isEmpty (a : Interrupts) : Bool := a.bits == 0

/-- The sets have an interrupt in common. -/
def intersects (a b : Interrupts) : Bool := !(a.inter b).isEmpty

/-- The interrupts with the given names. -/
def ofNames (names : List String) : Interrupts :=
  (named.filter fun entry => names.contains entry.1).foldl (fun set entry => set.union entry.2) none

/-- All interrupts of the receiver. -/
def allRx : Interrupts := rxData.union (rxBreak.union (rxFraming.union (rxOverflow.union rxCollision)))

/-- All interrupts of the transmitter. -/
def allTx : Interrupts := txData.union txDone

end Interrupts

end LightBus
