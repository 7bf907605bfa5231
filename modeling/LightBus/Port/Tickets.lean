/-!
# Tickets

A lock that is given out in the order in which it was asked for. Who asks takes the next ticket and waits until
that ticket is served. Tickets are counted modulo `2 ^ 32`.
-/

namespace LightBus

/-- The next ticket that is given out, and the ticket that is served. -/
structure Tickets where
  next : UInt32
  serving : UInt32
deriving DecidableEq

namespace Tickets

/-- Nobody has the lock or waits for it. -/
def new : Tickets := ⟨0, 0⟩

/-- Takes a ticket. -/
def take (t : Tickets) : UInt32 × Tickets := (t.next, { t with next := t.next + 1 })

/-- Takes a ticket only if it is served at once. -/
def tryTake (t : Tickets) : Bool × Tickets :=
  if t.next = t.serving then (true, { t with next := t.next + 1 }) else (false, t)

/-- The lock is given back, and the next ticket is served. -/
def release (t : Tickets) : Tickets := { t with serving := t.serving + 1 }

end Tickets

end LightBus
