import LightBus.Timing.Measure

/-!
# Notices

What the bus reports to the task that waits for it: the end of a reception or of a transmission.
-/

namespace LightBus

/-- What a frame is, as far as its first bytes tell. -/
inductive FrameKind where
  | empty
  /-- Not a package; the start code is kept. -/
  | levels (startCode : UInt8)
  | package
  | discoveryReply
deriving DecidableEq

def FrameKind.text : FrameKind → String
  | .empty => "Empty"
  | .levels startCode => s!"Dmx({startCode.toNat})"
  | .package => "Rdm"
  | .discoveryReply => "DiscoveryResponse"

/-- How a reception or a transmission ended. -/
inductive Status where
  | ok
  | timeout
  | wrongChecksum
  | framing
  | overflow
  | collision
  | tooLarge
deriving DecidableEq

def Status.name : Status → String
  | .ok => "Ok"
  | .timeout => "Timeout"
  | .wrongChecksum => "ChecksumInvalid"
  | .framing => "FramingError"
  | .overflow => "Overflow"
  | .collision => "Collision"
  | .tooLarge => "BufferTooSmall"

inductive Direction where
  | transmit | receive
deriving DecidableEq

def Direction.name : Direction → String
  | .transmit => "Transmit"
  | .receive => "Receive"

/-- An error of the line that the receiver saw. -/
inductive LineFault where
  | framing | overflow
deriving DecidableEq

/-- The end of a reception or of a transmission. -/
structure Notice where
  status : Status
  origin : Direction
  kind : FrameKind
  /-- The slots of the frame buffer that belong to the frame. -/
  size : Nat
  timing : Option BreakMeasurement
deriving DecidableEq

namespace Notice

/-- Nothing was received in time. -/
def timeout : Notice := ⟨.timeout, .receive, .empty, 0, none⟩

def isOk (n : Notice) : Bool := n.status == .ok

end Notice

end LightBus
