import LightBus.Limits

/-!
# Breaks

Every frame but a discovery response begins with a break, the line held low, and a mark after it. `BreakTiming`
says how long both are to be, `BreakSequence` steps through them at each alarm of a timer.
-/

namespace LightBus

/-- The nearest value between the two limits. -/
def clampTo (low high value : UInt32) : UInt32 := max low (min value high)

def clampBreak (micros : UInt32) : UInt32 := clampTo minBreak maxBreak micros

def clampMark (micros : UInt32) : UInt32 := clampTo minMark maxMark micros

def clampBaud (baud : UInt32) : UInt32 := clampTo minBaud maxBaud baud

/-- The lengths of the breaks and marks that are sent, in microseconds. -/
structure BreakTiming where
  breakLength : UInt32
  markLength : UInt32
deriving DecidableEq

namespace BreakTiming

/-- The legal timing that is nearest to the given one. -/
def clamped (breakLength markLength : UInt32) : BreakTiming := ⟨clampBreak breakLength, clampMark markLength⟩

def standard : BreakTiming := clamped standardBreak standardMark

instance : Inhabited BreakTiming := ⟨standard⟩

def setBreak (t : BreakTiming) (micros : UInt32) : BreakTiming := { t with breakLength := clampBreak micros }

def setMark (t : BreakTiming) (micros : UInt32) : BreakTiming := { t with markLength := clampMark micros }

end BreakTiming

/-- A break and a mark as they were seen on the line, in microseconds. -/
structure BreakMeasurement where
  breakLength : UInt32
  markLength : UInt32
deriving DecidableEq

/-- What the line does next, and when the timer is to ring again. -/
inductive BreakAction where
  | holdLow (alarm : UInt32)
  | release (alarm : UInt32)
  /-- The mark is over and the first slot may be sent. -/
  | startData
  /-- The alarm does not belong to a break. -/
  | none
deriving DecidableEq

inductive BreakPhase where
  | idle | low | mark
deriving DecidableEq

/-- How far a break has come, and how long its mark will be. -/
structure BreakSequence where
  phase : BreakPhase
  markLength : UInt32
deriving DecidableEq

namespace BreakSequence

def idle : BreakSequence := ⟨.idle, minMark⟩

/-- A new break begins. -/
def start (timing : BreakTiming) : BreakAction × BreakSequence :=
  (.holdLow timing.breakLength, ⟨.low, timing.markLength⟩)

/-- The timer rings. -/
def onAlarm (s : BreakSequence) : BreakAction × BreakSequence :=
  match s.phase with
  | .low => (.release s.markLength, { s with phase := .mark })
  | .mark => (.startData, { s with phase := .idle })
  | .idle => (.none, s)

def cancel (s : BreakSequence) : BreakSequence := { s with phase := .idle }

def isActive (s : BreakSequence) : Bool := s.phase != .idle

end BreakSequence

end LightBus
