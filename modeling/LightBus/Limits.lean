/-!
# Limits of the bus

The numbers that DMX512 and RDM fix: start codes, slot counts, and times in microseconds.
-/

namespace LightBus

/-! ### Start codes -/

/-- The start code of a frame of dimmer levels. -/
def nullStart : UInt8 := 0x00

/-- The start code of every RDM frame. -/
def rdmStart : UInt8 := 0xCC

/-- The byte after the start code of an RDM frame. -/
def subMessageStart : UInt8 := 0x01

/-- The byte that a discovery response may send before its separator. -/
def preambleByte : UInt8 := 0xFE

/-- The byte that ends the preamble of a discovery response. -/
def separatorByte : UInt8 := 0xAA

/-! ### Slot counts -/

/-- A start code and 512 levels. -/
def maxFrameSize : Nat := 513

/-- The slots of an RDM frame before its parameter data, with the start code. -/
def rdmHeaderSize : Nat := 24

/-- A header and a checksum. -/
def minPackageSize : Nat := 26

/-- A header, the longest parameter data and a checksum. -/
def maxPackageSize : Nat := 257

/-- The longest parameter data of one RDM frame. -/
def maxPayloadSize : Nat := 231

/-- The longest preamble of a discovery response. -/
def maxPreambleLength : Nat := 7

/-- The slots of a discovery response after its separator. -/
def discoveryBodySize : Nat := 16

/-- The longest text parameter. -/
def maxTextSize : Nat := 32

/-- The slots of the DEVICE_INFO parameter data. -/
def deviceInfoSize : Nat := 19

/-! ### Addresses -/

/-- The highest 48 bit value that a single device can have, the upper end of a discovery. -/
def maxUidValue : Nat := 0xFFFFFFFFFFFE

/-- The 48 bit value of the address of everybody. -/
def broadcastValue : Nat := 0xFFFFFFFFFFFF

/-- The sub-device number that stands for all sub-devices. -/
def allSubDevices : UInt16 := 0xFFFF

/-- The highest number of a single sub-device. -/
def maxSubDevice : UInt16 := 512

/-! ### Line timing -/

def standardBaud : UInt32 := 250000
def minBaud : UInt32 := 245000
def maxBaud : UInt32 := 255000

def minBreak : UInt32 := 92
def maxBreak : UInt32 := 1000000
def minMark : UInt32 := 12
def maxMark : UInt32 := 999999

/-- The break of a controller unless it is told otherwise. -/
def standardBreak : UInt32 := 176

/-- The mark after break of a controller unless it is told otherwise. -/
def standardMark : UInt32 := 12

/-- One slot: a start bit, eight data bits and two stop bits. -/
def slotMicros : Nat := 44

/-- The longest time that one DMX512 packet takes. -/
def maxPacketMicros : Nat := 1250000

/-! ### Turnaround -/

/-- A response that has not begun after this time is lost. -/
def responseTimeout : Nat := 2800

/-- A responder begins its response within this time after the request. -/
def responderWindow : Nat := 2000

/-- How long a controller waits for a whole response. -/
def requestTimeout : Nat := 20000

def spacingAfterBroadcast : Nat := 176
def spacingAfterResponse : Nat := 176
def spacingAfterLostRequest : Nat := 3000
def spacingAfterLostDiscovery : Nat := 5800

/-! ### Capacities -/

/-- Pending branches of one discovery: one for each of 48 halvings, and the root. -/
def branchStackCapacity : Nat := 49

/-- Times that a lost mute or branch request is repeated unless the caller says otherwise. -/
def standardAttempts : UInt8 := 3

/-- Times that a branch is probed again after it named a single device. -/
def quickFindRounds : Nat := 3

/-- Parameters of one responder. -/
def dictionaryCapacity : Nat := 36

/-- Parameters waiting to be fetched as queued messages. -/
def queueCapacity : Nat := 64

end LightBus
