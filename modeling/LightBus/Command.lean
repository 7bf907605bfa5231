/-!
# Commands and answers

The small code tables of RDM: command classes, response types, refusal reasons and status levels.
-/

namespace LightBus

/-- What a request does with its parameter. A response carries the class of its request. -/
inductive CommandClass where
  | discovery | get | set
deriving DecidableEq

namespace CommandClass

/-- The code of a request of this class. -/
def requestCode : CommandClass → UInt8
  | .discovery => 0x10
  | .get => 0x20
  | .set => 0x30

/-- The code of a response of this class, one above the request's. -/
def responseCode (c : CommandClass) : UInt8 := c.requestCode + 1

def ofRequestCode? : UInt8 → Option CommandClass
  | 0x10 => some .discovery
  | 0x20 => some .get
  | 0x30 => some .set
  | _ => none

def ofResponseCode? (code : UInt8) : Option CommandClass := ofRequestCode? (code - 1)

def name : CommandClass → String
  | .discovery => "discovery"
  | .get => "get"
  | .set => "set"

def ofName? : String → Option CommandClass
  | "discovery" => some .discovery
  | "get" => some .get
  | "set" => some .set
  | _ => none

end CommandClass

/-- The command classes that a parameter allows. -/
inductive Access where
  | discovery | get | set | getSet
deriving DecidableEq

namespace Access

/-- The code of the access in a parameter description. -/
def code : Access → UInt8
  | .discovery => 0
  | .get => 1
  | .set => 2
  | .getSet => 3

def ofName? : String → Option Access
  | "discovery" => some .discovery
  | "get" => some .get
  | "set" => some .set
  | "getset" => some .getSet
  | _ => none

/-- A request of the class may use a parameter with this access. -/
def allows : Access → CommandClass → Bool
  | .discovery, .discovery => true
  | .get, .get => true
  | .set, .set => true
  | .getSet, .get => true
  | .getSet, .set => true
  | _, _ => false

end Access

/-- How a request was received. -/
inductive ResponseType where
  /-- The request was carried out. -/
  | ack
  /-- The request was accepted and its result will be ready later. -/
  | ackTimer
  /-- The request was refused. -/
  | nack
  /-- The request was carried out and the result goes on in a further response. -/
  | ackOverflow
deriving DecidableEq

namespace ResponseType

def code : ResponseType → UInt8
  | .ack => 0
  | .ackTimer => 1
  | .nack => 2
  | .ackOverflow => 3

def ofCode? : UInt8 → Option ResponseType
  | 0 => some .ack
  | 1 => some .ackTimer
  | 2 => some .nack
  | 3 => some .ackOverflow
  | _ => none

def name : ResponseType → String
  | .ack => "ack"
  | .ackTimer => "timer"
  | .nack => "nack"
  | .ackOverflow => "overflow"

def ofName? : String → Option ResponseType
  | "ack" => some .ack
  | "timer" => some .ackTimer
  | "nack" => some .nack
  | "overflow" => some .ackOverflow
  | _ => none

end ResponseType

/-- Why a request was refused. -/
inductive NackReason where
  | unknownPid | formatError | hardwareFault | proxyReject | writeProtect | unsupportedCommandClass
  | dataOutOfRange | bufferFull | packetSizeUnsupported | subDeviceOutOfRange | proxyBufferFull
deriving DecidableEq

namespace NackReason

def code : NackReason → UInt16
  | .unknownPid => 0
  | .formatError => 1
  | .hardwareFault => 2
  | .proxyReject => 3
  | .writeProtect => 4
  | .unsupportedCommandClass => 5
  | .dataOutOfRange => 6
  | .bufferFull => 7
  | .packetSizeUnsupported => 8
  | .subDeviceOutOfRange => 9
  | .proxyBufferFull => 10

/-- The name that is shown for the reason. -/
def name : NackReason → String
  | .unknownPid => "UnknownPid"
  | .formatError => "FormatError"
  | .hardwareFault => "HardwareFault"
  | .proxyReject => "ProxyReject"
  | .writeProtect => "WriteProtect"
  | .unsupportedCommandClass => "UnsupportedCommandClass"
  | .dataOutOfRange => "DataOutOfRange"
  | .bufferFull => "BufferFull"
  | .packetSizeUnsupported => "PacketSizeUnsupported"
  | .subDeviceOutOfRange => "SubDeviceOutOfRange"
  | .proxyBufferFull => "ProxyBufferFull"

def ofCode? : UInt16 → Option NackReason
  | 0 => some .unknownPid
  | 1 => some .formatError
  | 2 => some .hardwareFault
  | 3 => some .proxyReject
  | 4 => some .writeProtect
  | 5 => some .unsupportedCommandClass
  | 6 => some .dataOutOfRange
  | 7 => some .bufferFull
  | 8 => some .packetSizeUnsupported
  | 9 => some .subDeviceOutOfRange
  | 10 => some .proxyBufferFull
  | _ => none

end NackReason

/-- What a controller asks for when it fetches queued messages. -/
inductive StatusType where
  /-- The message that was delivered last, once more. -/
  | lastMessage
  | advisory | warning | error
deriving DecidableEq

def StatusType.code : StatusType → UInt8
  | .lastMessage => 1
  | .advisory => 2
  | .warning => 3
  | .error => 4

def StatusType.ofCode? : UInt8 → Option StatusType
  | 1 => some .lastMessage
  | 2 => some .advisory
  | 3 => some .warning
  | 4 => some .error
  | _ => none

end LightBus
