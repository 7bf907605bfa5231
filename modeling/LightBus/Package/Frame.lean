import LightBus.Package
import LightBus.Package.View

/-!
# Frames of packages

The bytes of a package: a header of 24 slots, the parameter data and a checksum.

* `Package.frame` writes a package, `Package.ofFrame?` reads one and refuses a wrong checksum.
* `Package.ofFrameUnchecked?` reads a package without looking at the checksum.
-/

namespace LightBus

/-- Why bytes are no frame. -/
inductive FrameError where
  | tooShort
  | tooLong
  | unknownCommandClass (code : UInt8)
  | unknownResponseType (code : UInt8)
  | wrongLength (length : Nat)
  | wrongChecksum
  | wrongStart
  | broadcastSource
deriving DecidableEq

def FrameError.message : FrameError → String
  | .tooShort => "buffer too small"
  | .tooLong => "buffer too big"
  | .unknownCommandClass code => s!"command class {code.toNat} not found"
  | .unknownResponseType code => s!"response type {code.toNat} is unknown"
  | .wrongLength length => s!"message length {length} is incorrect"
  | .wrongChecksum => "checksum is incorrect"
  | .wrongStart => "start code is incorrect"
  | .broadcastSource => "source uid is a broadcast"

def FrameError.kind : FrameError → String
  | .tooShort => "BufferTooSmall"
  | .tooLong => "BufferTooBig"
  | .unknownCommandClass _ => "CommandClassNotFound"
  | .unknownResponseType _ => "ResponseTypeNotFound"
  | .wrongLength _ => "WrongMessageLength"
  | .wrongChecksum => "WrongChecksum"
  | .wrongStart => "WrongStartCode"
  | .broadcastSource => "SourceUidIsBroadcast"

instance : Failure FrameError := ⟨FrameError.kind, FrameError.message⟩

/-- The fields in front of the parameter data, as the line carries them. -/
structure Header where
  destination : Address
  source : Uid
  transaction : UInt8
  /-- The port of a request, the response type of a response. -/
  portOrType : UInt8
  messageCount : UInt8
  subDevice : UInt16
  /-- The code of a request class or of a response class. -/
  classCode : UInt8
  parameterId : ParameterId

namespace Header

/-- The bytes of header and parameter data, without the checksum. -/
def content (h : Header) (data : Payload) : List UInt8 :=
  [rdmStart, subMessageStart, UInt8.ofNat (rdmHeaderSize + data.bytes.length)] ++ h.destination.bytes ++
    h.source.bytes ++ [h.transaction, h.portOrType, h.messageCount] ++ word h.subDevice ++ [h.classCode] ++
    word h.parameterId ++ [UInt8.ofNat data.bytes.length] ++ data.bytes

/-- The header at the beginning of a frame from `source`. -/
def ofFrame (frame : List UInt8) (source : Uid) : Header where
  destination := Frame.destination frame
  source := source
  transaction := frame.getD 15 0
  portOrType := frame.getD 16 0
  messageCount := frame.getD 17 0
  subDevice := wordOf (frame.getD 18 0) (frame.getD 19 0)
  classCode := Frame.classCode frame
  parameterId := Frame.parameterId frame

/-- The package that the header stands for: the class code tells requests from responses. -/
def package? (h : Header) (data : Payload) : Except FrameError Package :=
  match CommandClass.ofRequestCode? h.classCode with
  | some c =>
    .ok (.request {
      destination := h.destination, source := h.source, transaction := h.transaction, port := h.portOrType,
      messageCount := h.messageCount, subDevice := h.subDevice, commandClass := c,
      parameterId := h.parameterId, data := data })
  | none =>
    match CommandClass.ofResponseCode? h.classCode with
    | none => .error (.unknownCommandClass h.classCode)
    | some c =>
      match ResponseType.ofCode? h.portOrType with
      | none => .error (.unknownResponseType h.portOrType)
      | some t =>
        .ok (.response {
          destination := h.destination, source := h.source, transaction := h.transaction, responseType := t,
          messageCount := h.messageCount, subDevice := h.subDevice, commandClass := c,
          parameterId := h.parameterId, data := data })

end Header

namespace Package

def header : Package → Header
  | .request r => {
      destination := r.destination, source := r.source, transaction := r.transaction, portOrType := r.port,
      messageCount := r.messageCount, subDevice := r.subDevice, classCode := r.commandClass.requestCode,
      parameterId := r.parameterId }
  | .response r => {
      destination := r.destination, source := r.source, transaction := r.transaction,
      portOrType := r.responseType.code, messageCount := r.messageCount, subDevice := r.subDevice,
      classCode := r.commandClass.responseCode, parameterId := r.parameterId }

def data : Package → Payload
  | .request r => r.data
  | .response r => r.data

/-- The bytes of the package, with the checksum at the end. -/
def frame (p : Package) : List UInt8 := withChecksum (p.header.content p.data)

/-- A package has at least a header and a checksum, and at most 257 bytes. -/
def checkSize (frame : List UInt8) : Except FrameError Unit :=
  if frame.length < minPackageSize then .error .tooShort
  else if maxPackageSize < frame.length then .error .tooLong
  else .ok ()

/-- The package with the given bytes, whatever the last two of them are. -/
def ofFrameUnchecked? (frame : List UInt8) : Except FrameError Package := do
  checkSize frame
  let length := (frame.getD 2 0).toNat
  let dataLength := (frame.getD 23 0).toNat
  if frame.getD 0 0 ≠ rdmStart ∨ frame.getD 1 0 ≠ subMessageStart then
    throw .wrongStart
  else if length + 2 ≠ frame.length ∨ dataLength + rdmHeaderSize ≠ length then
    throw (.wrongLength length)
  else
    match Frame.source frame with
    | .device source => (Header.ofFrame frame source).package? (.ofList (slice frame rdmHeaderSize dataLength))
    | _ => throw .broadcastSource

/-- The package with the given bytes, if their checksum is right. -/
def ofFrame? (frame : List UInt8) : Except FrameError Package := do
  checkSize frame
  if checksumValid frame then ofFrameUnchecked? frame else throw .wrongChecksum

end Package

end LightBus
