import LightBus.Payload
import LightBus.Schema

/-!
# Native form and wire form

`Schema.toWire` and `Schema.toNative` convert parameter data field by field into a buffer of limited size. The
bytes that were written before a field failed are part of the result.
-/

namespace LightBus

/-- Why parameter data cannot be converted. -/
inductive CodecError where
  | sourceTooShort
  | destinationTooSmall
deriving DecidableEq

def CodecError.message : CodecError → String
  | .sourceTooShort => "source ended in the middle of a field"
  | .destinationTooSmall => "destination too small for the field"

def CodecError.kind : CodecError → String
  | .sourceTooShort => "SourceTooShort"
  | .destinationTooSmall => "DestinationTooSmall"

instance : Failure CodecError := ⟨CodecError.kind, CodecError.message⟩

/-- The first `count` bytes and the others. -/
def cut? (count : Nat) (source : List UInt8) : Except CodecError (List UInt8 × List UInt8) :=
  if source.length < count then .error .sourceTooShort else .ok (source.take count, source.drop count)

/-- The wire form of the field at the front of native data, in the parts that are written one by one, and the
native data after it. -/
def Field.toWire (field : Field) (native : List UInt8) :
    Except CodecError (List (List UInt8) × List UInt8) :=
  match field with
  | .byte => do
    let (b, rest) ← cut? 1 native
    return ([b], rest)
  | .word => do
    let (w, rest) ← cut? 2 native
    return ([w.reverse], rest)
  | .dword => do
    let (d, rest) ← cut? 4 native
    return ([d.reverse], rest)
  | .uid => do
    let (six, rest) ← cut? 6 native
    return ([(six.take 2).reverse, (six.drop 2).reverse], rest)
  | .optionalUid => do
    let (six, rest) ← cut? 6 native
    return (if six.all (· == 0) then [] else [(six.take 2).reverse, (six.drop 2).reverse], rest)
  | .text => do
    let (label, rest) ← cut? maxTextSize native
    return ([untilZero maxTextSize label], rest)
  | .bytes => return ([native], [])
  | .literal data => do
    let (_, rest) ← cut? data.length native
    return ([data], rest)

/-- The native form of the field at the front of wire data, in the parts that are written one by one, and the
wire data after it. -/
def Field.toNative (field : Field) (wire : List UInt8) :
    Except CodecError (List (List UInt8) × List UInt8) :=
  match field with
  | .byte => do
    let (b, rest) ← cut? 1 wire
    return ([b], rest)
  | .word => do
    let (w, rest) ← cut? 2 wire
    return ([w.reverse], rest)
  | .dword => do
    let (d, rest) ← cut? 4 wire
    return ([d.reverse], rest)
  | .uid => do
    let (six, rest) ← cut? 6 wire
    return ([(six.take 2).reverse, (six.drop 2).reverse], rest)
  | .optionalUid =>
    if wire.length < 6 then return ([List.replicate 6 0], wire)
    else return ([(wire.take 2).reverse, ((wire.take 6).drop 2).reverse], wire.drop 6)
  | .text => return ([padZero maxTextSize (untilZero maxTextSize wire)], wire.drop maxTextSize)
  | .bytes => return ([wire], [])
  | .literal data => do
    let (_, rest) ← cut? data.length wire
    return ([data], rest)

/-- What is left of the source, and what was written of it. -/
structure Transfer where
  source : List UInt8
  written : List UInt8
deriving DecidableEq

namespace Transfer

/-- Writes the parts into a destination of `room` bytes, as long as they fit. -/
def putAll (room : Nat) : List (List UInt8) → Transfer → Except CodecError Unit × Transfer
  | [], t => (.ok (), t)
  | part :: parts, t =>
    if t.written.length + part.length ≤ room then
      putAll room parts { t with written := t.written ++ part }
    else (.error .destinationTooSmall, t)

/-- Converts one field. -/
def field (convert : Field → List UInt8 → Except CodecError (List (List UInt8) × List UInt8)) (room : Nat)
    (f : Field) (t : Transfer) : Except CodecError Unit × Transfer :=
  match convert f t.source with
  | .error e => (.error e, t)
  | .ok (parts, rest) => putAll room parts { t with source := rest }

end Transfer

/-- The bytes that were written, and whether all fields could be converted. -/
structure Conversion where
  written : List UInt8
  result : Except CodecError Unit

/-- The bytes that were written, if all fields could be converted. -/
def Conversion.toExcept (c : Conversion) : Except CodecError (List UInt8) :=
  c.result.map fun () => c.written

namespace Schema

private def convert (s : Schema)
    (field : Field → List UInt8 → Except CodecError (List (List UInt8) × List UInt8))
    (source : List UInt8) (room : Nat) : Conversion :=
  let (result, t) := s.walk (s.repetitions source.length room) (Transfer.field field room) ⟨source, []⟩
  ⟨t.written, result⟩

/-- Converts native data for the wire, into a buffer of `room` bytes. -/
def toWire (s : Schema) (native : List UInt8) (room : Nat) : Conversion :=
  s.convert Field.toWire native room

/-- Converts data from the wire, into a buffer of `room` bytes. -/
def toNative (s : Schema) (wire : List UInt8) (room : Nat) : Conversion :=
  s.convert Field.toNative wire room

/-- Native data as the parameter data of a package. -/
def toPayload? (s : Schema) (native : List UInt8) : Except CodecError Payload :=
  (s.toWire native maxPayloadSize).toExcept.map .ofList

end Schema

end LightBus
