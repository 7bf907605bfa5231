import LightBus.Schema.Codec

/-!
# Conversions in place

`Schema.convertInto` converts parameter data into a buffer that holds other data already. A cursor keeps what is left
of the source, and up to where the buffer has been written.
-/

namespace LightBus

/-- The form that parameter data are brought into. -/
inductive Form where
  | wire | native
deriving DecidableEq

/-- The field at the front of the source in the given form, in the parts that are written one by one, and the source
after it. -/
def Field.convert (form : Form) (field : Field) (source : List UInt8) :
    Except CodecError (List (List UInt8) × List UInt8) :=
  match form with
  | .wire => field.toWire source
  | .native => field.toNative source

/-- What is left of the source, and the buffer, written up to `position`. -/
structure Cursor where
  source : List UInt8
  destination : List UInt8
  position : Nat
deriving DecidableEq

namespace Cursor

/-- Copies the parts over the buffer, one behind the other, as long as they fit. -/
def putAll : List (List UInt8) → Cursor → Except CodecError Unit × Cursor
  | [], c => (.ok (), c)
  | part :: parts, c =>
    if c.position + part.length ≤ c.destination.length then
      putAll parts
        { c with
          destination := overwrite c.destination c.position part
          position := c.position + part.length }
    else (.error .destinationTooSmall, c)

/-- Converts one field. -/
def field (form : Form) (f : Field) (c : Cursor) : Except CodecError Unit × Cursor :=
  match f.convert form c.source with
  | .error e => (.error e, c)
  | .ok (parts, rest) => putAll parts { c with source := rest }

/-- How many bytes a walk has written if it came to its end, and the buffer after it. -/
def outcome (walked : Except CodecError Unit × Cursor) : Except CodecError Nat × List UInt8 :=
  (walked.1.map fun () => walked.2.position, walked.2.destination)

end Cursor

/-- Converts the source to the given form, for a buffer of `room` bytes. -/
def Schema.convertTo (form : Form) (s : Schema) (source : List UInt8) (room : Nat) : Conversion :=
  match form with
  | .wire => s.toWire source room
  | .native => s.toNative source room

/-- Converts the source into the buffer. -/
def Schema.convertInto (form : Form) (s : Schema) (source destination : List UInt8) :
    Except CodecError Nat × List UInt8 :=
  Cursor.outcome (s.walk (s.repetitions source.length destination.length) (Cursor.field form)
    ⟨source, destination, 0⟩)

end LightBus
