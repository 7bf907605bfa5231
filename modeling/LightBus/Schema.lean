import LightBus.Bytes
import LightBus.Failure
import LightBus.Limits

/-!
# Schemas

A schema lists the fields of a parameter. A device stores the fields in its own form, the native one; the line
carries them in another, the wire form.

* Integers are stored with their least significant byte first and travel with it last.
* Text is stored in 32 bytes, padded with zeros, and travels without the padding.
* A schema that ends with a field of variable length describes one value; any other may be repeated.
-/

namespace LightBus

/-- One field of a parameter. -/
inductive Field where
  | byte
  | word
  | dword
  /-- An identifier. -/
  | uid
  /-- An identifier that is not sent when it is all zeros. Only as the last field. -/
  | optionalUid
  /-- Up to 32 bytes of text. Only as the last field. -/
  | text
  /-- All bytes that are left. Only as the last field. -/
  | bytes
  /-- Bytes that never change. -/
  | literal (data : List UInt8)
deriving DecidableEq

namespace Field

/-- The field has a variable length on the wire. -/
def isTerminal : Field → Bool
  | .optionalUid | .text | .bytes => true
  | _ => false

/-- The bytes of the native form, also the most that the wire form takes. The field that takes all that is left
counts as none. -/
def size : Field → Nat
  | .byte => 1
  | .word => 2
  | .dword => 4
  | .uid | .optionalUid => 6
  | .text => maxTextSize
  | .bytes => 0
  | .literal data => data.length

/-- The longest literal. -/
def maxLiteralSize : Nat := 8

/-- The field is a literal that is too long. -/
def isLongLiteral : Field → Bool
  | .literal data => decide (maxLiteralSize < data.length)
  | _ => false

/-- The name of the field. Literals have none. -/
def name? : Field → Option String
  | .byte => some "byte"
  | .word => some "word"
  | .dword => some "dword"
  | .uid => some "uid"
  | .optionalUid => some "optuid"
  | .text => some "ascii"
  | .bytes => some "bytes"
  | .literal _ => none

def ofName? : String → Option Field
  | "byte" => some .byte
  | "word" => some .word
  | "dword" => some .dword
  | "uid" => some .uid
  | "optuid" => some .optionalUid
  | "ascii" => some .text
  | "bytes" => some .bytes
  | _ => none

end Field

/-- Why fields make no schema. -/
inductive SchemaError where
  | terminalFieldNotLast
  | literalTooLong
  | tooLarge
deriving DecidableEq

def SchemaError.message : SchemaError → String
  | .terminalFieldNotLast => "variable length field is not the last field"
  | .literalTooLong => "literal is longer than 8 bytes"
  | .tooLarge => "schema exceeds the parameter data length"

def SchemaError.kind : SchemaError → String
  | .terminalFieldNotLast => "TerminalFieldNotLast"
  | .literalTooLong => "LiteralTooLong"
  | .tooLarge => "TooLarge"

instance : Failure SchemaError := ⟨SchemaError.kind, SchemaError.message⟩

/-- Looks for the first field that is out of place, too long, or past the size of parameter data; `used` bytes
are taken already. -/
def checkFields (used : Nat) : List Field → Except SchemaError Unit
  | [] => .ok ()
  | field :: rest =>
    if field.isTerminal && !rest.isEmpty then .error .terminalFieldNotLast
    else if field.isLongLiteral then .error .literalTooLong
    else if maxPayloadSize < used + field.size then .error .tooLarge
    else checkFields (used + field.size) rest

/-- The fields of one value of a parameter. -/
structure Schema where
  fields : List Field
  checked : checkFields 0 fields = .ok ()
deriving DecidableEq

namespace Schema

/-- The schema with the given fields. -/
def ofFields? (fields : List Field) : Except SchemaError Schema :=
  match h : checkFields 0 fields with
  | .ok () => .ok ⟨fields, h⟩
  | .error e => .error e

/-- No fields, for parameters without data. -/
def empty : Schema := ⟨[], rfl⟩

/-- The last field has a variable length, so the schema is never repeated. -/
def isSingleton (s : Schema) : Bool := s.fields.getLast?.any Field.isTerminal

/-- The bytes of one value in native form, also the most that it takes on the wire. -/
def size (s : Schema) : Nat := s.fields.foldr (fun field total => field.size + total) 0

/-- How many values fit into both the source and the destination. -/
def repetitions (s : Schema) (source destination : Nat) : Nat :=
  if s.isSingleton then 1
  else if s.size = 0 then 0
  else min (source / s.size) (destination / s.size)

end Schema

/-- Visits the fields from the first to the last and stops where a visit fails. -/
def visitFields {σ ε : Type} (visit : Field → σ → Except ε Unit × σ) : List Field → σ → Except ε Unit × σ
  | [], s => (.ok (), s)
  | field :: rest, s =>
    match visit field s with
    | (.ok (), s) => visitFields visit rest s
    | (.error e, s) => (.error e, s)

/-- Visits the fields of `count` values. -/
def Schema.walk {σ ε : Type} (schema : Schema) (count : Nat) (visit : Field → σ → Except ε Unit × σ) (s : σ) :
    Except ε Unit × σ :=
  visitFields visit (List.replicate count schema.fields).flatten s

end LightBus
