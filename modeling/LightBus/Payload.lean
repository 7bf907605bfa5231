import LightBus.Bytes
import LightBus.Limits

/-!
# Parameter data

The parameter data of one package: at most 231 bytes.
-/

namespace LightBus

/-- The parameter data of one package. -/
structure Payload where
  bytes : List UInt8
  length_le : bytes.length ≤ maxPayloadSize
deriving DecidableEq

namespace Payload

/-- The payload with the given bytes; what does not fit is dropped. -/
def ofList (bytes : List UInt8) : Payload :=
  ⟨bytes.take maxPayloadSize, List.length_take_le ..⟩

theorem ofList_bytes (data : Payload) : Payload.ofList data.bytes = data := by
  obtain ⟨bytes, h⟩ := data
  simp only [ofList, mk.injEq]
  exact List.take_of_length_le h

theorem bytes_ofList {bytes : List UInt8} (h : bytes.length ≤ maxPayloadSize) :
    (Payload.ofList bytes).bytes = bytes :=
  List.take_of_length_le h

/-- No parameter data. -/
def empty : Payload := ⟨[], Nat.zero_le _⟩

instance : Inhabited Payload := ⟨empty⟩

/-- The payload with `part` behind its bytes, if that fits. -/
def append? (data : Payload) (part : List UInt8) : Option Payload :=
  if h : (data.bytes ++ part).length ≤ maxPayloadSize then some ⟨data.bytes ++ part, h⟩ else none

/-- The payload with the parts behind its bytes, up to the first part that does not fit. -/
def fill (data : Payload) : List (List UInt8) → Payload
  | [] => data
  | part :: parts =>
    match data.append? part with
    | some more => more.fill parts
    | none => data

end Payload

end LightBus
