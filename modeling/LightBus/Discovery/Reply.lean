import LightBus.Checksum
import LightBus.Package.Frame

/-!
# Discovery responses

A device answers a branch probe without a break: up to seven preamble bytes, a separator, and then its
identifier and a checksum, each byte sent as two slots. Every bit is set in one of the two slots at least, so
that answers of several devices at once spoil the checksum.
-/

namespace LightBus.Discovery

/-- Each byte `x` becomes the two slots `x ||| 0xAA` and `x ||| 0x55`. -/
def spread (bytes : List UInt8) : List UInt8 :=
  bytes.flatMap fun x => [x ||| 0xAA, x ||| 0x55]

/-- Each pair of slots becomes the bits that both have; an odd slot at the end is dropped. -/
def gather : List UInt8 → List UInt8
  | a :: b :: rest => (a &&& b) :: gather rest
  | _ => []

/-- The slots of the answer after the separator. -/
def replyBody (uid : Uid) : List UInt8 :=
  spread uid.bytes ++ spread (word (checksum (spread uid.bytes)))

/-- The answer of a device to a branch probe, with `preamble` preamble bytes but at most seven. -/
def replyFrame (uid : Uid) (preamble : Nat) : List UInt8 :=
  List.replicate (min preamble maxPreambleLength) preambleByte ++ separatorByte :: replyBody uid

/-- How many preamble bytes the frame has before its separator, if at most seven precede it. -/
def separatorIndex? (frame : List UInt8) : Option Nat :=
  let preamble := (frame.take (maxPreambleLength + 1)).takeWhile (· == preambleByte)
  if preamble.length ≤ maxPreambleLength ∧ frame[preamble.length]? = some separatorByte then
    some preamble.length
  else none

/-- The identifier in a discovery response; slots after the response are not looked at. -/
def uidOfReply? (frame : List UInt8) : Except FrameError Uid :=
  match separatorIndex? frame with
  | none => .error .wrongStart
  | some index =>
    let body := frame.drop (index + 1)
    if body.length < discoveryBodySize then .error (.wrongLength body.length)
    else
      let coded := body.take 12
      if gather (slice body 12 4) ≠ word (checksum coded) then .error .wrongChecksum
      else
        match gather coded with
        | [b0, b1, b2, b3, b4, b5] =>
          match Address.ofBytes b0 b1 b2 b3 b4 b5 with
          | .device uid => .ok uid
          | _ => .error .broadcastSource
        | _ => .error .broadcastSource

end LightBus.Discovery
