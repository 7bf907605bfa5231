/-!
# Hexadecimal text

Numbers and bytes as hexadecimal digits. Both cases are read; bytes are written in lower case and numbers in upper
case.
-/

namespace LightBus.Hex

/-- The value of a digit, zero for any other character. -/
def digitValue (c : Char) : Nat :=
  if c.isDigit then c.toNat - '0'.toNat
  else if 'a' ≤ c ∧ c ≤ 'f' then c.toNat - 'a'.toNat + 10
  else if 'A' ≤ c ∧ c ≤ 'F' then c.toNat - 'A'.toNat + 10
  else 0

/-- The number with the given digits. -/
def number (digits : List Char) : Nat := digits.foldl (fun n c => n * 16 + digitValue c) 0

/-- The bytes that are written with two digits each; an odd digit at the end is dropped. -/
def pairs : List Char → List UInt8
  | hi :: lo :: rest => UInt8.ofNat (number [hi, lo]) :: pairs rest
  | _ => []

/-- The bytes that the text is written for. -/
def toBytes (text : String) : List UInt8 := pairs text.toList

/-- The lowest digits of a number, as many as told, taken from a table of the sixteen digits. -/
def digitsOf (table : String) : (count : Nat) → Nat → List Char
  | 0, _ => []
  | count + 1, n => digitsOf table count (n / 16) ++ [table.toList.getD (n % 16) '0']

/-- The lowest digits of a number in upper case, as many as told. -/
def upper (count n : Nat) : List Char := digitsOf "0123456789ABCDEF" count n

/-- Two digits for each byte. -/
def ofBytes (bytes : List UInt8) : String :=
  String.ofList (bytes.flatMap fun b => digitsOf "0123456789abcdef" 2 b.toNat)

end LightBus.Hex
