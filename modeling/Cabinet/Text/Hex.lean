import Cabinet.Text.Integer
import Cabinet.Text.Utf8

/-!
Hexadecimal digits, and bytes written with two of them each. Digits are written in lower case and read
in either case.
-/

namespace Cabinet.Hex

/-- The digit of a number below sixteen. -/
def digit (n : Nat) : Char :=
  if n < 10 then Char.ofNat (n + '0'.toNat) else Char.ofNat (n - 10 + 'a'.toNat)

/-- The number of a digit. -/
def value? (c : Char) : Option Nat :=
  if isDigit c then some (digitValue c)
  else if 'a' ≤ c && c ≤ 'f' then some (c.toNat - 'a'.toNat + 10)
  else if 'A' ≤ c && c ≤ 'F' then some (c.toNat - 'A'.toNat + 10)
  else none

/-- The two digits of a byte. -/
def pair (n : Nat) : List Char := [digit (n / 16), digit (n % 16)]

def encode (bytes : List UInt8) : List Char :=
  bytes.flatMap fun b => pair b.toNat

/-- The bytes that digits spell; none when they do not come in pairs. -/
def decode? : List Char → Option (List UInt8)
  | [] => some []
  | [_] => none
  | a :: b :: rest =>
    match value? a, value? b, decode? rest with
    | some high, some low, some bytes => some ((high * 16 + low).toUInt8 :: bytes)
    | _, _, _ => none

/-- Bytes as the text that they spell, or else as digits after a mark. -/
def textOr (bytes : List UInt8) : String :=
  match Utf8.decode bytes with
  | .ok cs => String.ofList cs
  | .error _ => "hex:" ++ String.ofList (encode bytes)

end Cabinet.Hex
