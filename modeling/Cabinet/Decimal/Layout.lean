import Cabinet.Decimal.Shortest

/-!
How a decimal number is laid out: in positional notation or with an exponent, and with how many
digits at least after the point.
-/

namespace Cabinet.Decimal

/-- The choices of a layout. A number is written positionally when its decimal exponent, that of
its first digit, lies between `least` and `greatest`; `none` means always. `point` writes `.0` after
a whole number, `plus` writes the sign of a positive exponent. -/
structure Layout where
  positional : Option (Int × Int)
  point : Bool
  plus : Bool
  nan : String
  infinity : String
  deriving DecidableEq, Repr

/-- A natural number in decimal digits. -/
def natural (n : Nat) : List Char :=
  (Nat.toDigits 10 n)

/-- An integer in decimal digits, with a minus sign when negative. -/
def integer (n : Int) : List Char :=
  if n < 0 then '-' :: natural n.natAbs else natural n.natAbs

/-- Digits in positional notation: zeros fill the places between the digits and the point. -/
def positional (point : Bool) (d : Digits) : List Char :=
  let ds := natural d.digits
  let places := (ds.length : Int) + d.exponent
  if 0 ≤ d.exponent then
    ds ++ List.replicate d.exponent.toNat '0' ++ (if point then ['.', '0'] else [])
  else if 0 < places then
    ds.take places.toNat ++ '.' :: ds.drop places.toNat
  else
    '0' :: '.' :: List.replicate (-places).toNat '0' ++ ds

/-- One digit before the point and an exponent. -/
def scientific (plus : Bool) (d : Digits) : List Char :=
  let ds := natural d.digits
  let exponent := (ds.length : Int) + d.exponent - 1
  let sign := if exponent < 0 then ['-'] else if plus then ['+'] else []
  let fraction := ds.drop 1
  ds.take 1 ++ (if fraction.isEmpty then [] else '.' :: fraction) ++
    'e' :: sign ++ natural exponent.natAbs

namespace Layout

def digits (l : Layout) (d : Digits) : List Char :=
  let exponent := ((natural d.digits).length : Int) + d.exponent - 1
  match l.positional with
  | none => Decimal.positional l.point d
  | some (least, greatest) =>
    if least ≤ exponent ∧ exponent ≤ greatest then Decimal.positional l.point d
    else scientific l.plus d

def signed (negative : Bool) (cs : List Char) : List Char :=
  if negative then '-' :: cs else cs

/-- The text of a double. -/
def write (l : Layout) (x : Float) : List Char :=
  match parts x with
  | .nan => l.nan.toList
  | .infinite negative => signed negative l.infinity.toList
  | .zero negative => signed negative (if l.point then ['0', '.', '0'] else ['0'])
  | .finite negative b => signed negative (l.digits (shortest b))

/-- The layout of numbers in documents: positional from `1e-5` to below `1e16`, and never without
a point or an exponent. A number that is not finite has no form of its own there. -/
def document : Layout :=
  ⟨some (-5, 15), true, true, "null", "null"⟩

/-- The layout of numbers in messages: always positional, whole numbers without a point. -/
def plain : Layout :=
  ⟨none, false, false, "NaN", "inf"⟩

/-- The layout of numbers in diagnostic texts: positional from `1e-4` to below `1e16`. -/
def diagnostic : Layout :=
  ⟨some (-4, 15), true, false, "NaN", "inf"⟩

end Layout

end Cabinet.Decimal
