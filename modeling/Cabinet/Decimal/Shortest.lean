/-!
The fewest decimal digits that read back as a binary floating-point number, found with exact
natural-number arithmetic. A number `m · 2 ^ q` owns the interval of reals that round to it, its
ends included when `m` is even; on each decimal grid, coarse to fine, the two neighbours of the
number are tried, and the first grid with a neighbour in the interval gives the digits.
-/

namespace Cabinet.Decimal

/-- A positive decimal number `digits · 10 ^ exponent`. -/
structure Digits where
  digits : Nat
  exponent : Int
  deriving DecidableEq, Repr

/-- A positive binary number `mantissa · 2 ^ exponent`; `narrow` when the gap below it is half the
gap above, as at a power of two. -/
structure Binary where
  mantissa : Nat
  exponent : Int
  narrow : Bool
  deriving DecidableEq, Repr

/-- The number and the ends of its interval, as numerators over one denominator. -/
structure Interval where
  low : Nat
  value : Nat
  high : Nat
  denominator : Nat
  closed : Bool

namespace Binary

def interval (b : Binary) : Interval :=
  let low := if b.narrow then 4 * b.mantissa - 1 else 4 * b.mantissa - 2
  let e := b.exponent - 2
  let up := Nat.pow 2 e.toNat
  ⟨low * up, 4 * b.mantissa * up, (4 * b.mantissa + 2) * up, Nat.pow 2 (-e).toNat, b.mantissa % 2 == 0⟩

end Binary

namespace Interval

/-- Does `n / d` lie in the interval? -/
def holds (i : Interval) (n d : Nat) : Bool :=
  let n := n * i.denominator
  let low := i.low * d
  let high := i.high * d
  (low < n && n < high) || (i.closed && (n == low || n == high))

/-- The neighbour of the value on the grid of multiples of `10 ^ exponent` that lies in the
interval; of two the nearer one, and the even one at equal distance. -/
def neighbour (i : Interval) (exponent : Int) : Option Nat :=
  let up := Nat.pow 10 exponent.toNat
  let down := Nat.pow 10 (-exponent).toNat
  let below := i.value * down / (i.denominator * up)
  let above := below + 1
  match i.holds (below * up) down && below != 0, i.holds (above * up) down with
  | false, false => none
  | true, false => some below
  | false, true => some above
  | true, true =>
    let twice := 2 * i.value * down
    let middle := (below + above) * up * i.denominator
    if twice < middle then some below
    else if middle < twice then some above
    else if below % 2 == 0 then some below
    else some above

end Interval

/-- The least `k` with `n < 10 ^ k · d`, at most `fuel` above `k`. -/
def magnitudeUp (n d : Nat) : Nat → Nat → Nat
  | 0, k => k
  | fuel + 1, k => if n < Nat.pow 10 k * d then k else magnitudeUp n d fuel (k + 1)

/-- The greatest `k` with `n · 10 ^ k < d`, at most `fuel` above `k`. -/
def magnitudeDown (n d : Nat) : Nat → Nat → Nat
  | 0, k => k
  | fuel + 1, k => if n * Nat.pow 10 (k + 1) < d then magnitudeDown n d fuel (k + 1) else k

/-- The `k` with `10 ^ (k - 1) ≤ n / d < 10 ^ k`, for positive `n`. The search starts from the
sizes of the two numbers in bits. -/
def magnitude (n d : Nat) : Int :=
  if n < d then
    let gap := d.log2 - n.log2
    Int.negOfNat (magnitudeDown n d (gap + 2) (gap * 3 / 10 - 1))
  else
    let gap := n.log2 - d.log2
    magnitudeUp n d (gap + 2) (gap * 3 / 10)

/-- Remove the zeros a decimal number ends in. -/
def Digits.strip : Nat → Digits → Digits
  | 0, d => d
  | fuel + 1, d =>
    if d.digits % 10 == 0 && d.digits != 0 then
      Digits.strip fuel ⟨d.digits / 10, d.exponent + 1⟩
    else d

/-- Try the grids from `count` digits on. Seventeen digits always suffice. -/
def search (i : Interval) (k : Int) : Nat → Nat → Digits
  | 0, _ => ⟨i.value / i.denominator, 0⟩
  | fuel + 1, count =>
    let exponent := k - count
    match i.neighbour exponent with
    | some n => Digits.strip (count + 1) ⟨n, exponent⟩
    | none => search i k fuel (count + 1)

/-- The shortest digits that read back as `b`. -/
def shortest (b : Binary) : Digits :=
  let i := b.interval
  search i (magnitude i.value i.denominator) 20 1

/-- A floating-point number taken apart. -/
inductive Parts where
  | nan
  | infinite (negative : Bool)
  | zero (negative : Bool)
  | finite (negative : Bool) (magnitude : Binary)
  deriving DecidableEq, Repr

/-- The parts of a double: one sign bit, eleven exponent bits, fifty-two fraction bits. -/
def parts (x : Float) : Parts :=
  let bits : Nat := x.toBits.toNat
  let negative := bits / Nat.pow 2 63 == 1
  let exponent : Nat := bits / Nat.pow 2 52 % 2048
  let fraction : Nat := bits % Nat.pow 2 52
  if exponent == 2047 then
    if fraction == 0 then .infinite negative else .nan
  else if exponent == 0 then
    if fraction == 0 then .zero negative else .finite negative ⟨fraction, -1074, false⟩
  else
    .finite negative ⟨Nat.pow 2 52 + fraction, (exponent : Int) - 1075, fraction == 0 && exponent != 1⟩

end Cabinet.Decimal
