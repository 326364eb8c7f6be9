import Cabinet.Decimal.Shortest

/-!
Reading a decimal number by scaling: the digits are one machine word, which is turned into a
double and then multiplied or divided by powers of ten. Each of the two steps rounds, so the result
is within an unit or so of the number read and need not be the nearest double to it.
-/

namespace Cabinet.Decimal

/-- The greatest power of ten that is a double. -/
def greatestPower : Nat := 308

/-- The double nearest to a power of ten. -/
def powerOfTen (n : Nat) : Float :=
  Float.ofScientific 1 false n

/-- Divide by ten `exponent` times, in strides of `greatestPower`, unless zero is reached before. -/
def scaleDown (x : Float) (exponent : Nat) : Float :=
  if exponent ≤ greatestPower then x / powerOfTen exponent
  else if x == 0.0 then x
  else scaleDown (x / powerOfTen greatestPower) (exponent - greatestPower)
  termination_by exponent
  decreasing_by simp [greatestPower] at *; omega

/-- Multiply by ten `exponent` times; none when the result is not finite. -/
def scaleUp (x : Float) (exponent : Nat) : Option Float :=
  if exponent ≤ greatestPower then
    let y := x * powerOfTen exponent
    if y.isInf then none else some y
  else if x == 0.0 then some x
  else none

/-- The double read from a significand below `2 ^ 64` and an exponent; none when it is too large. -/
def scale (significand : Nat) (exponent : Int) : Option Float :=
  let x := significand.toUInt64.toFloat
  if exponent < 0 then some (scaleDown x exponent.natAbs) else scaleUp x exponent.natAbs

end Cabinet.Decimal
