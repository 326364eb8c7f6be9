/-!
Integers in decimal digits: reading them, with the causes of failure, and the bounds of the widths
that texts are read into.
-/

namespace Cabinet

def isDigit (c : Char) : Bool :=
  '0' ≤ c && c ≤ '9'

def digitValue (c : Char) : Nat :=
  c.toNat - '0'.toNat

/-- The number that decimal digits spell. -/
def digitsValue (cs : List Char) : Nat :=
  cs.foldl (fun n c => n * 10 + digitValue c) 0

/-- A range of integers, both ends included. -/
structure Width where
  low : Int
  high : Int
  deriving DecidableEq, Repr

namespace Width

def signed (bits : Nat) : Width :=
  ⟨-Nat.pow 2 (bits - 1), Nat.pow 2 (bits - 1) - 1⟩

def unsigned (bits : Nat) : Width :=
  ⟨0, Nat.pow 2 bits - 1⟩

def contains (w : Width) (n : Int) : Bool :=
  w.low ≤ n && n ≤ w.high

end Width

/-- Why a text is no integer of a width. -/
inductive IntegerFault where
  | empty
  | invalidDigit
  | tooLarge
  | tooSmall
  deriving DecidableEq, Repr

def IntegerFault.message : IntegerFault → String
  | empty => "cannot parse integer from empty string"
  | invalidDigit => "invalid digit found in string"
  | tooLarge => "number too large to fit in target type"
  | tooSmall => "number too small to fit in target type"

/-- A sign and the digits after it. -/
def splitSign : List Char → Bool × List Char
  | '-' :: rest => (true, rest)
  | '+' :: rest => (false, rest)
  | cs => (false, cs)

/-- Read an integer: an optional sign and one digit or more. A width that starts at zero takes no
minus sign. -/
def Width.read (w : Width) (cs : List Char) : Except IntegerFault Int :=
  if cs.isEmpty then .error .empty
  else
    let (negative, digits) := splitSign cs
    if digits.isEmpty || !digits.all isDigit || (negative && w.low == 0) then .error .invalidDigit
    else
      let n : Int := if negative then -(digitsValue digits : Int) else digitsValue digits
      if n < w.low then .error .tooSmall
      else if w.high < n then .error .tooLarge
      else .ok n

def Width.read? (w : Width) (cs : List Char) : Option Int :=
  (w.read cs).toOption

end Cabinet
