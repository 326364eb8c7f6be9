import Cabinet.Text.CaseFold
import Cabinet.Text.Category

/-!
Sets of characters as patterns write them: ranges, and what set operations and disregard of case
make of them.
-/

namespace Cabinet

inductive CharSet where
  | ranges (rs : List (Nat × Nat))
  | union (a b : CharSet)
  | inter (a b : CharSet)
  | diff (a b : CharSet)
  | symmDiff (a b : CharSet)
  | negate (a : CharSet)
  | anyCase (a : CharSet)
  deriving DecidableEq, Repr

namespace CharSet

/-- Is the character with a code point in the set? Without regard to case a character is in when
one that differs from it in case alone is. -/
def has : CharSet → Nat → Bool
  | ranges rs, n => rs.any fun r => r.1 ≤ n && n ≤ r.2
  | union a b, n => a.has n || b.has n
  | inter a b, n => a.has n && b.has n
  | diff a b, n => a.has n && !b.has n
  | symmDiff a b, n => a.has n != b.has n
  | negate a, n => !a.has n
  | anyCase a, n => a.has n || (CaseFold.orbit n).any a.has

/-- The number of ranges, in ascending order, when those that touch are joined; `last` is the end of
the range before them. -/
def runs (last : Nat) : List (Nat × Nat) → Nat
  | [] => 0
  | r :: rs => (if r.1 ≤ last + 1 then 0 else 1) + runs (max last r.2) rs

/-- How much a set takes in a pattern: ASCII characters together one, and the ranges above them more,
as their characters are several bytes long. -/
def weight : CharSet → Nat
  | ranges rs => 1 + 2 * runs 0x7F (rs.mergeSort fun a b => a.1 ≤ b.1)
  | union a b => a.weight + b.weight
  | inter a b => min a.weight b.weight
  | diff a _ => a.weight
  | symmDiff a b => a.weight + b.weight
  | negate a => a.weight + 8
  | anyCase a => a.weight

def contains (s : CharSet) (c : Char) : Bool :=
  s.has c.toNat

def empty : CharSet := ranges []

def single (c : Char) : CharSet := ranges [(c.toNat, c.toNat)]

/-- The set, or all that is not in it. -/
def negateIf (negated : Bool) (s : CharSet) : CharSet :=
  if negated then negate s else s

def anyCaseIf (fold : Bool) (s : CharSet) : CharSet :=
  if fold then anyCase s else s

/-- Decimal digits, of ASCII alone or of all scripts. -/
def digit (unicode : Bool) : CharSet :=
  ranges (if unicode then Category.decimalNumber else [(0x30, 0x39)])

def space (unicode : Bool) : CharSet :=
  ranges (if unicode then Category.whiteSpace else [(0x09, 0x0D), (0x20, 0x20)])

def word (unicode : Bool) : CharSet :=
  ranges (if unicode then Category.word
    else [(0x30, 0x39), (0x41, 0x5A), (0x5F, 0x5F), (0x61, 0x7A)])

/-- The classes of ASCII characters that have names. -/
def ascii? (name : List Char) : Option CharSet :=
  match String.ofList name with
  | "alnum" => some (ranges [(0x30, 0x39), (0x41, 0x5A), (0x61, 0x7A)])
  | "alpha" => some (ranges [(0x41, 0x5A), (0x61, 0x7A)])
  | "ascii" => some (ranges [(0, 0x7F)])
  | "blank" => some (ranges [(0x09, 0x09), (0x20, 0x20)])
  | "cntrl" => some (ranges [(0, 0x1F), (0x7F, 0x7F)])
  | "digit" => some (ranges [(0x30, 0x39)])
  | "graph" => some (ranges [(0x21, 0x7E)])
  | "lower" => some (ranges [(0x61, 0x7A)])
  | "print" => some (ranges [(0x20, 0x7E)])
  | "punct" => some (ranges [(0x21, 0x2F), (0x3A, 0x40), (0x5B, 0x60), (0x7B, 0x7E)])
  | "space" => some (ranges [(0x09, 0x0D), (0x20, 0x20)])
  | "upper" => some (ranges [(0x41, 0x5A)])
  | "word" => some (ranges [(0x30, 0x39), (0x41, 0x5A), (0x5F, 0x5F), (0x61, 0x7A)])
  | "xdigit" => some (ranges [(0x30, 0x39), (0x41, 0x46), (0x61, 0x66)])
  | _ => none

end CharSet

end Cabinet
