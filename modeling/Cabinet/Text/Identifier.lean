import Cabinet.Text.Identifier.Ranges
import Cabinet.Text.Integer

/-!
Identifiers: a character with the property `XID_Start` or an underscore, then characters with the
property `XID_Continue`.
-/

namespace Cabinet.Identifier

/-- Does a character lie in one of the ranges? -/
def within (ranges : List (Nat × Nat)) (c : Char) : Bool :=
  ranges.any fun r => r.1 ≤ c.toNat && c.toNat ≤ r.2

def isAsciiLetter (c : Char) : Bool :=
  ('a' ≤ c && c ≤ 'z') || ('A' ≤ c && c ≤ 'Z')

def isStart (c : Char) : Bool :=
  isAsciiLetter c || (0x80 ≤ c.toNat && within startRanges c)

def isContinue (c : Char) : Bool :=
  isAsciiLetter c || isDigit c || c == '_' || (0x80 ≤ c.toNat && within continueRanges c)

end Identifier

/-- Is a text an identifier? -/
def isIdentifier : List Char → Bool
  | [] => false
  | c :: cs => (Identifier.isStart c || c == '_') && cs.all Identifier.isContinue

end Cabinet
