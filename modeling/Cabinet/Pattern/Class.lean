import Cabinet.Pattern.Escape

/-!
Classes in square brackets: characters, ranges, escapes, named ASCII classes, nested classes, and
the operations `&&`, `--` and `~~` between them, which group to the left.
-/

namespace Cabinet.Pattern

inductive SetOperator where
  | inter
  | diff
  | symmDiff
  deriving DecidableEq, Repr

def SetOperator.apply : SetOperator → CharSet → CharSet → CharSet
  | inter => .inter
  | diff => .diff
  | symmDiff => .symmDiff

/-- The operator that a character stands for when it is written twice. -/
def SetOperator.ofChar? : Char → Option SetOperator
  | '&' => some inter
  | '-' => some diff
  | '~' => some symmDiff
  | _ => none

/-- A class that is being read: the left side of an operator still to be applied, and the union of
what came since. -/
structure OpenClass where
  negated : Bool
  pending : Option (SetOperator × CharSet)
  items : CharSet

namespace OpenClass

/-- The class read so far, with the pending operator applied. -/
def content (f : Flags) (c : OpenClass) : CharSet :=
  match c.pending with
  | none => c.items
  | some (op, left) =>
    op.apply (CharSet.anyCaseIf f.ignoreCase left) (CharSet.anyCaseIf f.ignoreCase c.items)

def add (s : CharSet) (c : OpenClass) : OpenClass :=
  { c with items := .union c.items s }

def operator (f : Flags) (op : SetOperator) (c : OpenClass) : OpenClass :=
  ⟨c.negated, some (op, c.content f), .empty⟩

/-- The finished class. -/
def close (f : Flags) (c : OpenClass) : CharSet :=
  CharSet.negateIf c.negated (CharSet.anyCaseIf f.ignoreCase (c.content f))

end OpenClass

/-- Leading hyphens of a class stand for themselves. -/
def leadingHyphens (f : Flags) (c : OpenClass) : Nat → List Char → Option (OpenClass × List Char)
  | 0, cs => some (c, cs)
  | fuel + 1, cs =>
    match cs with
    | '-' :: rest => do
      let rest ← f.goOn rest
      leadingHyphens f (c.add (.single '-')) fuel rest
    | cs => some (c, cs)

/-- Is a class negated? A caret in front says so. -/
def classSign (f : Flags) : List Char → Option (Bool × List Char)
  | '^' :: rest => (f.goOn rest).map (true, ·)
  | cs => some (false, cs)

/-- The beginning of a class after its bracket. A bracket that would close an empty class stands
for itself. -/
def openClass (f : Flags) (cs : List Char) : Option (OpenClass × List Char) := do
  let cs ← f.goOn cs
  let (negated, cs) ← classSign f cs
  let fresh : OpenClass := ⟨negated, none, .empty⟩
  match cs with
  | ']' :: rest => (f.goOn rest).map (fresh.add (.single ']'), ·)
  | cs => leadingHyphens f fresh cs.length cs

/-- The name of an ASCII class up to its end. A negated class leaves out its characters in any case, where
case is disregarded. -/
def asciiName (f : Flags) (negated : Bool) (cs : List Char) : Option (CharSet × List Char) :=
  match cs.dropWhile (· != ':') with
  | ':' :: ']' :: after =>
    (CharSet.ascii? (cs.takeWhile (· != ':'))).map fun s =>
      (CharSet.negateIf negated (CharSet.anyCaseIf f.ignoreCase s), after)
  | _ => none

/-- A named ASCII class after its bracket. -/
def asciiClass (f : Flags) : List Char → Option (CharSet × List Char)
  | ':' :: '^' :: rest => asciiName f true rest
  | ':' :: rest => asciiName f false rest
  | _ => none

/-- One character or escape of a class. -/
def classItem (f : Flags) : List Char → Option (Atom × List Char)
  | [] => none
  | c :: rest => if c = '\\' then escape f rest else some (.literal c false, rest)

/-- A character of a class. Outside Unicode only ASCII can be written. -/
def classChar? (f : Flags) : Atom → Option Char
  | .literal c _ => if f.unicode || c.toNat < 0x80 then some c else none
  | _ => none

def classSet? (f : Flags) : Atom → Option CharSet
  | .literal c byte => (classChar? f (.literal c byte)).map .single
  | .set s => some s
  | .boundary _ => none

/-- Does a hyphen stand for itself, by what comes after it? Before a closing bracket or another hyphen it
makes no range. -/
def standsAlone (f : Flags) (after : List Char) : Bool :=
  (f.skip after).head?.any fun c => c == ']' || c == '-'

/-- A range of characters from its first one, after the hyphen. -/
def rangeFrom (f : Flags) (first : Atom) (after : List Char) : Option (CharSet × List Char) := do
  let after ← f.goOn after
  let (last, rest) ← classItem f after
  let low ← classChar? f first
  let high ← classChar? f last
  if low.toNat ≤ high.toNat then some (.ranges [(low.toNat, high.toNat)], rest) else none

/-- A character, an escape, or a range of characters. -/
def classRange (f : Flags) (cs : List Char) : Option (CharSet × List Char) := do
  let (first, rest) ← classItem f cs
  let rest ← f.goOn rest
  match rest with
  | '-' :: after =>
    if standsAlone f after then (classSet? f first).map (·, '-' :: after) else rangeFrom f first after
  | rest => (classSet? f first).map (·, rest)

/-- Outside Unicode a class may hold ASCII characters alone. -/
def asciiOnly? (f : Flags) (s : CharSet) : Option CharSet :=
  if f.unicode then some s
  else if (List.range 0x80).any fun n => s.has (n + 0x80) then none
  else some (.inter s (.ranges [(0, 0x7F)]))

/-- An operator at the beginning of a text. -/
def setOperator? : List Char → Option (SetOperator × List Char)
  | c :: d :: rest => if c = d then (SetOperator.ofChar? c).map (·, rest) else none
  | _ => none

/-- Read a class to its end, the innermost open one first in the list. Each turn takes a character
at least, so the length of the text bounds their number. -/
def classRest (f : Flags) : Nat → OpenClass → List OpenClass → List Char → Option (CharSet × List Char)
  | 0, _, _, _ => none
  | fuel + 1, c, outer, cs =>
    match f.skip cs with
    | [] => none
    | d :: rest =>
      match d with
      | '[' =>
        match asciiClass f rest with
        | some (s, rest) => classRest f fuel (c.add s) outer rest
        | none => do
          let (inner, rest) ← openClass f rest
          classRest f fuel inner (c :: outer) rest
      | ']' =>
        match outer with
        | [] => (asciiOnly? f (c.close f)).map (·, rest)
        | parent :: outer => classRest f fuel (parent.add (c.close f)) outer rest
      | d =>
        match setOperator? (d :: rest) with
        | some (op, rest) => classRest f fuel (c.operator f op) outer rest
        | none => do
          let (s, rest) ← classRange f (d :: rest)
          classRest f fuel (c.add s) outer rest

/-- A class after its opening bracket. -/
def bracketClass (f : Flags) (cs : List Char) : Option (CharSet × List Char) := do
  let (c, rest) ← openClass f cs
  classRest f (rest.length + 1) c [] rest

end Cabinet.Pattern
