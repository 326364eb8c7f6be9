import Cabinet.Pattern.CharSet

/-!
Patterns and what they match. `ends` gives the positions where a match that begins at a given
position can end; whether an operator prefers short or long matches makes no difference to that.
-/

namespace Cabinet

/-- A condition on a position between characters. -/
inductive Boundary where
  | textStart
  | textEnd
  | lineStart
  | lineEnd
  | anyLineStart
  | anyLineEnd
  | word (unicode : Bool)
  | notWord (unicode : Bool)
  | wordStart (unicode : Bool)
  | wordEnd (unicode : Bool)
  | wordStartHalf (unicode : Bool)
  | wordEndHalf (unicode : Bool)
  deriving DecidableEq, Repr

inductive Regex where
  | empty
  | one (set : CharSet)
  | boundary (b : Boundary)
  | seq (first second : Regex)
  | either (first second : Regex)
  | times (body : Regex) (least : Nat) (most : Option Nat)
  deriving DecidableEq, Repr

/-- How much a pattern takes when every repetition is written out. -/
def Regex.weight : Regex → Nat
  | empty => 0
  | one set => set.weight
  | boundary _ => 1
  | seq a b => a.weight + b.weight
  | either a b => a.weight + b.weight + 1
  | times body least (some most) => body.weight * least + (body.weight + 1) * (most - least)
  | times body least none => body.weight * max least 1 + 1

namespace Boundary

/-- Is there a word character at a position? -/
def wordAt (unicode : Bool) (c : Option Char) : Bool :=
  c.any (CharSet.word unicode).contains

/-- Does the condition hold between two characters, or at an end of the text? A line break is a line
feed; the forms for any line also take a carriage return, and the two together as one. -/
def holds (b : Boundary) (before after : Option Char) : Bool :=
  match b with
  | textStart => before.isNone
  | textEnd => after.isNone
  | lineStart => before.isNone || before == some '\n'
  | lineEnd => after.isNone || after == some '\n'
  | anyLineStart =>
    before.isNone || before == some '\n' || (before == some '\r' && after != some '\n')
  | anyLineEnd =>
    after.isNone || after == some '\r' || (after == some '\n' && before != some '\r')
  | word u => wordAt u before != wordAt u after
  | notWord u => wordAt u before == wordAt u after
  | wordStart u => !wordAt u before && wordAt u after
  | wordEnd u => wordAt u before && !wordAt u after
  | wordStartHalf u => !wordAt u before
  | wordEndHalf u => !wordAt u after

end Boundary

namespace Regex

/-- Add positions to a set of positions. -/
def join (a b : List Nat) : List Nat :=
  b.foldl (fun acc n => if acc.contains n then acc else n :: acc) a

/-- The positions reached from any of a set. -/
def step (f : Nat → List Nat) (ns : List Nat) : List Nat :=
  ns.foldl (fun acc n => join acc (f n)) []

/-- The positions reached by exactly `count` steps. -/
def walk (f : Nat → List Nat) : Nat → List Nat → List Nat
  | 0, ns => ns
  | _, [] => []
  | count + 1, ns => walk f count (step f ns)

/-- The positions reached by at most `count` steps, until no more are found. -/
def spread (f : Nat → List Nat) : Nat → List Nat → List Nat → List Nat
  | 0, _, found => found
  | _, [], found => found
  | count + 1, frontier, found =>
    let next := (step f frontier).filter fun n => !found.contains n
    spread f count next (join found next)

/-- Where a match that begins at a position of a text can end. -/
def ends (text : Array Char) : Regex → Nat → List Nat
  | empty, n => [n]
  | one set, n =>
    match text[n]? with
    | some c => if set.contains c then [n + 1] else []
    | none => []
  | boundary b, n =>
    let before := if n = 0 then none else text[n - 1]?
    if b.holds before text[n]? then [n] else []
  | seq a b, n => step (ends text b) (ends text a n)
  | either a b, n => join (ends text a n) (ends text b n)
  | times body least most, n =>
    let f := ends text body
    let first := walk f least [n]
    match most with
    | some most => spread f (most - least) first first
    | none => spread f (text.size + 1) first first

/-- Is there a match anywhere in the text? -/
def search (r : Regex) (text : String) : Bool :=
  let cs := text.toList.toArray
  (List.range (cs.size + 1)).any fun n => !(r.ends cs n).isEmpty

end Regex

/-- A pattern with the text it was written as. -/
structure Pattern where
  source : String
  regex : Regex
  deriving DecidableEq, Repr

def Pattern.accepts (p : Pattern) (text : String) : Bool :=
  p.regex.search text

end Cabinet
