import Cabinet.Pattern.Class

/-!
Reading patterns: alternatives, sequences, groups, repetitions and flags. A pattern is read between
the anchors it is used with, so what it leaves open can close in an unexpected place.
-/

namespace Cabinet.Pattern

/-- A group that is being read: the flags outside it, its finished alternatives, newest first, and
the parts of the current one, newest first. A change of flags is a part that cannot be repeated. -/
structure OpenGroup where
  outside : Flags
  branches : List Regex
  parts : List (Option Regex)

namespace OpenGroup

def sequence (parts : List (Option Regex)) : Regex :=
  parts.foldl (fun acc p => match p with
    | some r => .seq r acc
    | none => acc) .empty

/-- Begin another alternative. -/
def branch (g : OpenGroup) : OpenGroup :=
  ⟨g.outside, sequence g.parts :: g.branches, []⟩

def add (p : Option Regex) (g : OpenGroup) : OpenGroup :=
  { g with parts := p :: g.parts }

/-- The finished group. -/
def close (g : OpenGroup) : Regex :=
  g.branches.foldl (fun acc r => .either r acc) (sequence g.parts)

/-- Repeat the last part. -/
def repeatLast (g : OpenGroup) (least : Nat) (most : Option Nat) : Option OpenGroup :=
  match g.parts with
  | some r :: rest => some { g with parts := some (.times r least most) :: rest }
  | _ => none

end OpenGroup

/-- Drop the mark of a repetition that prefers short matches. -/
def dropLazy : List Char → List Char
  | '?' :: rest => rest
  | rest => rest

def isNameStart (c : Char) : Bool :=
  c == '_' || (CharSet.ranges Category.alphabetic).contains c

def isNamePart (c : Char) : Bool :=
  c == '_' || c == '.' || c == '[' || c == ']' ||
    (CharSet.ranges (Category.alphabetic ++ Category.number)).contains c

/-- The name of a group up to its closing angle bracket. -/
def groupName (cs : List Char) : Option (List Char × List Char) :=
  match cs.dropWhile (· != '>'), cs.takeWhile (· != '>') with
  | _ :: rest, c :: name => if isNameStart c && name.all isNamePart then some (c :: name, rest) else none
  | _, _ => none

/-- What an opening bracket begins: a group with its flags, or a change of flags. -/
inductive Opening where
  | group (inside : Flags) (name : Option (List Char))
  | change (flags : Flags)

/-- Drop the sign of a group with a name. -/
def nameSign? : List Char → Option (List Char)
  | '<' :: rest => some rest
  | 'P' :: '<' :: rest => some rest
  | _ => none

/-- What stands after the question mark of an opening bracket. No pattern can look ahead or behind: the signs
for that are neither flags nor the beginning of a name. -/
def markedOpening (f : Flags) (cs : List Char) : Option (Opening × List Char) :=
  match nameSign? cs with
  | some rest => (groupName rest).map fun r => (.group f (some r.1), r.2)
  | none => do
    let ((inside, bare), rest) ← readFlags f [] true false cs
    match rest with
    | ':' :: rest => some (.group inside none, rest)
    | ')' :: rest => if bare then none else some (.change inside, rest)
    | _ => none

/-- What stands after an opening bracket. -/
def opening (f : Flags) (cs : List Char) : Option (Opening × List Char) :=
  match f.skip cs with
  | '?' :: rest => markedOpening f rest
  | rest => some (.group f none, rest)

/-- The greatest number of repetitions that can be written. -/
def repeatLimit : Nat := 4294967295

/-- A decimal number with blanks around it. -/
def count (f : Flags) (cs : List Char) : Option (Nat × List Char) := do
  let (digits, rest) := digitRun f [] (cs.length + 1) (cs.dropWhile isBlank)
  let rest := blankRun f (rest.length + 1) rest
  if digits.isEmpty || repeatLimit < digitsValue digits then none
  else some (digitsValue digits, rest)
where
  digitRun (f : Flags) (done : List Char) : Nat → List Char → List Char × List Char
    | 0, cs => (done.reverse, cs)
    | fuel + 1, cs =>
      match cs with
      | c :: rest =>
        if isDigit c then digitRun f (c :: done) fuel (f.skip rest) else (done.reverse, cs)
      | [] => (done.reverse, [])
  blankRun (f : Flags) : Nat → List Char → List Char
    | 0, cs => cs
    | fuel + 1, cs =>
      match cs with
      | c :: rest => if isBlank c then blankRun f fuel (f.skip rest) else cs
      | [] => []

/-- The greatest number of repetitions, if there is one, up to the closing brace. -/
def mostBound (f : Flags) (cs : List Char) : Option (Option Nat × List Char) := do
  let cs ← f.goOn cs
  match cs with
  | '\x7d' :: rest => some (none, rest)
  | cs =>
    let (most, rest) ← count f cs
    match rest with
    | '\x7d' :: rest => some (some most, rest)
    | _ => none

/-- The bounds of a repetition after its opening brace. -/
def bounds (f : Flags) (cs : List Char) : Option ((Nat × Option Nat) × List Char) := do
  let cs ← f.goOn cs
  let (least, rest) ← count f cs
  match rest with
  | '\x7d' :: rest => some ((least, some least), rest)
  | ',' :: rest =>
    let (most, rest) ← mostBound f rest
    if most.all (least ≤ ·) then some ((least, most), rest) else none
  | _ => none

/-- A character by itself. Outside Unicode, neither a byte above ASCII nor disregard of case for a
character above it can be had. -/
def literal? (f : Flags) (c : Char) (byte : Bool) : Option Regex :=
  if !f.unicode && 0x80 ≤ c.toNat && (byte || f.ignoreCase) then none
  else
    let s := CharSet.anyCaseIf f.ignoreCase (.single c)
    some (.one (if f.unicode then s else .inter s (.ranges [(0, 0x7F), (c.toNat, c.toNat)])))

/-- Any character, or any that breaks no line. -/
def dot? (f : Flags) : Option Regex :=
  if !f.unicode then none
  else if f.dotAll then some (.one (.ranges Category.everything))
  else if f.carriageReturn then some (.one (.negate (.ranges [(0x0A, 0x0A), (0x0D, 0x0D)])))
  else some (.one (.negate (.ranges [(0x0A, 0x0A)])))

def lineStart (f : Flags) : Boundary :=
  if f.multiLine then (if f.carriageReturn then .anyLineStart else .lineStart) else .textStart

def lineEnd (f : Flags) : Boundary :=
  if f.multiLine then (if f.carriageReturn then .anyLineEnd else .lineEnd) else .textEnd

/-- What an escape stands for outside classes. -/
def atom? (f : Flags) : Atom → Option Regex
  | .literal c byte => literal? f c byte
  | .set s => some (.one s)
  | .boundary b => some (.boundary b)

/-- One part that is neither group nor repetition. -/
def part (f : Flags) : List Char → Option (Regex × List Char)
  | [] => none
  | c :: rest =>
    match c with
    | '[' => (bracketClass f rest).map fun r => (.one r.1, r.2)
    | '.' => (dot? f).map (·, rest)
    | '^' => some (.boundary (lineStart f), rest)
    | '$' => some (.boundary (lineEnd f), rest)
    | '\\' => do
      let (a, rest) ← escape f rest
      (atom? f a).map (·, rest)
    | c => (literal? f c false).map (·, rest)

/-- Read to the end, the innermost open group first. Each turn takes a character at least, so the
length of the text bounds their number. -/
def regexRest (names : List (List Char)) (f : Flags) :
    Nat → OpenGroup → List OpenGroup → List Char → Option Regex
  | 0, _, _, _ => none
  | fuel + 1, g, outer, cs =>
    match f.skip cs with
    | [] => if outer.isEmpty then some g.close else none
    | c :: rest =>
      match c with
      | '(' => do
        let (o, rest) ← opening f rest
        match o with
        | .change f => regexRest names f fuel (g.add none) outer rest
        | .group inside none => regexRest names inside fuel ⟨f, [], []⟩ (g :: outer) rest
        | .group inside (some name) =>
          if names.contains name then none
          else regexRest (name :: names) inside fuel ⟨f, [], []⟩ (g :: outer) rest
      | ')' =>
        match outer with
        | [] => none
        | parent :: outer => regexRest names g.outside fuel (parent.add (some g.close)) outer rest
      | '|' => regexRest names f fuel g.branch outer rest
      | '?' => do
        let g ← g.repeatLast 0 (some 1)
        regexRest names f fuel g outer (dropLazy rest)
      | '*' => do
        let g ← g.repeatLast 0 none
        regexRest names f fuel g outer (dropLazy rest)
      | '+' => do
        let g ← g.repeatLast 1 none
        regexRest names f fuel g outer (dropLazy rest)
      | '\x7b' => do
        let ((least, most), rest) ← bounds f rest
        let g ← g.repeatLast least most
        regexRest names f fuel g outer (dropLazy (f.skip rest))
      | c => do
        let (r, rest) ← part f (c :: rest)
        regexRest names f fuel (g.add (some r)) outer rest

/-- Read a regular expression. -/
def regex? (cs : List Char) : Option Regex :=
  regexRest [] .initial (cs.length + 1) ⟨.initial, [], []⟩ [] cs

/-- The greatest weight of a pattern. -/
def weightLimit : Nat := 327680

/-- Read a pattern, which has to match a text from its start to its end. One that is too heavy is
refused. -/
def parse? (source : String) : Option Pattern := do
  let r ← regex? ("^(?:".toList ++ source.toList ++ ")$".toList)
  if r.weight ≤ weightLimit then some ⟨source, r⟩ else none

end Cabinet.Pattern
