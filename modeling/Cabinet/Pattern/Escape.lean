import Cabinet.Json.Scan
import Cabinet.Pattern.Basic
import Cabinet.Text.Blank
import Cabinet.Text.Identifier

/-!
The smallest parts of a pattern's text: flags, blanks and comments, and what a backslash introduces.
Every reader gives nothing when the text breaks the rules of patterns.
-/

namespace Cabinet.Pattern

/-- The flags in force at a place of a pattern. -/
structure Flags where
  ignoreCase : Bool
  multiLine : Bool
  dotAll : Bool
  carriageReturn : Bool
  unicode : Bool
  blanks : Bool
  deriving DecidableEq, Repr

def Flags.initial : Flags := ⟨false, false, false, false, true, false⟩

/-- Switch one flag. `U` only swaps which repetitions prefer short matches. -/
def Flags.switch (f : Flags) (on : Bool) : Char → Option Flags
  | 'i' => some { f with ignoreCase := on }
  | 'm' => some { f with multiLine := on }
  | 's' => some { f with dotAll := on }
  | 'R' => some { f with carriageReturn := on }
  | 'u' => some { f with unicode := on }
  | 'x' => some { f with blanks := on }
  | 'U' => some f
  | _ => none

/-- Skip blanks, and comments from `#` to the end of the line. -/
def skipBlanks (inComment : Bool) : List Char → List Char
  | [] => []
  | c :: rest =>
    if inComment then skipBlanks (c != '\n') rest
    else if isBlank c then skipBlanks false rest
    else if c == '#' then skipBlanks true rest
    else c :: rest

/-- Skip blanks and comments where they do not count. -/
def Flags.skip (f : Flags) (cs : List Char) : List Char :=
  if f.blanks then skipBlanks false cs else cs

/-- Skip as `Flags.skip` does; the text must go on after that. -/
def Flags.goOn (f : Flags) (cs : List Char) : Option (List Char) :=
  match f.skip cs with
  | [] => none
  | rest => some rest

/-- Flags up to a colon or a closing bracket, after a sign when they are switched off. No flag may
be given twice and something must follow the sign. -/
def readFlags (f : Flags) (seen : List Char) (on signed : Bool) : List Char → Option ((Flags × Bool) × List Char)
  | [] => none
  | c :: rest =>
    if c = ':' ∨ c = ')' then
      if signed then none else some ((f, seen.isEmpty), c :: rest)
    else if seen.contains c then none
    else if c = '-' then readFlags f (c :: seen) false true rest
    else
      match f.switch on c with
      | some f => readFlags f (c :: seen) on false rest
      | none => none

/-- What a backslash or a plain character stands for. `byte` marks the two-digit form, which means
one byte where Unicode is off. -/
inductive Atom where
  | literal (c : Char) (byte : Bool)
  | set (s : CharSet)
  | boundary (b : Boundary)

def charOfCode? (n : Nat) : Option Char :=
  if n.isValidChar then some (Char.ofNat n) else none

/-- Exactly `count` hexadecimal digits, blanks between them allowed as flags say. -/
def hexDigits (f : Flags) (value : Nat) : Nat → List Char → Option (Nat × List Char)
  | 0, cs => some (value, f.skip cs)
  | count + 1, cs =>
    match f.skip cs with
    | [] => none
    | c :: rest =>
      match Hex.value? c with
      | some n => hexDigits f (value * 16 + n) count rest
      | none => none

/-- The text up to a closing brace, without the blanks that flags let it contain. The length of the
text bounds the number of turns. -/
def braced (f : Flags) (done : List Char) : Nat → List Char → Option (List Char × List Char)
  | 0, _ => none
  | fuel + 1, cs =>
    match f.skip cs with
    | [] => none
    | c :: rest => if c = '\x7d' then some (done.reverse, rest) else braced f (c :: done) fuel rest

/-- A character by its code, in a fixed number of digits or in braces. -/
def hexCode (f : Flags) (kind : Char) (cs : List Char) : Option (Atom × List Char) := do
  let cs ← f.goOn cs
  match cs with
  | '\x7b' :: rest =>
    let (digits, rest) ← braced f [] (rest.length + 1) rest
    if digits.isEmpty then none
    let n ← Json.hexNumber? digits
    let c ← charOfCode? n
    some (.literal c false, f.skip rest)
  | cs =>
    let count := if kind = 'x' then 2 else if kind = 'u' then 4 else 8
    let (n, rest) ← hexDigits f 0 count cs
    let c ← charOfCode? n
    some (.literal c (kind = 'x'), rest)

/-- The position where one of two texts begins that may stand between a property and its value. -/
def splitAtMark (mark : List Char) (before : List Char) : List Char → Option (List Char × List Char)
  | [] => none
  | c :: rest =>
    if mark.isPrefixOf (c :: rest) then some (before.reverse, (c :: rest).drop mark.length)
    else splitAtMark mark (c :: before) rest

/-- The set of a property. -/
def propertySet (r : Bool × Category.Ranges) : CharSet :=
  CharSet.negateIf r.1 (.ranges r.2)

/-- A property in braces, alone or with a value; also whether the characters without it are meant. -/
def property? (name : List Char) : Option (Bool × CharSet) :=
  match splitAtMark ['!', '='] [] name with
  | some (kind, value) => (Category.valued? kind value).map fun r => (true, propertySet r)
  | none =>
    match splitAtMark [':'] [] name with
    | some (kind, value) => (Category.valued? kind value).map fun r => (false, propertySet r)
    | none =>
      match splitAtMark ['='] [] name with
      | some (kind, value) => (Category.valued? kind value).map fun r => (false, propertySet r)
      | none => (Category.named? name).map fun r => (false, propertySet r)

/-- A class given by a property: one letter, or a name in braces. -/
def propertyClass (f : Flags) (negated : Bool) (cs : List Char) : Option (Atom × List Char) := do
  let cs ← f.goOn cs
  if !f.unicode then none
  let make := fun (negated : Bool) (s : CharSet) =>
    Atom.set (CharSet.negateIf negated (CharSet.anyCaseIf f.ignoreCase s))
  match cs with
  | '\x7b' :: rest =>
    let (name, rest) ← braced f [] (rest.length + 1) rest
    let (without, s) ← property? name
    some (make (negated != without) s, rest)
  | c :: rest =>
    let r ← Category.general? (Category.normalize [c])
    some (make negated (propertySet r), f.skip rest)
  | [] => none

/-- Characters that mean something else when they stand alone. -/
def isMeta (c : Char) : Bool :=
  ['\\', '.', '+', '*', '?', '(', ')', '|', '[', ']', '\x7b', '\x7d', '^', '$', '#', '&', '-',
    '~'].contains c

/-- Other characters that a backslash leaves as they are. -/
def isEscapable (c : Char) : Bool :=
  c.toNat < 0x80 && !isDigit c && !Identifier.isAsciiLetter c && c != '<' && c != '>'

/-- The word boundaries that have names. -/
def namedBoundary? (unicode : Bool) (name : List Char) : Option Boundary :=
  match String.ofList name with
  | "start" => some (.wordStart unicode)
  | "end" => some (.wordEnd unicode)
  | "start-half" => some (.wordStartHalf unicode)
  | "end-half" => some (.wordEndHalf unicode)
  | _ => none

/-- Can a character stand in the name of a word boundary? -/
def inBoundaryName (c : Char) : Bool :=
  Identifier.isAsciiLetter c || c == '-'

/-- The name of a word boundary up to its closing brace. -/
def boundaryName (f : Flags) (done : List Char) : Nat → List Char → Option (List Char × List Char)
  | 0, _ => none
  | fuel + 1, cs =>
    match f.skip cs with
    | [] => none
    | c :: rest =>
      if inBoundaryName c then boundaryName f (c :: done) fuel rest
      else if c = '\x7d' then some (done.reverse, rest)
      else none

/-- A word boundary, which may be named in braces; braces that hold no name repeat it. -/
def wordBoundary (f : Flags) (cs : List Char) : Option (Atom × List Char) :=
  match cs with
  | '\x7b' :: rest =>
    match f.skip rest with
    | [] => none
    | c :: _ =>
      if inBoundaryName c then do
        let (name, rest) ← boundaryName f [] (rest.length + 1) rest
        let b ← namedBoundary? f.unicode name
        some (.boundary b, rest)
      else some (.boundary (.word f.unicode), cs)
  | cs => some (.boundary (.word f.unicode), cs)

/-- A class of digits, blanks or word characters. Outside Unicode its negation would take parts of
characters, which no pattern may. -/
def plainClass (f : Flags) (negated : Bool) (s : CharSet) : Option Atom :=
  if negated && !f.unicode then none else some (.set (CharSet.negateIf negated s))

/-- What stands after a backslash. -/
def escape (f : Flags) : List Char → Option (Atom × List Char)
  | [] => none
  | c :: rest =>
    match c with
    | 'x' => hexCode f c rest
    | 'u' => hexCode f c rest
    | 'U' => hexCode f c rest
    | 'p' => propertyClass f false rest
    | 'P' => propertyClass f true rest
    | 'd' => (plainClass f false (.digit f.unicode)).map (·, rest)
    | 'D' => (plainClass f true (.digit f.unicode)).map (·, rest)
    | 's' => (plainClass f false (.space f.unicode)).map (·, rest)
    | 'S' => (plainClass f true (.space f.unicode)).map (·, rest)
    | 'w' => (plainClass f false (.word f.unicode)).map (·, rest)
    | 'W' => (plainClass f true (.word f.unicode)).map (·, rest)
    | 'a' => some (.literal '\x07' false, rest)
    | 'f' => some (.literal '\x0c' false, rest)
    | 't' => some (.literal '\t' false, rest)
    | 'n' => some (.literal '\n' false, rest)
    | 'r' => some (.literal '\r' false, rest)
    | 'v' => some (.literal '\x0b' false, rest)
    | 'A' => some (.boundary .textStart, rest)
    | 'z' => some (.boundary .textEnd, rest)
    | 'b' => wordBoundary f rest
    | 'B' => some (.boundary (.notWord f.unicode), rest)
    | '<' => some (.boundary (.wordStart f.unicode), rest)
    | '>' => some (.boundary (.wordEnd f.unicode), rest)
    | c => if isMeta c || isEscapable c then some (.literal c false, rest) else none

end Cabinet.Pattern
