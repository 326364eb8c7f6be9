import Cabinet.Decimal.Layout
import Cabinet.Json.Scan

/-!
Keys of properties text. A key is a list of fields, joined by points, and indexes in brackets. In a
field the characters that mean structure follow a backslash. `spell` and `parse?` are inverse.
-/

namespace Cabinet.Properties

/-- One step of a key. -/
inductive Part where
  | field (name : String)
  | index (n : Nat)
  deriving DecidableEq, Repr

abbrev Key := List Part

/-- Line breaks and tabs are written as letters after a backslash. -/
def escapeBreak (c : Char) : List Char :=
  if c = '\n' then ['\\', 'n']
  else if c = '\r' then ['\\', 'r']
  else if c = '\t' then ['\\', 't']
  else [c]

/-- Characters that mean something in a key. -/
def isStructural (c : Char) : Bool :=
  ['=', ':', ' ', '#', '!', '\\', '.', '[', ']'].contains c

def escapeKey (cs : List Char) : List Char :=
  cs.flatMap fun c => if isStructural c then ['\\', c] else escapeBreak c

/-- The first character of a value may be a blank only after a backslash. -/
def escapeValue : List Char → List Char
  | ' ' :: rest => '\\' :: ' ' :: rest.flatMap escapeInside
  | cs => cs.flatMap escapeInside
where
  escapeInside (c : Char) : List Char :=
    if c = '\\' then ['\\', '\\'] else escapeBreak c

/-- A hexadecimal number of at most four digits, which may have a plus sign. -/
def hexCode? (cs : List Char) : Option Nat :=
  let digits := match cs with
    | '+' :: rest => rest
    | cs => cs
  if digits.isEmpty then none else Json.hexNumber? digits

/-- What `u` and up to four digits after a backslash stand for; themselves, when they spell no
character. -/
def decodeUnicode (digits : List Char) : List Char :=
  match hexCode? digits with
  | some n => if n.isValidChar then [Char.ofNat n] else '\\' :: 'u' :: digits
  | none => '\\' :: 'u' :: digits

/-- Read what backslashes stand for. A lone one at the end is dropped. The length of the text bounds
the number of turns. -/
def unescapeWithin : Nat → List Char → List Char
  | 0, _ => []
  | _, [] => []
  | fuel + 1, c :: rest =>
    if c ≠ '\\' then c :: unescapeWithin fuel rest
    else
      match rest with
      | [] => []
      | e :: rest =>
        if e = 'n' then '\n' :: unescapeWithin fuel rest
        else if e = 'r' then '\r' :: unescapeWithin fuel rest
        else if e = 't' then '\t' :: unescapeWithin fuel rest
        else if e = 'f' then '\x0c' :: unescapeWithin fuel rest
        else if e = 'u' then
          decodeUnicode (rest.take 4) ++ unescapeWithin fuel (rest.drop 4)
        else e :: unescapeWithin fuel rest

def unescape (cs : List Char) : List Char :=
  unescapeWithin cs.length cs

/-- The text of a key. -/
def spell (dotted : Bool) : Key → List Char
  | [] => []
  | .field name :: rest =>
    (if dotted then ['.'] else []) ++ escapeKey name.toList ++ spell true rest
  | .index n :: rest => '[' :: Decimal.natural n ++ ']' :: spell true rest

/-- An index in brackets, after the opening one. -/
def bracketed? (cs : List Char) : Option (Nat × List Char) :=
  let digits := cs.takeWhile isDigit
  match cs.dropWhile isDigit with
  | ']' :: rest => (Width.word64.read? digits).map fun n => (n.toNat, rest)
  | _ => none

/-- The field that ends here. A name may be missing only behind an index. -/
def endField (done : Key) (name : List Char) (indexed : Bool) : Option Key :=
  if name.isEmpty then (if indexed then some done else none)
  else some (done ++ [.field (String.ofList (unescape name))])

/-- Read a key: the parts so far, the name being read with its escapes, newest character first, and
whether an index came last, which no name may follow. The length of the text bounds the number of
turns. -/
def parseRest : Nat → Key → List Char → Bool → List Char → Option Key
  | 0, _, _, _, _ => none
  | _, done, name, indexed, [] => endField done name.reverse indexed
  | fuel + 1, done, name, indexed, c :: rest =>
    if c = '\\' then
      if indexed then none
      else
        match rest with
        | [] => parseRest fuel done (c :: name) indexed []
        | e :: rest => parseRest fuel done (e :: c :: name) indexed rest
    else if c = '.' then
      match endField done name.reverse indexed with
      | some done => parseRest fuel done [] false rest
      | none => none
    else if c = '[' then
      if name.isEmpty && done.isEmpty then none
      else
        let done :=
          if name.isEmpty then done else done ++ [.field (String.ofList (unescape name.reverse))]
        match bracketed? rest with
        | some (n, rest) => parseRest fuel (done ++ [.index n]) [] true rest
        | none => none
    else if c = ']' then none
    else if indexed then none
    else parseRest fuel done (c :: name) indexed rest

def parse? (cs : List Char) : Option Key :=
  parseRest (cs.length + 1) [] [] false cs

end Cabinet.Properties
