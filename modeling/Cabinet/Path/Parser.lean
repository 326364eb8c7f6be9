import Cabinet.Error
import Cabinet.Path.Printer
import Cabinet.Text.Blank
import Cabinet.Text.Utf8

/-!
Reading path expressions.

A path may begin with `$`, or with a name or `*` of its own. After that come `.name`, `.*`,
`..name`, `..*`, and brackets that hold `*`, a quoted name or an index; two points may also stand
before brackets. Names after a point end at the next point or bracket and must be identifiers or all
digits. In quotes a backslash makes the next character stand for itself.
-/

namespace Cabinet.Path

/-- What is wrong with a path expression. -/
inductive Cause where
  | unexpected (c : Char)
  | unexpectedInBrackets (c : Char)
  | unclosedBracket
  | emptyName
  | plainName (name : List Char)
  | expected (c : Char) (found : Option Char)
  | endInEscape
  | endInName
  | badIndex (digits : List Char) (fault : IntegerFault)
  deriving DecidableEq, Repr

def Cause.message : Cause → String
  | unexpected c => s!"unexpected character '{c}'"
  | unexpectedInBrackets c => s!"unexpected character '{c}' in brackets"
  | unclosedBracket => "unterminated bracket"
  | emptyName => "empty member name"
  | plainName name =>
    let name := String.ofList name
    s!"member name '{name}' must be an identifier; use ['{name}'] instead"
  | expected c (some found) => s!"expected '{c}', found '{found}'"
  | expected c none => s!"expected '{c}', found end of path"
  | endInEscape => "unterminated escape"
  | endInName => "unterminated quoted name"
  | badIndex digits fault =>
    let digits := String.ofList digits
    s!"invalid index '{digits}': {fault.message}"

/-- A cause and the text that was left where it was noticed. -/
structure Fault where
  cause : Cause
  rest : List Char
  deriving DecidableEq, Repr

/-- What a reader gives: a value and the text left after it. -/
abbrev Result (α : Type) := Except Fault (α × List Char)

/-- Does a character go on with a name? -/
def inName (c : Char) : Bool :=
  c != '.' && c != '['

/-- A name or `*` after a point. -/
def dotted (cs : List Char) : Result Segment :=
  match cs with
  | '*' :: rest => .ok (.wildcard, rest)
  | cs =>
    let name := cs.takeWhile inName
    if name.isEmpty then .error ⟨.emptyName, cs⟩
    else if isPlainName name then .ok (.field (String.ofList name), cs.dropWhile inName)
    else .error ⟨.plainName name, cs⟩

/-- A quoted name after its opening quote. -/
def quoted (mark : Char) (done : List Char) : List Char → Result (List Char)
  | [] => .error ⟨.endInName, []⟩
  | c :: rest =>
    if c = '\\' then
      match rest with
      | [] => .error ⟨.endInEscape, []⟩
      | e :: rest => quoted mark (e :: done) rest
    else if c = mark then .ok (done.reverse, rest)
    else quoted mark (c :: done) rest

/-- An index: a minus sign or a digit, then digits. -/
def index (cs : List Char) : Result Int :=
  let digits := cs.take 1 ++ (cs.drop 1).takeWhile isDigit
  match Width.int64.read digits with
  | .ok n => .ok (n, (cs.drop 1).dropWhile isDigit)
  | .error fault => .error ⟨.badIndex digits fault, cs⟩

/-- What stands between brackets. -/
def selector (cs : List Char) : Result Segment :=
  match cs with
  | [] => .error ⟨.unclosedBracket, []⟩
  | c :: rest =>
    if c = '*' then .ok (.wildcard, rest)
    else if c = '\'' ∨ c = '"' then
      (quoted c [] rest).map fun r => (.field (String.ofList r.1), r.2)
    else if c = '-' ∨ isDigit c then (index cs).map fun r => (.index r.1, r.2)
    else .error ⟨.unexpectedInBrackets c, cs⟩

/-- A selector and the bracket that closes it. -/
def bracketed (cs : List Char) : Result Segment :=
  match selector cs with
  | .error f => .error f
  | .ok (s, rest) =>
    match rest with
    | [] => .error ⟨.expected ']' none, []⟩
    | c :: after =>
      if c = ']' then .ok (s, after) else .error ⟨.expected ']' (some c), rest⟩

/-- One segment that begins with a point or a bracket. -/
def segment (cs : List Char) : Result Segment :=
  match cs with
  | '.' :: '.' :: '[' :: rest => (bracketed rest).map fun r => (.descendant r.1, r.2)
  | '.' :: '.' :: rest => (dotted rest).map fun r => (.descendant r.1, r.2)
  | '.' :: rest => dotted rest
  | '[' :: rest => bracketed rest
  | c :: rest => .error ⟨.unexpected c, c :: rest⟩
  | [] => .error ⟨.emptyName, []⟩

/-- Segments to the end of the text. Each takes a character at least, so its length bounds their
number. -/
def segments : Nat → List Char → Except Fault Path
  | _, [] => .ok []
  | 0, cs => .error ⟨.emptyName, cs⟩
  | fuel + 1, cs =>
    match segment cs with
    | .error f => .error f
    | .ok (s, rest) => (segments fuel rest).map (s :: ·)

/-- A whole expression without blanks around it. -/
def expression (cs : List Char) : Except Fault Path :=
  match cs with
  | [] => .ok []
  | c :: rest =>
    if c = '$' then segments rest.length rest
    else if inName c then
      match dotted cs with
      | .error f => .error f
      | .ok (s, rest) => (segments rest.length rest).map (s :: ·)
    else segments cs.length cs

/-- The number of bytes of a text. -/
def size (cs : List Char) : Nat :=
  (Utf8.encode cs).length

/-- Read a path. The position of a fault is counted in bytes. -/
def parse (text : String) : Except DocumentError Path :=
  let cs := trim text.toList
  (expression cs).mapError fun f =>
    .invalidPath (String.ofList cs) (size cs - size f.rest) f.cause.message

end Cabinet.Path
