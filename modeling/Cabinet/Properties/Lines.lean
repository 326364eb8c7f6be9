import Cabinet.Text.Blank

/-!
The lines of properties text. Blank lines and comments are left out, a line that ends in an odd number
of backslashes goes on with the next, and a line is cut into a key and a value at the first `=`, `:`
or blank that no backslash precedes.
-/

namespace Cabinet.Properties

/-- Cut a text at its line feeds. The last line needs none. -/
def splitLines (done : List (List Char)) (line : List Char) : List Char → List (List Char)
  | [] => (if line.isEmpty then done else line.reverse :: done).reverse
  | c :: rest =>
    if c = '\n' then splitLines (dropReturn line :: done) [] rest
    else splitLines done (c :: line) rest
where
  /-- A carriage return before a line feed belongs to the line break. -/
  dropReturn : List Char → List Char
    | '\r' :: rest => rest.reverse
    | line => line.reverse

/-- Does a line go on with the next one? -/
def goesOn (line : List Char) : Bool :=
  (line.reverse.takeWhile (· == '\\')).length % 2 == 1

/-- A line without content: blank, or a comment. -/
def isIdle : List Char → Bool
  | [] => true
  | c :: _ => c == '#' || c == '!'

/-- Join lines that go on, keeping the number of the first of each; lines count from one. -/
def joinLines (n : Nat) (pending : Option (Nat × List Char)) :
    List (List Char) → List (Nat × List Char)
  | [] => pending.toList
  | raw :: rest =>
    let line := trimStart raw
    if pending.isNone && isIdle line then joinLines (n + 1) none rest
    else
      let (start, before) := pending.getD (n, [])
      if goesOn line then joinLines (n + 1) (some (start, before ++ line.dropLast)) rest
      else (start, before ++ line) :: joinLines (n + 1) none rest

/-- The lines of a text that hold entries, each with its number. -/
def logicalLines (text : List Char) : List (Nat × List Char) :=
  joinLines 1 none (splitLines [] [] text)

/-- Drop one mark between key and value. -/
def dropMark : List Char → List Char
  | '=' :: rest => rest
  | ':' :: rest => rest
  | cs => cs

/-- Cut a line into key and value; `key` holds the characters read, newest first. -/
def splitEntry (key : List Char) (escaped : Bool) : List Char → List Char × List Char
  | [] => (key.reverse, [])
  | c :: rest =>
    if escaped then splitEntry (c :: key) false rest
    else if c = '\\' then splitEntry (c :: key) true rest
    else if c = '=' ∨ c = ':' then (key.reverse, trimStart rest)
    else if isBlank c then (key.reverse, trimStart (dropMark (trimStart rest)))
    else splitEntry (c :: key) false rest

end Cabinet.Properties
