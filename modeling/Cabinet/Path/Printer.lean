import Cabinet.Decimal.Layout
import Cabinet.Path.Basic

/-!
The text of paths and locations. Names that are identifiers or all digits follow a point, all others
stand in brackets and single quotes.
-/

namespace Cabinet

/-- A name that may follow a point. -/
def isPlainName (cs : List Char) : Bool :=
  (!cs.isEmpty && cs.all isDigit) || isIdentifier cs

/-- A name in single quotes; quotes and backslashes in it follow a backslash. -/
def quoteName (cs : List Char) : List Char :=
  '\'' :: (cs.flatMap fun c => if c = '\'' ∨ c = '\\' then ['\\', c] else [c]) ++ ['\'']

/-- Brackets around a selector. -/
def bracket (cs : List Char) : List Char :=
  '[' :: cs ++ [']']

namespace Segment

def render : Segment → List Char
  | field name => if isPlainName name.toList then '.' :: name.toList else bracket (quoteName name.toList)
  | index n => bracket (Decimal.integer n)
  | wildcard => bracket ['*']
  | descendant (field name) =>
    '.' :: '.' :: if isPlainName name.toList then name.toList else bracket (quoteName name.toList)
  | descendant wildcard => ['.', '.', '*']
  | descendant inner => '.' :: '.' :: inner.render

end Segment

namespace Step

def render : Step → List Char
  | key name => bracket (quoteName name.toList)
  | index n => bracket (Decimal.natural n)

end Step

def Path.render (p : Path) : List Char :=
  '$' :: p.flatMap Segment.render

def Path.text (p : Path) : String :=
  String.ofList p.render

def Location.render (l : Location) : List Char :=
  '$' :: l.flatMap Step.render

def Location.text (l : Location) : String :=
  String.ofList l.render

end Cabinet
