import Cabinet.Document.Elements
import Cabinet.Document.Place
import Cabinet.Path.Parser

/-!
What a path selects: segment by segment, every place reached so far leads to the places the next
segment selects from it. Results come in the order in which they are reached, and each place once.
-/

namespace Cabinet

/-- A place of a document, with what is there. -/
abbrev Match := Location × Document

mutual

/-- What `f` selects from a document and from every place below it, a place before those below. -/
def descend (f : Document → List Match) : Document → List Match
  | .array es => f (.array es) ++ descendElements f 0 es
  | .object ms => f (.object ms) ++ descendMembers f ms
  | .null => f .null
  | .boolean b => f (.boolean b)
  | .number n => f (.number n)
  | .string s => f (.string s)

def descendElements (f : Document → List Match) (n : Nat) : List Document → List Match
  | [] => []
  | d :: ds => (descend f d).map (fun m => (.index n :: m.1, m.2)) ++ descendElements f (n + 1) ds

def descendMembers (f : Document → List Match) : List (String × Document) → List Match
  | [] => []
  | (k, d) :: ms => (descend f d).map (fun m => (.key k :: m.1, m.2)) ++ descendMembers f ms

end

/-- The position a name reads as. -/
def position? (name : String) : Option Nat :=
  (Width.word64.read? name.toList).map Int.toNat

namespace Segment

/-- The places a segment selects from a document, as seen from there. -/
def select : Segment → Document → List Match
  | field name, .object ms =>
    match Members.get? name ms with
    | some d => [([.key name], d)]
    | none => []
  | field name, .array es =>
    match position? name with
    | some n =>
      match es[n]? with
      | some d => [([.index n], d)]
      | none => []
    | none => []
  | index i, .array es =>
    match Elements.resolve? i es.length with
    | some n =>
      match es[n]? with
      | some d => [([.index n], d)]
      | none => []
    | none => []
  | wildcard, d => d.children.map fun c => ([c.1], c.2)
  | descendant inner, d => descend (select inner) d
  | _, _ => []

end Segment

/-- Keep the first of the matches at one place. -/
def firstMatches (seen : List Location) : List Match → List Match
  | [] => []
  | m :: ms =>
    if seen.contains m.1 then firstMatches seen ms else m :: firstMatches (m.1 :: seen) ms

namespace Path

/-- Go on from the places reached with one more segment. -/
def advance (reached : List Match) (s : Segment) : List Match :=
  firstMatches [] (reached.flatMap fun m => (s.select m.2).map fun n => (m.1 ++ n.1, n.2))

/-- The places a path selects, with what is there. -/
def matchesIn (p : Path) (d : Document) : List Match :=
  p.foldl advance [([], d)]

def locate (p : Path) (d : Document) : List Location :=
  (p.matchesIn d).map Prod.fst

def query (p : Path) (d : Document) : List Document :=
  (p.matchesIn d).map Prod.snd

/-- The first results, at most `limit` of them. -/
def queryLimit (p : Path) (d : Document) (limit : Nat) : List Document :=
  (p.query d).take limit

def queryFirst? (p : Path) (d : Document) : Option Document :=
  (p.query d).head?

end Path

/-- The documents that an expression selects. -/
def Document.select (d : Document) (expression : String) : Except DocumentError (List Document) :=
  (Path.parse expression).map (·.query d)

end Cabinet
