import Cabinet.Document.Basic
import Cabinet.Text.Identifier

/-!
Paths select places in a document; locations name one place. A path is a list of segments, each of
which leads from a place to some of the places below it.
-/

namespace Cabinet

/-- One segment of a path. A field may also select an element of an array, when its name reads as a
position; a negative index counts from the end. -/
inductive Segment where
  | field (name : String)
  | index (n : Int)
  | wildcard
  | descendant (inner : Segment)
  deriving DecidableEq, Repr

abbrev Path := List Segment

/-- One step down into a document. -/
inductive Step where
  | key (name : String)
  | index (n : Nat)
  deriving DecidableEq, Repr

/-- The steps from the root to a place. -/
abbrev Location := List Step

namespace Step

/-- Keys come before indexes; keys are ordered as texts and indexes as numbers. -/
def compare : Step → Step → Ordering
  | key a, key b => Ord.compare a b
  | key _, index _ => .lt
  | index _, key _ => .gt
  | index a, index b => Ord.compare a b

/-- The segment that selects just this step. Positions past `2 ^ 63` have no index of their own. -/
def segment : Step → Segment
  | key name => .field name
  | index n => .index ((n : Int).bmod (Nat.pow 2 64))

end Step

namespace Segment

/-- Can the segment select one place at most? -/
def isDefinite : Segment → Bool
  | field _ => true
  | index _ => true
  | wildcard => false
  | descendant _ => false

end Segment

namespace Path

def isDefinite (p : Path) : Bool :=
  p.all Segment.isDefinite

/-- The path without its last segment, and that segment. -/
def splitLast? (p : Path) : Option (Path × Segment) :=
  p.getLast?.map fun s => (p.dropLast, s)

end Path

namespace Location

/-- Locations are ordered step by step, a place before the places below it. -/
def compare : Location → Location → Ordering
  | [], [] => .eq
  | [], _ :: _ => .lt
  | _ :: _, [] => .gt
  | a :: as, b :: bs => (a.compare b).then (compare as bs)

/-- The path that selects just this place. -/
def path (l : Location) : Path :=
  l.map Step.segment

/-- The location without its last step, and that step. -/
def splitLast? (l : Location) : Option (Location × Step) :=
  l.getLast?.map fun s => (l.dropLast, s)

end Location

end Cabinet
