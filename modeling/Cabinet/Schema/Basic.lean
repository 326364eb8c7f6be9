import Cabinet.Document.Basic
import Cabinet.Pattern.Basic

/-!
Schemas: what a document is to look like. Strings, integers and numbers are described by rules,
objects by their attributes, arrays by their elements, and schemas can be combined.
-/

namespace Cabinet

/-- What a string is to look like: bounds on its number of characters, a pattern it matches as a
whole, and the values it may have. -/
structure StringRule where
  least : Option Nat
  most : Option Nat
  pattern : Option Pattern
  allowed : Option (List String)

/-- A test of integers of 64 bits and the words for those that pass. -/
structure IntegerRule where
  description : String
  accepts : Int → Bool

/-- Bounds on a number, and a test of numbers with the words for those that pass. -/
structure NumberRule where
  least : Option Float
  most : Option Float
  test : Option (String × (Float → Bool))

inductive Schema where
  | anything
  | nothing
  | kind (k : Kind)
  | string (rule : StringRule)
  | integer (rule : IntegerRule)
  | number (rule : NumberRule)
  | object (attributes : List (String × Bool × Schema)) (allowUnknown : Bool)
  | array (element : Option Schema) (least most : Option Nat)
  | any (alternatives : List Schema)
  | all (parts : List Schema)

instance : Inhabited Schema := ⟨.anything⟩

namespace StringRule

def free : StringRule := ⟨none, none, none, none⟩

/-- The words for strings that pass. -/
def describe (r : StringRule) : String :=
  match r.pattern, r.allowed with
  | some p, _ => "string matching /" ++ p.source ++ "/"
  | none, some values => "one of [" ++ ", ".intercalate values ++ "]"
  | none, none => "string"

end StringRule

namespace IntegerRule

def positive : IntegerRule := ⟨"positive integer", fun n => decide (0 < n)⟩

def nonNegative : IntegerRule := ⟨"non-negative integer", fun n => decide (0 ≤ n)⟩

/-- Integers from `low` to `high`. -/
def between (low high : Int) : IntegerRule :=
  ⟨s!"integer in {low}..={high}", fun n => decide (low ≤ n ∧ n ≤ high)⟩

end IntegerRule

/-- The attributes of an object schema, each a name, whether it is required, and its schema. -/
abbrev Attributes := List (String × Bool × Schema)

/-- Declare an attribute. A name declared again keeps its place and takes the new declaration. -/
def Attributes.declare (name : String) (required : Bool) (schema : Schema) : Attributes → Attributes
  | [] => [(name, required, schema)]
  | a :: rest =>
    if a.1 = name then (name, required, schema) :: rest
    else a :: declare name required schema rest

end Cabinet
