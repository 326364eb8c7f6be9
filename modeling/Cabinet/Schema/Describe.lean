import Cabinet.Decimal.Layout
import Cabinet.Schema.Basic
import Cabinet.Text.Inspect

/-!
The words for the documents that a schema accepts, and the diagnostic text of the rules.
-/

namespace Cabinet

/-- A number as messages show it. -/
def plainText (x : Float) : String :=
  String.ofList (Decimal.Layout.plain.write x)

def NumberRule.describe (r : NumberRule) : String :=
  match r.test, r.least, r.most with
  | some t, _, _ => t.1
  | none, some least, some most => "number in [" ++ plainText least ++ ", " ++ plainText most ++ "]"
  | none, some least, none => "number >= " ++ plainText least
  | none, none, some most => "number <= " ++ plainText most
  | none, none, none => "number"

mutual

def Schema.describe : Schema → String
  | .anything => "anything"
  | .nothing => "nothing"
  | .kind k => k.name
  | .string rule => rule.describe
  | .integer rule => rule.description
  | .number rule => rule.describe
  | .object attributes _ =>
    "object with \x7b" ++ ", ".intercalate (attributes.map fun a => a.1) ++ "\x7d"
  | .array element _ _ => describeElement element
  | .any alternatives => "any of [" ++ ", ".intercalate (describeEach alternatives) ++ "]"
  | .all parts => "all of [" ++ ", ".intercalate (describeEach parts) ++ "]"

def describeElement : Option Schema → String
  | none => "array"
  | some s => "array of " ++ s.describe

def describeEach : List Schema → List String
  | [] => []
  | s :: rest => s.describe :: describeEach rest

end

/-- An optional value in a diagnostic text. -/
def inspectOption {α : Type} (text : α → String) : Option α → String
  | none => "None"
  | some a => "Some(" ++ text a ++ ")"

def inspectNumber (x : Float) : String :=
  String.ofList (Decimal.Layout.diagnostic.write x)

def IntegerRule.inspect (r : IntegerRule) : String :=
  "IntegerPredicate \x7b description: " ++ inspectText r.description ++ ", .. \x7d"

def NumberRule.inspect (r : NumberRule) : String :=
  "NumberValidator \x7b min: " ++ inspectOption inspectNumber r.least ++ ", max: " ++
    inspectOption inspectNumber r.most ++ ", predicate: " ++
    inspectOption (fun t => inspectText t.1) r.test ++ " \x7d"

end Cabinet
