import Cabinet.Document.Members
import Cabinet.Schema.Context
import Cabinet.Schema.Describe

/-!
Checking documents against schemas. A check never fails: it records every complaint in its context
and says whether the document was accepted.
-/

namespace Cabinet

/-- A check of one document: whether it is accepted, and the context after it. -/
abbrev Check := Document → Context → Bool × Context

/-- Complain unless a condition holds, and go on with the verdict so far. -/
def Context.require (condition : Bool) (text : String) (state : Bool × Context) : Bool × Context :=
  if condition then state else (false, state.2.complain text)

/-- Refuse a document of the wrong kind. -/
def refuseKind (expected : String) (d : Document) (c : Context) : Bool × Context :=
  (false, c.complain ("expected " ++ expected ++ ", found " ++ d.kind.name))

def Kind.check (k : Kind) : Check := fun d c =>
  if d.is k then (true, c) else refuseKind k.name d c

/-- Hold an optional bound against a test. -/
def passes {α : Type} (bound : Option α) (test : α → Bool) : Bool :=
  bound.all test

def StringRule.check (r : StringRule) : Check := fun d c =>
  match d.string? with
  | none => refuseKind "string" d c
  | some s =>
    let least := s!"string shorter than {r.least.getD 0} characters"
    let most := s!"string longer than {r.most.getD 0} characters"
    let pattern := "string does not match /" ++ (r.pattern.map Pattern.source).getD "" ++ "/"
    let allowed := "'" ++ s ++ "' is not one of [" ++ ", ".intercalate (r.allowed.getD []) ++ "]"
    (true, c)
      |> Context.require (passes r.least fun n => n ≤ s.length) least
      |> Context.require (passes r.most fun n => s.length ≤ n) most
      |> Context.require (passes r.pattern fun p => p.accepts s) pattern
      |> Context.require (passes r.allowed fun values => values.contains s) allowed

def IntegerRule.check (r : IntegerRule) : Check := fun d c =>
  match d.int64? with
  | none => refuseKind r.description d c
  | some n =>
    if r.accepts n then (true, c)
    else (false, c.complain (toString n ++ " is not a " ++ r.description))

def NumberRule.check (r : NumberRule) : Check := fun d c =>
  match d.float? with
  | none => refuseKind "number" d c
  | some x =>
    let least := plainText x ++ " is less than " ++ plainText (r.least.getD 0)
    let most := plainText x ++ " is greater than " ++ plainText (r.most.getD 0)
    let test := plainText x ++ " is not " ++ (r.test.map Prod.fst).getD ""
    (true, c)
      |> Context.require (passes r.least fun n => !(x < n)) least
      |> Context.require (passes r.most fun n => !(x > n)) most
      |> Context.require (passes r.test fun t => t.2 x) test

/-- Check something one step down. -/
def Check.below (check : Check) (s : Step) (d : Document) (state : Bool × Context) :
    Bool × Context :=
  let after := check d (state.2.push s)
  (state.1 && after.1, after.2.pop)

/-- Complain of every required attribute that is missing. -/
def requireAll (attributes : List (String × Bool × Check)) (ms : Members)
    (state : Bool × Context) : Bool × Context :=
  attributes.foldl (fun state a =>
    Context.require (!a.2.1 || Members.contains a.1 ms)
      ("missing required attribute '" ++ a.1 ++ "'") state) state

/-- The check of a member: its attribute's, or that of unknown members. -/
def memberCheck (attributes : List (String × Bool × Check)) (allowUnknown : Bool) (name : String) :
    Check :=
  match attributes.find? fun a => a.1 = name with
  | some a => a.2.2
  | none => fun _ c =>
    if allowUnknown then (true, c)
    else (false, c.complain ("unrecognized attribute '" ++ name ++ "'"))

def checkObject (attributes : List (String × Bool × Check)) (allowUnknown : Bool) : Check :=
  fun d c =>
    match d.object? with
    | none => refuseKind "object" d c
    | some ms =>
      ms.foldl (fun state m => (memberCheck attributes allowUnknown m.1).below (.key m.1) m.2 state)
        (requireAll attributes ms (true, c))

def checkArray (element : Option Check) (least most : Option Nat) : Check := fun d c =>
  match d.array? with
  | none => refuseKind "array" d c
  | some es =>
    let state := (true, c)
      |> Context.require (passes least fun n => n ≤ es.length)
        s!"array has fewer than {least.getD 0} elements"
      |> Context.require (passes most fun n => es.length ≤ n)
        s!"array has more than {most.getD 0} elements"
    match element with
    | none => state
    | some check => es.zipIdx.foldl (fun state e => check.below (.index e.2) e.1 state) state

/-- Accept what one of the checks accepts. What the others complain of is forgotten. -/
def checkAny (expected : String) (checks : List Check) : Check := fun d c =>
  if checks.any fun check => (check d c.fork).1 then (true, c)
  else (false, c.complain ("expected " ++ expected))

/-- Accept what every check accepts, up to the first that does not. -/
def checkAll : List Check → Check
  | [], _, c => (true, c)
  | check :: rest, d, c =>
    match check d c with
    | (true, c) => checkAll rest d c
    | (false, c) => (false, c)

mutual

/-- Check a document against a schema. -/
def Schema.check : Schema → Check
  | .anything => fun _ c => (true, c)
  | .nothing => fun _ c => (false, c.complain "no value is allowed here")
  | .kind k => k.check
  | .string rule => rule.check
  | .integer rule => rule.check
  | .number rule => rule.check
  | .object attributes allowUnknown => checkObject (attributeChecks attributes) allowUnknown
  | .array element least most => checkArray (elementCheck element) least most
  | .any alternatives =>
    checkAny ("any of [" ++ ", ".intercalate (describeEach alternatives) ++ "]")
      (eachCheck alternatives)
  | .all parts => checkAll (eachCheck parts)

def attributeChecks : List (String × Bool × Schema) → List (String × Bool × Check)
  | [] => []
  | (name, required, s) :: rest => (name, required, s.check) :: attributeChecks rest

def elementCheck : Option Schema → Option Check
  | none => none
  | some s => some s.check

def eachCheck : List Schema → List Check
  | [] => []
  | s :: rest => s.check :: eachCheck rest

end

/-- The complaints of a check from the root of a document; none when it is accepted. -/
def Schema.errors (s : Schema) (d : Document) : List ValidationError :=
  (s.check d .root).2.errors

end Cabinet
