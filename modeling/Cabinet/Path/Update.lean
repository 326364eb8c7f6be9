import Cabinet.Path.Query

/-!
Changing a document at the places a path selects. The places are found before anything is written,
and written from the last in order to the first, so that a change never moves a place still to come.
An update gives the document it leaves behind beside its result, a failed one too.
-/

namespace Cabinet

/-- The result of an update and the document after it. -/
abbrev Update := Except DocumentError Nat × Document

/-- Locations in descending order: later siblings before earlier ones, and every place after the
places below it. -/
def deepestFirst (ls : List Location) : List Location :=
  (ls.mergeSort fun a b => (a.compare b).isLE).reverse

/-- The position that a name means when it is written through, which may have a sign. -/
def writePosition? (name : String) : Option Int :=
  match Width.int64.read? name.toList with
  | some n => if 0 ≤ n then some n else none
  | none => none

namespace Segment

/-- Can an array take a value at an index? It can at its elements and right behind the last. -/
def checkElement (i : Int) (es : List Document) : Except DocumentError Unit :=
  if (Elements.resolve? i es.length).isSome ∨ (0 ≤ i ∧ i.toNat = es.length) then .ok ()
  else .error (.indexOutOfBounds i.natAbs es.length)

/-- Can the document at a location take a child by this segment? -/
def checkChild (s : Segment) (d : Document) (l : Location) : Except DocumentError Unit :=
  match s, d with
  | field _, .object _ => .ok ()
  | field name, .array es =>
    match writePosition? name with
    | some i => checkElement i es
    | none => .error (.wrongType l.text "an object")
  | index i, .array es => checkElement i es
  | index _, _ => .error (.wrongType l.text "an array")
  | _, _ => .error (.wrongType l.text "an object")

/-- Write an element, or append it. -/
def writeElement (i : Int) (value : Document) (es : List Document) :
    Except DocumentError (List Document) :=
  match Elements.resolve? i es.length with
  | some n => .ok (es.set n value)
  | none =>
    if 0 ≤ i ∧ i.toNat = es.length then .ok (es ++ [value])
    else .error (.indexOutOfBounds i.natAbs es.length)

/-- Write a child of the document at a location. -/
def writeChild (s : Segment) (value : Document) (d : Document) (l : Location) :
    Except DocumentError Document :=
  match s, d with
  | field name, .object ms => .ok (.object (Members.put name value ms))
  | field name, .array es =>
    match writePosition? name with
    | some i => (writeElement i value es).map .array
    | none => .error (.wrongType l.text "an object")
  | index i, .array es => (writeElement i value es).map .array
  | index _, _ => .error (.wrongType l.text "an array")
  | _, _ => .error (.wrongType l.text "an object")

end Segment

/-- Check a child at every location, in order. -/
def checkChildren (s : Segment) (d : Document) : List Location → Except DocumentError Unit
  | [] => .ok ()
  | l :: ls =>
    match d.at? l with
    | none => checkChildren s d ls
    | some node =>
      match s.checkChild node l with
      | .error e => .error e
      | .ok _ => checkChildren s d ls

/-- Write a child at every location, counting them. -/
def writeChildren (s : Segment) (value : Document) (count : Nat) : List Location → Document → Update
  | [], d => (.ok count, d)
  | l :: ls, d =>
    match d.at? l with
    | none => writeChildren s value count ls d
    | some node =>
      match s.writeChild value node l with
      | .error e => (.error e, d)
      | .ok changed => writeChildren s value (count + 1) ls (d.replaceAt l changed)

/-- Change what is at every location, counting them. The change is told how many came before. -/
def changeAll (f : Nat → Document → Document) (count : Nat) :
    List Location → Document → Nat × Document
  | [], d => (count, d)
  | l :: ls, d =>
    match d.at? l with
    | none => changeAll f count ls d
    | some node => changeAll f (count + 1) ls (d.replaceAt l (f count node))

/-- Take out what is at every location, counting them. -/
def removeAll (count : Nat) : List Location → Document → Nat × Document
  | [], d => (count, d)
  | l :: ls, d =>
    match l.splitLast? with
    | none => removeAll count ls d
    | some (parent, step) =>
      match (d.at? parent).bind (·.removeChild? step) with
      | none => removeAll count ls d
      | some changed => removeAll (count + 1) ls (d.replaceAt parent changed)

namespace Path

/-- A count of nothing means that the path selects no place. -/
def orNotFound (p : Path) : Nat × Document → Update
  | (0, d) => (.error (.pathNotFound p.text), d)
  | (n + 1, d) => (.ok (n + 1), d)

/-- Write a value. A path that ends in a field or an index writes that child of every place its
parent selects, adding a member or an element where there is none; any other replaces what it
selects. -/
def set (p : Path) (d value : Document) : Update :=
  match p.splitLast? with
  | none => (.ok 1, value)
  | some (parent, last) =>
    if last.isDefinite then
      let parents := deepestFirst (parent.locate d)
      match checkChildren last d parents with
      | .error e => (.error e, d)
      | .ok _ =>
        match writeChildren last value 0 parents d with
        | (.ok n, d) => p.orNotFound (n, d)
        | failed => failed
    else p.orNotFound (changeAll (fun _ _ => value) 0 (deepestFirst (p.locate d)) d)

/-- Change every selected container, all of which must pass a test. -/
def changeContainers (p : Path) (d : Document) (expected : String) (accepts : Document → Bool)
    (f : Document → Document) : Update :=
  let found := p.matchesIn d
  if found.isEmpty then (.error (.pathNotFound p.text), d)
  else
    match found.find? fun m => !accepts m.2 with
    | some m => (.error (.wrongType m.1.text expected), d)
    | none =>
      let changed := changeAll (fun _ => f) 0 (deepestFirst (found.map Prod.fst)) d
      (.ok changed.1, changed.2)

/-- Put a member into every selected object. -/
def put (p : Path) (d : Document) (key : String) (value : Document) : Update :=
  p.changeContainers d "an object" (·.is .object) fun
    | .object ms => .object (Members.put key value ms)
    | node => node

/-- Append an element to every selected array. -/
def add (p : Path) (d value : Document) : Update :=
  p.changeContainers d "an array" (·.is .array) fun
    | .array es => .array (es ++ [value])
    | node => node

/-- Take out everything selected; the root leaves null behind. -/
def delete (p : Path) (d : Document) : Nat × Document :=
  if p.isEmpty then (1, .null) else removeAll 0 (deepestFirst (p.locate d)) d

/-- Change everything selected. The change is told how many places came before. -/
def transform (p : Path) (d : Document) (f : Nat → Document → Document) : Nat × Document :=
  changeAll f 0 (deepestFirst (p.locate d)) d

end Path

end Cabinet
