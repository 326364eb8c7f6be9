import Cabinet.Binder.Basic
import Cabinet.Path.Update
import Cabinet.Text.Inspect

/-!
Shapes of typed data. Reading a document as a shape checks it against the shape and gives the document
that the data read is written as: fields of a record in their declared order, keys of a map sorted,
whole numbers as doubles where the shape wants doubles.
-/

namespace Cabinet

inductive Shape where
  | boolean
  | integer (name : String) (width : Width)
  | double
  | text
  | optional (inner : Shape)
  | list (element : Shape)
  | map (value : Shape)
  | record (name : String) (fields : List (String × Shape))
  | anyObject
  | anyArray
  | any

instance : Inhabited Shape := ⟨.any⟩

/-- Why a document does not have a shape. -/
inductive ShapeFault where
  | invalidType (found expected : String)
  | invalidValue (found expected : String)
  | invalidLength (found : Nat) (expected : String)
  | missingField (name : String)
  deriving DecidableEq, Repr

def ShapeFault.message : ShapeFault → String
  | invalidType found expected => s!"invalid type: {found}, expected {expected}"
  | invalidValue found expected => s!"invalid value: {found}, expected {expected}"
  | invalidLength found expected => s!"invalid length {found}, expected {expected}"
  | missingField name => s!"missing field \x60{name}\x60"

/-- The words for a document that was found. -/
def Document.found : Document → String
  | .null => "null"
  | .boolean b => s!"boolean \x60{b}\x60"
  | .number (.integer n) => s!"integer \x60{n.val}\x60"
  | .number (.float x) =>
    let text := String.ofList (Number.float x).text
    s!"floating point \x60{text}\x60"
  | .string s => "string " ++ inspectText s
  | .array _ => "sequence"
  | .object _ => "map"

namespace Shape

/-- A reader of one shape. -/
abbrev Reader := Document → Except ShapeFault Document

def refuse (expected : String) : Reader := fun d => .error (.invalidType d.found expected)

def readInteger (name : String) (w : Width) : Reader
  | .number (.integer n) =>
    if w.contains n.val then .ok (.number (.integer n))
    else .error (.invalidValue (Document.number (.integer n)).found name)
  | d => refuse name d

def readDouble : Reader
  | .number n => .ok (.number (.float (match n with
    | .integer n => Number.nearest n.val
    | .float x => x)))
  | d => refuse "f64" d

/-- Read every element with one reader. -/
def readElements (read : Reader) : List Document → Except ShapeFault (List Document)
  | [] => .ok []
  | d :: ds =>
    match read d with
    | .error e => .error e
    | .ok d => (readElements read ds).map (d :: ·)

def readValues (read : Reader) : Members → Except ShapeFault Members
  | [] => .ok []
  | (k, d) :: ms =>
    match read d with
    | .error e => .error e
    | .ok d => (readValues read ms).map ((k, d) :: ·)

/-- Read the elements of a sequence as the fields of a record, in order. -/
def readInOrder (name : String) (count length : Nat) :
    List (String × Reader) → List Document → Except ShapeFault Members
  | [], [] => .ok []
  | [], _ :: _ => .error (.invalidLength length "fewer elements in array")
  | _ :: _, [] => .error (.invalidLength length s!"struct {name} with {count} elements")
  | (field, read) :: fields, d :: ds =>
    match read d with
    | .error e => .error e
    | .ok d => (readInOrder name count length fields ds).map ((field, d) :: ·)

/-- Read the members that a record knows, in the order of the document. -/
def readKnown (fields : List (String × Reader)) : Members → Except ShapeFault Members
  | [] => .ok []
  | (k, d) :: ms =>
    match fields.find? fun f => f.1 = k with
    | none => readKnown fields ms
    | some f =>
      match f.2 d with
      | .error e => .error e
      | .ok d => (readKnown fields ms).map ((k, d) :: ·)

/-- Bring the fields that were read into their declared order. -/
def arrange (known : Members) : List (String × Reader) → Except ShapeFault Members
  | [] => .ok []
  | (field, _) :: fields =>
    match Members.get? field known with
    | none => .error (.missingField field)
    | some d => (arrange known fields).map ((field, d) :: ·)

def readRecord (name : String) (fields : List (String × Reader)) : Reader
  | .array es => (readInOrder name fields.length es.length fields es).map .object
  | .object ms =>
    match readKnown fields ms with
    | .error e => .error e
    | .ok known => (arrange known fields).map .object
  | d => refuse s!"struct {name}" d

mutual

/-- Read a document without numbers that are not finite. -/
def readFinite : Shape → Reader
  | boolean, .boolean b => .ok (.boolean b)
  | boolean, d => refuse "a boolean" d
  | integer name w, d => readInteger name w d
  | double, d => readDouble d
  | text, .string s => .ok (.string s)
  | text, d => refuse "a string" d
  | optional _, .null => .ok .null
  | optional inner, d => inner.readFinite d
  | list element, .array es => (readElements element.readFinite es).map .array
  | list _, d => refuse "a sequence" d
  | map value, .object ms =>
    (readValues value.readFinite ms).map fun ms => .object (ms.mergeSort fun a b => a.1 ≤ b.1)
  | map _, d => refuse "a map" d
  | record name fields, d => readRecord name (fieldReaders fields) d
  | anyObject, .object ms => .ok (.object ms)
  | anyObject, d => .error (.invalidType d.kind.name "a JSON object")
  | anyArray, .array es => .ok (.array es)
  | anyArray, d => .error (.invalidType d.kind.name "a JSON array")
  | any, d => .ok d

def fieldReaders : List (String × Shape) → List (String × Reader)
  | [] => []
  | (name, s) :: rest => (name, s.readFinite) :: fieldReaders rest

end

/-- Read a document as a shape. A number that is not finite counts as null. -/
def read (s : Shape) (d : Document) : Except DocumentError Document :=
  (s.readFinite d.finite).mapError fun e => .decode Format.inMemory.text e.message

end Shape

namespace Path

/-- Read the first place a path selects as a shape; none when it selects nothing. -/
def readAs (p : Path) (s : Shape) (d : Document) : Except DocumentError (Option Document) :=
  match p.queryFirst? d with
  | none => .ok none
  | some found => (s.read found).map some

end Path

namespace Binder

/-- Read bytes of a format as a shape. -/
def decodeAs (b : Binder) (s : Shape) (bytes : List UInt8) (f : Format) :
    Except DocumentError Document :=
  match b.decode bytes f with
  | .error e => .error e
  | .ok d => s.read d

end Binder

end Cabinet
