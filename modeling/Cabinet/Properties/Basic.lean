import Cabinet.Document.Elements
import Cabinet.Document.Members
import Cabinet.Document.Printer
import Cabinet.Properties.Key
import Cabinet.Properties.Lines

/-!
Properties text: a line `key=value` for each leaf of a document. The text has no types, so that every
leaf is read as a string; null is written as an empty value, and empty containers are not written.
-/

namespace Cabinet.Properties

/-- How far past its end an array may be written at most. -/
def maximalGap : Nat := 1024

/-- Why an entry cannot be stored. -/
inductive Conflict where
  | field (name : String) (found : Kind)
  | index (n : Nat) (found : Kind)
  | tooFar (n : Nat)
  deriving DecidableEq, Repr

def Conflict.message : Conflict → String
  | field name found => s!"'{name}' conflicts with a {found.name} value"
  | index n found => s!"[{n}] conflicts with a {found.name} value"
  | tooFar n => s!"index [{n}] is more than {maximalGap} past the end of the list"

/-- The container that a part of a key needs. -/
def containerFor : Part → Document
  | .index _ => .array []
  | .field _ => .object []

/-- Write an element, refusing a gap that is too large. -/
def place (n : Nat) (value : Document) (es : List Document) :
    Except Conflict (List Document) :=
  (Elements.trySet n value maximalGap es).mapError fun _ => .tooFar n

/-- The element that a longer key goes on from, with the array after making it. A null gives way to
a container. -/
def element (n : Nat) (next : Part) (es : List Document) :
    Except Conflict (List Document × Document) :=
  let made := (place n (containerFor next) es).map fun es => (es, containerFor next)
  match es[n]? with
  | none => made
  | some d => if d.isNull then made else .ok (es, d)

/-- Store a value under a key, making the containers on the way. -/
def insert (value : Document) : Key → Document → Except Conflict Document
  | [], d => .ok d
  | .field name :: [], .object ms => .ok (.object (Members.put name value ms))
  | .field name :: next :: rest, .object ms =>
    let child := (Members.get? name ms).getD (containerFor next)
    (insert value (next :: rest) child).map fun c => .object (Members.put name c ms)
  | .field name :: _, d => .error (.field name d.kind)
  | .index n :: [], .array es => (place n value es).map .array
  | .index n :: next :: rest, .array es =>
    match element n next es with
    | .error e => .error e
    | .ok (es, child) => (insert value (next :: rest) child).map fun c => .array (es.set n c)
  | .index n :: _, d => .error (.index n d.kind)

/-- Why a text is no properties text, with the number of the line. -/
inductive Fault where
  | invalidKey (line : Nat) (key : List Char)
  | conflict (line : Nat) (c : Conflict)
  deriving DecidableEq, Repr

def Fault.message : Fault → String
  | invalidKey line key =>
    let key := String.ofList key
    s!"line {line}: invalid key '{key}'"
  | conflict line c => s!"line {line}: {c.message}"

/-- Store the entry of one line. -/
def readEntry (line : Nat × List Char) (d : Document) : Except Fault Document :=
  let (key, value) := splitEntry [] false line.2
  match parse? key with
  | none => .error (.invalidKey line.1 key)
  | some parts =>
    (insert (.string (String.ofList (unescape value))) parts d).mapError (.conflict line.1)

def readEntries : List (Nat × List Char) → Document → Except Fault Document
  | [], d => .ok d
  | line :: rest, d =>
    match readEntry line d with
    | .error f => .error f
    | .ok d => readEntries rest d

/-- Read a document from properties text. -/
def read (text : List Char) : Except Fault Document :=
  readEntries (logicalLines text) (.object [])

/-- The line of a leaf. -/
def entry (pre value : List Char) : List Char :=
  pre ++ '=' :: value ++ ['\n']

/-- The key of a member, below another key. -/
def memberKey (pre : List Char) (name : String) : List Char :=
  if pre.isEmpty then escapeKey name.toList else pre ++ '.' :: escapeKey name.toList

/-- The key of an element, below another key. -/
def elementKey (pre : List Char) (n : Nat) : List Char :=
  pre ++ '[' :: Decimal.natural n ++ [']']

mutual

/-- The lines of a document below a key. A key that is empty has no spelling; the error is the key
above it. -/
def write (pre : List Char) : Document → Except (List Char) (List Char)
  | .object ms => writeMembers pre ms
  | .array es => writeElements pre 0 es
  | .null => .ok (entry pre [])
  | .string s => .ok (entry pre (escapeValue s.toList))
  | .boolean b => .ok (entry pre (Document.boolean b).compact)
  | .number n => .ok (entry pre n.text)

def writeElements (pre : List Char) (n : Nat) : List Document → Except (List Char) (List Char)
  | [] => .ok []
  | d :: ds =>
    match write (elementKey pre n) d with
    | .error e => .error e
    | .ok text => (writeElements pre (n + 1) ds).map (text ++ ·)

def writeMembers (pre : List Char) : List (String × Document) → Except (List Char) (List Char)
  | [] => .ok []
  | (name, d) :: ms =>
    if name.isEmpty then .error pre
    else
      match write (memberKey pre name) d with
      | .error e => .error e
      | .ok text => (writeMembers pre ms).map (text ++ ·)

end

end Cabinet.Properties
