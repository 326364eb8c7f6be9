import Cabinet.Document.Members
import Cabinet.Path.Basic

/-!
Reading and changing a document at one location.
-/

namespace Cabinet

/-- The places right below a document, in order. -/
def Document.children : Document → List (Step × Document)
  | .array es => es.zipIdx.map fun e => (.index e.2, e.1)
  | .object ms => ms.map fun m => (.key m.1, m.2)
  | _ => []

/-- One step down. -/
def Document.child? (d : Document) (s : Step) : Option Document :=
  match d, s with
  | .object ms, .key name => Members.get? name ms
  | .array es, .index n => es[n]?
  | _, _ => none

/-- The document at a location. -/
def Document.at? (d : Document) : Location → Option Document
  | [] => some d
  | s :: l =>
    match d.child? s with
    | some c => c.at? l
    | none => none

/-- Change the document one step down, if there is one. -/
def Document.modifyChild (f : Document → Document) (d : Document) (s : Step) : Document :=
  match d, s with
  | .object ms, .key name => .object (Members.modify name f ms)
  | .array es, .index n => .array (es.modify n f)
  | d, _ => d

/-- Change the document at a location, if there is one. -/
def Document.modifyAt (f : Document → Document) : Location → Document → Document
  | [], d => f d
  | s :: l, d => d.modifyChild (modifyAt f l) s

/-- Put another document at a location, if there is one. -/
def Document.replaceAt (d : Document) (l : Location) (value : Document) : Document :=
  modifyAt (fun _ => value) l d

/-- Take a member or an element out of a container; none when it is not there. -/
def Document.removeChild? (d : Document) (s : Step) : Option Document :=
  match d, s with
  | .object ms, .key name => if Members.contains name ms then some (.object (Members.remove name ms)) else none
  | .array es, .index n => if n < es.length then some (.array (es.eraseIdx n)) else none
  | _, _ => none

end Cabinet
