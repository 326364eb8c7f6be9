import Cabinet.Json.Parser
import Cabinet.Storage.Item

/-!
Metadata of items as documents. It is made when it is first asked for, and remembered by storages with
a cache. Times are not modelled: a mark stands for the time of the last change.
-/

namespace Cabinet.Item

/-- What stands for a time. -/
def timeMark : String := "<time>"

/-- What the backend and the name of an item tell. -/
def basicMetadata (i : Item) : Query FileError Members := do
  let folder ← i.isFolder
  let start : Members :=
    [("name", .string i.name), ("path", .string i.path.text), ("folder", .boolean folder)]
  let size : Members ← if folder then pure [] else do
    let size ← i.size
    pure [("size", Document.ofInt size)]
  i.requireTime
  let type ← i.contentType
  return start ++ size ++ [("lastModified", .string timeMark), ("contentType", .string type)]

/-- Metadata with what the file beside an item says: the members of an object, or the document itself
under a name of its own. -/
def sidecarMetadata (i : Item) (suffix : String) : Query FileError Members := do
  let basic ← i.basicMetadata
  if i.path.isRoot then return basic
  let sidecar ← (i.sibling (i.name ++ suffix) : Except FileError Item)
  if !(← sidecar.isFile) then return basic
  match Document.ofBytes (← sidecar.readBytes) with
  | .error e => throw (.metadata e)
  | .ok (.object extra) => return Members.extend basic extra
  | .ok other => return Members.put "sidecar" other basic

/-- Metadata of an item, whatever is remembered. -/
def freshMetadata (i : Item) : Query FileError Members :=
  match i.storage.metadataSource with
  | .basic => i.basicMetadata
  | .sidecar suffix => i.sidecarMetadata suffix

/-- Metadata of an item. What is remembered is taken as it is. -/
def metadata (i : Item) : Action FileError Members := do
  i.validate
  match i.storage.cached? i.path (← get) with
  | some known => return known
  | none =>
    let made ← i.freshMetadata
    modify (i.storage.remember i.path made)
    return made

end Cabinet.Item
