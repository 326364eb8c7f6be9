import Cabinet.Storage.Basic
import Cabinet.Storage.ContentType

/-!
Items: a path of a storage, whether there is an entry or not. Everything here reads only. An item of a
closed storage answers nothing, and one that is hidden counts as missing.
-/

namespace Cabinet

/-- Which entries are listed. -/
structure ListFilter where
  files : Bool
  folders : Bool
  recursive : Bool
  deriving DecidableEq, Repr

def ListFilter.all : ListFilter := ⟨true, true, false⟩

def ListFilter.accepts (f : ListFilter) (m : EntryMeta) : Bool :=
  (m.isFile && f.files) || (m.isFolder && f.folders)

structure Item where
  storage : Storage
  path : StoragePath
  deriving Repr

namespace Item

def name (i : Item) : String := i.path.name

def text (i : Item) : String := s!"{i.storage.name}:{i.path.text}"

/-- An item for diagnostics. -/
def inspect (i : Item) : String :=
  "FileItem \x7b storage: " ++ inspectText i.storage.name ++
    ", path: StoragePath \x7b segments: [" ++
    String.intercalate ", " (i.path.segments.map inspectText) ++ "] \x7d \x7d"

/-- Do two items stand for the same path of the same storage? -/
def same (i j : Item) : Bool := i.storage.same j.storage && i.path == j.path

def validate (i : Item) : Query FileError Unit := i.storage.validate

/-- The file name of an item; none when the backend has no files of the system. -/
def native? (i : Item) : Query FileError (Option String) := do
  i.validate
  return i.storage.backend.native? i.path

/-- The entry, if there is one to be seen. -/
def visibleEntry (i : Item) : Query FileError (Option EntryMeta) := do
  i.validate
  if i.storage.hides i.path then return none
  i.storage.entry i.path

/-- The entry, which must be there to be seen. -/
def requireEntry (i : Item) : Query FileError EntryMeta := do
  i.validate
  if i.storage.hides i.path then throw (.hidden i.path)
  match ← i.storage.entry i.path with
  | some m => return m
  | none => throw (.notFound i.path)

def exists? (i : Item) : Query FileError Bool :=
  return (← i.visibleEntry).isSome

def isFile (i : Item) : Query FileError Bool :=
  return (← i.visibleEntry).any EntryMeta.isFile

def isFolder (i : Item) : Query FileError Bool :=
  return (← i.visibleEntry).any EntryMeta.isFolder

def isHidden (i : Item) : Query FileError Bool := do
  i.validate
  return i.path.isHidden

/-- May an item be written? One that is missing may. -/
def isWritable (i : Item) : Query FileError Bool := do
  i.validate
  if i.storage.options.readOnly || i.storage.hides i.path then return false
  match ← i.storage.entry i.path with
  | some m => return !m.readonly
  | none => return true

def size (i : Item) : Query FileError Nat := do
  let m ← i.requireEntry
  return if m.isFolder then 0 else m.size

/-- Refuse an item without a time of its last change. -/
def requireTime (i : Item) : Query FileError Unit := do
  let m ← i.requireEntry
  if m.dated then return () else throw (.io i.path .noTime)

def contentType (i : Item) : Query FileError String := do
  i.validate
  if ← i.isFolder then return ContentType.folder
  match i.storage.typing with
  | .byName known => return ContentType.ofName known i.name
  | .fixed type => return type

def sizeLimit (i : Item) : Query FileError (Option Nat) := do
  i.validate
  return i.storage.options.sizeLimit

/-- The folder that an item is in; the root is in none. -/
def parent? (i : Item) : Query FileError (Option Item) := do
  i.validate
  return i.path.parent?.map fun p => { i with path := p }

/-- The item that a name means beside an item. -/
def sibling (i : Item) (name : String) : Except FileError Item :=
  (i.path.folder.resolve name).map fun p => { i with path := p }

def openReader (i : Item) : Query FileError Reader := do
  let m ← i.requireEntry
  if m.isFolder then throw (.notAFile i.path)
  (i.storage.backend.openRead i.path).mapError (.io i.path)

def readBytes (i : Item) : Query FileError Bytes := do
  let r ← i.openReader
  fun w => (r.rest w).mapError (.io i.path)

def readText (i : Item) : Query FileError String := do
  match Utf8.decode (← i.readBytes) with
  | .ok cs => return String.ofList cs
  | .error fault => throw (.io i.path (.notText fault))

/-- The item, if it is a folder. -/
def asFolder (i : Item) : Query FileError Item := do
  let m ← i.requireEntry
  if m.isFolder then return i else throw (.notAFolder i.path)

/-- The item that a name means in a folder. -/
def file (i : Item) (name : String) : Query FileError Item := do
  i.validate
  let p ← (i.path.resolve name : Except FileError StoragePath)
  return { i with path := p }

/-- The folder that a name means in a folder. -/
def folder (i : Item) (name : String) : Query FileError Item := do
  (← i.file name).asFolder

/-! ### Listings -/

/-- The paths in a folder, or below it, as the backend has them. -/
def pathsBelow (i : Item) (recursive : Bool) : Query IoError (List StoragePath) := do
  if recursive then i.storage.backend.walk i.path
  else return (← i.storage.backend.list i.path).map i.path.child

/-- The items of those paths that are in sight, there, and asked for. -/
def select (i : Item) (f : ListFilter) : List StoragePath → Query FileError (List Item)
  | [] => return []
  | p :: rest => do
    if i.storage.hides p then select i f rest
    else
      match ← i.storage.entry p with
      | none => select i f rest
      | some m =>
        if f.accepts m then return { i with path := p } :: (← select i f rest)
        else select i f rest

/-- What is in a folder, in path order. -/
def list (i : Item) (f : ListFilter) : Query FileError (List Item) := do
  let _ ← i.asFolder
  let paths ← (i.pathsBelow f.recursive).mapError (.io i.path)
  i.select f (paths.mergeSort fun p q => !q.before p)

end Item

namespace Storage

/-- The root of a storage as an item. -/
def root (s : Storage) : Query FileError Item := do
  s.validate
  return ⟨s, .root⟩

def file (s : Storage) (name : String) : Query FileError Item := do
  (← s.root).file name

def folder (s : Storage) (name : String) : Query FileError Item := do
  (← s.root).folder name

end Storage

end Cabinet
