import Cabinet.Storage.Entries
import Cabinet.Storage.Error

/-!
A tree of entries kept in memory. Every operation answers an error or the tree after it; the tree is
unchanged after an error, unless it is said otherwise. Times are not kept.
-/

namespace Cabinet

/-- The contents of a file. -/
abbrev Bytes := List UInt8

inductive EntryKind where
  | file
  | folder
  deriving DecidableEq, Repr

/-- What a backend tells about an entry. The time of its last change is not modelled, only whether
there is one. -/
structure EntryMeta where
  kind : EntryKind
  size : Nat
  readonly : Bool
  dated : Bool
  deriving DecidableEq, Repr

namespace EntryMeta

def isFile (m : EntryMeta) : Bool := m.kind == .file

def isFolder (m : EntryMeta) : Bool := m.kind == .folder

end EntryMeta

/-- An entry of a tree. -/
inductive Node where
  | file (contents : Bytes)
  | folder
  deriving DecidableEq, Repr

def Node.metadata : Node → EntryMeta
  | file contents => ⟨.file, contents.length, false, true⟩
  | folder => ⟨.folder, 0, false, true⟩

structure Tree where
  entries : Entries Node
  deriving DecidableEq, Repr

namespace Tree

/-- A tree with nothing but its root. -/
def empty : Tree := ⟨[(.root, .folder)]⟩

def get? (t : Tree) (p : StoragePath) : Option Node := t.entries.get? p

def put (t : Tree) (p : StoragePath) (n : Node) : Tree := ⟨t.entries.put p n⟩

def metadata (t : Tree) (p : StoragePath) : Option EntryMeta := (t.get? p).map Node.metadata

/-- Refuse a path where there is no folder. -/
def requireFolder (t : Tree) (p : StoragePath) : Except IoError Unit :=
  match t.get? p with
  | some .folder => .ok ()
  | some (.file _) => .error (.notAFolder p)
  | none => .error (.missing p)

/-- Refuse the root and a path whose parent is no folder. -/
def requireParent (t : Tree) (p : StoragePath) : Except IoError Unit :=
  match p.parent? with
  | some parent => t.requireFolder parent
  | none => .error .replacesRoot

def read (t : Tree) (p : StoragePath) : Except IoError Bytes :=
  match t.get? p with
  | some (.file contents) => .ok contents
  | some .folder => .error (.isAFolder p)
  | none => .error (.missing p)

/-- Make a file empty, so that its writer can begin. -/
def create (t : Tree) (p : StoragePath) : Except IoError Tree :=
  match t.requireParent p with
  | .error e => .error e
  | .ok _ =>
    match t.get? p with
    | some .folder => .error (.isAFolder p)
    | _ => .ok (t.put p (.file []))

def list (t : Tree) (p : StoragePath) : Except IoError (List String) :=
  match t.requireFolder p with
  | .error e => .error e
  | .ok _ => .ok (t.entries.scannedNames p)

/-- Make folders of the missing paths of a list. The ones before a file are made. -/
def createEach (t : Tree) : List StoragePath → Except IoError Unit × Tree
  | [] => (.ok (), t)
  | p :: rest =>
    match t.get? p with
    | some .folder => t.createEach rest
    | some (.file _) => (.error (.notAFolder p), t)
    | none => (t.put p .folder).createEach rest

/-- Make folders all the way down to a path. -/
def createFolders (t : Tree) (p : StoragePath) : Except IoError Unit × Tree :=
  t.createEach (p.ancestors.reverse ++ [p])

def removeFile (t : Tree) (p : StoragePath) : Except IoError Tree :=
  match t.get? p with
  | some (.file _) => .ok ⟨t.entries.erase p⟩
  | some .folder => .error (.isAFolder p)
  | none => .error (.missing p)

/-- Remove a folder with everything below it; of the root, only what is below. -/
def removeFolder (t : Tree) (p : StoragePath) : Except IoError Tree :=
  match t.requireFolder p with
  | .error e => .error e
  | .ok _ =>
    if p.isRoot then .ok ⟨t.entries.filter fun e => e.1.isRoot⟩
    else .ok ⟨t.entries.outside p⟩

/-- Move an entry with everything below it; what was at or below the target is lost. -/
def rename (t : Tree) (source target : StoragePath) : Except IoError Tree :=
  if (t.get? source).isNone then .error (.missing source)
  else if source.isRoot || target.startsWith source then .error (.movesInto source target)
  else
    match t.requireParent target with
    | .error e => .error e
    | .ok _ => .ok ⟨t.entries.move source target⟩

end Tree

end Cabinet
