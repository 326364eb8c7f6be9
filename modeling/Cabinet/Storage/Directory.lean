import Cabinet.Storage.Disk

/-!
A directory of the disk as the place of a storage's entries. The directory is known by the names that
lead to it, none of them a link. A path that passes through a link is refused, so that nothing outside
the directory is reached; such a path counts as no entry.
-/

namespace Cabinet.Directory

/-- Does one of the names below a place belong to a link? A name that is missing ends the search. -/
def passesLink (d : Disk) (above : List String) : List String → Except IoError Bool
  | [] => .ok false
  | name :: rest =>
    match d.entry false (above ++ [name]) with
    | .ok (.link _) => .ok true
    | .ok _ => passesLink d (above ++ [name]) rest
    | .error e => if e.kind = .notFound then .ok false else .error e

/-- The names that lead to a path from the top. -/
def namesOf (root : List String) (p : StoragePath) : List String := root ++ p.segments

/-- The names that lead to a path, unless it passes through a link. -/
def reach (d : Disk) (root : List String) (p : StoragePath) : Except IoError (List String) :=
  match passesLink d root p.segments with
  | .error e => .error e
  | .ok true => .error (.throughLink p)
  | .ok false => .ok (namesOf root p)

def metadata (d : Disk) (root : List String) (p : StoragePath) : Except IoError (Option EntryMeta) :=
  match passesLink d root p.segments with
  | .error e => .error e
  | .ok true => .ok none
  | .ok false =>
    match d.entry true (namesOf root p) with
    | .ok n => .ok (some (d.metadata n))
    | .error e => if e.kind = .notFound then .ok none else .error e

/-- The names in a folder, in order. -/
def list (d : Disk) (root : List String) (p : StoragePath) : Except IoError (List String) :=
  match reach d root p with
  | .error e => .error e
  | .ok names => d.list names

/-- The paths below a path, in order; links are among them, what they lead to is not. -/
def walk (d : Disk) (root : List String) (p : StoragePath) : Except IoError (List StoragePath) :=
  match reach d root p with
  | .error e => .error e
  | .ok names =>
    match d.entry true names with
    | .error e => .error (.walk (Disk.native names) e)
    | .ok (.folder _) =>
      .ok ((d.entries.below ⟨names⟩).filterMap fun q => q.rebase? ⟨root⟩ .root)
    | .ok _ => .ok []

def createFolders (d : Disk) (root : List String) (p : StoragePath) : Except IoError Unit × Disk :=
  match reach d root p with
  | .error e => (.error e, d)
  | .ok names => d.createFolders names

def removeFile (d : Disk) (root : List String) (p : StoragePath) : Except IoError Disk :=
  match reach d root p with
  | .error e => .error e
  | .ok names => d.removeFile names

def removeFolder (d : Disk) (root : List String) (p : StoragePath) : Except IoError Disk :=
  match reach d root p with
  | .error e => .error e
  | .ok names => d.removeFolder names

def rename (d : Disk) (root : List String) (source target : StoragePath) : Except IoError Disk :=
  match reach d root source with
  | .error e => .error e
  | .ok s =>
    match reach d root target with
    | .error e => .error e
    | .ok t => d.rename s t

/-- Make a file empty, and give its number. -/
def create (d : Disk) (root : List String) (p : StoragePath) : Except IoError (Nat × Disk) :=
  match reach d root p with
  | .error e => .error e
  | .ok names => d.createFile names

/-- The root that a file name gives: a directory, which must be writable unless it is only read
from. Links on the way to it are followed once and for all. -/
def root? (d : Disk) (readOnly : Bool) (native : String) : Except FileError (List String) :=
  let refuse := fun (e : IoError) => Except.error (FileError.invalidRoot native e)
  match Disk.names? native with
  | none => refuse (.refused .noEntry)
  | some names =>
    match d.entry true names, d.locate true names with
    | .ok (.folder readonly), .ok p =>
      if !readOnly && readonly then refuse .rootNotWritable else .ok p.segments
    | .ok _, .ok _ => refuse .rootNotADirectory
    | .error e, _ => refuse e
    | _, .error e => refuse e

end Cabinet.Directory
