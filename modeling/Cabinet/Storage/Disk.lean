import Cabinet.Storage.NativePath
import Cabinet.Storage.Tree

/-!
A directory of the system, seen through its file calls. File names are read from the directory `@`
that the disk stands for; nothing above it is modelled. Names lead through links. A file's contents
stay where they are when its name is moved or removed, so that readers and writers that are open go
on. Every call is allowed, also on entries without write permission.
-/

namespace Cabinet

/-- What a file number stands for. -/
structure FileBody where
  contents : Bytes
  readonly : Bool
  deriving DecidableEq, Repr

/-- An entry of a directory. A link leads to a name read from the top. -/
inductive DiskNode where
  | folder (readonly : Bool)
  | file (number : Nat)
  | link (target : List String)
  deriving DecidableEq, Repr

structure Disk where
  entries : Entries DiskNode
  files : List FileBody
  deriving DecidableEq, Repr

/-- What one way down from the top comes to: a place, or a link on the way with the names that are
left. -/
inductive Walk where
  | arrived (place : StoragePath)
  | redirected (names : List String)

namespace Disk

/-- The file name of the top. -/
def top : String := "@"

/-- The names that lead from the top to a file name; none for one that lies elsewhere. -/
def names? (native : String) : Option (List String) :=
  match (StoragePath.cut (· == '/') native.toList).map String.ofList with
  | first :: rest => if first = top then some rest else none
  | [] => none

/-- The file name of a place. -/
def native (names : List String) : String :=
  StoragePath.native top ⟨names⟩

def empty : Disk := ⟨[(.root, .folder false)], []⟩

def get? (d : Disk) (p : StoragePath) : Option DiskNode := d.entries.get? p

def put (d : Disk) (p : StoragePath) (n : DiskNode) : Disk := { d with entries := d.entries.put p n }

def body (d : Disk) (number : Nat) : FileBody := d.files.getD number ⟨[], false⟩

def setBody (d : Disk) (number : Nat) (b : FileBody) : Disk :=
  { d with files := d.files.set number b }

/-! ### Finding places -/

/-- The most bytes of a name. -/
def nameLimit : Nat := 255

/-- The most bytes of a file name. -/
def pathLimit : Nat := 4095

/-- The most links that are followed on one way. -/
def linkLimit : Nat := 40

/-- Follow names down to a place or to the first link. A link at the very end is followed when
`last` says so. The last name need not be there. -/
def stroll (d : Disk) (last : Bool) (here : StoragePath) : List String → Except Refusal Walk
  | [] => .ok (.arrived here)
  | name :: rest =>
    match d.get? here with
    | none => .error .noEntry
    | some (.folder _) =>
      if name = "" || name = "." then stroll d last here rest
      else if name = ".." then stroll d last here.folder rest
      else if nameLimit < name.utf8ByteSize then .error .nameTooLong
      else
        match d.get? (here.child name) with
        | some (.link target) =>
          if rest.isEmpty && !last then .ok (.arrived (here.child name))
          else .ok (.redirected (target ++ rest))
        | some _ => stroll d last (here.child name) rest
        | none => if rest.isEmpty then .ok (.arrived (here.child name)) else .error .noEntry
    | some _ => .error .notADirectory

/-- Follow names, and a number of links less one. -/
def find (d : Disk) (last : Bool) : Nat → List String → Except Refusal StoragePath
  | 0, _ => .error .tooManyLinks
  | links + 1, names =>
    match d.stroll last .root names with
    | .error e => .error e
    | .ok (.arrived p) => .ok p
    | .ok (.redirected names) => find d last links names

/-- The place that names lead to. -/
def locate (d : Disk) (last : Bool) (names : List String) : Except IoError StoragePath :=
  if names.any fun s => s.toList.contains '\x00' then .error .zeroInName
  else if pathLimit < (native names).utf8ByteSize then .error (.refused .nameTooLong)
  else (d.find last (linkLimit + 1) names).mapError .refused

/-- The entry that names lead to, or a refusal when there is none. -/
def entry (d : Disk) (last : Bool) (names : List String) : Except IoError DiskNode :=
  match d.locate last names with
  | .error e => .error e
  | .ok p =>
    match d.get? p with
    | some n => .ok n
    | none => .error (.refused .noEntry)

def isFolder (d : Disk) (names : List String) : Bool :=
  match d.entry true names with
  | .ok (.folder _) => true
  | _ => false

/-- What is told about an entry. -/
def metadata (d : Disk) : DiskNode → EntryMeta
  | .folder readonly => ⟨.folder, 0, readonly, true⟩
  | .file number => ⟨.file, (d.body number).contents.length, (d.body number).readonly, true⟩
  | .link _ => ⟨.file, 0, false, true⟩

/-- The size that a directory itself is told to have. -/
def folderSize : Nat := 4096

/-- The number of bytes of a file or a directory. -/
def sizeOf (d : Disk) (names : List String) : Except IoError Nat :=
  (d.entry true names).map fun
    | .file number => (d.body number).contents.length
    | _ => folderSize

/-! ### File calls -/

/-- The names in a directory, in order. -/
def list (d : Disk) (names : List String) : Except IoError (List String) :=
  match d.locate true names with
  | .error e => .error e
  | .ok p =>
    match d.get? p with
    | some (.folder _) => .ok (d.entries.names p)
    | some _ => .error (.refused .notADirectory)
    | none => .error (.refused .noEntry)

def createFolder (d : Disk) (names : List String) : Except IoError Disk :=
  match d.locate false names with
  | .error e => .error e
  | .ok p =>
    match d.get? p with
    | some _ => .error (.refused .entryExists)
    | none => .ok (d.put p (.folder false))

/-- Make a directory, after its parents if they are missing. The names come last one first. -/
def createUpward (d : Disk) : List String → Except IoError Unit × Disk
  | [] => (.ok (), d)
  | name :: above =>
    let names := (name :: above).reverse
    let again := fun (d : Disk) =>
      match d.createFolder names with
      | .ok d => (.ok (), d)
      | .error e => if d.isFolder names then (.ok (), d) else (.error e, d)
    match d.createFolder names with
    | .ok d => (.ok (), d)
    | .error e =>
      if e.kind = .notFound then
        match createUpward d above with
        | (.ok _, d) => again d
        | (.error e, d) => (.error e, d)
      else if d.isFolder names then (.ok (), d)
      else (.error e, d)

/-- Make a directory and the missing ones above it. -/
def createFolders (d : Disk) (names : List String) : Except IoError Unit × Disk :=
  d.createUpward names.reverse

/-- Make a file empty, and give its number. -/
def createFile (d : Disk) (names : List String) : Except IoError (Nat × Disk) :=
  match d.locate true names with
  | .error e => .error e
  | .ok p =>
    match d.get? p with
    | some (.file number) =>
      .ok (number, d.setBody number { d.body number with contents := [] })
    | some _ => .error (.refused .isADirectory)
    | none =>
      let number := d.files.length
      .ok (number, { d.put p (.file number) with files := d.files ++ [⟨[], false⟩] })

/-- Overwrite the contents of a file from an offset on. A gap is filled with zeros. -/
def writeAt (d : Disk) (number offset : Nat) (bytes : Bytes) : Disk :=
  let b := d.body number
  let gap := List.replicate (offset - b.contents.length) 0
  let contents := b.contents.take offset ++ gap ++ bytes ++ b.contents.drop (offset + bytes.length)
  d.setBody number { b with contents }

def removeFile (d : Disk) (names : List String) : Except IoError Disk :=
  match d.locate false names with
  | .error e => .error e
  | .ok p =>
    match d.get? p with
    | some (.folder _) => .error (.refused .isADirectory)
    | some _ => .ok { d with entries := d.entries.erase p }
    | none => .error (.refused .noEntry)

/-- Remove a directory with everything below it. -/
def removeFolder (d : Disk) (names : List String) : Except IoError Disk :=
  match d.locate false names with
  | .error e => .error e
  | .ok p =>
    match d.get? p with
    | some (.file _) => .error (.refused .notADirectory)
    | some _ => .ok { d with entries := d.entries.outside p }
    | none => .error (.refused .noEntry)

/-- May an entry take the place of another one? -/
def replaces (d : Disk) (target : StoragePath) : DiskNode → Option DiskNode → Except Refusal Unit
  | _, none => .ok ()
  | .folder _, some (.folder _) =>
    if (d.entries.below target).isEmpty then .ok () else .error .notEmpty
  | .folder _, some _ => .error .notADirectory
  | _, some (.folder _) => .error .isADirectory
  | _, some _ => .ok ()

/-- Move an entry between places. -/
def moveEntry (d : Disk) (source target : StoragePath) : Except Refusal Disk :=
  match d.get? source with
  | none => .error .noEntry
  | some n =>
    if source = target then .ok d
    else if target.startsWith source then .error .invalidArgument
    else if source.startsWith target then .error .notEmpty
    else
      match d.replaces target n (d.get? target) with
      | .error e => .error e
      | .ok _ => .ok { d with entries := d.entries.move source target }

def rename (d : Disk) (source target : List String) : Except IoError Disk :=
  match d.locate false source, d.locate false target with
  | .error e, _ => .error e
  | _, .error e => .error e
  | .ok s, .ok t => (d.moveEntry s t).mapError .refused

/-! ### Filling a disk -/

/-- Put a file. -/
def addFile (d : Disk) (names : List String) (contents : Bytes) : Disk :=
  let d := (d.createFolders names.dropLast).2
  match d.createFile names with
  | .ok (number, d) => d.setBody number { d.body number with contents }
  | .error _ => d

/-- Put a link. -/
def addLink (d : Disk) (names target : List String) : Disk :=
  match d.locate false names with
  | .ok p => d.put p (.link target)
  | .error _ => d

/-- Take the write permissions away from an entry. -/
def protect (d : Disk) (names : List String) : Disk :=
  match d.locate true names with
  | .error _ => d
  | .ok p =>
    match d.get? p with
    | some (.folder _) => d.put p (.folder true)
    | some (.file number) => d.setBody number { d.body number with readonly := true }
    | _ => d

end Disk

end Cabinet
