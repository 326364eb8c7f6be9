import Cabinet.Storage.World

/-!
Backends: where a storage's entries are, and the operations on them. A backend enforces no policy:
hidden entries, size limits and closed storages are not its concern. A rig makes chosen operations
fail, and entries look locked or undated, so that failures can be rehearsed.
-/

namespace Cabinet

/-- The place of a storage's entries: a tree in memory, or the directory that names lead to. -/
inductive Place where
  | memory (tree : Nat)
  | directory (root : List String)
  deriving DecidableEq, Repr

structure Rig where
  undated : Bool
  locked : Bool
  failing : List Operation
  deriving DecidableEq, Repr

/-- A rig that changes nothing. -/
def Rig.plain : Rig := ⟨false, false, []⟩

structure Backend where
  place : Place
  rig : Rig
  deriving DecidableEq, Repr

namespace Rig

/-- Fail where the rig says so. -/
def check (r : Rig) (o : Operation) : Except IoError Unit :=
  if o ∈ r.failing then .error (.injected o) else .ok ()

/-- How an entry looks. -/
def disguise (r : Rig) (m : EntryMeta) : EntryMeta :=
  { m with readonly := m.readonly || r.locked, dated := m.dated && !r.undated }

end Rig

/-! ### Readers -/

/-- An open reader. One of a tree holds the contents as they were when it was opened; one of a
directory reads on from where it stands in the file. -/
inductive Reader where
  | memory (rest : Bytes)
  | file (number offset : Nat)
  | folder
  deriving DecidableEq, Repr

namespace Reader

/-- What is left to read. -/
def rest (w : World) : Reader → Except IoError Bytes
  | memory rest => .ok rest
  | file number offset => .ok ((w.disk.body number).contents.drop offset)
  | folder => .error (.refused .isADirectory)

/-- The reader after everything has been read. -/
def atEnd (w : World) : Reader → Reader
  | memory _ => memory []
  | file number offset => file number (max offset (w.disk.body number).contents.length)
  | folder => folder

end Reader

/-! ### Writers -/

/-- Where an open writer puts what it is given. One of a tree gathers everything and stores it when
it is flushed or dropped; one of a directory holds a few bytes back. -/
inductive Sink where
  | memory (tree : Nat) (path : StoragePath) (gathered : Bytes) (dirty : Bool)
  | file (number offset : Nat) (pending : Bytes)
  deriving DecidableEq, Repr

namespace Sink

/-- How many bytes a writer of a directory holds back. -/
def capacity : Nat := 8192

/-- Store everything that was given. -/
def commit (s : Sink) (w : World) : Sink × World :=
  match s with
  | memory i p gathered dirty =>
    if dirty then (memory i p gathered false, w.setTree i ((w.tree i).put p (.file gathered)))
    else (s, w)
  | file number offset pending =>
    if pending.isEmpty then (s, w)
    else (file number (offset + pending.length) [],
      { w with disk := w.disk.writeAt number offset pending })

/-- Give bytes to a writer. Bytes that fill a whole buffer are not held back; and a writer of a tree has
something to store then, even if it was given nothing. -/
def write (s : Sink) (bytes : Bytes) (w : World) : Sink × World :=
  match s with
  | memory i p gathered _ => (memory i p (gathered ++ bytes) true, w)
  | file number offset pending =>
    if pending.length + bytes.length < capacity then (file number offset (pending ++ bytes), w)
    else
      let (s, w) :=
        if capacity < pending.length + bytes.length then (file number offset pending).commit w
        else (file number offset pending, w)
      match s with
      | file number offset pending =>
        if capacity ≤ bytes.length then (file number offset bytes).commit w
        else (file number offset (pending ++ bytes), w)
      | s => (s, w)

end Sink

/-- An open writer of a backend. -/
structure Writer where
  sink : Sink
  rig : Rig
  deriving DecidableEq, Repr

namespace Writer

/-- Give bytes to a writer, all at once. -/
def writeOnce (x : Writer) (bytes : Bytes) (w : World) : Except IoError Unit × Writer × World :=
  match x.rig.check .write with
  | .error e => (.error e, x, w)
  | .ok _ =>
    let (sink, w) := x.sink.write bytes w
    (.ok (), { x with sink }, w)

/-- Give bytes to a writer until it has all of them; it is not bothered with none. -/
def write (x : Writer) (bytes : Bytes) (w : World) : Except IoError Unit × Writer × World :=
  if bytes.isEmpty then (.ok (), x, w) else x.writeOnce bytes w

def flush (x : Writer) (w : World) : Except IoError Unit × Writer × World :=
  match x.rig.check .flush with
  | .error e => (.error e, x, w)
  | .ok _ =>
    let (sink, w) := x.sink.commit w
    (.ok (), { x with sink }, w)

/-- Give a writer up; what it still holds is stored. -/
def close (x : Writer) (w : World) : World := (x.sink.commit w).2

end Writer

/-! ### Operations -/

namespace Backend

def metadata (b : Backend) (p : StoragePath) : Query IoError (Option EntryMeta) := fun w =>
  match b.rig.check .metadata with
  | .error e => .error e
  | .ok _ =>
    let found : Except IoError (Option EntryMeta) :=
      match b.place with
      | .memory i => .ok ((w.tree i).metadata p)
      | .directory root => Directory.metadata w.disk root p
    found.map fun m => m.map b.rig.disguise

def openRead (b : Backend) (p : StoragePath) : Query IoError Reader := fun w =>
  match b.rig.check .openRead with
  | .error e => .error e
  | .ok _ =>
    match b.place with
    | .memory i => ((w.tree i).read p).map .memory
    | .directory root =>
      match Directory.reach w.disk root p with
      | .error e => .error e
      | .ok names =>
        (w.disk.entry true names).map fun
          | .file number => .file number 0
          | _ => .folder

/-- Make a file empty and open a writer of it. -/
def openWrite (b : Backend) (p : StoragePath) : Action IoError Writer := fun w =>
  match b.rig.check .openWrite with
  | .error e => (.error e, w)
  | .ok _ =>
    match b.place with
    | .memory i =>
      match (w.tree i).create p with
      | .error e => (.error e, w)
      | .ok t => (.ok ⟨.memory i p [] false, b.rig⟩, w.setTree i t)
    | .directory root =>
      match Directory.create w.disk root p with
      | .error e => (.error e, w)
      | .ok (number, disk) => (.ok ⟨.file number 0 [], b.rig⟩, { w with disk })

/-- The names in a folder, in order. -/
def list (b : Backend) (p : StoragePath) : Query IoError (List String) := fun w =>
  match b.rig.check .list with
  | .error e => .error e
  | .ok _ =>
    match b.place with
    | .memory i => (w.tree i).list p
    | .directory root => Directory.list w.disk root p

/-- The paths below a path, each before those below it, going down a number of levels. -/
def descend (b : Backend) : Nat → StoragePath → Query IoError (List StoragePath)
  | 0, _ => pure []
  | levels + 1, p => do
    let found ← (← b.list p).mapM fun name => do
      match ← b.metadata (p.child name) with
      | some m =>
        if m.isFolder then return p.child name :: (← descend b levels (p.child name))
        else return [p.child name]
      | none => return [p.child name]
    return found.flatten

/-- A bound on the number of entries that lie within each other. In a directory their file name would
become too long. -/
def levels (b : Backend) (w : World) : Nat :=
  match b.place with
  | .memory i => (w.tree i).entries.length + 1
  | .directory _ => Disk.pathLimit + 1

/-- The paths below a path. A directory that is not rigged is walked at once. -/
def walk (b : Backend) (p : StoragePath) : Query IoError (List StoragePath) := fun w =>
  match b.place with
  | .memory _ => b.descend (b.levels w) p w
  | .directory root =>
    if b.rig = .plain then Directory.walk w.disk root p else b.descend (b.levels w) p w

def createFolders (b : Backend) (p : StoragePath) : Action IoError Unit := fun w =>
  match b.rig.check .createFolders with
  | .error e => (.error e, w)
  | .ok _ =>
    match b.place with
    | .memory i =>
      let (r, t) := (w.tree i).createFolders p
      (r, w.setTree i t)
    | .directory root =>
      let (r, disk) := Directory.createFolders w.disk root p
      (r, { w with disk })

def removeFile (b : Backend) (p : StoragePath) : Action IoError Unit := fun w =>
  match b.rig.check .removeFile with
  | .error e => (.error e, w)
  | .ok _ =>
    match b.place with
    | .memory i => Action.onTree i (fun t => t.removeFile p) w
    | .directory root => Action.onDisk (fun d => Directory.removeFile d root p) w

/-- Remove a folder with everything below it. -/
def removeFolder (b : Backend) (p : StoragePath) : Action IoError Unit := fun w =>
  match b.rig.check .removeFolder with
  | .error e => (.error e, w)
  | .ok _ =>
    match b.place with
    | .memory i => Action.onTree i (fun t => t.removeFolder p) w
    | .directory root => Action.onDisk (fun d => Directory.removeFolder d root p) w

def rename (b : Backend) (source target : StoragePath) : Action IoError Unit := fun w =>
  match b.rig.check .rename with
  | .error e => (.error e, w)
  | .ok _ =>
    match b.place with
    | .memory i => Action.onTree i (fun t => t.rename source target) w
    | .directory root => Action.onDisk (fun d => Directory.rename d root source target) w

/-- The file name of a path; a tree in memory has none. -/
def native? (b : Backend) (p : StoragePath) : Option String :=
  match b.place with
  | .memory _ => none
  | .directory root => some (StoragePath.native (Disk.native root) p)

end Backend

end Cabinet
