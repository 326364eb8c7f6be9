import Cabinet.Document.Printer
import Cabinet.Storage.Backend
import Cabinet.Storage.ContentType
import Cabinet.Text.Inspect

/-!
Storages: named roots over a backend, that can be closed and opened again. What never changes about a
storage is its own; whether it is open, and its cache, are in the world under the storage's number,
which also tells storages apart.
-/

namespace Cabinet

structure StorageOptions where
  sizeLimit : Option Nat
  readOnly : Bool
  showHidden : Bool
  deriving DecidableEq, Repr

namespace StorageOptions

def standard : StorageOptions := ⟨none, false, false⟩

def members (o : StorageOptions) : Members :=
  [("size_limit", match o.sizeLimit with
      | some n => Document.ofInt n
      | none => .null),
    ("read_only", .boolean o.readOnly), ("show_hidden", .boolean o.showHidden)]

/-- Options as JSON text. -/
def text (o : StorageOptions) : String := (Document.object o.members).text

/-- Options for diagnostics. -/
def inspect (o : StorageOptions) : String :=
  let limit := match o.sizeLimit with
    | some n => s!"Some({n})"
    | none => "None"
  "StorageOptions \x7b size_limit: " ++ limit ++ s!", read_only: {o.readOnly}, " ++
    s!"show_hidden: {o.showHidden} \x7d"

end StorageOptions

/-- How content types of files are found: by a table of extensions, or one type for all. -/
inductive ContentTyping where
  | byName (known : List (String × String) := ContentType.usual)
  | fixed (type : String)
  deriving DecidableEq, Repr

/-- What metadata is made of: what the backend tells, or also the document in the file beside the
item whose name has a suffix more. -/
inductive MetadataSource where
  | basic
  | sidecar (suffix : String)
  deriving DecidableEq, Repr

/-- The suffix that is usual for files with metadata. -/
def MetadataSource.usualSuffix : String := ".meta.json"

structure Storage where
  number : Nat
  name : String
  backend : Backend
  options : StorageOptions
  typing : ContentTyping
  metadataSource : MetadataSource
  deriving Repr

/-- Add a storage that is open. -/
def World.addStorage (w : World) (make : Nat → Storage) (cached : Bool) : Storage × World :=
  (make w.sessions.length,
    { w with sessions := w.sessions ++ [⟨true, if cached then some [] else none⟩] })

/-- Add an empty tree. -/
def World.addTree (w : World) : Place × World :=
  (.memory w.trees.length, { w with trees := w.trees ++ [.empty] })

namespace Storage

/-- Are two storages one and the same? -/
def same (s t : Storage) : Bool := s.number == t.number

def isOpen (s : Storage) (w : World) : Bool := (w.session s.number).isOpen

/-- Close a storage. Its cache forgets everything. -/
def close (s : Storage) (w : World) : World :=
  let now := w.session s.number
  if now.isOpen then w.setSession s.number ⟨false, now.cache.map fun _ => []⟩ else w

/-- Open a storage again. -/
def reopen (s : Storage) (w : World) : World :=
  w.setSession s.number { w.session s.number with isOpen := true }

/-- Refuse a closed storage. -/
def validate (s : Storage) : Query FileError Unit := fun w =>
  if s.isOpen w then .ok () else .error (.closed s.name)

/-- Refuse a storage that is only read from. -/
def checkWritable (s : Storage) : Except FileError Unit :=
  if s.options.readOnly then .error (.readOnly s.name) else .ok ()

/-- Is a path kept out of sight? -/
def hides (s : Storage) (p : StoragePath) : Bool := !s.options.showHidden && p.isHidden

/-- What the backend tells about a path, with no regard to policy. -/
def entry (s : Storage) (p : StoragePath) : Query FileError (Option EntryMeta) :=
  (s.backend.metadata p).mapError (.io p)

/-- What is remembered about a path. -/
def cached? (s : Storage) (p : StoragePath) (w : World) : Option Members :=
  (w.session s.number).cache.bind fun c => c.get? p

/-- Change the cache, if there is one. -/
def onCache (s : Storage) (f : Cache → Cache) (w : World) : World :=
  let now := w.session s.number
  w.setSession s.number { now with cache := now.cache.map f }

/-- Remember the metadata of a path. -/
def remember (s : Storage) (p : StoragePath) (metadata : Members) (w : World) : World :=
  s.onCache (Cache.put p metadata) w

/-- Forget what is known around a path. -/
def invalidate (s : Storage) (p : StoragePath) (w : World) : World :=
  s.onCache (Cache.invalidate p) w

/-- A storage for diagnostics. -/
def inspect (s : Storage) (w : World) : String :=
  "Storage \x7b name: " ++ inspectText s.name ++ ", options: " ++ s.options.inspect ++
    s!", open: {s.isOpen w}, .. \x7d"

end Storage

end Cabinet
