import Cabinet.Registry.Reader
import Cabinet.Storage.Item

/-!
Registries: storages under their names, in the order of the names. A registry is made from a
configuration, and closes the storages that leave it.
-/

namespace Cabinet

inductive RegistryError where
  | duplicate (name : String)
  | unknown (name : String)
  | backend (name : String) (cause : FileError)
  | config (text : String)
  | unreadable (native : String) (cause : IoError)
  deriving DecidableEq, Repr

/-- The name of a kind of failure. -/
def RegistryError.kindName : RegistryError → String
  | duplicate _ => "Duplicate"
  | unknown _ => "Unknown"
  | backend _ cause => "Backend/" ++ cause.kindName
  | config _ => "Config"
  | unreadable .. => "Io"

def RegistryError.message : RegistryError → String
  | duplicate name => s!"a storage named '{name}' is already registered"
  | unknown name => s!"no storage named '{name}'"
  | backend name cause => s!"storage '{name}' could not be created: {cause.message}"
  | config text => s!"invalid registry configuration: {text}"
  | unreadable native cause => s!"could not read registry configuration {native}: {cause.message}"

/-- The text of a file of the system. -/
def World.readNative (w : World) (native : String) : Except IoError String :=
  match (Disk.names? native).map (w.disk.entry true) with
  | none => .error (.refused .noEntry)
  | some (.error e) => .error e
  | some (.ok (.file number)) =>
    match Utf8.decode (w.disk.body number).contents with
    | .ok cs => .ok (String.ofList cs)
    | .error _ => .error .notTextFile
  | some (.ok _) => .error (.refused .isADirectory)

namespace RegistryConfig

def ofText (text : String) : Except RegistryError RegistryConfig :=
  (parse text).mapError .config

/-- Read a configuration from a file of the system. -/
def ofNative (w : World) (native : String) : Except RegistryError RegistryConfig :=
  match w.readNative native with
  | .error e => .error (.unreadable native e)
  | .ok text => ofText text

end RegistryConfig

structure Registry where
  storages : List Storage
  deriving Repr

namespace Registry

def empty : Registry := ⟨[]⟩

def get? (r : Registry) (name : String) : Option Storage :=
  r.storages.find? fun s => s.name == name

def get (r : Registry) (name : String) : Except RegistryError Storage :=
  match r.get? name with
  | some s => .ok s
  | none => .error (.unknown name)

def contains (r : Registry) (name : String) : Bool := (r.get? name).isSome

def names (r : Registry) : List String := r.storages.map Storage.name

/-- Put a storage in its place among others. -/
def insert (s : Storage) : List Storage → List Storage
  | [] => [s]
  | t :: rest => if s.name < t.name then s :: t :: rest else t :: insert s rest

/-- Add a storage under its name, which must be free. -/
def register (r : Registry) (s : Storage) : Except RegistryError Registry :=
  if r.contains s.name then .error (.duplicate s.name) else .ok ⟨insert s r.storages⟩

/-- Take a storage out and close it. -/
def unregister (r : Registry) (name : String) (w : World) :
    Except RegistryError (Storage × Registry) × World :=
  match r.get? name with
  | none => (.error (.unknown name), w)
  | some s => (.ok (s, ⟨r.storages.filter fun t => t.name != name⟩), s.close w)

/-- Close every storage. -/
def closeAll (r : Registry) (w : World) : World :=
  r.storages.foldl (fun w s => s.close w) w

/-- Open the place of a configured storage's entries. -/
def openPlace (c : StorageConfig) (w : World) : Except FileError (Place × World) :=
  match c.backend with
  | .memory => .ok w.addTree
  | .directory native =>
    (Directory.root? w.disk c.options.readOnly native).map fun root => (.directory root, w)

/-- Make a configured storage. -/
def makeStorage (c : StorageConfig) (w : World) : Except RegistryError (Storage × World) :=
  match openPlace c w with
  | .error e => .error (.backend c.name e)
  | .ok (place, w) =>
    .ok (w.addStorage (fun number =>
      ⟨number, c.name, ⟨place, .plain⟩, c.options, .byName, .basic⟩) c.cached)

/-- Add configured storages in order. A name that is taken is refused before its place is looked
for. -/
def addAll (r : Registry) (w : World) : List StorageConfig → Except RegistryError (Registry × World)
  | [] => .ok (r, w)
  | c :: rest =>
    if r.contains c.name then .error (.duplicate c.name)
    else
      match makeStorage c w with
      | .error e => .error e
      | .ok (s, w) =>
        match r.register s with
        | .error e => .error e
        | .ok r => addAll r w rest

/-- The registry of a configuration. -/
def ofConfig (c : RegistryConfig) (w : World) : Except RegistryError (Registry × World) :=
  addAll .empty w c.storages

end Registry

end Cabinet
