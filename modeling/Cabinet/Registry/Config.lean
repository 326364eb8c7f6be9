import Cabinet.Storage.Basic

/-!
The configuration of a registry: which storages there are to be, where their entries are, and with
which options.
-/

namespace Cabinet

/-- Where the entries of a configured storage are: a new tree in memory, or a directory. -/
inductive BackendConfig where
  | memory
  | directory (path : String)
  deriving DecidableEq, Repr

structure StorageConfig where
  name : String
  backend : BackendConfig
  options : StorageOptions
  cached : Bool
  deriving DecidableEq, Repr

structure RegistryConfig where
  storages : List StorageConfig
  deriving DecidableEq, Repr

namespace BackendConfig

def members : BackendConfig → Members
  | memory => [("type", .string "memory")]
  | directory path => [("type", .string "local"), ("path", .string path)]

end BackendConfig

def StorageConfig.document (c : StorageConfig) : Document :=
  .object ([("name", .string c.name), ("backend", .object c.backend.members)] ++ c.options.members ++
    [("cache", .boolean c.cached)])

namespace RegistryConfig

def empty : RegistryConfig := ⟨[]⟩

def document (c : RegistryConfig) : Document :=
  .object [("storages", .array (c.storages.map StorageConfig.document))]

/-- A configuration as JSON text. -/
def text (c : RegistryConfig) : String := c.document.text

end RegistryConfig

end Cabinet
