import Cabinet.Storage.Cache
import Cabinet.Storage.Directory

/-!
The state that storages share: the disk, the trees kept in memory, and what changes about each
storage. A query reads it; an action reads and changes it, and what an action has changed stays
changed when it fails.
-/

namespace Cabinet

/-- What changes about a storage: whether it is open, and its cache if it keeps one. -/
structure Session where
  isOpen : Bool
  cache : Option Cache

structure World where
  disk : Disk
  trees : List Tree
  sessions : List Session

abbrev Query (ε α : Type) := ReaderT World (Except ε) α

abbrev Action (ε α : Type) := ExceptT ε (StateM World) α

namespace World

def empty : World := ⟨.empty, [], []⟩

def tree (w : World) (i : Nat) : Tree := w.trees.getD i .empty

def setTree (w : World) (i : Nat) (t : Tree) : World := { w with trees := w.trees.set i t }

def session (w : World) (i : Nat) : Session := w.sessions.getD i ⟨true, none⟩

def setSession (w : World) (i : Nat) (s : Session) : World := { w with sessions := w.sessions.set i s }

end World

/-- Change the errors of a query. -/
def Query.mapError {ε δ α : Type} (f : ε → δ) (q : Query ε α) : Query δ α :=
  fun w => (q w).mapError f

namespace Action

variable {ε δ α : Type}

/-- Change the errors of an action. -/
def mapError (f : ε → δ) (a : Action ε α) : Action δ α := fun w =>
  let r := a w
  (r.1.mapError f, r.2)

/-- Ask a query. -/
def ofQuery (q : Query ε α) : Action ε α := fun w => (q w, w)

instance : MonadLift (Query ε) (Action ε) := ⟨ofQuery⟩

/-- Replace a tree by what a function gives, unless that fails. -/
def onTree (i : Nat) (f : Tree → Except ε Tree) : Action ε Unit := fun w =>
  match f (w.tree i) with
  | .ok t => (.ok (), w.setTree i t)
  | .error e => (.error e, w)

/-- Replace the disk by what a function gives, unless that fails. -/
def onDisk (f : Disk → Except ε Disk) : Action ε Unit := fun w =>
  match f w.disk with
  | .ok disk => (.ok (), { w with disk })
  | .error e => (.error e, w)

end Action

end Cabinet
