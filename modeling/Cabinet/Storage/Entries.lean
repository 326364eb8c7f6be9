import Cabinet.Storage.Path

/-!
Entries by path, kept in path order, each path once. A folder's entry comes right before everything
below it.
-/

namespace Cabinet

abbrev Entries (α : Type) := List (StoragePath × α)

namespace Entries

variable {α : Type}

/-- The entry at a path. -/
def get? (p : StoragePath) : Entries α → Option α
  | [] => none
  | e :: rest => if e.1 = p then some e.2 else get? p rest

/-- Store an entry in its place, instead of one that is there. -/
def put (p : StoragePath) (a : α) : Entries α → Entries α
  | [] => [(p, a)]
  | e :: rest =>
    if e.1 = p then (p, a) :: rest
    else if p.before e.1 then (p, a) :: e :: rest
    else e :: put p a rest

/-- Everything but the entry at a path. -/
def erase (p : StoragePath) (es : Entries α) : Entries α :=
  es.filter fun e => decide (e.1 ≠ p)

/-- Everything at or below a path. -/
def within (p : StoragePath) (es : Entries α) : Entries α :=
  es.filter fun e => e.1.startsWith p

/-- Everything that is neither at nor below a path. -/
def outside (p : StoragePath) (es : Entries α) : Entries α :=
  es.filter fun e => !e.1.startsWith p

/-- The names right below a path, in order. -/
def names (p : StoragePath) (es : Entries α) : List String :=
  ((within p es).filter fun e => e.1.depth == p.depth + 1).map fun e => e.1.name

/-- The entries from a path on, up to the first one that is neither at nor below the path. -/
def scan (p : StoragePath) (es : Entries α) : Entries α :=
  (es.dropWhile fun e => e.1.before p).takeWhile fun e => e.1.startsWith p

/-- The names right below a path, as a scan comes by them. -/
def scannedNames (p : StoragePath) (es : Entries α) : List String :=
  ((scan p es).filter fun e => e.1.depth == p.depth + 1).map fun e => e.1.name

/-- The paths below a path, in order. -/
def below (p : StoragePath) (es : Entries α) : List StoragePath :=
  ((within p es).filter fun e => decide (e.1 ≠ p)).map Prod.fst

/-- Put entries at the same places below another path. -/
def graft (source target : StoragePath) (moved es : Entries α) : Entries α :=
  moved.foldl (fun es e =>
    match e.1.rebase? source target with
    | some p => put p e.2 es
    | none => es) es

/-- Drop what is at or below `target`, then move what is left at or below `source` there. -/
def move (source target : StoragePath) (es : Entries α) : Entries α :=
  let kept := outside target es
  graft source target (within source kept) (outside source kept)

end Entries

end Cabinet
