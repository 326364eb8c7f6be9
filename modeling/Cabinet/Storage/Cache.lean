import Cabinet.Document.Members
import Cabinet.Storage.Path

/-!
Metadata that was computed, by path. A change at a path takes away what is known about the paths
above it and below it.
-/

namespace Cabinet

/-- Remembered metadata, each path once. -/
abbrev Cache := List (StoragePath × Members)

namespace Cache

def get? (p : StoragePath) : Cache → Option Members
  | [] => none
  | e :: rest => if e.1 = p then some e.2 else get? p rest

/-- Remember metadata instead of what was known about a path. -/
def put (p : StoragePath) (metadata : Members) (c : Cache) : Cache :=
  (p, metadata) :: c.filter fun e => decide (e.1 ≠ p)

/-- Forget every path that is above, at or below a path. -/
def invalidate (p : StoragePath) (c : Cache) : Cache :=
  c.filter fun e => !e.1.startsWith p && !p.startsWith e.1

end Cache

end Cabinet
