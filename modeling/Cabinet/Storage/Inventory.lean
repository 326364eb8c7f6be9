import Cabinet.Storage.Backend
import Cabinet.Text.Hex

/-!
Inventories: every entry below a backend's root on a line of its own, in path order. A folder ends in a
slash, a file shows its contents or, when they are long, their size; a path that counts as no entry ends
in a question mark.
-/

namespace Cabinet.Backend

/-- The most bytes that are shown. -/
def shownLimit : Nat := 100

/-- The line of a path. -/
def inventoryLine (b : Backend) (w : World) (p : StoragePath) : String :=
  match b.metadata p w with
  | .error e => p.text ++ "!" ++ e.message
  | .ok none => p.text ++ "?"
  | .ok (some m) =>
    if m.isFolder then p.text ++ "/"
    else
      match (b.openRead p w).bind fun r => r.rest w with
      | .error e => p.text ++ "!" ++ e.message
      | .ok bytes =>
        if shownLimit < bytes.length then p.text ++ "#" ++ toString bytes.length
        else p.text ++ "=" ++ Hex.textOr bytes

def inventory (b : Backend) (w : World) : List String :=
  match b.walk .root w with
  | .error e => ["!" ++ e.message]
  | .ok paths => (paths.mergeSort fun p q => !q.before p).map (b.inventoryLine w)

end Cabinet.Backend
