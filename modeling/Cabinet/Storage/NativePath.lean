import Cabinet.Storage.Path
import Cabinet.Text.Utf8

/-!
How paths of a storage appear as file names of the system. To the system a file name is bytes, of which
only `/` separates; a segment of a path is text, and its UTF-8 stands in the file name. File names are
compared component by component, so that a directory whose name merely begins like another one's is
not taken for it.
-/

namespace Cabinet

namespace FileName

def slash : UInt8 := 0x2F

def dot : UInt8 := 0x2E

/-- The file name that is spelt like a text. -/
def ofText (text : String) : List UInt8 := Utf8.encode text.toList

/-- The text of a file name, if it is any. -/
def text? (name : List UInt8) : Option String :=
  match Utf8.decode name with
  | .ok cs => some (String.ofList cs)
  | .error _ => none

/-- The stretches between slashes, empty ones included. -/
def parts (native : List UInt8) : List (List UInt8) := StoragePath.cut (· == slash) native

/-- Add a name without slashes to a file name. -/
def extend (native name : List UInt8) : List UInt8 :=
  if native = [] || native.getLast? == some slash then native ++ name else native ++ slash :: name

end FileName

/-- A component of a file name. -/
inductive Component where
  | root
  | here
  | up
  | named (name : List UInt8)
  deriving DecidableEq, Repr

namespace Component

open FileName (slash dot)

/-- The component that a stretch between slashes stands for; none for one that does not matter. -/
def ofPart? (part : List UInt8) : Option Component :=
  if part = [] || part = [dot] then none
  else if part = [dot, dot] then some up
  else some (named part)

/-- What a file name begins with, besides names: a slash, or a dot that stands alone. -/
def start? : List UInt8 → Option Component
  | [] => none
  | [c] => if c = slash then some root else if c = dot then some here else none
  | c :: d :: _ => if c = slash then some root else if c = dot && d = slash then some here else none

/-- The components of a file name. Repeated slashes and dots vanish, but for a dot that comes
first. -/
def ofFileName (native : List UInt8) : List Component :=
  (start? native).toList ++ (FileName.parts native).filterMap ofPart?

/-- The segments of components that all lead down to names that are text. -/
def segments? : List Component → Option (List String)
  | [] => some []
  | named name :: rest =>
    (FileName.text? name).bind fun s => (segments? rest).map (s :: ·)
  | here :: rest => segments? rest
  | root :: _ => none
  | up :: _ => none

end Component

namespace StoragePath

/-- Add a segment to a file name that is text. Segments have no slashes. -/
def join (native segment : String) : String :=
  if native = "" || native.endsWith "/" then native ++ segment else native ++ "/" ++ segment

/-- The file name of a path in a storage that is rooted at a directory whose name is text. -/
def native (root : String) (p : StoragePath) : String :=
  p.segments.foldl join root

/-- The file name of a path in a storage that is rooted at a directory. -/
def fileName (root : List UInt8) (p : StoragePath) : List UInt8 :=
  (p.segments.map FileName.ofText).foldl FileName.extend root

/-- The path of a file name, if it is the root's or leads down from it. -/
def ofFileName? (root native : List UInt8) : Option StoragePath :=
  ((stripPrefix? (Component.ofFileName root) (Component.ofFileName native)).bind
    Component.segments?).map StoragePath.mk

/-- The path of a file name that is text. -/
def ofNative? (root native : String) : Option StoragePath :=
  ofFileName? (FileName.ofText root) (FileName.ofText native)

end StoragePath

end Cabinet
