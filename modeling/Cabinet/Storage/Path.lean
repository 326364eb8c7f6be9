/-!
Paths inside a storage: the names of the entries on the way down from its root. A name given by a
caller is resolved part by part, so that no path leads above the root. Paths are ordered name by
name, which puts every path right before the ones below it.
-/

namespace Cabinet

/-- The segments below a storage's root. -/
structure StoragePath where
  segments : List String
  deriving DecidableEq, Repr

namespace StoragePath

def root : StoragePath := ⟨[]⟩

instance : Inhabited StoragePath := ⟨root⟩

def isRoot (p : StoragePath) : Bool := p.segments.isEmpty

def depth (p : StoragePath) : Nat := p.segments.length

/-- The last segment; nothing for the root. -/
def name (p : StoragePath) : String := p.segments.getLastD ""

def child (p : StoragePath) (segment : String) : StoragePath := ⟨p.segments ++ [segment]⟩

def text (p : StoragePath) : String :=
  if p.isRoot then "/" else String.join (p.segments.map ("/" ++ ·))

/-! ### Names -/

/-- Either slash separates the parts of a name. -/
def isSeparator (c : Char) : Bool := c == '/' || c == '\\'

/-- The stretches between separators, empty ones included. -/
def cut {α : Type} (separates : α → Bool) : List α → List (List α)
  | [] => [[]]
  | c :: cs =>
    if separates c then [] :: cut separates cs
    else
      match cut separates cs with
      | [] => [[c]]
      | part :: parts => (c :: part) :: parts

/-- The parts of a name. -/
def parts (name : String) : List String :=
  (cut isSeparator name.toList).map String.ofList

/-- Does a name start over at the root? -/
def isAbsolute (name : String) : Bool :=
  match name.toList with
  | [] => false
  | c :: _ => isSeparator c

/-- Follow one part of a name: nothing and a dot stay, two dots go up and fail at the root, and
everything else goes down. -/
def follow? (segments : List String) (part : String) : Option (List String) :=
  if part = "" || part = "." then some segments
  else if part = ".." then
    if segments.isEmpty then none else some segments.dropLast
  else some (segments ++ [part])

/-- Follow parts in order. -/
def followAll? (segments : List String) : List String → Option (List String)
  | [] => some segments
  | part :: rest => (follow? segments part).bind fun next => followAll? next rest

/-- The path that a name means at a path; none when some part climbs above the root. -/
def resolve? (p : StoragePath) (name : String) : Option StoragePath :=
  (followAll? (if isAbsolute name then [] else p.segments) (parts name)).map StoragePath.mk

/-- The path that a name means at the root. -/
def parse? (name : String) : Option StoragePath := root.resolve? name

/-- What follows the last dot of a name, unless that is its first character. -/
def extensionOf? (name : String) : Option String :=
  let reversed := name.toList.reverse
  let tail := reversed.takeWhile (· != '.')
  if tail.length + 1 < reversed.length then some (String.ofList tail.reverse) else none

def extension? (p : StoragePath) : Option String := extensionOf? p.name

/-! ### Above and below -/

def parent? (p : StoragePath) : Option StoragePath :=
  if p.isRoot then none else some ⟨p.segments.dropLast⟩

/-- The parent, or the root for the root. -/
def folder (p : StoragePath) : StoragePath := ⟨p.segments.dropLast⟩

/-- The proper prefixes of a list, longest first. -/
def shorter : List String → List (List String)
  | [] => []
  | s :: rest => (shorter rest).map (s :: ·) ++ [[]]

/-- The paths on the way up to the root, nearest first. -/
def ancestors (p : StoragePath) : List StoragePath :=
  (shorter p.segments).map StoragePath.mk

/-- Is a path another one or below it? -/
def startsWith (p q : StoragePath) : Bool := q.segments.isPrefixOf p.segments

/-- What is left of a list after a prefix. -/
def stripPrefix? {α : Type} [DecidableEq α] : List α → List α → Option (List α)
  | [], rest => some rest
  | _ :: _, [] => none
  | a :: as, b :: bs => if a = b then stripPrefix? as bs else none

/-- The same place below another path; none when the path is not below the first. -/
def rebase? (p source target : StoragePath) : Option StoragePath :=
  (stripPrefix? source.segments p.segments).map fun rest => ⟨target.segments ++ rest⟩

/-- A segment that begins with a dot hides everything below it, too. -/
def isHidden (p : StoragePath) : Bool :=
  p.segments.any fun s => s.toList.head? == some '.'

/-! ### Order -/

/-- Lists in order of their first difference; a prefix comes first. -/
def compareSegments : List String → List String → Ordering
  | [], [] => .eq
  | [], _ :: _ => .lt
  | _ :: _, [] => .gt
  | a :: as, b :: bs => (compare a b).then (compareSegments as bs)

instance : Ord StoragePath := ⟨fun p q => compareSegments p.segments q.segments⟩

/-- Does a path come before another one? -/
def before (p q : StoragePath) : Bool := compare p q == .lt

end StoragePath

end Cabinet
