import Cabinet.Storage.Backend

/-!
A backend in use: readers and writers that are open under names, while its other operations go on. A
handle that is opened under a name in use takes the place of the one before, which is given up after
the opening.
-/

namespace Cabinet

structure Desk where
  world : World
  backend : Backend
  readers : List (String × Reader)
  writers : List (String × Writer)

/-- What is done with a backend in use. -/
abbrev DeskAction (α : Type) := ExceptT IoError (StateM Desk) α

namespace Desk

/-- Handles with one that is new under its name. -/
def replace {α : Type} (name : String) (a : α) (handles : List (String × α)) : List (String × α) :=
  (name, a) :: handles.filter fun h => h.1 != name

def ask {α : Type} (q : Query IoError α) : DeskAction α := fun d => (q d.world, d)

def act {α : Type} (a : Action IoError α) : DeskAction α := fun d =>
  let r := a d.world
  (r.1, { d with world := r.2 })

def openRead (name : String) (p : StoragePath) : DeskAction Unit := do
  let r ← ask ((← get).backend.openRead p)
  modify fun d => { d with readers := replace name r d.readers }

/-- Everything that is left to read; none when no reader has the name. -/
def readAll (name : String) : DeskAction (Option Bytes) := do
  let d ← get
  match d.readers.lookup name with
  | none => return none
  | some r =>
    set { d with readers := replace name (r.atEnd d.world) d.readers }
    return some (← ask fun w => r.rest w)

/-- Give up a writer; tells whether there was one. -/
def drop (name : String) : DeskAction Bool := do
  let d ← get
  match d.writers.lookup name with
  | none => return false
  | some x =>
    set { d with world := x.close d.world, writers := d.writers.filter fun h => h.1 != name }
    return true

def openWrite (name : String) (p : StoragePath) : DeskAction Unit := do
  let x ← act ((← get).backend.openWrite p)
  let _ ← drop name
  modify fun d => { d with writers := replace name x d.writers }

/-- Use a writer; tells whether there is one. -/
def onWriter (name : String) (f : Writer → World → Except IoError Unit × Writer × World) :
    DeskAction Bool := fun d =>
  match d.writers.lookup name with
  | none => (.ok false, d)
  | some x =>
    let (r, x, world) := f x d.world
    (r.map fun _ => true, { d with world, writers := replace name x d.writers })

def write (name : String) (bytes : Bytes) : DeskAction Bool :=
  onWriter name fun x => x.write bytes

def flush (name : String) : DeskAction Bool :=
  onWriter name Writer.flush

end Desk

end Cabinet
