import Cabinet.Path.Printer

/-!
What a validation run carries along: the location it has come to and the errors found so far.
-/

namespace Cabinet

/-- A complaint about what is at a location. -/
structure ValidationError where
  location : Location
  text : String
  deriving DecidableEq, Repr

def ValidationError.message (e : ValidationError) : String :=
  e.location.text ++ ": " ++ e.text

structure Context where
  location : Location
  errors : List ValidationError
  deriving DecidableEq, Repr

namespace Context

def root : Context := ⟨[], []⟩

def push (s : Step) (c : Context) : Context :=
  { c with location := c.location ++ [s] }

def pop (c : Context) : Context :=
  { c with location := c.location.dropLast }

/-- Record a complaint at the current location. -/
def complain (text : String) (c : Context) : Context :=
  { c with errors := c.errors ++ [⟨c.location, text⟩] }

def isValid (c : Context) : Bool :=
  c.errors.isEmpty

/-- A context at the same location without errors. -/
def fork (c : Context) : Context :=
  ⟨c.location, []⟩

/-- Take over the errors of another context. -/
def absorb (c other : Context) : Context :=
  { c with errors := c.errors ++ other.errors }

end Context

end Cabinet
