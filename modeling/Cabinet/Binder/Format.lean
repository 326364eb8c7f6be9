import Cabinet.Text.Blank

/-!
Names of formats, as media types. What follows a semicolon is a parameter and does not count.
-/

namespace Cabinet

structure Format where
  text : String
  deriving DecidableEq, Repr

namespace Format

def json : Format := ⟨"application/json"⟩

def properties : Format := ⟨"text/x-properties"⟩

def plainText : Format := ⟨"text/plain"⟩

def octetStream : Format := ⟨"application/octet-stream"⟩

/-- The format of values in memory, named in errors about them. -/
def inMemory : Format := ⟨"application/x-webcore-value"⟩

/-- The media type without its parameters. -/
def essence (f : Format) : String :=
  String.ofList (trim (f.text.toList.takeWhile (· != ';')))

/-- Do two formats name one media type? Case does not count. -/
def isSame (f g : Format) : Bool :=
  f.essence.toList.map Char.toLower == g.essence.toList.map Char.toLower

def isJson (f : Format) : Bool :=
  f.isSame json

def isProperties (f : Format) : Bool :=
  f.isSame properties

end Format

end Cabinet
