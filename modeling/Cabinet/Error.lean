/-!
What can go wrong with documents and paths, and how it is told.
-/

namespace Cabinet

/-- The end of an array that an element is taken from. -/
inductive ArrayEnd where
  | first
  | last
  deriving DecidableEq, Repr

/-- The causes of failure of operations on documents. Reading one as another kind is no failure: it
gives nothing. -/
inductive DocumentError where
  | parse (line column : Nat) (text : String)
  | emptyArray (side : ArrayEnd)
  | indexOutOfBounds (index length : Nat)
  | invalidPath (expression : String) (position : Nat) (text : String)
  | pathNotFound (path : String)
  | wrongType (path expected : String)
  | decode (format text : String)
  | encode (format text : String)
  | unsupportedFormat (format : String)
  deriving DecidableEq, Repr

/-- The name of a kind of failure. -/
def DocumentError.kindName : DocumentError → String
  | parse .. => "Parse"
  | emptyArray .. => "EmptyArray"
  | indexOutOfBounds .. => "IndexOutOfBounds"
  | invalidPath .. => "InvalidPath"
  | pathNotFound .. => "PathNotFound"
  | wrongType .. => "WrongType"
  | decode .. => "Decode"
  | encode .. => "Encode"
  | unsupportedFormat .. => "UnsupportedFormat"

def DocumentError.message : DocumentError → String
  | parse line column text => s!"parse error at line {line}, column {column}: {text}"
  | emptyArray .first => "cannot shift an empty array"
  | emptyArray .last => "cannot pop an empty array"
  | indexOutOfBounds index length => s!"index {index} out of bounds for array of length {length}"
  | invalidPath expression position text =>
    s!"invalid path '{expression}' at position {position}: {text}"
  | pathNotFound path => s!"no location matches path '{path}'"
  | wrongType path expected => s!"value at '{path}' is not {expected}"
  | decode format text => s!"decode error ({format}): {text}"
  | encode format text => s!"encode error ({format}): {text}"
  | unsupportedFormat format => s!"unsupported format: {format}"

end Cabinet
