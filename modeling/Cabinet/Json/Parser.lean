import Cabinet.Document.Members
import Cabinet.Json.Scan

/-!
Reading documents from JSON text or bytes. At most `depthLimit` containers may be open at once. Of
members with one key the first gives the place and the last the value.
-/

namespace Cabinet.Json

open Utf8 (Piece)

/-- How many containers may be open at once. -/
def depthLimit : Nat := 127

/-- The rest of an array, its elements read by `read`. Each turn uses up some of the text, so its
length bounds their number. -/
def elements (read : List Piece → Result Document) :
    Nat → Bool → List Document → List Piece → Result (List Document)
  | 0, _, _, rest => .error ⟨.endInList, rest, 0⟩
  | fuel + 1, first, done, rest =>
    let next := fun text =>
      match read text with
      | .error f => .error f
      | .ok (d, after) => elements read fuel false (d :: done) after
    let here := skipSpace rest
    match here with
    | [] => .error ⟨.endInList, here, 0⟩
    | p :: after =>
      if p = .char ']' then .ok (done.reverse, after)
      else if first then next here
      else if p = .char ',' then
        let here := skipSpace after
        match here with
        | [] => .error ⟨.endInValue, here, 0⟩
        | q :: _ => if q = .char ']' then .error ⟨.trailingComma, here, 1⟩ else next here
      else .error ⟨.expectedCommaOrBracket, here, 1⟩

/-- The colon between a key and its value. -/
def colon (rest : List Piece) : Result Unit :=
  let here := skipSpace rest
  match here with
  | [] => .error ⟨.endInObject, here, 0⟩
  | p :: after => if p = .char ':' then .ok ((), after) else .error ⟨.expectedColon, here, 1⟩

/-- A key after its opening quote, the colon and the value. -/
def member (read : List Piece → Result Document) (rest : List Piece) :
    Result (String × Document) :=
  match string rest with
  | .error f => .error f
  | .ok (key, rest) =>
    match colon rest with
    | .error f => .error f
    | .ok (_, rest) =>
      match read rest with
      | .error f => .error f
      | .ok (d, rest) => .ok ((key, d), rest)

/-- The rest of an object. -/
def members (read : List Piece → Result Document) :
    Nat → Bool → List (String × Document) → List Piece → Result (List (String × Document))
  | 0, _, _, rest => .error ⟨.endInObject, rest, 0⟩
  | fuel + 1, first, done, rest =>
    let next := fun text =>
      match member read text with
      | .error f => .error f
      | .ok (m, after) => members read fuel false (m :: done) after
    let here := skipSpace rest
    match here with
    | [] => .error ⟨.endInObject, here, 0⟩
    | p :: after =>
      if p = .char '\x7d' then .ok (done.reverse, after)
      else if first then
        if p = .char '"' then next after else .error ⟨.keyNotString, here, 1⟩
      else if p = .char ',' then
        let here := skipSpace after
        match here with
        | [] => .error ⟨.endInValue, here, 0⟩
        | q :: after =>
          if q = .char '"' then next after
          else if q = .char '\x7d' then .error ⟨.trailingComma, here, 1⟩
          else .error ⟨.keyNotString, here, 1⟩
      else .error ⟨.expectedCommaOrBrace, here, 1⟩

/-- Apply a constructor to what a reader gives. -/
def Result.map {α β : Type} (f : α → β) : Result α → Result β
  | .error e => .error e
  | .ok (a, rest) => .ok (f a, rest)

/-- A value whose elements and member values are read by `inner`; none when no container may be
opened any more. -/
def valueWith (inner : Option (List Piece → Result Document)) (rest : List Piece) :
    Result Document :=
  let here := skipSpace rest
  match here with
  | [] => .error ⟨.endInValue, here, 0⟩
  | .char c :: after =>
    if c = 'n' then (literal ['u', 'l', 'l'] after).map fun _ => .null
    else if c = 't' then (literal ['r', 'u', 'e'] after).map fun _ => .boolean true
    else if c = 'f' then (literal ['a', 'l', 's', 'e'] after).map fun _ => .boolean false
    else if c = '-' then (number true after).map .number
    else if isDigit c then (number false here).map .number
    else if c = '"' then (string after).map .string
    else if c = '[' then
      match inner with
      | none => .error ⟨.tooDeep, here, 1⟩
      | some read => (elements read (after.length + 1) true [] after).map .array
    else if c = '\x7b' then
      match inner with
      | none => .error ⟨.tooDeep, here, 1⟩
      | some read =>
        (members read (after.length + 1) true [] after).map fun ms => .object (Members.ofList ms)
    else .error ⟨.expectedValue, here, 1⟩
  | _ :: _ => .error ⟨.expectedValue, here, 1⟩

/-- A value that may open some number of containers. -/
def value : Nat → List Piece → Result Document
  | 0 => valueWith none
  | depth + 1 => valueWith (some (value depth))

/-- A text that is one value, but for blanks around it. -/
def document (text : List Piece) : Except Fault Document :=
  match value depthLimit text with
  | .error f => .error f
  | .ok (d, rest) =>
    match skipSpace rest with
    | [] => .ok d
    | rest => .error ⟨.trailingText, rest, 1⟩

def ofPieces (text : List Piece) : Except DocumentError Document :=
  (document text).mapError (Fault.error text)

end Json

namespace Document

/-- Read a document from JSON text. -/
def parse (text : String) : Except DocumentError Document :=
  Json.ofPieces (text.toList.map .char)

/-- Read a document from bytes that should be JSON text in UTF-8. -/
def ofBytes (bytes : List UInt8) : Except DocumentError Document :=
  Json.ofPieces (Utf8.pieces bytes)

/-- Refuse a document that is not of a kind; the text after it has not been looked at. -/
def wrongKind (d : Document) (expected : String) : DocumentError :=
  .parse 0 0 s!"invalid type: {d.kind.name}, expected {expected}"

/-- Read a document that must satisfy a test, made before the text after it is looked at. -/
def parseAs (accepts : Document → Bool) (expected : String) (text : List Utf8.Piece) :
    Except DocumentError Document :=
  match Json.value Json.depthLimit text with
  | .ok (d, _) => if accepts d then Json.ofPieces text else .error (wrongKind d expected)
  | .error f => .error (f.error text)

/-- Read an array. -/
def parseArray (text : List Utf8.Piece) : Except DocumentError Document :=
  parseAs (·.is .array) "a JSON array" text

/-- Read an object. -/
def parseObject (text : List Utf8.Piece) : Except DocumentError Document :=
  parseAs (·.is .object) "a JSON object" text

end Document

end Cabinet
