import Cabinet.Error
import Cabinet.Text.Utf8

/-!
What can be wrong with a JSON text, and where. A fault keeps the text that was left when it was
noticed; its line and column are counted from that.
-/

namespace Cabinet.Json

open Utf8 (Piece)

inductive Cause where
  | endInList
  | endInObject
  | endInString
  | endInValue
  | expectedColon
  | expectedCommaOrBracket
  | expectedCommaOrBrace
  | expectedLiteral
  | expectedValue
  | invalidEscape
  | invalidNumber
  | numberOutOfRange
  | invalidCodePoint
  | controlCharacter
  | keyNotString
  | loneSurrogate
  | trailingComma
  | trailingText
  | endInEscape
  | tooDeep
  deriving DecidableEq, Repr

def Cause.message : Cause → String
  | endInList => "EOF while parsing a list"
  | endInObject => "EOF while parsing an object"
  | endInString => "EOF while parsing a string"
  | endInValue => "EOF while parsing a value"
  | expectedColon => "expected \x60:\x60"
  | expectedCommaOrBracket => "expected \x60,\x60 or \x60]\x60"
  | expectedCommaOrBrace => "expected \x60,\x60 or \x60\x7d\x60"
  | expectedLiteral => "expected ident"
  | expectedValue => "expected value"
  | invalidEscape => "invalid escape"
  | invalidNumber => "invalid number"
  | numberOutOfRange => "number out of range"
  | invalidCodePoint => "invalid unicode code point"
  | controlCharacter => "control character (\\u0000-\\u001F) found while parsing a string"
  | keyNotString => "key must be a string"
  | loneSurrogate => "lone leading surrogate in hex escape"
  | trailingComma => "trailing comma"
  | trailingText => "trailing characters"
  | endInEscape => "unexpected end of hex escape"
  | tooDeep => "recursion limit exceeded"

/-- A cause and the place it was noticed at: `ahead` bytes into the text that was left, or its end
when there are fewer. -/
structure Fault where
  cause : Cause
  rest : List Piece
  ahead : Nat

/-- How many bytes pieces stand for. -/
def size (text : List Piece) : Nat :=
  text.foldl (fun n p => n + p.width) 0

/-- The line and column some bytes into a text. Lines count from one; a column is the number of
bytes since the line began. -/
def position (line column : Nat) : Nat → List Piece → Nat × Nat
  | 0, _ => (line, column)
  | _, [] => (line, column)
  | offset, p :: rest =>
    if p = .char '\n' then position (line + 1) 0 (offset - 1) rest
    else if offset ≤ p.width then (line, column + offset)
    else position line (column + p.width) (offset - p.width) rest

/-- The line and column of the place `ahead` bytes into what is left of a text. -/
def place (text rest : List Piece) (ahead : Nat) : Nat × Nat :=
  position 1 0 (size text - size rest + min ahead (size rest)) text

/-- The message of a fault found at a place. -/
def located (text : String) (place : Nat × Nat) : String :=
  s!"{text} at line {place.1} column {place.2}"

def Fault.error (text : List Piece) (f : Fault) : DocumentError :=
  let spot := place text f.rest f.ahead
  .parse spot.1 spot.2 (located f.cause.message spot)

end Cabinet.Json
