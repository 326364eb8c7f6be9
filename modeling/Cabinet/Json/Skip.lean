import Cabinet.Json.Parser

/-!
Passing over a JSON value without reading it. Escapes are not joined into characters, numbers may be
of any size, and containers may lie in each other as deep as they like.
-/

namespace Cabinet.Json

open Utf8 (Piece)

/-- What is left of a text, or a fault. -/
abbrev Rest := Except Fault (List Piece)

/-- What is left after reading. -/
def Result.rest {α : Type} : Result α → Rest
  | .ok (_, rest) => .ok rest
  | .error f => .error f

/-- The digits of an exponent, after an optional sign. -/
def skipExponent (rest : List Piece) : Rest :=
  let (_, digits) := exponentSign rest
  if startsWithDigit digits then .ok (dropDigits 0 digits).2
  else .error ⟨.invalidNumber, digits, 1⟩

/-- An exponent or nothing. -/
def skipExponentOrEnd (rest : List Piece) : Rest :=
  match rest with
  | .char 'e' :: after => skipExponent after
  | .char 'E' :: after => skipExponent after
  | rest => .ok rest

/-- The part of a number after its leading digits. -/
def skipNumberTail (rest : List Piece) : Rest :=
  match rest with
  | .char '.' :: after =>
    if startsWithDigit after then skipExponentOrEnd (dropDigits 0 after).2
    else .error ⟨.invalidNumber, after, 1⟩
  | rest => skipExponentOrEnd rest

/-- A number after its sign. -/
def skipNumber (rest : List Piece) : Rest :=
  match rest with
  | .char '0' :: after =>
    if startsWithDigit after then .error ⟨.invalidNumber, after, 1⟩ else skipNumberTail after
  | rest =>
    if startsWithDigit rest then skipNumberTail (dropDigits 0 rest).2
    else .error ⟨.invalidNumber, rest, 1⟩

/-- What a backslash introduces. -/
def skipEscape (rest : List Piece) : Rest :=
  match rest with
  | [] => .error ⟨.endInString, rest, 0⟩
  | .char 'u' :: after => (hexEscape after).rest
  | .char c :: after =>
    if (shortEscape? c).isSome then .ok after else .error ⟨.invalidEscape, rest, 1⟩
  | _ :: _ => .error ⟨.invalidEscape, rest, 1⟩

/-- A string after its opening quote. The text left bounds the number of characters. -/
def skipString : Nat → List Piece → Rest
  | 0, rest => .error ⟨.endInString, rest, 0⟩
  | _, [] => .error ⟨.endInString, [], 0⟩
  | fuel + 1, .char c :: after =>
    if c = '"' then .ok after
    else if c = '\\' then
      match skipEscape after with
      | .error f => .error f
      | .ok after => skipString fuel after
    else if c.toNat < 0x20 then .error ⟨.controlCharacter, .char c :: after, 0⟩
    else skipString fuel after
  | fuel + 1, _ :: after => skipString fuel after

/-- A container that is open. -/
inductive Frame where
  | list
  | object
  deriving DecidableEq, Repr

/-- What comes next: a value, or what may stand after the start of a container or after one of the
values in it. -/
inductive Expected where
  | value
  | first
  | next
  deriving DecidableEq, Repr

/-- The key of a member and its colon. -/
def skipKey (rest : List Piece) : Rest :=
  let here := skipSpace rest
  match here with
  | [] => .error ⟨.endInObject, here, 0⟩
  | p :: after =>
    if p = .char '"' then
      match skipString (after.length + 1) after with
      | .error f => .error f
      | .ok after => (colon after).rest
    else .error ⟨.keyNotString, here, 1⟩

/-- A value that is no container. -/
def skipScalar (here : List Piece) : Rest :=
  match here with
  | .char c :: after =>
    if c = 'n' then (literal ['u', 'l', 'l'] after).rest
    else if c = 't' then (literal ['r', 'u', 'e'] after).rest
    else if c = 'f' then (literal ['a', 'l', 's', 'e'] after).rest
    else if c = '-' then skipNumber after
    else if isDigit c then skipNumber here
    else if c = '"' then skipString (after.length + 1) after
    else .error ⟨.expectedValue, here, 1⟩
  | here => .error ⟨.expectedValue, here, 1⟩

/-- Go on until every open container is closed. Each turn but one per container uses up some of the
text, which bounds the number of turns. -/
def skipOpen : Nat → List Frame → Expected → List Piece → Rest
  | 0, _, _, rest => .error ⟨.endInValue, rest, 0⟩
  | fuel + 1, frames, expected, rest =>
    let here := skipSpace rest
    match expected, frames with
    | .value, _ =>
      match here with
      | [] => .error ⟨.endInValue, here, 0⟩
      | p :: after =>
        if p = .char '[' then skipOpen fuel (.list :: frames) .first after
        else if p = .char '\x7b' then skipOpen fuel (.object :: frames) .first after
        else
          match skipScalar here with
          | .error f => .error f
          | .ok after => skipOpen fuel frames .next after
    | _, [] => .ok rest
    | expected, frame :: above =>
      let item := fun (text : List Piece) =>
        match frame with
        | .list => skipOpen fuel frames .value text
        | .object =>
          match skipKey text with
          | .error f => .error f
          | .ok after => skipOpen fuel frames .value after
      match here with
      | [] => .error ⟨if frame = .list then .endInList else .endInObject, here, 0⟩
      | p :: after =>
        if (frame = .list ∧ p = .char ']') ∨ (frame = .object ∧ p = .char '\x7d') then
          skipOpen fuel above .next after
        else if expected = .first then item here
        else if p = .char ',' then item after
        else .error ⟨if frame = .list then .expectedCommaOrBracket else .expectedCommaOrBrace, here, 1⟩

/-- Pass over a value. -/
def skipValue (rest : List Piece) : Rest :=
  skipOpen (2 * rest.length + 2) [] .value rest

end Cabinet.Json
