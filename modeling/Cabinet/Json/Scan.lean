import Cabinet.Decimal.Scale
import Cabinet.Document.Basic
import Cabinet.Json.Fault
import Cabinet.Text.Hex

/-!
The lexical part of JSON: blanks, literals, strings and numbers. Every reader takes the text left
and gives a value with the text left after it.
-/

namespace Cabinet.Json

open Utf8 (Piece)

/-- What a reader gives. -/
abbrev Result (α : Type) := Except Fault (α × List Piece)

/-- The four blanks of JSON. -/
def isSpace (c : Char) : Bool :=
  c == ' ' || c == '\n' || c == '\t' || c == '\r'

def skipSpace : List Piece → List Piece
  | .char c :: rest => if isSpace c then skipSpace rest else .char c :: rest
  | rest => rest

/-- Read the characters of a literal. -/
def literal : List Char → List Piece → Result Unit
  | [], rest => .ok ((), rest)
  | c :: cs, rest =>
    match rest with
    | [] => .error ⟨.endInValue, rest, 0⟩
    | p :: rest' => if p = .char c then literal cs rest' else .error ⟨.expectedLiteral, rest, 1⟩

/-! ### Numbers -/

/-- Read digits while the number they spell, continuing `n`, stays within a limit; counts them. -/
def accumulate (limit n count : Nat) : List Piece → Nat × Nat × List Piece
  | .char c :: rest =>
    if isDigit c && n * 10 + digitValue c ≤ limit then
      accumulate limit (n * 10 + digitValue c) (count + 1) rest
    else (n, count, .char c :: rest)
  | rest => (n, count, rest)

def startsWithDigit : List Piece → Bool
  | .char c :: _ => isDigit c
  | _ => false

/-- Skip digits, counting them. -/
def dropDigits (count : Nat) : List Piece → Nat × List Piece
  | .char c :: rest => if isDigit c then dropDigits (count + 1) rest else (count, .char c :: rest)
  | rest => (count, rest)

/-- The greatest significand. -/
def significandLimit : Nat := 18446744073709551615

/-- The greatest exponent that is written out. -/
def exponentLimit : Nat := 2147483647

def signedFloat (negative : Bool) (x : Float) : Number :=
  .float (if negative then -x else x)

/-- The double of a significand and an exponent. -/
def finishFloat (negative : Bool) (significand : Nat) (exponent : Int) (rest : List Piece) :
    Result Number :=
  match Decimal.scale significand exponent with
  | some x => .ok (signedFloat negative x, rest)
  | none => .error ⟨.numberOutOfRange, rest, 0⟩

/-- An optional sign. -/
def exponentSign : List Piece → Bool × List Piece
  | .char '+' :: rest => (false, rest)
  | .char '-' :: rest => (true, rest)
  | rest => (false, rest)

/-- The part after `e`. An exponent past the limit makes zero of a number, unless it is positive and
the number is not zero. -/
def exponentPart (negative : Bool) (significand : Nat) (start : Int) (rest : List Piece) :
    Result Number :=
  let (down, digits) := exponentSign rest
  if digits.isEmpty then .error ⟨.endInValue, digits, 0⟩
  else if !startsWithDigit digits then .error ⟨.invalidNumber, digits, 1⟩
  else
    let (n, _, rest) := accumulate exponentLimit 0 0 digits
    if startsWithDigit rest then
      if significand != 0 && !down then .error ⟨.numberOutOfRange, rest, 1⟩
      else .ok (signedFloat negative 0.0, (dropDigits 0 rest).2)
    else finishFloat negative significand (if down then start - n else start + n) rest

/-- The end of a number: an exponent or nothing. -/
def exponentOrEnd (negative : Bool) (significand : Nat) (exponent : Int) (rest : List Piece) :
    Result Number :=
  match rest with
  | .char 'e' :: rest => exponentPart negative significand exponent rest
  | .char 'E' :: rest => exponentPart negative significand exponent rest
  | rest => finishFloat negative significand exponent rest

/-- The part after the point. Digits that no longer fit the significand are skipped. -/
def fractionPart (negative : Bool) (significand : Nat) (exponent : Int) (rest : List Piece) :
    Result Number :=
  let (n, count, after) := accumulate significandLimit significand 0 rest
  if startsWithDigit after then
    exponentOrEnd negative n (exponent - count) (dropDigits 0 after).2
  else if count == 0 then
    .error (if after.isEmpty then ⟨.endInValue, after, 0⟩ else ⟨.invalidNumber, after, 1⟩)
  else exponentOrEnd negative n (exponent - count) after

/-- The integer of a sign and a significand. A negative one that does not fit 64 bits is a double,
and so is minus zero. -/
def wholeNumber (negative : Bool) (n : Nat) : Number :=
  if negative then
    if 0 < n ∧ n ≤ 9223372036854775808 then .integer (Integer.clamp (-(n : Int)))
    else .float (-n.toUInt64.toFloat)
  else .integer (Integer.clamp n)

/-- The part after the leading digits. -/
def numberTail (negative : Bool) (significand : Nat) (rest : List Piece) : Result Number :=
  match rest with
  | .char '.' :: rest => fractionPart negative significand 0 rest
  | .char 'e' :: rest => exponentPart negative significand 0 rest
  | .char 'E' :: rest => exponentPart negative significand 0 rest
  | rest => .ok (wholeNumber negative significand, rest)

/-- Leading digits that no longer fit the significand only raise the exponent. -/
def longNumber (negative : Bool) (significand : Nat) (rest : List Piece) : Result Number :=
  let (count, rest) := dropDigits 0 rest
  match rest with
  | .char '.' :: rest => fractionPart negative significand count rest
  | rest => exponentOrEnd negative significand count rest

/-- A number after its sign. No zero may lead. -/
def number (negative : Bool) (rest : List Piece) : Result Number :=
  match rest with
  | [] => .error ⟨.endInValue, rest, 0⟩
  | .char c :: after =>
    if c = '0' then
      if startsWithDigit after then .error ⟨.invalidNumber, after, 1⟩
      else numberTail negative 0 after
    else if isDigit c then
      let (n, _, after) := accumulate significandLimit 0 0 rest
      if startsWithDigit after then longNumber negative n after
      else numberTail negative n after
    else .error ⟨.invalidNumber, rest, 1⟩
  | _ :: _ => .error ⟨.invalidNumber, rest, 1⟩

/-! ### Strings -/

/-- The value of hexadecimal digits. -/
def hexNumber? (cs : List Char) : Option Nat :=
  cs.foldl (fun n c => n.bind fun n => (Hex.value? c).map (n * 16 + ·)) (some 0)

/-- Four hexadecimal digits. -/
def hexEscape (rest : List Piece) : Result Nat :=
  match rest with
  | .char a :: .char b :: .char c :: .char d :: after =>
    match hexNumber? [a, b, c, d] with
    | some n => .ok (n, after)
    | none => .error ⟨.invalidEscape, rest, 4⟩
  | _ => .error ⟨if size rest < 4 then .endInString else .invalidEscape, rest, 4⟩

/-- The second half of a pair of escapes that spell one character above U+FFFF. -/
def trailingSurrogate (high : Nat) (rest : List Piece) : Result Char :=
  match rest with
  | [] => .error ⟨.endInString, rest, 0⟩
  | p :: after =>
    if p ≠ .char '\\' then .error ⟨.endInEscape, rest, 1⟩
    else match after with
    | [] => .error ⟨.endInString, after, 0⟩
    | q :: digits =>
      if q ≠ .char 'u' then .error ⟨.endInEscape, after, 1⟩
      else match hexEscape digits with
      | .error f => .error f
      | .ok (low, rest) =>
        if 0xDC00 ≤ low && low ≤ 0xDFFF then
          .ok (Char.ofNat (0x10000 + (high - 0xD800) * 0x400 + (low - 0xDC00)), rest)
        else .error ⟨.loneSurrogate, rest, 0⟩

def unicodeEscape (rest : List Piece) : Result Char :=
  match hexEscape rest with
  | .error f => .error f
  | .ok (n, rest) =>
    if 0xDC00 ≤ n && n ≤ 0xDFFF then .error ⟨.loneSurrogate, rest, 0⟩
    else if 0xD800 ≤ n && n ≤ 0xDBFF then trailingSurrogate n rest
    else .ok (Char.ofNat n, rest)

/-- The character of a one-letter escape. -/
def shortEscape? : Char → Option Char
  | '"' => some '"'
  | '\\' => some '\\'
  | '/' => some '/'
  | 'b' => some '\x08'
  | 'f' => some '\x0c'
  | 'n' => some '\n'
  | 'r' => some '\r'
  | 't' => some '\t'
  | _ => none

/-- What a backslash introduces. -/
def escape (rest : List Piece) : Result Char :=
  match rest with
  | [] => .error ⟨.endInString, rest, 0⟩
  | .char 'u' :: after => unicodeEscape after
  | .char c :: after =>
    match shortEscape? c with
    | some e => .ok (e, after)
    | none => .error ⟨.invalidEscape, rest, 1⟩
  | _ :: _ => .error ⟨.invalidEscape, rest, 1⟩

/-- The characters up to the closing quote. Bytes that are no characters are reported there, at the
place of the first of them; `broken` is the text from it on. The text left is a bound on the number of
characters. -/
def stringTail : Nat → List Char → Option (List Piece) → List Piece → Result String
  | 0, _, _, rest => .error ⟨.endInString, rest, 0⟩
  | fuel + 1, done, broken, rest =>
    match rest with
    | [] => .error ⟨.endInString, rest, 0⟩
    | .char c :: after =>
      if c = '"' then
        match broken with
        | none => .ok (String.ofList done.reverse, after)
        | some here => .error ⟨.invalidCodePoint, here, 1⟩
      else if c = '\\' then
        match escape after with
        | .error f => .error f
        | .ok (e, after) => stringTail fuel (e :: done) broken after
      else if c.toNat < 0x20 then .error ⟨.controlCharacter, rest, 1⟩
      else stringTail fuel (c :: done) broken after
    | _ :: after => stringTail fuel done (broken.orElse fun _ => some rest) after

/-- A string after its opening quote. -/
def string (rest : List Piece) : Result String :=
  stringTail (rest.length + 1) [] none rest

end Cabinet.Json
