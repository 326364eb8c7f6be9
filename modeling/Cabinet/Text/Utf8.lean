/-!
UTF-8. `encode` spells characters as bytes. `pieces` cuts any bytes into characters and the
stretches that belong to none, so that a reader can go on past a fault, and `decode` refuses the
first such stretch, telling where it is.
-/

namespace Cabinet.Utf8

/-- The bytes of one character. -/
def encodeChar (c : Char) : List UInt8 :=
  let n := c.toNat
  if n < 0x80 then [n.toUInt8]
  else if n < 0x800 then [(0xC0 + n / 0x40).toUInt8, (0x80 + n % 0x40).toUInt8]
  else if n < 0x10000 then
    [(0xE0 + n / 0x1000).toUInt8, (0x80 + n / 0x40 % 0x40).toUInt8, (0x80 + n % 0x40).toUInt8]
  else
    [(0xF0 + n / 0x40000).toUInt8, (0x80 + n / 0x1000 % 0x40).toUInt8,
      (0x80 + n / 0x40 % 0x40).toUInt8, (0x80 + n % 0x40).toUInt8]

def encode (cs : List Char) : List UInt8 :=
  cs.flatMap encodeChar

/-- A stretch of bytes: a character, bytes that begin no character, or a character cut off by the
end of the bytes. -/
inductive Piece where
  | char (c : Char)
  | invalid (bytes : List UInt8)
  | truncated (bytes : List UInt8)
  deriving DecidableEq, Repr

namespace Piece

/-- How many bytes a piece stands for. -/
def width : Piece → Nat
  | char c => (encodeChar c).length
  | invalid bytes => bytes.length
  | truncated bytes => bytes.length

end Piece

/-- A character of which some bytes have been read: the bytes, newest first, how many more it
needs, the bounds of the next one, and the bits collected so far. -/
structure Pending where
  held : List UInt8
  owed : Nat
  low : Nat
  high : Nat
  code : Nat

/-- What a first byte begins. The second byte's bounds keep out long spellings, surrogates and
everything above the last character. -/
def lead (b : UInt8) : Option Pending :=
  let n := b.toNat
  if n < 0xC2 then none
  else if n < 0xE0 then some ⟨[b], 1, 0x80, 0xBF, n - 0xC0⟩
  else if n < 0xF0 then
    some ⟨[b], 2, if n = 0xE0 then 0xA0 else 0x80, if n = 0xED then 0x9F else 0xBF, n - 0xE0⟩
  else if n < 0xF5 then
    some ⟨[b], 3, if n = 0xF0 then 0x90 else 0x80, if n = 0xF4 then 0x8F else 0xBF, n - 0xF0⟩
  else none

/-- Read on between two characters: pieces so far, newest first, and the character begun. -/
def begin (b : UInt8) (done : List Piece) : List Piece × Option Pending :=
  if b.toNat < 0x80 then (.char (Char.ofNat b.toNat) :: done, none)
  else
    match lead b with
    | some p => (done, some p)
    | none => (.invalid [b] :: done, none)

/-- Read one byte. A byte the pending character cannot hold ends it as a fault and is read afresh. -/
def step (b : UInt8) : List Piece × Option Pending → List Piece × Option Pending
  | (done, none) => begin b done
  | (done, some p) =>
    if p.low ≤ b.toNat ∧ b.toNat ≤ p.high then
      let code := p.code * 0x40 + (b.toNat - 0x80)
      if p.owed ≤ 1 then (.char (Char.ofNat code) :: done, none)
      else (done, some ⟨b :: p.held, p.owed - 1, 0x80, 0xBF, code⟩)
    else begin b (.invalid p.held.reverse :: done)

/-- Cut bytes into pieces. -/
def pieces (bytes : List UInt8) : List Piece :=
  match bytes.foldl (fun state b => step b state) ([], none) with
  | (done, none) => done.reverse
  | (done, some p) => (Piece.truncated p.held.reverse :: done).reverse

/-- Where bytes stop being UTF-8, and how many bytes are at fault; none when the text ends inside a
character. -/
structure Fault where
  index : Nat
  length : Option Nat
  deriving DecidableEq, Repr

def Fault.message (f : Fault) : String :=
  match f.length with
  | some n => s!"invalid utf-8 sequence of {n} bytes from index {f.index}"
  | none => s!"incomplete utf-8 byte sequence from index {f.index}"

/-- Join pieces that are all characters. -/
def join (index : Nat) (done : List Char) : List Piece → Except Fault (List Char)
  | [] => .ok done.reverse
  | .char c :: rest => join (index + (encodeChar c).length) (c :: done) rest
  | .invalid bytes :: _ => .error ⟨index, some bytes.length⟩
  | .truncated _ :: _ => .error ⟨index, none⟩

def decode (bytes : List UInt8) : Except Fault (List Char) :=
  join 0 [] (pieces bytes)

end Cabinet.Utf8
