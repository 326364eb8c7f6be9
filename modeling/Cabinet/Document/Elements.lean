import Cabinet.Document.Basic
import Cabinet.Error

/-!
Arrays: positions counted from either end, ranges, and the operations that change one position.
-/

namespace Cabinet.Elements

/-! ### Ranges -/

/-- The position an offset means in an array of a length: a negative one counts from the end, and
none leaves the array. -/
def clamp (offset : Int) (length : Nat) : Nat :=
  if offset < 0 then length - offset.natAbs else min offset.toNat length

/-- The position of an element, a negative index counting from the end; none outside the array. -/
def resolve? (index : Int) (length : Nat) : Option Nat :=
  if index < 0 then
    if index.natAbs ≤ length then some (length - index.natAbs) else none
  else if index.toNat < length then some index.toNat else none

/-- The end of a range; the array's own when none is given. -/
def clampEnd (stop : Option Int) (length : Nat) : Nat :=
  match stop with
  | some n => clamp n length
  | none => length

variable {α : Type}

/-- The elements from one offset to another. -/
def slice (start : Int) (stop : Option Int) (es : List α) : List α :=
  let first := clamp start es.length
  (es.drop first).take (clampEnd stop es.length - first)

/-- Write a value into every position of a range. -/
def fill (value : α) (start : Int) (stop : Option Int) (es : List α) : List α :=
  let first := clamp start es.length
  let count := clampEnd stop es.length - first
  es.take first ++ List.replicate count value ++ es.drop (first + count)

/-- Replace `count` elements from an offset on; also gives the elements taken out. -/
def splice (start : Int) (count : Nat) (items es : List α) : List α × List α :=
  let first := clamp start es.length
  ((es.drop first).take count, es.take first ++ items ++ es.drop (first + count))

/-! ### Ranges in words

The same operations in words of 64 bits, as they are carried out: sums and differences stop at the ends,
and every cut is checked. -/

namespace Word

/-- Subtraction that stops at zero. -/
def minus (a b : UInt64) : UInt64 :=
  if a < b then 0 else a - b

/-- Addition that stops at the greatest word. -/
def plus (a b : UInt64) : UInt64 :=
  if a + b < a then 18446744073709551615 else a + b

/-- `clamp` in words. The distance from the end is what the sign leaves, as a word without a sign. -/
def clamp (offset : Int64) (length : UInt64) : UInt64 :=
  if offset < 0 then minus length (-offset).toUInt64 else min offset.toUInt64 length

def clampEnd (stop : Option Int64) (length : UInt64) : UInt64 :=
  stop.elim length (clamp · length)

/-- An array cut in three at two positions. There is no such cut if they are in the wrong order or if one
of them lies outside the array. -/
def cut? (first last : UInt64) (es : List α) : Option (List α × List α × List α) :=
  if first ≤ last ∧ last.toNat ≤ es.length then
    some (es.take first.toNat, (es.drop first.toNat).take (last - first).toNat, es.drop last.toNat)
  else none

/-- `slice` in words. There is nothing to cut if the end is not behind the start. -/
def slice? (start : Int64) (stop : Option Int64) (es : List α) : Option (List α) :=
  let length := UInt64.ofNat es.length
  let first := clamp start length
  let last := clampEnd stop length
  if last ≤ first then some [] else (cut? first last es).map fun (_, part, _) => part

/-- `fill` in words. -/
def fill? (value : α) (start : Int64) (stop : Option Int64) (es : List α) : Option (List α) :=
  let length := UInt64.ofNat es.length
  let first := clamp start length
  let last := clampEnd stop length
  if first < last then
    (cut? first last es).map fun (before, part, after) => before ++ part.map (fun _ => value) ++ after
  else some es

/-- `splice` in words. -/
def splice? (start : Int64) (count : UInt64) (items es : List α) : Option (List α × List α) :=
  let length := UInt64.ofNat es.length
  let first := clamp start length
  let last := min (plus first count) length
  (cut? first last es).map fun (before, part, after) => (part, before ++ items ++ after)

end Word

/-! ### Single positions -/

/-- Write one position. Nulls fill the gap when it lies beyond the end. -/
def set (index : Nat) (value : Document) (es : List Document) : List Document :=
  if index < es.length then List.set es index value
  else es ++ List.replicate (index - es.length) .null ++ [value]

/-- Write one position, refusing to fill a gap of more than `padding`. -/
def trySet (index : Nat) (value : Document) (padding : Nat) (es : List Document) :
    Except DocumentError (List Document) :=
  if es.length < index ∧ padding < index - es.length then
    .error (.indexOutOfBounds index es.length)
  else .ok (set index value es)

def insert (index : Nat) (value : α) (es : List α) : Except DocumentError (List α) :=
  if es.length < index then .error (.indexOutOfBounds index es.length)
  else .ok (es.take index ++ value :: es.drop index)

/-- Take one element out; the later ones close up. -/
def remove (index : Nat) (es : List α) : Except DocumentError (α × List α) :=
  match es[index]? with
  | some e => .ok (e, es.eraseIdx index)
  | none => .error (.indexOutOfBounds index es.length)

def pop (es : List α) : Except DocumentError (α × List α) :=
  match es.getLast? with
  | some e => .ok (e, es.dropLast)
  | none => .error (.emptyArray .last)

def shift : List α → Except DocumentError (α × List α)
  | e :: es => .ok (e, es)
  | [] => .error (.emptyArray .first)

end Cabinet.Elements
