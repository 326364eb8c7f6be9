import Cabinet.Text.Integer

/-!
Documents: null, truth values, numbers, strings, arrays and objects. Objects list their members in
order, each key once. Integers keep their exact value within 64 bits; all other numbers are doubles,
which may be infinite or no number at all.
-/

namespace Cabinet

/-- The integers a document can hold: those that fit in 64 bits, with or without a sign. -/
structure Integer where
  val : Int
  low_le : -9223372036854775808 ≤ val
  le_high : val ≤ 18446744073709551615

namespace Integer

instance : DecidableEq Integer := fun a b =>
  match decEq a.val b.val with
  | isTrue h => isTrue (by cases a; cases b; simp_all)
  | isFalse h => isFalse (fun e => h (congrArg Integer.val e))

theorem ext {a b : Integer} (h : a.val = b.val) : a = b := by
  cases a; cases b; simp_all

/-- The nearest integer that fits. -/
def clamp (n : Int) : Integer :=
  ⟨max (-9223372036854775808) (min 18446744073709551615 n), by omega, by omega⟩

def ofInt? (n : Int) : Option Integer :=
  if h : -9223372036854775808 ≤ n ∧ n ≤ 18446744073709551615 then some ⟨n, h.1, h.2⟩ else none

theorem clamp_val (n : Integer) : clamp n.val = n := by
  apply ext
  have := n.low_le
  have := n.le_high
  simp only [clamp]
  omega

end Integer

/-- A number of a document. -/
inductive Number where
  | integer (n : Integer)
  | float (x : Float)

/-- A document. -/
inductive Document where
  | null
  | boolean (b : Bool)
  | number (n : Number)
  | string (s : String)
  | array (elements : List Document)
  | object (members : List (String × Document))

instance : Inhabited Document := ⟨.null⟩

/-- The members of an object, in order. -/
abbrev Members := List (String × Document)

/-- The kinds a document can be asked for. An integer fits 32 bits and a long fits 64, both with a
sign. -/
inductive Kind where
  | null
  | boolean
  | integer
  | long
  | number
  | string
  | array
  | object
  deriving DecidableEq, Repr

def Kind.name : Kind → String
  | null => "null"
  | boolean => "boolean"
  | integer => "integer"
  | long => "long"
  | number => "number"
  | string => "string"
  | array => "array"
  | object => "object"

def Kind.all : List Kind :=
  [.null, .boolean, .integer, .long, .number, .string, .array, .object]

/-- The bounds of 32-bit integers. -/
def Width.int32 : Width := .signed 32

/-- The bounds of 64-bit integers. -/
def Width.int64 : Width := .signed 64

/-- The bounds of unsigned 64-bit integers. -/
def Width.word64 : Width := .unsigned 64

namespace Number

/-- The number as an integer of a width. Doubles are never taken for integers. -/
def within? (w : Width) : Number → Option Int
  | integer n => if w.contains n.val then some n.val else none
  | float _ => none

def int32? (n : Number) : Option Int := n.within? .int32

def int64? (n : Number) : Option Int := n.within? .int64

def word64? (n : Number) : Option Int := n.within? .word64

/-- The double nearest to an integer of at most 64 bits. -/
def nearest (n : Int) : Float :=
  if n < 0 then -n.natAbs.toUInt64.toFloat else n.natAbs.toUInt64.toFloat

/-- The number as a finite double; integers are rounded to the nearest one. -/
def float? : Number → Option Float
  | integer n => some (nearest n.val)
  | float x => if x.isFinite then some x else none

def isFinite : Number → Bool
  | integer _ => true
  | float x => x.isFinite

def isIntegral : Number → Bool
  | integer _ => true
  | float _ => false

/-- Strict numbers are integers of 32 bits or doubles. -/
def strict : Number → Number
  | integer n => if Width.int32.contains n.val then .integer n else .float (nearest n.val)
  | float x => .float x

/-- Numbers are equal as integers or as doubles, never across. -/
def same : Number → Number → Bool
  | integer a, integer b => a == b
  | float a, float b => a == b
  | _, _ => false

def kind (n : Number) : Kind :=
  if n.int32?.isSome then .integer else if n.int64?.isSome then .long else .number

end Number

namespace Document

/-- The narrowest kind of a document. -/
def kind : Document → Kind
  | null => .null
  | boolean _ => .boolean
  | number n => n.kind
  | string _ => .string
  | array _ => .array
  | object _ => .object

def boolean? : Document → Option Bool
  | boolean b => some b
  | _ => none

def number? : Document → Option Number
  | number n => some n
  | _ => none

def string? : Document → Option String
  | string s => some s
  | _ => none

def array? : Document → Option (List Document)
  | array es => some es
  | _ => none

def object? : Document → Option Members
  | object ms => some ms
  | _ => none

def int32? (d : Document) : Option Int := d.number?.bind Number.int32?

def int64? (d : Document) : Option Int := d.number?.bind Number.int64?

def word64? (d : Document) : Option Int := d.number?.bind Number.word64?

def float? (d : Document) : Option Float := d.number?.bind Number.float?

def isNull : Document → Bool
  | null => true
  | _ => false

/-- Does the document count as one of a kind? A number that is not finite counts as none. -/
def is (d : Document) : Kind → Bool
  | .null => d.isNull
  | .boolean => d.boolean?.isSome
  | .integer => d.int32?.isSome
  | .long => d.int64?.isSome
  | .number => d.number?.any Number.isFinite
  | .string => d.string?.isSome
  | .array => d.array?.isSome
  | .object => d.object?.isSome

/-- An integer, brought within 64 bits. -/
def ofInt (n : Int) : Document :=
  number (.integer (Integer.clamp n))

end Document

end Cabinet
