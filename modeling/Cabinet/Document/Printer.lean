import Cabinet.Decimal.Layout
import Cabinet.Document.Basic
import Cabinet.Text.Hex

/-!
The text of a document. `compact` is the canonical form, without blanks and with members in order;
`pretty` puts every element and member on a line of its own. `same` compares containers by their
canonical form.
-/

namespace Cabinet.Document

/-- How a character is written inside a quoted string: short escapes where there are some, four
hexadecimal digits for the other controls, and itself otherwise. -/
def escape (c : Char) : List Char :=
  if c = '"' then ['\\', '"']
  else if c = '\\' then ['\\', '\\']
  else if c = '\x08' then ['\\', 'b']
  else if c = '\x0c' then ['\\', 'f']
  else if c = '\n' then ['\\', 'n']
  else if c = '\r' then ['\\', 'r']
  else if c = '\t' then ['\\', 't']
  else if c.toNat < 0x20 then
    ['\\', 'u', '0', '0'] ++ Hex.pair c.toNat
  else [c]

def quote (s : String) : List Char :=
  '"' :: s.toList.flatMap escape ++ ['"']

end Document

namespace Number

/-- The text of a number. A double that is not finite is written as null. -/
def text : Number → List Char
  | integer n => Decimal.integer n.val
  | float x =>
    if x.isFinite then Decimal.Layout.document.write x else ['n', 'u', 'l', 'l']

end Number

namespace Document

/-- Put a separator between texts. -/
def separate (separator : List Char) : List (List Char) → List Char
  | [] => []
  | [cs] => cs
  | cs :: rest => cs ++ separator ++ separate separator rest

mutual

def compact : Document → List Char
  | null => ['n', 'u', 'l', 'l']
  | boolean true => ['t', 'r', 'u', 'e']
  | boolean false => ['f', 'a', 'l', 's', 'e']
  | number n => n.text
  | string s => quote s
  | array es => '[' :: separate [','] (compactElements es) ++ [']']
  | object ms => '\x7b' :: separate [','] (compactMembers ms) ++ ['\x7d']

def compactElements : List Document → List (List Char)
  | [] => []
  | d :: ds => d.compact :: compactElements ds

def compactMembers : List (String × Document) → List (List Char)
  | [] => []
  | (k, d) :: ms => (quote k ++ ':' :: d.compact) :: compactMembers ms

end

/-- A line break and the indentation after it, two blanks a level. -/
def newline (level : Nat) : List Char :=
  '\n' :: List.replicate (2 * level) ' '

/-- Items between brackets, each on its own line one level further in. -/
def block (level : Nat) (left right : Char) (items : List (List Char)) : List Char :=
  match items with
  | [] => [left, right]
  | items =>
    left :: newline (level + 1) ++ separate (',' :: newline (level + 1)) items ++
      newline level ++ [right]

mutual

/-- The pretty text of a document that starts on a given level of indentation. -/
def prettyAt (level : Nat) : Document → List Char
  | null => ['n', 'u', 'l', 'l']
  | boolean true => ['t', 'r', 'u', 'e']
  | boolean false => ['f', 'a', 'l', 's', 'e']
  | number n => n.text
  | string s => quote s
  | array es => block level '[' ']' (prettyElements (level + 1) es)
  | object ms => block level '\x7b' '\x7d' (prettyMembers (level + 1) ms)

def prettyElements (level : Nat) : List Document → List (List Char)
  | [] => []
  | d :: ds => d.prettyAt level :: prettyElements level ds

def prettyMembers (level : Nat) : List (String × Document) → List (List Char)
  | [] => []
  | (k, d) :: ms => (quote k ++ ':' :: ' ' :: d.prettyAt level) :: prettyMembers level ms

end

def pretty (d : Document) : List Char :=
  d.prettyAt 0

mutual

/-- The document with every number made strict. -/
def strict : Document → Document
  | number n => number n.strict
  | array es => array (strictElements es)
  | object ms => object (strictMembers ms)
  | d => d

def strictElements : List Document → List Document
  | [] => []
  | d :: ds => d.strict :: strictElements ds

def strictMembers : List (String × Document) → List (String × Document)
  | [] => []
  | (k, d) :: ms => (k, d.strict) :: strictMembers ms

end

mutual

/-- The document with null in the place of every number that is not finite. -/
def finite : Document → Document
  | number n => if n.isFinite then number n else null
  | array es => array (finiteElements es)
  | object ms => object (finiteMembers ms)
  | d => d

def finiteElements : List Document → List Document
  | [] => []
  | d :: ds => d.finite :: finiteElements ds

def finiteMembers : List (String × Document) → List (String × Document)
  | [] => []
  | (k, d) :: ms => (k, d.finite) :: finiteMembers ms

end

/-- The canonical text. -/
def text (d : Document) : String :=
  String.ofList d.compact

def prettyText (d : Document) : String :=
  String.ofList d.pretty

/-- The canonical text with strict numbers. -/
def strictText (d : Document) : String :=
  d.strict.text

/-- Hash a document into a state. What is fed to the hash is the canonical text, for scalars as well. -/
def hashInto {σ : Type} (feed : String → σ → σ) (d : Document) (state : σ) : σ :=
  feed d.text state

/-- Equality of documents: scalars by value, containers by canonical text. -/
def same : Document → Document → Bool
  | null, null => true
  | boolean a, boolean b => a == b
  | number a, number b => a.same b
  | string a, string b => a == b
  | array a, array b => (array a).compact == (array b).compact
  | object a, object b => (object a).compact == (object b).compact
  | _, _ => false

end Cabinet.Document
