import Cabinet.Text.Category

/-!
Texts in quotes for diagnostics: quotes, backslashes and characters that cannot be seen are escaped.
-/

namespace Cabinet.Inspect

/-- Can a character be seen by itself? Marks that join the character before cannot. -/
def isVisible (c : Char) : Bool :=
  let n := c.toNat
  let within := fun (rs : Category.Ranges) => rs.any fun r => r.1 ≤ n && n ≤ r.2
  if n < 0x7F then 0x20 ≤ n
  else within Category.visible && !within Category.separator && !within Category.nonspacingMark &&
    !within Category.enclosingMark

/-- The hexadecimal digits of a number. -/
def hexText (n : Nat) : List Char :=
  (Nat.toDigits 16 n)

def escape (c : Char) : List Char :=
  if c = '"' then ['\\', '"']
  else if c = '\\' then ['\\', '\\']
  else if c = '\n' then ['\\', 'n']
  else if c = '\r' then ['\\', 'r']
  else if c = '\t' then ['\\', 't']
  else if c = '\x00' then ['\\', '0']
  else if isVisible c then [c]
  else ['\\', 'u', '\x7b'] ++ hexText c.toNat ++ ['\x7d']

end Inspect

/-- A text in quotes, for diagnostics. -/
def inspectText (s : String) : String :=
  String.ofList ('"' :: s.toList.flatMap Inspect.escape ++ ['"'])

end Cabinet
