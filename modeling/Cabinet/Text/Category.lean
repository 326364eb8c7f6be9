import Cabinet.Text.Category.Binary
import Cabinet.Text.Category.Ranges
import Cabinet.Text.Identifier
import Cabinet.Text.Script.Ranges

/-!
Properties of characters that have names: general categories, scripts, and the classes of letters,
digits and word characters derived from them. Names are matched without regard to case, blanks,
hyphens and underscores.
-/

namespace Cabinet.Category

abbrev Ranges := List (Nat × Nat)

def casedLetter : Ranges := uppercaseLetter ++ lowercaseLetter ++ titlecaseLetter

def letter : Ranges := casedLetter ++ modifierLetter ++ otherLetter

def mark : Ranges := nonspacingMark ++ spacingMark ++ enclosingMark

def number : Ranges := decimalNumber ++ letterNumber ++ otherNumber

def punctuation : Ranges :=
  connectorPunctuation ++ dashPunctuation ++ openPunctuation ++ closePunctuation ++
    initialPunctuation ++ finalPunctuation ++ otherPunctuation

def symbol : Ranges := mathSymbol ++ currencySymbol ++ modifierSymbol ++ otherSymbol

def separator : Ranges := spaceSeparator ++ lineSeparator ++ paragraphSeparator

/-- Everything but the control and format characters, the private and the unassigned ones. -/
def visible : Ranges := letter ++ mark ++ number ++ punctuation ++ symbol ++ separator

def assigned : Ranges := visible ++ control ++ format ++ privateUse

/-- The property `Alphabetic`. -/
def alphabetic : Ranges := letter ++ letterNumber ++ otherAlphabetic

/-- The property `Uppercase`. -/
def uppercase : Ranges := uppercaseLetter ++ otherUppercase

/-- The property `Lowercase`. -/
def lowercase : Ranges := lowercaseLetter ++ otherLowercase

/-- The property `Cased`. -/
def cased : Ranges := uppercase ++ lowercase ++ titlecaseLetter

/-- The property `White_Space`. -/
def whiteSpace : Ranges :=
  [(0x09, 0x0D), (0x20, 0x20), (0x85, 0x85), (0xA0, 0xA0), (0x1680, 0x1680), (0x2000, 0x200A),
    (0x2028, 0x2029), (0x202F, 0x202F), (0x205F, 0x205F), (0x3000, 0x3000)]

/-- Word characters: letters, marks, decimal digits, connectors and the two joiners. -/
def word : Ranges :=
  alphabetic ++ mark ++ decimalNumber ++ connectorPunctuation ++ [(0x200C, 0x200D)]

def everything : Ranges := [(0, 0x10FFFF)]

/-- Drop what does not count in a property's name. -/
def normalize (name : List Char) : List Char :=
  let cs := (name.filter fun c => c != ' ' && c != '_' && c != '-').map Char.toLower
  match cs with
  | 'i' :: 's' :: rest => if rest.isEmpty || rest == ['c'] then cs else rest
  | cs => cs

/-- General categories by their names; true when the category is what the ranges leave out. -/
def generalTable : List (List String × Bool × Ranges) := [
  (["l", "letter"], false, letter), (["lc", "casedletter"], false, casedLetter),
  (["lu", "uppercaseletter"], false, uppercaseLetter),
  (["ll", "lowercaseletter"], false, lowercaseLetter),
  (["lt", "titlecaseletter"], false, titlecaseLetter),
  (["lm", "modifierletter"], false, modifierLetter), (["lo", "otherletter"], false, otherLetter),
  (["m", "mark", "combiningmark"], false, mark), (["mn", "nonspacingmark"], false, nonspacingMark),
  (["mc", "spacingmark"], false, spacingMark), (["me", "enclosingmark"], false, enclosingMark),
  (["n", "number"], false, number), (["nd", "decimalnumber", "digit"], false, decimalNumber),
  (["nl", "letternumber"], false, letterNumber), (["no", "othernumber"], false, otherNumber),
  (["p", "punctuation", "punct"], false, punctuation),
  (["pc", "connectorpunctuation"], false, connectorPunctuation),
  (["pd", "dashpunctuation"], false, dashPunctuation),
  (["ps", "openpunctuation"], false, openPunctuation),
  (["pe", "closepunctuation"], false, closePunctuation),
  (["pi", "initialpunctuation"], false, initialPunctuation),
  (["pf", "finalpunctuation"], false, finalPunctuation),
  (["po", "otherpunctuation"], false, otherPunctuation), (["s", "symbol"], false, symbol),
  (["sm", "mathsymbol"], false, mathSymbol), (["sc", "currencysymbol"], false, currencySymbol),
  (["sk", "modifiersymbol"], false, modifierSymbol), (["so", "othersymbol"], false, otherSymbol),
  (["z", "separator"], false, separator), (["zs", "spaceseparator"], false, spaceSeparator),
  (["zl", "lineseparator"], false, lineSeparator),
  (["zp", "paragraphseparator"], false, paragraphSeparator), (["c", "other"], true, visible),
  (["cc", "control", "cntrl"], false, control), (["cf", "format"], false, format),
  (["co", "privateuse"], false, privateUse), (["cs", "surrogate"], false, []),
  (["cn", "unassigned"], true, assigned), (["any"], false, everything),
  (["assigned"], false, assigned), (["ascii"], false, [(0, 0x7F)])]

/-- Properties that a character has or lacks, by their names. -/
def binaryTable : List (List String × Bool × Ranges) := [
  (["alphabetic", "alpha"], false, alphabetic), (["uppercase", "upper"], false, uppercase),
  (["lowercase", "lower"], false, lowercase),
  (["whitespace", "wspace", "space"], false, whiteSpace),
  (["asciihexdigit", "ahex"], false, [(0x30, 0x39), (0x41, 0x46), (0x61, 0x66)]),
  (["hexdigit", "hex"], false, [(0x30, 0x39), (0x41, 0x46), (0x61, 0x66), (0xFF10, 0xFF19),
    (0xFF21, 0xFF26), (0xFF41, 0xFF46)]),
  (["joincontrol", "joinc"], false, [(0x200C, 0x200D)]), (["cased"], false, cased),
  (["xidstart", "xids"], false, [(0x41, 0x5A), (0x61, 0x7A)] ++ Identifier.startRanges),
  (["xidcontinue", "xidc"], false,
    [(0x30, 0x39), (0x41, 0x5A), (0x5F, 0x5F), (0x61, 0x7A)] ++ Identifier.continueRanges),
  (["emoji"], false, emoji), (["emojipresentation", "epres"], false, emojiPresentation),
  (["extendedpictographic", "extpict"], false, pictographic),
  (["ideographic", "ideo"], false, ideographic), (["math"], false, math), (["dash"], false, dash)]

def find? (table : List (List String × Bool × Ranges)) (name : List Char) :
    Option (Bool × Ranges) :=
  (table.find? fun e => e.1.contains (String.ofList name)).map Prod.snd

def general? (name : List Char) : Option (Bool × Ranges) :=
  find? generalTable name

def script? (name : List Char) : Option (Bool × Ranges) :=
  find? (Script.table.map fun e => (e.1, false, e.2)) name

/-- A property given by one name: a binary one, a general category or a script. -/
def named? (name : List Char) : Option (Bool × Ranges) :=
  let name := normalize name
  (find? binaryTable name).orElse fun _ => (general? name).orElse fun _ => script? name

/-- A property given by the name of a kind of property and the name of a value. -/
def valued? (kind value : List Char) : Option (Bool × Ranges) :=
  let kind := String.ofList (normalize kind)
  let value := normalize value
  if kind = "gc" ∨ kind = "generalcategory" then general? value
  else if kind = "sc" ∨ kind = "script" ∨ kind = "scx" ∨ kind = "scriptextensions" then script? value
  else none

end Cabinet.Category
