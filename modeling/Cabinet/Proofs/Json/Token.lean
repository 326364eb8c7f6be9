import Cabinet.Document.Printer
import Cabinet.Json.Scan
import Cabinet.Proofs.Text.Integer
import Mathlib.Algebra.BigOperators.Group.List.Basic

/-! The lexical part of JSON reads what is written. Blanks are passed over, literals and quoted
strings are read whatever follows them, and an integer in front of anything that does not go on with
a number. -/

namespace Cabinet.Json

open Utf8 (Piece)

/-- Does a character go on with a number? -/
def inNumber (c : Char) : Bool :=
  isDigit c || c == '.' || c == 'e' || c == 'E'

/-- Nothing that would go on with a number comes next. -/
def Ends (rest : List Piece) : Prop :=
  ∀ c, .char c ∈ rest.head? → inNumber c = false

/-- Blanks of JSON, which stand between its tokens. -/
def Blank (cs : List Char) : Prop :=
  ∀ c ∈ cs, isSpace c

variable {cs : List Char} {rest : List Piece}

theorem skipSpace_blank (h : Blank cs) (rest : List Piece) :
    skipSpace (cs.map .char ++ rest) = skipSpace rest := by
  induction cs with
  | nil => rfl
  | cons c cs ih =>
      obtain ⟨hHead, hTail⟩ := List.forall_mem_cons.mp h
      rw [List.map_cons, List.cons_append, skipSpace, if_pos hHead, ih hTail]

theorem skipSpace_char {c : Char} (h : isSpace c = false) (rest : List Piece) :
    skipSpace (.char c :: rest) = .char c :: rest := by
  simp [skipSpace, h]

theorem literal_map (cs : List Char) (rest : List Piece) :
    literal cs (cs.map .char ++ rest) = .ok ((), rest) := by
  induction cs with
  | nil => rfl
  | cons c cs ih => simpa [literal] using ih

/-! ### Numbers -/

theorem Ends.startsWithDigit (h : Ends rest) : startsWithDigit rest = false := by
  unfold Json.startsWithDigit
  split
  · rename_i c after
    have hc := h c rfl
    simp only [inNumber, Bool.or_eq_false_iff] at hc
    exact hc.1.1.1
  · rfl

theorem le_foldl_digits (n : Nat) (cs : List Char) :
    n ≤ cs.foldl (fun n c => n * 10 + digitValue c) n := by
  induction cs generalizing n with
  | nil => exact Nat.le_refl n
  | cons c cs ih => exact Nat.le_trans (by omega) (ih (n * 10 + digitValue c))

theorem accumulate_stop (limit n count : Nat) (h : startsWithDigit rest = false) :
    accumulate limit n count rest = (n, count, rest) := by
  unfold accumulate
  split
  · rename_i c after
    have hc : isDigit c = false := h
    simp [hc]
  · rfl

/-- Digits are collected to the last as long as the number stays within the limit. -/
theorem accumulate_digits {limit : Nat} (hDigits : ∀ c ∈ cs, isDigit c)
    (hRest : startsWithDigit rest = false) (n count : Nat)
    (hLimit : cs.foldl (fun n c => n * 10 + digitValue c) n ≤ limit) :
    accumulate limit n count (cs.map .char ++ rest) =
      (cs.foldl (fun n c => n * 10 + digitValue c) n, count + cs.length, rest) := by
  induction cs generalizing n count with
  | nil => exact accumulate_stop limit n count hRest
  | cons c cs ih =>
      obtain ⟨hHead, hTail⟩ := List.forall_mem_cons.mp hDigits
      have hFits : n * 10 + digitValue c ≤ limit := Nat.le_trans (le_foldl_digits _ cs) hLimit
      simp only [List.map_cons, List.cons_append, accumulate, hHead, hFits, decide_true,
        Bool.and_self, if_true]
      rw [ih hTail _ _ hLimit, List.foldl_cons, List.length_cons, Nat.add_assoc, Nat.add_comm 1]

/-- A number that does not go on is an integer. -/
theorem numberTail_ends (negative : Bool) (n : Nat) (h : Ends rest) :
    numberTail negative n rest = .ok (wholeNumber negative n, rest) := by
  have hFraction : inNumber '.' = true ∧ inNumber 'e' = true ∧ inNumber 'E' = true := by decide
  unfold numberTail
  split
  · exact absurd (h '.' rfl) (by simp [hFraction])
  · exact absurd (h 'e' rfl) (by simp [hFraction])
  · exact absurd (h 'E' rfl) (by simp [hFraction])
  · rfl

/-- The digits of a number are read as the number. -/
theorem number_natural {n : Nat} (negative : Bool) (hLimit : n ≤ significandLimit) (h : Ends rest) :
    number negative ((Decimal.natural n).map .char ++ rest) =
      .ok (wholeNumber negative n, rest) := by
  rw [← numberTail_ends negative n h]
  rcases Nat.eq_zero_or_pos n with rfl | hPos
  · have hText : Decimal.natural 0 = ['0'] := rfl
    simp [hText, number, h.startsWithDigit]
  · obtain ⟨c, ds, hText, hc⟩ := exists_natural_eq_cons hPos
    have hDigits : ∀ d ∈ c :: ds, isDigit d := fun d hd => isDigit_of_mem_natural (hText ▸ hd)
    have hValue : (c :: ds).foldl (fun n c => n * 10 + digitValue c) 0 = n := by
      rw [← hText]
      exact digitsValue_natural n
    have hRead := accumulate_digits hDigits h.startsWithDigit 0 0 (hValue ▸ hLimit)
    rw [hValue, List.map_cons, List.cons_append] at hRead
    simp only [hText, List.map_cons, List.cons_append, number, if_neg hc,
      hDigits c (List.mem_cons_self ..), if_true, hRead, h.startsWithDigit, Bool.false_eq_true,
      if_false]

/-- The sign and the digits of an integer that a document can hold make this integer. -/
theorem wholeNumber_natAbs (n : Integer) :
    wholeNumber (decide (n.val < 0)) n.val.natAbs = .integer n := by
  have hLow := n.low_le
  unfold wholeNumber
  by_cases hNeg : n.val < 0
  · rw [if_pos (decide_eq_true hNeg), if_pos ⟨by omega, by omega⟩,
      show -(n.val.natAbs : Int) = n.val by omega, Integer.clamp_val]
  · rw [if_neg (by simpa using hNeg), show (n.val.natAbs : Int) = n.val by omega,
      Integer.clamp_val]

/-! ### Strings -/

/-- A control character is spelled by two hexadecimal digits behind two zeros. -/
theorem hexNumber?_control {n : Nat} (h : n < 0x20) :
    hexNumber? ('0' :: '0' :: Hex.pair n) = some n := by
  have hAll : ∀ m < 0x20, hexNumber? ('0' :: '0' :: Hex.pair m) = some m := by decide
  exact hAll n h

theorem escape_control {c : Char} (h : c.toNat < 0x20) (rest : List Piece) :
    escape (('u' :: '0' :: '0' :: Hex.pair c.toNat).map .char ++ rest) = .ok (c, rest) := by
  have hRead : hexEscape (('0' :: '0' :: Hex.pair c.toNat).map .char ++ rest) =
      .ok (c.toNat, rest) := by
    simp only [Hex.pair, List.map_cons, List.map_nil, List.cons_append, List.nil_append, hexEscape]
    rw [← Hex.pair, hexNumber?_control h]
  have hLow : decide (0xDC00 ≤ c.toNat) = false := decide_eq_false (by omega)
  have hHigh : decide (0xD800 ≤ c.toNat) = false := decide_eq_false (by omega)
  rw [List.map_cons, List.cons_append, escape, unicodeEscape, hRead]
  simp only [hLow, hHigh, Bool.false_and, Bool.false_eq_true, if_false, Char.ofNat_toNat]

theorem stringTail_backslash {after : List Piece} {c : Char} (h : escape after = .ok (c, rest))
    (fuel : Nat) (done : List Char) :
    stringTail (fuel + 1) done none (.char '\\' :: after) = stringTail fuel (c :: done) none rest := by
  simp [stringTail, h]

/-- One turn of the reader takes one character, as it is written. -/
theorem stringTail_escape (c : Char) (fuel : Nat) (done : List Char) (rest : List Piece) :
    stringTail (fuel + 1) done none ((Document.escape c).map .char ++ rest) =
      stringTail fuel (c :: done) none rest := by
  unfold Document.escape
  split_ifs with hQuote hSlash h h h h h hControl
  -- the seven characters with an escape of one letter
  iterate 7
    subst c
    exact stringTail_backslash rfl fuel done
  · exact stringTail_backslash (escape_control hControl rest) fuel done
  · simp [stringTail, hQuote, hSlash, hControl]

theorem one_le_length_escape (c : Char) : 1 ≤ (Document.escape c).length := by
  unfold Document.escape
  split_ifs <;> simp

/-- A list of items that each take a character is no longer than their text. -/
theorem length_le_length_flatMap {α : Type} {code : α → List Char} {items : List α}
    (h : ∀ a ∈ items, 1 ≤ (code a).length) : items.length ≤ (items.flatMap code).length := by
  have hOne : ∀ n ∈ items.map fun a => (code a).length, 1 ≤ n := by simpa using h
  have hSum := List.length_le_sum_of_one_le _ hOne
  rwa [List.length_map, ← List.length_flatMap] at hSum

/-- What stands between the quotes is read to the closing one. -/
theorem stringTail_quoted (cs done : List Char) {fuel : Nat} (hFuel : cs.length < fuel)
    (rest : List Piece) :
    stringTail fuel done none ((cs.flatMap Document.escape).map .char ++ .char '"' :: rest) =
      .ok (String.ofList (done.reverse ++ cs), rest) := by
  induction cs generalizing done fuel with
  | nil =>
      obtain ⟨fuel, rfl⟩ := Nat.exists_eq_add_of_lt hFuel
      simp [stringTail]
  | cons c cs ih =>
      obtain ⟨fuel, rfl⟩ := Nat.exists_eq_add_of_lt hFuel
      have hText : ((c :: cs).flatMap Document.escape).map Piece.char ++ .char '"' :: rest =
          (Document.escape c).map .char ++
            ((cs.flatMap Document.escape).map .char ++ .char '"' :: rest) := by
        simp
      have hEnough : cs.length < (c :: cs).length + fuel := by
        simp only [List.length_cons]
        omega
      rw [hText, stringTail_escape, ih (c :: done) hEnough, List.reverse_cons, List.append_assoc,
        List.singleton_append]

/-- A string that has been quoted is read back, whatever follows. -/
theorem string_quoted (s : String) (rest : List Piece) :
    string ((s.toList.flatMap Document.escape).map .char ++ .char '"' :: rest) = .ok (s, rest) := by
  have hLength := length_le_length_flatMap fun c (_ : c ∈ s.toList) => one_le_length_escape c
  rw [string, stringTail_quoted s.toList []]
  · simp
  · simp only [List.length_append, List.length_map]
    omega

end Cabinet.Json
