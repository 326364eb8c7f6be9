import Cabinet.Path.Printer
import Cabinet.Text.Blank
import Mathlib.Tactic.Common

/-! The characters of names that are written without quotes. None of them is a blank, a point or an
opening bracket, so such a name is not trimmed and ends where the next segment begins. Beyond ASCII
this is checked on the tables, range by range. -/

namespace Cabinet

theorem isBlank_of_ascii {c : Char} (hLow : 0x20 < c.toNat) (hHigh : c.toNat < 0x80) :
    isBlank c = false := by
  simp only [isBlank, Bool.or_eq_false_iff, Bool.and_eq_false_iff, decide_eq_false_iff_not,
    beq_eq_false_iff_ne]
  omega

theorem isBlank_of_isDigit {c : Char} (h : isDigit c) : isBlank c = false := by
  simp only [isDigit, Bool.and_eq_true, decide_eq_true_eq, Char.le_def,
    UInt32.le_iff_toNat_le] at h
  have hEnds : '0'.val.toNat = 0x30 ∧ '9'.val.toNat = 0x39 := by decide
  have hCode : c.toNat = c.val.toNat := rfl
  exact isBlank_of_ascii (by omega) (by omega)

namespace Identifier

theorem isBlank_of_isAsciiLetter {c : Char} (h : isAsciiLetter c) : isBlank c = false := by
  simp only [isAsciiLetter, Bool.or_eq_true, Bool.and_eq_true, decide_eq_true_eq, Char.le_def,
    UInt32.le_iff_toNat_le] at h
  have hLower : 'a'.val.toNat = 0x61 ∧ 'z'.val.toNat = 0x7A := by decide
  have hUpper : 'A'.val.toNat = 0x41 ∧ 'Z'.val.toNat = 0x5A := by decide
  have hCode : c.toNat = c.val.toNat := rfl
  exact isBlank_of_ascii (by omega) (by omega)

/-- The blanks beyond ASCII. -/
def wideBlanks : List Nat :=
  [0x85, 0xA0, 0x1680, 0x2000, 0x2001, 0x2002, 0x2003, 0x2004, 0x2005, 0x2006, 0x2007, 0x2008,
    0x2009, 0x200A, 0x2028, 0x2029, 0x202F, 0x205F, 0x3000]

/-- No range holds a blank. -/
def freeOfBlanks (ranges : List (Nat × Nat)) : Bool :=
  ranges.all fun r => wideBlanks.all fun n => n < r.1 || r.2 < n

theorem freeOfBlanks_startRanges : freeOfBlanks startRanges := by decide +kernel

theorem freeOfBlanks_continueRanges : freeOfBlanks continueRanges := by decide +kernel

theorem mem_wideBlanks {c : Char} (h : isBlank c) (hWide : 0x80 ≤ c.toNat) :
    c.toNat ∈ wideBlanks := by
  simp only [isBlank, Bool.or_eq_true, Bool.and_eq_true, decide_eq_true_eq, beq_iff_eq] at h
  simp only [wideBlanks, List.mem_cons, List.not_mem_nil, or_false]
  omega

theorem isBlank_of_within {ranges : List (Nat × Nat)} {c : Char} (hFree : freeOfBlanks ranges)
    (hWide : 0x80 ≤ c.toNat) (h : within ranges c) : isBlank c = false := by
  obtain ⟨r, hr, hIn⟩ := List.any_eq_true.mp h
  simp only [Bool.and_eq_true, decide_eq_true_eq] at hIn
  by_contra hBlank
  have hMem := mem_wideBlanks (Bool.not_eq_false _ ▸ hBlank) hWide
  have hOut := List.all_eq_true.mp (List.all_eq_true.mp hFree r hr) _ hMem
  simp only [Bool.or_eq_true, decide_eq_true_eq] at hOut
  omega

theorem isBlank_of_isStart {c : Char} (h : isStart c) : isBlank c = false := by
  rcases Bool.or_eq_true_iff.mp h with hLetter | hWide
  · exact isBlank_of_isAsciiLetter hLetter
  · simp only [Bool.and_eq_true, decide_eq_true_eq] at hWide
    exact isBlank_of_within freeOfBlanks_startRanges hWide.1 hWide.2

theorem isBlank_of_isContinue {c : Char} (h : isContinue c) : isBlank c = false := by
  simp only [isContinue, Bool.or_eq_true, beq_iff_eq, Bool.and_eq_true, decide_eq_true_eq] at h
  rcases h with ((hLetter | hDigit) | rfl) | hWide
  · exact isBlank_of_isAsciiLetter hLetter
  · exact isBlank_of_isDigit hDigit
  · decide
  · exact isBlank_of_within freeOfBlanks_continueRanges hWide.1 hWide.2

end Identifier

/-- A character of a plain name may begin or go on with an identifier; digits are among the
latter. -/
theorem isStart_or_isContinue_of_mem {cs : List Char} (hPlain : isPlainName cs) {c : Char}
    (h : c ∈ cs) : Identifier.isStart c ∨ Identifier.isContinue c := by
  rcases Bool.or_eq_true_iff.mp hPlain with hDigits | hName
  · have hDigit := List.all_eq_true.mp (Bool.and_eq_true_iff.mp hDigits).2 c h
    exact Or.inr (by simp [Identifier.isContinue, hDigit])
  · cases cs with
    | nil => cases h
    | cons d cs =>
        simp only [isIdentifier, Bool.and_eq_true, Bool.or_eq_true, beq_iff_eq] at hName
        rcases List.mem_cons.mp h with rfl | hTail
        · exact hName.1.imp_right fun hLine => by rw [hLine]; decide
        · exact Or.inr (List.all_eq_true.mp hName.2 c hTail)

theorem isBlank_of_mem_plainName {cs : List Char} (hPlain : isPlainName cs) {c : Char}
    (h : c ∈ cs) : isBlank c = false :=
  (isStart_or_isContinue_of_mem hPlain h).elim Identifier.isBlank_of_isStart
    Identifier.isBlank_of_isContinue

theorem ne_of_mem_plainName {cs : List Char} (hPlain : isPlainName cs) {c : Char} (h : c ∈ cs) :
    c ≠ '.' ∧ c ≠ '[' := by
  have hPoint : Identifier.isStart '.' = false ∧ Identifier.isContinue '.' = false := by decide
  have hBracket : Identifier.isStart '[' = false ∧ Identifier.isContinue '[' = false := by decide
  have hPart := isStart_or_isContinue_of_mem hPlain h
  constructor
  · rintro rfl
    simp [hPoint] at hPart
  · rintro rfl
    simp [hBracket] at hPart

end Cabinet
