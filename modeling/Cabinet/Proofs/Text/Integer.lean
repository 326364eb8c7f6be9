import Cabinet.Decimal.Layout
import Cabinet.Document.Basic
import Mathlib.Data.List.Induction
import Mathlib.Data.List.TakeWhile
import Mathlib.Tactic.Common

/-! Integers in decimal digits. What is written is read back, at every width that holds it. -/

namespace Cabinet

theorem isDigit_of_mem_natural {n : Nat} {c : Char} (h : c ∈ Decimal.natural n) : isDigit c :=
  Nat.isDigit_of_mem_toDigits (by decide) (by decide) h

theorem natural_ne_nil (n : Nat) : Decimal.natural n ≠ [] :=
  Nat.toDigits_ne_nil

/-- No zero leads the digits of a positive number. -/
theorem exists_natural_eq_cons {n : Nat} (h : 0 < n) :
    ∃ c ds, Decimal.natural n = c :: ds ∧ c ≠ '0' := by
  induction n using Nat.strongRecOn with
  | ind n ih =>
      rcases Nat.lt_or_ge n 10 with hOne | hMore
      · refine ⟨n.digitChar, [], Nat.toDigits_of_lt_base hOne, ?_⟩
        have hChar : ∀ m < 10, 0 < m → m.digitChar ≠ '0' := by decide
        exact hChar n hOne h
      · obtain ⟨c, ds, hText, hc⟩ := ih (n / 10) (by omega) (by omega)
        refine ⟨c, ds ++ [(n % 10).digitChar], ?_, hc⟩
        rw [Decimal.natural, Nat.toDigits_of_base_le (by decide) hMore]
        rw [Decimal.natural] at hText
        rw [hText, List.cons_append]

theorem digitsValue_natural (n : Nat) : digitsValue (Decimal.natural n) = n := by
  have hFold (cs : List Char) : digitsValue cs = Nat.ofDigitChars 10 cs 0 := by
    simp only [digitsValue, Nat.ofDigitChars, digitValue, Nat.mul_comm]
  rw [hFold]
  exact Nat.ofDigitChars_ten_toDigits

theorem splitSign_fst (cs : List Char) : (splitSign cs).1 = decide (cs.head? = some '-') := by
  unfold splitSign
  split
  · rfl
  · rfl
  · rename_i hMinus _
    cases cs with
    | nil => rfl
    | cons c cs =>
        have hc : c ≠ '-' := fun h => hMinus cs (by rw [h])
        simp [hc]

theorem splitSign_minus (cs : List Char) : splitSign ('-' :: cs) = (true, cs) := rfl

/-- A row of decimal digits and the number that it spells. -/
inductive Spells : List Char → Nat → Prop where
  | one {c : Char} (hc : isDigit c) : Spells [c] (digitValue c)
  | more {cs : List Char} {n : Nat} {c : Char} (hs : Spells cs n) (hc : isDigit c) :
      Spells (cs ++ [c]) (n * 10 + digitValue c)

theorem spells_iff {cs : List Char} {n : Nat} :
    Spells cs n ↔ cs ≠ [] ∧ (∀ c ∈ cs, isDigit c) ∧ digitsValue cs = n := by
  constructor
  · intro h
    induction h with
    | one hc => simp [digitsValue, hc]
    | more hs hc ih =>
        obtain ⟨-, hDigits, rfl⟩ := ih
        refine ⟨by simp, fun d hd => ?_, by simp [digitsValue]⟩
        rcases List.mem_append.mp hd with hd | hd
        · exact hDigits d hd
        · rwa [List.mem_singleton.mp hd]
  · rintro ⟨hNonempty, hDigits, rfl⟩
    induction cs using List.reverseRecOn with
    | nil => exact absurd rfl hNonempty
    | append_singleton cs c ih =>
        have hc : isDigit c := hDigits c (by simp)
        rcases eq_or_ne cs [] with rfl | hMore
        · simpa [digitsValue] using Spells.one hc
        · have hs := ih hMore fun d hd => hDigits d (List.mem_append_left _ hd)
          simpa [digitsValue] using hs.more hc

theorem Spells.splitSign_eq {cs : List Char} {n : Nat} (h : Spells cs n) :
    splitSign cs = (false, cs) := by
  obtain ⟨-, hDigits, -⟩ := spells_iff.mp h
  unfold splitSign
  split
  · exact absurd (hDigits '-' (List.mem_cons_self ..)) (by decide)
  · exact absurd (hDigits '+' (List.mem_cons_self ..)) (by decide)
  · rfl

theorem spells_natural (n : Nat) : Spells (Decimal.natural n) n :=
  spells_iff.mpr ⟨natural_ne_nil n, fun _ => isDigit_of_mem_natural, digitsValue_natural n⟩

/-- The sign and the digits that an integer is written with. -/
theorem splitSign_integer (n : Int) :
    splitSign (Decimal.integer n) = (decide (n < 0), Decimal.natural n.natAbs) := by
  unfold Decimal.integer
  split
  · rename_i hNeg
    simp [splitSign, hNeg]
  · rename_i hPos
    rw [(spells_natural _).splitSign_eq]
    simp [hPos]

theorem Width.int64_low : int64.low = -Nat.pow 2 63 := rfl

theorem Width.int64_high : int64.high = Nat.pow 2 63 - 1 := rfl

theorem Width.word64_low : word64.low = 0 := rfl

theorem Width.int64_high_le_word64_high : int64.high ≤ word64.high := by decide

theorem Width.contains_iff {w : Width} {n : Int} : w.contains n ↔ w.low ≤ n ∧ n ≤ w.high := by
  simp [contains]

/-- What is read is the integer that the digits and the sign spell, if the width holds it. A width
that starts at zero takes no minus sign. -/
theorem Width.read_eq_ok_iff {w : Width} {cs ds : List Char} {negative : Bool} {n : Int}
    (hSign : splitSign cs = (negative, ds)) : w.read cs = .ok n ↔
      (ds ≠ [] ∧ (∀ c ∈ ds, isDigit c) ∧ ¬(negative = true ∧ w.low = 0)) ∧
        n = (if negative then -(digitsValue ds : Int) else digitsValue ds) ∧
        w.low ≤ n ∧ n ≤ w.high := by
  have hBad : (ds.isEmpty || !ds.all isDigit || (negative && w.low == 0)) = true ↔
      ¬(ds ≠ [] ∧ (∀ c ∈ ds, isDigit c) ∧ ¬(negative = true ∧ w.low = 0)) := by
    simp only [Bool.or_eq_true, List.isEmpty_iff, Bool.not_eq_true', ← Bool.not_eq_true,
      List.all_eq_true, Bool.and_eq_true, beq_iff_eq]
    tauto
  by_cases hNone : cs = []
  · subst hNone
    cases hSign
    simp [Width.read]
  · rw [Width.read, hSign, if_neg (by simpa using hNone)]
    dsimp only
    generalize (if negative = true then -(digitsValue ds : Int) else digitsValue ds) = v
    by_cases hGood : ds ≠ [] ∧ (∀ c ∈ ds, isDigit c) ∧ ¬(negative = true ∧ w.low = 0)
    · rw [if_neg (by rwa [hBad, not_not])]
      rw [and_iff_right hGood]
      split
      · simp only [reduceCtorEq, false_iff]
        omega
      · split
        · simp only [reduceCtorEq, false_iff]
          omega
        · simp only [Except.ok.injEq]
          omega
    · rw [if_pos (hBad.mpr hGood)]
      exact iff_of_false (fun h => nomatch h) fun h => hGood h.1

theorem Width.read?_eq_some_iff {w : Width} {cs : List Char} {n : Int} :
    w.read? cs = some n ↔ w.read cs = .ok n := by
  rw [Width.read?]
  cases w.read cs <;> simp [Except.toOption]

/-- Reading an integer that a width holds gives it back. Only a width that starts below zero holds
negative integers, so that the sign is never refused. -/
theorem Width.read_integer {w : Width} {n : Int} (hLow : w.low ≤ n) (hHigh : n ≤ w.high) :
    w.read (Decimal.integer n) = .ok n := by
  have hDigits : ∀ c ∈ Decimal.natural n.natAbs, isDigit c := fun _ => isDigit_of_mem_natural
  refine (read_eq_ok_iff (splitSign_integer n)).mpr
    ⟨⟨natural_ne_nil _, hDigits, ?_⟩, ?_, hLow, hHigh⟩
  · simp only [decide_eq_true_eq]
    omega
  · simp only [digitsValue_natural, decide_eq_true_eq]
    split <;> omega

end Cabinet
