import Cabinet.Text.Blank
import Mathlib.Data.List.TakeWhile

/-! Trimming leaves a text alone that neither begins nor ends with a blank. -/

namespace Cabinet

theorem trimStart_eq_self {cs : List Char} (h : ∀ c ∈ cs.head?, isBlank c = false) :
    trimStart cs = cs := by
  cases cs with
  | nil => rfl
  | cons c cs => simp [trimStart, h c rfl]

theorem trim_eq_self {cs : List Char} (hFirst : ∀ c ∈ cs.head?, isBlank c = false)
    (hLast : ∀ c ∈ cs.getLast?, isBlank c = false) : trim cs = cs := by
  rw [trim, trimStart_eq_self hFirst, trimStart_eq_self, List.reverse_reverse]
  rwa [List.head?_reverse]

/-- A text is another one with blanks around it, which itself neither begins nor ends with a
blank. -/
structure IsTrimmed (cs t : List Char) : Prop where
  around : ∃ before after, cs = before ++ t ++ after ∧
    (∀ c ∈ before, isBlank c) ∧ ∀ c ∈ after, isBlank c
  first : ∀ c ∈ t.head?, isBlank c = false
  last : ∀ c ∈ t.getLast?, isBlank c = false

theorem exists_trimStart_eq (cs : List Char) :
    ∃ before, cs = before ++ trimStart cs ∧ ∀ c ∈ before, isBlank c :=
  ⟨cs.takeWhile isBlank, List.takeWhile_append_dropWhile.symm, fun _ => List.mem_takeWhile_imp⟩

theorem isBlank_head?_trimStart {cs : List Char} {c : Char} (h : c ∈ (trimStart cs).head?) :
    isBlank c = false := by
  have hHead := List.head?_dropWhile_not isBlank cs
  rw [← trimStart, h] at hHead
  simpa using hHead

theorem trimStart_append {before cs : List Char} (h : ∀ c ∈ before, isBlank c) :
    trimStart (before ++ cs) = trimStart cs :=
  List.dropWhile_append_of_pos h

/-- Trimming finds the text between the blanks. -/
theorem isTrimmed_iff {cs t : List Char} : IsTrimmed cs t ↔ trim cs = t := by
  constructor
  · rintro ⟨⟨before, after, rfl, hBefore, hAfter⟩, hFirst, hLast⟩
    rw [trim, List.append_assoc, trimStart_append hBefore]
    cases t with
    | nil =>
        have hNone : trimStart after = [] := by
          simpa [trimStart] using hAfter
        rw [List.nil_append, hNone]
        rfl
    | cons c t =>
        have hBlanks : ∀ d ∈ after.reverse, isBlank d := by simpa using hAfter
        have hStart : trimStart (c :: t ++ after) = c :: t ++ after :=
          trimStart_eq_self fun d hd => hFirst d (by simpa using hd)
        rw [hStart, List.reverse_append, trimStart_append hBlanks, trimStart_eq_self,
          List.reverse_reverse]
        rwa [List.head?_reverse]
  · rintro rfl
    obtain ⟨before, hBefore, hBlanks⟩ := exists_trimStart_eq cs
    obtain ⟨after, hAfter, hBlanksAfter⟩ := exists_trimStart_eq (trimStart cs).reverse
    have hMiddle : trimStart cs = trim cs ++ after.reverse := by
      rw [trim, ← List.reverse_append, ← hAfter, List.reverse_reverse]
    refine ⟨⟨before, after.reverse, ?_, hBlanks, by simpa using hBlanksAfter⟩, ?_, ?_⟩
    · rw [List.append_assoc, ← hMiddle]
      exact hBefore
    · intro c hc
      have hHead : c ∈ (trimStart cs).head? := by
        rw [hMiddle]
        cases hTrim : trim cs with
        | nil => simp [hTrim] at hc
        | cons d t => simpa [hTrim] using hc
      exact isBlank_head?_trimStart hHead
    · intro c hc
      rw [trim, List.getLast?_reverse] at hc
      exact isBlank_head?_trimStart hc

end Cabinet
