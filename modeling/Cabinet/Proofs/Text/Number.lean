import Cabinet.Document.Printer
import Cabinet.Proofs.Text.Integer

/-! The characters that numbers are written with. Whatever digits a floating-point number has, its text
holds nothing that a reader could take for anything but a number or a name. -/

namespace Cabinet

/-- A text of digits, signs and points, and of the letters of an exponent and of `null`. -/
def IsNumeral (cs : List Char) : Prop :=
  ∀ c ∈ cs, isDigit c ∨ c ∈ ['-', '+', '.', 'e', 'n', 'u', 'l']

namespace IsNumeral

variable {c : Char} {cs ds : List Char}

theorem append (h : IsNumeral cs) (hRest : IsNumeral ds) : IsNumeral (cs ++ ds) :=
  List.forall_mem_append.mpr ⟨h, hRest⟩

theorem cons (hc : isDigit c ∨ c ∈ ['-', '+', '.', 'e', 'n', 'u', 'l']) (h : IsNumeral cs) :
    IsNumeral (c :: cs) :=
  List.forall_mem_cons.mpr ⟨hc, h⟩

theorem nil : IsNumeral [] :=
  List.forall_mem_nil _

theorem take (n : Nat) (h : IsNumeral cs) : IsNumeral (cs.take n) :=
  fun c hc => h c (List.mem_of_mem_take hc)

theorem drop (n : Nat) (h : IsNumeral cs) : IsNumeral (cs.drop n) :=
  fun c hc => h c (List.mem_of_mem_drop hc)

theorem minus (h : IsNumeral cs) : IsNumeral ('-' :: cs) :=
  cons (Or.inr (by decide)) h

theorem point (h : IsNumeral cs) : IsNumeral ('.' :: cs) :=
  cons (Or.inr (by decide)) h

theorem zero (h : IsNumeral cs) : IsNumeral ('0' :: cs) :=
  cons (Or.inl (by decide)) h

theorem null : IsNumeral ['n', 'u', 'l', 'l'] := by
  simp [IsNumeral]

theorem zeros (n : Nat) : IsNumeral (List.replicate n '0') :=
  fun c hc => List.eq_of_mem_replicate hc ▸ Or.inl (by decide)

end IsNumeral

namespace Decimal

theorem isNumeral_natural (n : Nat) : IsNumeral (natural n) :=
  fun _ hc => Or.inl (isDigit_of_mem_natural hc)

theorem isNumeral_integer (n : Int) : IsNumeral (integer n) := by
  unfold integer
  split
  · exact (isNumeral_natural _).minus
  · exact isNumeral_natural _

theorem isNumeral_positional (point : Bool) (d : Digits) : IsNumeral (positional point d) := by
  have hDigits : IsNumeral (natural d.digits) := isNumeral_natural _
  unfold positional
  dsimp only
  split
  · refine (hDigits.append (.zeros _)).append ?_
    split
    · exact .point (.zero .nil)
    · exact .nil
  split
  · exact (hDigits.take _).append (.point (hDigits.drop _))
  · exact .zero (.point ((IsNumeral.zeros _).append hDigits))

theorem isNumeral_scientific (plus : Bool) (d : Digits) : IsNumeral (scientific plus d) := by
  have hDigits : IsNumeral (natural d.digits) := isNumeral_natural _
  have hPlus : IsNumeral ['+'] := .cons (Or.inr (by decide)) .nil
  unfold scientific
  dsimp only
  have hFraction : IsNumeral (if ((natural d.digits).drop 1).isEmpty then []
      else '.' :: (natural d.digits).drop 1) := by
    split
    · exact .nil
    · exact .point (hDigits.drop 1)
  have hSign : IsNumeral (if ((natural d.digits).length : Int) + d.exponent - 1 < 0 then ['-']
      else if plus then ['+'] else []) := by
    split
    · exact .minus .nil
    split
    · exact hPlus
    · exact .nil
  exact (((hDigits.take 1).append hFraction).append (.cons (Or.inr (by decide)) hSign)).append
    (isNumeral_natural _)

namespace Layout

theorem isNumeral_digits (l : Layout) (d : Digits) : IsNumeral (l.digits d) := by
  unfold digits
  dsimp only
  split
  · exact isNumeral_positional _ _
  split
  · exact isNumeral_positional _ _
  · exact isNumeral_scientific _ _

theorem isNumeral_signed {cs : List Char} (negative : Bool) (h : IsNumeral cs) :
    IsNumeral (signed negative cs) := by
  unfold signed
  split
  · exact h.minus
  · exact h

theorem isNumeral_write (x : Float) : IsNumeral (document.write x) := by
  have hNull : IsNumeral "null".toList := .null
  unfold write
  split
  · exact hNull
  · exact isNumeral_signed _ hNull
  · exact isNumeral_signed _ (.zero (.point (.zero .nil)))
  · exact isNumeral_signed _ (isNumeral_digits _ _)

end Layout

end Decimal

/-- The text of a number. -/
theorem Number.isNumeral_text (n : Number) : IsNumeral n.text := by
  cases n with
  | integer n => exact Decimal.isNumeral_integer n.val
  | float x =>
      rw [text]
      split
      · exact Decimal.Layout.isNumeral_write x
      · exact .null

end Cabinet
