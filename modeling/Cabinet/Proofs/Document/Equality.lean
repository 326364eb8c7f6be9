import Cabinet.Document.Printer
import Mathlib

/-! Documents that compare equal. Containers do so by their canonical texts, and scalars by value. A
value has one text, with one exception: the two zeros among the doubles compare equal, and one of them
is written with a minus sign. Whatever goes by the text, as a hash does, takes them for two.

The whole of Mathlib is imported since no smaller part of it brings `Float.beq_iff_ne_nan_and_eq`, which says
when doubles compare equal. -/

namespace Cabinet

namespace Document

variable {a b : Document}

/-- The two zeros, in either order. -/
def OppositeZeros (a b : Document) : Prop :=
  a = number (.float 0.0) ∧ b = number (.float (-0.0)) ∨
    a = number (.float (-0.0)) ∧ b = number (.float 0.0)

theorem text_ne_of_oppositeZeros (h : OppositeZeros a b) : a.text ≠ b.text := by
  rcases h with ⟨rfl, rfl⟩ | ⟨rfl, rfl⟩ <;> decide

theorem number_eq_or_zeros_of_same {m n : Number} (h : m.same n) :
    m = n ∨ OppositeZeros (number m) (number n) := by
  fun_cases Number.same m n with
  | case1 i j => exact Or.inl (congrArg Number.integer (beq_iff_eq.mp h))
  | case2 x y =>
      obtain ⟨-, -, rfl | ⟨rfl, rfl⟩ | ⟨rfl, rfl⟩⟩ := Float.beq_iff_ne_nan_and_eq.mp h
      · exact Or.inl rfl
      · exact Or.inr (Or.inl ⟨rfl, rfl⟩)
      · exact Or.inr (Or.inr ⟨rfl, rfl⟩)
  | case3 => simp [Number.same, *] at h

theorem text_eq_or_zeros_of_same (h : a.same b) : a.text = b.text ∨ OppositeZeros a b := by
  fun_cases same a b with
  | case1 => exact Or.inl rfl
  | case2 x y => exact Or.inl (by rw [beq_iff_eq.mp h])
  | case3 m n => exact (number_eq_or_zeros_of_same h).imp_left fun hSame => by rw [hSame]
  | case4 x y => exact Or.inl (by rw [beq_iff_eq.mp h])
  | case5 es fs => exact Or.inl (congrArg String.ofList (beq_iff_eq.mp h))
  | case6 ms ns => exact Or.inl (congrArg String.ofList (beq_iff_eq.mp h))
  | case7 => simp [same, *] at h

/-- Documents that compare equal have one canonical text, and every hash takes them for one, unless they
are the two zeros. These have two texts, which some hash tells apart. -/
theorem text_eq_iff_of_same (h : a.same b) :
    (a.text = b.text ↔ ¬OppositeZeros a b) ∧
      ((∀ (σ : Type) (feed : String → σ → σ) (state : σ),
        a.hashInto feed state = b.hashInto feed state) ↔ ¬OppositeZeros a b) := by
  have hText : a.text = b.text ↔ ¬OppositeZeros a b :=
    ⟨fun hSame hZeros => text_ne_of_oppositeZeros hZeros hSame, (text_eq_or_zeros_of_same h).resolve_right⟩
  refine ⟨hText, fun hAlike => ?_, fun hZeros σ feed state => ?_⟩
  · -- the hash that keeps the text as it is
    exact hText.mp (hAlike String (fun text _ => text) "")
  · rw [hashInto, hashInto, hText.mpr hZeros]

/-- Two arrays that are not the same tree: a number that is not finite is written as null. -/
theorem text_eq_iff_of_same_nan :
    let one : Document := .array [.null, .number (.float 1.5)]
    let other : Document := .array [.number (.float (0.0 / 0.0)), .number (.float 1.5)]
    one.same other ∧ one.text = other.text ∧
      ∀ (σ : Type) (feed : String → σ → σ) (state : σ),
        one.hashInto feed state = other.hashInto feed state := by
  intro one other
  have hSame : one.same other := by decide
  have hAside : ¬OppositeZeros one other := by simp [OppositeZeros, one]
  obtain ⟨hText, hAlike⟩ := text_eq_iff_of_same hSame
  exact ⟨hSame, hText.mpr hAside, hAlike.mpr hAside⟩

/-- The two zeros compare equal, but do not have one text. -/
theorem not_text_eq_zeros : ¬∀ a b : Document, a.same b → a.text = b.text := by
  intro hTexts
  have hSame : (number (.float 0.0)).same (number (.float (-0.0))) := by decide
  exact text_ne_of_oppositeZeros (Or.inl ⟨rfl, rfl⟩) (hTexts _ _ hSame)

end Document

end Cabinet
