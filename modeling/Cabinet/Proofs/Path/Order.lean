import Cabinet.Path.Update
import Mathlib.Tactic.Common

/-! The order in which places are changed. Locations are compared step by step, which is a linear
order with every place before the places below it. Taken from the last to the first, a list of
distinct locations never has a place in front of one below it. -/

namespace Cabinet

open Std

namespace Step

instance : OrientedCmp compare where
  eq_swap {a b} := by
    cases a <;> cases b
    · exact OrientedOrd.eq_swap
    · rfl
    · rfl
    · exact OrientedOrd.eq_swap

instance : TransCmp compare where
  isLE_trans {a b c} hab hbc := by
    cases a <;> cases b <;> cases c <;> simp only [compare, Ordering.isLE_gt, Bool.false_eq_true] at *
    · exact TransOrd.isLE_trans hab hbc
    · rfl
    · rfl
    · exact TransOrd.isLE_trans hab hbc

instance : LawfulEqCmp compare where
  compare_self {a} := by
    cases a <;> exact ReflOrd.compare_self
  eq_of_compare {a b} h := by
    cases a <;> cases b <;> simp only [compare, reduceCtorEq] at h
    · exact congrArg key (LawfulEqOrd.eq_of_compare h)
    · exact congrArg index (LawfulEqOrd.eq_of_compare h)

end Step

namespace Location

/-- Comparing locations is comparing lists of steps from the front. -/
theorem compare_eq_compareLex : compare = List.compareLex Step.compare := by
  funext l k
  induction l generalizing k with
  | nil => cases k <;> rfl
  | cons s l ih =>
      cases k with
      | nil => rfl
      | cons t k => rw [compare, List.compareLex_cons_cons, ih]

instance : TransCmp compare :=
  compare_eq_compareLex ▸ (inferInstance : TransCmp (List.compareLex Step.compare))

instance : LawfulEqCmp compare :=
  compare_eq_compareLex ▸ (inferInstance : LawfulEqCmp (List.compareLex Step.compare))

/-- A place comes before every place below it. -/
theorem isLE_compare_of_isPrefix {l k : Location} (h : l <+: k) : (l.compare k).isLE := by
  induction l generalizing k with
  | nil => cases k <;> rfl
  | cons s l ih =>
      obtain ⟨t, rfl⟩ := h
      have hStep : s.compare s = .eq := ReflCmp.compare_self
      rw [List.cons_append, compare, hStep]
      exact ih (List.prefix_append l t)

end Location

/-- Places found in order are changed from the last to the first. -/
theorem deepestFirst_of_pairwise {ls : List Location}
    (h : ls.Pairwise fun a b => (Location.compare a b).isLE) : deepestFirst ls = ls.reverse := by
  rw [deepestFirst, List.mergeSort_of_pairwise h]

theorem perm_deepestFirst (ls : List Location) : (deepestFirst ls).Perm ls :=
  (List.reverse_perm _).trans (List.mergeSort_perm _ _)

theorem pairwise_deepestFirst (ls : List Location) :
    (deepestFirst ls).Pairwise fun a b => (Location.compare b a).isLE := by
  refine List.pairwise_reverse.mpr
    (List.pairwise_mergeSort (fun _ _ _ => TransCmp.isLE_trans) ?_ ls)
  intro a b
  have hSwap : Location.compare b a = (Location.compare a b).swap := OrientedCmp.eq_swap
  rw [hSwap]
  cases Location.compare a b <;> rfl

/-- Distinct places are taken in descending order, each before all that come before it. -/
theorem pairwise_lt_deepestFirst {ls : List Location} (h : ls.Nodup) :
    (deepestFirst ls).Pairwise fun a b => Location.compare b a = .lt := by
  have hDistinct := (perm_deepestFirst ls).symm.nodup h
  refine ((pairwise_deepestFirst ls).and hDistinct).imp ?_
  rintro a b ⟨hLe, hne⟩
  cases hOrder : Location.compare b a with
  | lt => rfl
  | eq => exact absurd (LawfulEqCmp.eq_of_compare hOrder).symm hne
  | gt => simp [hOrder] at hLe

/-- No place stands in front of a place below it, so that what lies deeper is changed first. -/
theorem not_isPrefix_deepestFirst {ls : List Location} (h : ls.Nodup) :
    (deepestFirst ls).Pairwise fun a b => ¬a <+: b := by
  refine (pairwise_lt_deepestFirst h).imp ?_
  intro a b hLt hPrefix
  have hLe := Location.isLE_compare_of_isPrefix hPrefix
  have hSwap : Location.compare a b = (Location.compare b a).swap := OrientedCmp.eq_swap
  rw [hSwap, hLt] at hLe
  cases hLe

end Cabinet
