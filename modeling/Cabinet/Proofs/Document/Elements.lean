import Cabinet.Document.Elements
import Mathlib.Tactic.Common

/-! Positions in arrays, counted from either end, and what is in an array once a position has been
written. -/

namespace Cabinet.Elements

/-- An index finds the position it counts to from the start, or back from the end. -/
theorem resolve?_eq_some_iff {i : Int} {length n : Nat} :
    resolve? i length = some n ↔ n < length ∧ (i = n ∨ i = (n : Int) - length) := by
  unfold resolve?
  split
  · split <;> simp only [Option.some.injEq, reduceCtorEq, false_iff] <;> omega
  · split <;> simp only [Option.some.injEq, reduceCtorEq, false_iff] <;> omega

theorem resolve?_natCast {length n : Nat} (h : n < length) : resolve? n length = some n :=
  resolve?_eq_some_iff.mpr ⟨h, Or.inl rfl⟩

/-- An index finds nothing when it leaves the array at either end. -/
theorem resolve?_eq_none_iff {i : Int} {length : Nat} :
    resolve? i length = none ↔ i < -(length : Int) ∨ (length : Int) ≤ i := by
  unfold resolve?
  split
  · split <;> simp only [reduceCtorEq, true_iff, false_iff] <;> omega
  · split <;> simp only [reduceCtorEq, true_iff, false_iff] <;> omega

variable {n : Nat} {v e : Document} {es : List Document}

theorem set_ne_nil (n : Nat) (v : Document) (es : List Document) : set n v es ≠ [] := by
  unfold set
  split
  · rename_i hn
    exact List.ne_nil_of_length_pos (by rw [List.length_set]; omega)
  · simp

/-- What is written is all that is new, but for the nulls that fill a gap. -/
theorem mem_set (h : e ∈ set n v es) : e = v ∨ e ∈ es ∨ e = .null := by
  unfold set at h
  split at h
  · rcases List.mem_or_eq_of_mem_set h with h | h
    · exact Or.inr (Or.inl h)
    · exact Or.inl h
  · rcases List.mem_append.mp h with h | h
    · rcases List.mem_append.mp h with h | h
      · exact Or.inr (Or.inl h)
      · exact Or.inr (Or.inr (List.eq_of_mem_replicate h))
    · exact Or.inl (List.mem_singleton.mp h)

/-- Nulls fill an array up to the position. -/
theorem length_filled (h : ¬n < es.length) :
    (es ++ List.replicate (n - es.length) Document.null).length = n := by
  rw [List.length_append, List.length_replicate]
  omega

/-- What is written stands at its position. -/
theorem getElem?_set_self (n : Nat) (v : Document) (es : List Document) : (set n v es)[n]? = some v := by
  unfold set
  split
  · rename_i hn
    exact List.getElem?_set_self hn
  · rename_i hn
    have hLength := length_filled hn
    rw [List.getElem?_append_right (Nat.le_of_eq hLength), hLength, Nat.sub_self]
    rfl

/-- At other positions there is what was there before, or a null that fills a gap. -/
theorem getElem?_set_of_ne {m : Nat} (h : m ≠ n) (v : Document) (es : List Document) :
    (set n v es)[m]? = es[m]? ∨ (set n v es)[m]? = some .null := by
  unfold set
  split
  · exact Or.inl (List.getElem?_set_ne h.symm)
  · rename_i hn
    have hLength := length_filled hn
    rcases Nat.lt_or_gt_of_ne h with hm | hm
    · rw [List.getElem?_append_left (by omega), List.getElem?_append]
      split
      · exact Or.inl rfl
      · exact Or.inr (by rw [List.getElem?_replicate, if_pos (by omega)])
    · have hEnd : (es ++ List.replicate (n - es.length) Document.null ++ [v]).length ≤ m := by
        rw [List.length_append, hLength, List.length_singleton]
        omega
      exact Or.inl (by rw [List.getElem?_eq_none hEnd, List.getElem?_eq_none (by omega)])

/-- An array grows up to the position that is written. -/
theorem length_set (n : Nat) (v : Document) (es : List Document) :
    (set n v es).length = max es.length (n + 1) := by
  unfold set
  split
  · rw [List.length_set]
    omega
  · simp only [List.length_append, List.length_replicate, List.length_singleton]
    omega

/-- The last element is the one written, or was the last before. -/
theorem getLast?_set (n : Nat) (v : Document) (es : List Document) :
    (set n v es).getLast? = some v ∨ (set n v es).getLast? = es.getLast? := by
  unfold set
  split
  · rename_i hn
    rw [List.getLast?_eq_getElem?, List.getLast?_eq_getElem?, List.length_set, List.getElem?_set]
    split
    · exact Or.inl (by simp)
    · exact Or.inr rfl
  · exact Or.inl List.getLast?_concat

/-- A position that has been made by a write can be written again. -/
theorem set_set (n : Nat) (v w : Document) (es : List Document) :
    List.set (set n v es) n w = set n w es := by
  unfold set
  split
  · exact List.set_set ..
  · rename_i hn
    have hLength := length_filled hn
    rw [List.set_append_right _ _ (Nat.le_of_eq hLength), hLength, Nat.sub_self, List.set_cons_zero]

/-- The position behind the last is written without a gap. -/
theorem set_length (v : Document) (es : List Document) : set es.length v es = es ++ [v] := by
  simp [set]

end Cabinet.Elements
