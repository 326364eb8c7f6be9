import Cabinet.Pattern.Basic
import Mathlib.Tactic.Common

/-! What patterns match. A pattern matches a text from one position to another, told by its parts, and the
ends that are found for a match are all the ends that there are. Repetitions are followed in waves, where
each wave goes on from what the last one found anew: no place is left out, since a match never leads back
and a repetition that leads nowhere may as well not be made. -/

namespace Cabinet.Regex

variable {R : Nat → Nat → Prop} {f : Nat → List Nat} {ns frontier found : List Nat} {text : Array Char}
  {r body : Regex} {a b i j k m n size : Nat}

/-! ### Steps -/

/-- So many steps lead from one position to another. -/
def Steps (R : Nat → Nat → Prop) : Nat → Nat → Nat → Prop
  | 0, n, m => n = m
  | count + 1, n, m => ∃ k, R n k ∧ Steps R count k m

theorem steps_add_iff : Steps R (i + j) n m ↔ ∃ k, Steps R i n k ∧ Steps R j k m := by
  induction i generalizing n with
  | zero => simp [Steps]
  | succ i ih =>
      rw [Nat.add_right_comm]
      simp only [Steps, ih]
      constructor
      · rintro ⟨l, hStep, k, hFirst, hRest⟩
        exact ⟨k, ⟨l, hStep, hFirst⟩, hRest⟩
      · rintro ⟨k, ⟨l, hStep, hFirst⟩, hRest⟩
        exact ⟨l, hStep, k, hFirst, hRest⟩

theorem mem_join_iff {ns ms : List Nat} : m ∈ join ns ms ↔ m ∈ ns ∨ m ∈ ms := by
  rw [join]
  induction ms generalizing ns with
  | nil => simp
  | cons k ms ih =>
      rw [List.foldl_cons, ih]
      split <;> grind

theorem mem_step_iff : m ∈ step f ns ↔ ∃ n ∈ ns, m ∈ f n := by
  have hFold (acc : List Nat) :
      m ∈ ns.foldl (fun acc n => join acc (f n)) acc ↔ m ∈ acc ∨ ∃ n ∈ ns, m ∈ f n := by
    induction ns generalizing acc with
    | nil => simp
    | cons n ns ih =>
        rw [List.foldl_cons, ih, mem_join_iff]
        simp only [List.mem_cons, exists_eq_or_imp, or_assoc]
  rw [step, hFold]
  simp

section

variable (hf : ∀ n m, m ∈ f n ↔ R n m)
include hf

theorem mem_walk_iff {count : Nat} : m ∈ walk f count ns ↔ ∃ n ∈ ns, Steps R count n m := by
  induction count generalizing ns with
  | zero => simp [walk, Steps]
  | succ count ih =>
      cases ns with
      | nil => simp [walk]
      | cons n ns =>
          simp only [walk, ih, mem_step_iff, Steps, hf]
          constructor
          · rintro ⟨k, ⟨l, hl, hStep⟩, hRest⟩
            exact ⟨l, hl, k, hStep, hRest⟩
          · rintro ⟨l, hl, k, hStep, hRest⟩
            exact ⟨k, ⟨l, hl, hStep⟩, hRest⟩

/-- A search in waves finds what a number of steps leads to, as long as all that has been found was led on
from, but for what was found in the last wave. -/
theorem mem_spread_iff {count : Nat} (hFrontier : frontier ⊆ found)
    (hClosed : ∀ a ∈ found, a ∉ frontier → ∀ b, R a b → b ∈ found) :
    m ∈ spread f count frontier found ↔ ∃ j ≤ count, ∃ a ∈ found, Steps R j a m := by
  induction count generalizing frontier found with
  | zero => simp [spread, Steps]
  | succ count ih =>
      rcases frontier with _ | ⟨x, xs⟩
      · -- Nothing is new any more: no step leads away from what was found.
        have hStays {j a : Nat} (ha : a ∈ found) (hSteps : Steps R j a m) : m ∈ found := by
          induction j generalizing a with
          | zero => exact hSteps ▸ ha
          | succ j ihSteps =>
              obtain ⟨b, hStep, hRest⟩ := hSteps
              exact ihSteps (hClosed a ha List.not_mem_nil b hStep) hRest
        simp only [spread]
        exact ⟨fun hm => ⟨0, Nat.zero_le _, m, hm, rfl⟩, fun ⟨_, _, _, ha, hSteps⟩ => hStays ha hSteps⟩
      · have hNext {b : Nat} : b ∈ join found ((step f (x :: xs)).filter fun n => !found.contains n) ↔
            b ∈ found ∨ ∃ a ∈ x :: xs, R a b := by
          rw [mem_join_iff, List.mem_filter, mem_step_iff]
          simp only [hf, Bool.not_eq_true', Bool.eq_false_iff, ne_eq, List.contains_iff_mem]
          tauto
        simp only [spread]
        rw [ih]
        · constructor
          · rintro ⟨j, hj, a, ha, hSteps⟩
            rcases hNext.mp ha with ha | ⟨x', hx', hStep⟩
            · exact ⟨j, by omega, a, ha, hSteps⟩
            · exact ⟨j + 1, by omega, x', hFrontier hx', a, hStep, hSteps⟩
          · rintro ⟨_ | j, hj, a, ha, hSteps⟩
            · exact ⟨0, by omega, a, hNext.mpr (Or.inl ha), hSteps⟩
            · obtain ⟨b, hStep, hRest⟩ := hSteps
              refine ⟨j, by omega, b, hNext.mpr ?_, hRest⟩
              by_cases hNew : a ∈ x :: xs
              · exact Or.inr ⟨a, hNew, hStep⟩
              · exact Or.inl (hClosed a ha hNew b hStep)
        · intro b hb
          exact mem_join_iff.mpr (Or.inr hb)
        · intro a ha hOld b hStep
          rcases mem_join_iff.mp ha with ha | hNew
          · refine hNext.mpr ?_
            by_cases hLast : a ∈ x :: xs
            · exact Or.inr ⟨a, hLast, hStep⟩
            · exact Or.inl (hClosed a ha hLast b hStep)
          · exact absurd hNew hOld

end

/-! ### Matches -/

/-- A pattern matches a text from one position to another. A repetition is made as often as it has to be,
and then up to as many times more as it may. -/
def Matches (text : Array Char) : Regex → Nat → Nat → Prop
  | empty, n, m => n = m
  | one set, n, m => m = n + 1 ∧ ∃ c, text[n]? = some c ∧ set.contains c = true
  | boundary b, n, m => n = m ∧ b.holds (if n = 0 then none else text[n - 1]?) text[n]? = true
  | seq a b, n, m => ∃ k, Matches text a n k ∧ Matches text b k m
  | either a b, n, m => Matches text a n m ∨ Matches text b n m
  | times body least most, n, m =>
    ∃ more, (∀ k ∈ most, more ≤ k - least) ∧ Steps (Matches text body) (least + more) n m

/-- A position is another one, or comes before it in a text of some length. -/
def Advances (size n m : Nat) : Prop := n = m ∨ n < m ∧ m ≤ size

theorem Advances.trans (h : Advances size n k) (hRest : Advances size k m) : Advances size n m := by
  unfold Advances at *
  omega

theorem advances_steps (hR : ∀ n m, R n m → Advances size n m) (h : Steps R j n m) : Advances size n m := by
  induction j generalizing n with
  | zero => exact Or.inl h
  | succ j ih =>
      obtain ⟨k, hStep, hRest⟩ := h
      exact (hR n k hStep).trans (ih hRest)

/-- Steps that stay where they are can be left out, and there is no need of more than there are positions. -/
theorem exists_steps_le (hR : ∀ n m, R n m → Advances size n m) (h : Steps R j n m) :
    ∃ i ≤ size, Steps R i n m := by
  have hShort : ∃ i ≤ m - n, Steps R i n m := by
    induction j generalizing n with
    | zero => exact ⟨0, Nat.zero_le _, h⟩
    | succ j ih =>
        obtain ⟨k, hStep, hRest⟩ := h
        obtain ⟨i, hi, hSteps⟩ := ih hRest
        have hOn := advances_steps hR hRest
        rcases hR n k hStep with rfl | ⟨hLess, -⟩
        · exact ⟨i, hi, hSteps⟩
        · refine ⟨i + 1, ?_, k, hStep, hSteps⟩
          unfold Advances at hOn
          omega
  obtain ⟨i, hi, hSteps⟩ := hShort
  have hEnds := advances_steps hR h
  refine ⟨i, ?_, hSteps⟩
  unfold Advances at hEnds
  omega

theorem Matches.advances (h : r.Matches text n m) : Advances text.size n m := by
  induction r generalizing n m with
  | empty => exact Or.inl h
  | one set =>
      obtain ⟨rfl, c, hChar, -⟩ := h
      obtain ⟨hInside, -⟩ := Array.getElem?_eq_some_iff.mp hChar
      exact Or.inr ⟨Nat.lt_succ_self n, hInside⟩
  | boundary b => exact Or.inl h.1
  | seq a b iha ihb =>
      obtain ⟨k, hFirst, hRest⟩ := h
      exact (iha hFirst).trans (ihb hRest)
  | either a b iha ihb => exact h.elim iha ihb
  | times body least most ih =>
      obtain ⟨more, -, hSteps⟩ := h
      exact advances_steps (fun n m => ih) hSteps

/-- The ends that are found are those of the matches. -/
theorem mem_ends_iff : m ∈ r.ends text n ↔ r.Matches text n m := by
  induction r generalizing n m with
  | empty => simp [ends, Matches, eq_comm]
  | one set =>
      simp only [ends, Matches]
      cases text[n]? with
      | none => simp
      | some c =>
          dsimp only
          split <;> simp [*]
  | boundary b =>
      simp only [ends, Matches]
      generalize (if n = 0 then none else text[n - 1]?) = before
      split
      · rename_i hHolds
        rw [List.mem_singleton, and_iff_left hHolds, eq_comm]
      · rename_i hFails
        exact iff_of_false List.not_mem_nil fun h => hFails h.2
  | seq a b iha ihb => simp only [ends, Matches, mem_step_iff, iha, ihb]
  | either a b iha ihb => simp only [ends, Matches, mem_join_iff, iha, ihb]
  | times body least most ih =>
      have hBody : ∀ n m, m ∈ body.ends text n ↔ body.Matches text n m := fun n m => ih
      -- the places after as many repetitions as have to be made, and those that a number more leads to
      have hSpread (count : Nat) : m ∈ spread (ends text body) count (walk (ends text body) least [n])
          (walk (ends text body) least [n]) ↔ ∃ j ≤ count, Steps (body.Matches text) (least + j) n m := by
        rw [mem_spread_iff hBody (List.Subset.refl _) fun a ha hNew => absurd ha hNew]
        simp only [mem_walk_iff hBody, List.mem_singleton, exists_eq_left, steps_add_iff]
      cases most with
      | some most =>
          simp only [ends, Matches, hSpread, Option.mem_some_iff, forall_eq']
      | none =>
          simp only [ends, Matches, hSpread, steps_add_iff]
          constructor
          · rintro ⟨j, -, hSteps⟩
            exact ⟨j, nofun, hSteps⟩
          · rintro ⟨j, -, k, hFirst, hRest⟩
            obtain ⟨i, hi, hShort⟩ := exists_steps_le (fun n m => Matches.advances) hRest
            exact ⟨i, by omega, k, hFirst, hShort⟩

/-- A pattern is found in a text if it matches some part of it. -/
theorem search_eq_true_iff {text : String} :
    r.search text = true ↔ ∃ n ≤ text.length, ∃ m, r.Matches text.toList.toArray n m := by
  simp only [search, List.any_eq_true, List.mem_range, Nat.lt_succ_iff, Bool.not_eq_true',
    List.isEmpty_eq_false_iff_exists_mem, mem_ends_iff, List.size_toArray, String.length_toList]

/-! ### Whole texts -/

/-- A pattern between the anchors of a whole text. -/
def anchored (r : Regex) : Regex := seq (boundary .textStart) (seq r (seq (boundary .textEnd) empty))

/-- Between its anchors a pattern is found in the texts that it matches in full. -/
theorem search_anchored_iff {text : String} :
    r.anchored.search text = true ↔ r.Matches text.toList.toArray 0 text.length := by
  have hSize : text.toList.toArray.size = text.length := by
    rw [List.size_toArray, String.length_toList]
  rw [search_eq_true_iff]
  simp only [anchored, Matches, Boundary.holds]
  constructor
  · rintro ⟨n, hn, m, _, ⟨rfl, hStart⟩, k, hMatch, _, ⟨rfl, hEnd⟩, rfl⟩
    have hFirst : n = 0 := by
      by_contra hLater
      rw [if_neg hLater, Option.isNone_iff_eq_none, Array.getElem?_eq_none_iff] at hStart
      omega
    subst hFirst
    have hLast := Array.getElem?_eq_none_iff.mp (Option.isNone_iff_eq_none.mp hEnd)
    have hInside := hMatch.advances
    have hWhole : k = text.length := by
      unfold Advances at hInside
      omega
    exact hWhole ▸ hMatch
  · intro hMatch
    refine ⟨0, Nat.zero_le _, text.length, 0, ⟨rfl, rfl⟩, _, hMatch, _, ⟨rfl, ?_⟩, rfl⟩
    exact Option.isNone_iff_eq_none.mpr (Array.getElem?_eq_none_iff.mpr (Nat.le_of_eq hSize))

end Cabinet.Regex
