import Cabinet.Properties.Key
import Cabinet.Properties.Lines
import Mathlib.Data.List.Basic
import Mathlib.Data.List.Induction
import Mathlib.Tactic.Common

/-! Backslashes in properties text. Whoever writes a text puts a character behind every backslash;
whoever reads it takes the two together. Lines are joined by the same rule: one that ends inside such
a pair goes on. -/

namespace Cabinet.Properties

variable {behind bare : Char → Prop} {c : Char} {cs ds : List Char}

/-- A text in which every backslash has its character behind it. One test is for the characters
behind backslashes, the other one for those that stand alone. -/
inductive Spelled (behind bare : Char → Prop) : List Char → Prop where
  | nil : Spelled behind bare []
  | escaped {c : Char} {cs : List Char} (hBehind : behind c) (h : Spelled behind bare cs) :
      Spelled behind bare ('\\' :: c :: cs)
  | plain {c : Char} {cs : List Char} (hSlash : c ≠ '\\') (hBare : bare c)
      (h : Spelled behind bare cs) : Spelled behind bare (c :: cs)

/-- A text of whole pairs, whatever the characters. -/
abbrev Whole (cs : List Char) : Prop :=
  Spelled (fun _ => True) (fun _ => True) cs

namespace Spelled

theorem append (h : Spelled behind bare cs) (hRest : Spelled behind bare ds) :
    Spelled behind bare (cs ++ ds) := by
  induction h with
  | nil => exact hRest
  | escaped hBehind _ ih => exact .escaped hBehind ih
  | plain hSlash hBare _ ih => exact .plain hSlash hBare ih

theorem mono {behind' bare' : Char → Prop} (h : Spelled behind bare cs)
    (hBehind : ∀ c, behind c → behind' c) (hBare : ∀ c, bare c → bare' c) :
    Spelled behind' bare' cs := by
  induction h with
  | nil => exact .nil
  | escaped hc _ ih => exact .escaped (hBehind _ hc) ih
  | plain hSlash hc _ ih => exact .plain hSlash (hBare _ hc) ih

theorem whole (h : Spelled behind bare cs) : Whole cs :=
  h.mono (fun _ _ => trivial) fun _ _ => trivial

theorem flatMap {code : Char → List Char} (h : ∀ c ∈ cs, Spelled behind bare (code c)) :
    Spelled behind bare (cs.flatMap code) := by
  induction cs with
  | nil => exact .nil
  | cons c cs ih =>
      obtain ⟨hHead, hTail⟩ := List.forall_mem_cons.mp h
      exact hHead.append (ih hTail)

theorem of_cons (h : Spelled behind bare (c :: cs)) (hSlash : c ≠ '\\') :
    Spelled behind bare cs := by
  cases h with
  | escaped => exact absurd rfl hSlash
  | plain _ _ h => exact h

/-- A text begins with a backslash or with a character that stands alone. -/
theorem exists_head (h : Spelled behind bare cs) (hNonempty : cs ≠ []) :
    ∃ c rest, cs = c :: rest ∧ (c = '\\' ∨ bare c) := by
  cases h with
  | nil => exact absurd rfl hNonempty
  | escaped _ _ => exact ⟨_, _, rfl, Or.inl rfl⟩
  | plain _ hBare _ => exact ⟨_, _, rfl, Or.inr hBare⟩

end Spelled

/-! ### Lines that go on -/

/-- Does the text end right behind a backslash that still wants its character? -/
def endsOpen (cs : List Char) : Bool :=
  cs.foldl (fun pending c => !pending && c == '\\') false

/-- Counting the backslashes at the end of a line comes to the same as reading it from the front. -/
theorem goesOn_eq_endsOpen (line : List Char) : goesOn line = endsOpen line := by
  induction line using List.reverseRecOn with
  | nil => rfl
  | append_singleton cs c ih =>
      have hStep : endsOpen (cs ++ [c]) = (!endsOpen cs && c == '\\') := by
        simp only [endsOpen, List.foldl_append, List.foldl_cons, List.foldl_nil]
      rw [hStep, ← ih]
      by_cases hSlash : c = '\\'
      · subst c
        have hCount : goesOn (cs ++ ['\\']) =
            (((cs.reverse.takeWhile (· == '\\')).length + 1) % 2 == 1) := by
          simp [goesOn]
        rw [hCount, goesOn]
        generalize (cs.reverse.takeWhile (· == '\\')).length = n
        rcases Nat.mod_two_eq_zero_or_one n with hEven | hOdd
        · simp [hEven, Nat.add_mod]
        · simp [hOdd, Nat.add_mod]
      · simp [goesOn, hSlash]

theorem endsOpen_plain (hSlash : c ≠ '\\') (cs : List Char) : endsOpen (c :: cs) = endsOpen cs := by
  have hc : (c == '\\') = false := beq_eq_false_iff_ne.mpr hSlash
  simp [endsOpen, hc]

theorem endsOpen_escaped (c : Char) (cs : List Char) : endsOpen ('\\' :: c :: cs) = endsOpen cs := by
  simp [endsOpen]

/-- The reader takes pairs from the front, so nothing but a last backslash can be left alone. -/
theorem whole_iff : Whole cs ↔ endsOpen cs = false := by
  constructor
  · intro h
    induction h with
    | nil => rfl
    | escaped _ _ ih => rwa [endsOpen_escaped]
    | plain hSlash _ _ ih => rwa [endsOpen_plain hSlash]
  · -- a text that is read on behind a backslash is treated along with one that is read from its start
    have hBoth : (endsOpen cs = false → Whole cs) ∧
        (endsOpen ('\\' :: cs) = false → Whole ('\\' :: cs)) := by
      induction cs with
      | nil => exact ⟨fun _ => .nil, fun h => by simp [endsOpen] at h⟩
      | cons c cs ih =>
          refine ⟨fun h => ?_, fun h => .escaped trivial (ih.1 (by rwa [endsOpen_escaped] at h))⟩
          by_cases hSlash : c = '\\'
          · subst c
            exact ih.2 h
          · exact .plain hSlash trivial (ih.1 (by rwa [endsOpen_plain hSlash] at h))
    exact hBoth.1

/-- A line that does not go on has all its pairs. -/
theorem whole_of_goesOn_eq_false (h : goesOn cs = false) : Whole cs :=
  whole_iff.mpr (goesOn_eq_endsOpen cs ▸ h)

/-- Neither has a line without the backslash that makes it go on any backslash left alone. -/
theorem whole_dropLast (h : goesOn cs = true) : Whole cs.dropLast := by
  rw [goesOn_eq_endsOpen] at h
  induction cs using List.reverseRecOn with
  | nil => simp [endsOpen] at h
  | append_singleton cs c _ =>
      rw [List.dropLast_concat, whole_iff]
      simp only [endsOpen, List.foldl_append, List.foldl_cons, List.foldl_nil, Bool.and_eq_true,
        Bool.not_eq_true'] at h ⊢
      exact h.1

theorem Spelled.goesOn_eq_false (h : Spelled behind bare cs) : goesOn cs = false := by
  rw [goesOn_eq_endsOpen, ← whole_iff]
  exact h.whole

/-! ### What backslashes stand for -/

/-- Any number of turns that is not less than the length of the text comes to the same. -/
theorem unescapeWithin_eq {n m : Nat} (hn : cs.length ≤ n) (hm : cs.length ≤ m) :
    unescapeWithin n cs = unescapeWithin m cs := by
  induction n generalizing m cs with
  | zero =>
      obtain rfl : cs = [] := List.length_eq_zero_iff.mp (Nat.le_zero.mp hn)
      cases m <;> rfl
  | succ n ih =>
      cases cs with
      | nil => cases m <;> rfl
      | cons c cs =>
          obtain ⟨m, rfl⟩ := Nat.exists_eq_add_one_of_ne_zero (Nat.pos_iff_ne_zero.mp
            (Nat.lt_of_lt_of_le (Nat.succ_pos _) hm))
          have hn : cs.length ≤ n := Nat.le_of_succ_le_succ hn
          have hm : cs.length ≤ m := Nat.le_of_succ_le_succ hm
          cases cs with
          | nil => simp only [unescapeWithin, ih hn hm]
          | cons e cs =>
              have hn' : cs.length ≤ n := Nat.le_of_succ_le hn
              have hm' : cs.length ≤ m := Nat.le_of_succ_le hm
              have hDrop : (cs.drop 4).length ≤ cs.length := by
                rw [List.length_drop]
                exact Nat.sub_le ..
              simp only [unescapeWithin, ih hn hm, ih hn' hm',
                ih (Nat.le_trans hDrop hn') (Nat.le_trans hDrop hm')]

theorem unescape_plain (hSlash : c ≠ '\\') (cs : List Char) :
    unescape (c :: cs) = c :: unescape cs := by
  simp only [unescape, List.length_cons, unescapeWithin.eq_def (cs.length + 1), if_pos hSlash]

/-- A text stands for a character when it is read as this character, whatever follows. -/
def StandsFor (unit : List Char) (c : Char) : Prop :=
  ∀ rest, unescape (unit ++ rest) = c :: unescape rest

theorem standsFor_plain (hSlash : c ≠ '\\') : StandsFor [c] c :=
  fun rest => unescape_plain hSlash rest

theorem unescape_escaped (e : Char) (rest : List Char) : unescape ('\\' :: e :: rest) =
    if e = 'n' then '\n' :: unescape rest
    else if e = 'r' then '\r' :: unescape rest
    else if e = 't' then '\t' :: unescape rest
    else if e = 'f' then '\x0c' :: unescape rest
    else if e = 'u' then decodeUnicode (rest.take 4) ++ unescape (rest.drop 4)
    else e :: unescape rest := by
  have hRest : unescapeWithin (rest.length + 1) rest = unescape rest :=
    unescapeWithin_eq (Nat.le_succ _) (Nat.le_refl _)
  have hDrop : unescapeWithin (rest.length + 1) (rest.drop 4) = unescape (rest.drop 4) :=
    unescapeWithin_eq (by simp; omega) (Nat.le_refl _)
  rw [unescape, List.length_cons, List.length_cons, unescapeWithin, if_neg (not_not.mpr rfl)]
  simp only [hRest, hDrop]

/-- Behind a backslash, what is no letter stands for itself. -/
theorem standsFor_structural (h : isStructural c) : StandsFor ['\\', c] c := by
  intro rest
  have hLetter : c ≠ 'n' ∧ c ≠ 'r' ∧ c ≠ 't' ∧ c ≠ 'f' ∧ c ≠ 'u' := by
    refine ⟨?_, ?_, ?_, ?_, ?_⟩ <;> (rintro rfl; revert h; decide)
  obtain ⟨hn, hr, ht, hf, hu⟩ := hLetter
  rw [List.cons_append, List.singleton_append, unescape_escaped, if_neg hn, if_neg hr, if_neg ht,
    if_neg hf, if_neg hu]

theorem standsFor_escapeBreak (hSlash : c ≠ '\\') : StandsFor (escapeBreak c) c := by
  unfold escapeBreak
  split_ifs with hLine hReturn hTab
  · subst c
    exact fun rest => unescape_escaped 'n' rest
  · subst c
    exact fun rest => unescape_escaped 'r' rest
  · subst c
    exact fun rest => unescape_escaped 't' rest
  · exact standsFor_plain hSlash

theorem unescape_flatMap {code : Char → List Char} (h : ∀ c ∈ cs, StandsFor (code c) c) :
    unescape (cs.flatMap code) = cs := by
  induction cs with
  | nil => rfl
  | cons c cs ih =>
      obtain ⟨hHead, hTail⟩ := List.forall_mem_cons.mp h
      rw [List.flatMap_cons, hHead, ih hTail]

theorem decodeUnicode_ne_nil (digits : List Char) : decodeUnicode digits ≠ [] := by
  unfold decodeUnicode
  cases hexCode? digits with
  | none => exact List.cons_ne_nil _ _
  | some n =>
      dsimp only
      split_ifs <;> exact List.cons_ne_nil _ _

/-- Something is left of a text that is not empty, unless it is a backslash alone. -/
theorem Spelled.unescape_ne_nil (h : Spelled behind bare cs) (hNonempty : cs ≠ []) :
    unescape cs ≠ [] := by
  cases h with
  | nil => exact absurd rfl hNonempty
  | plain hSlash _ _ =>
      rw [unescape_plain hSlash]
      exact List.cons_ne_nil _ _
  | escaped _ _ =>
      have hUnicode (digits rest : List Char) : decodeUnicode digits ++ rest ≠ [] :=
        fun h => decodeUnicode_ne_nil digits (List.append_eq_nil_iff.mp h).1
      rw [unescape_escaped]
      simp only [ne_eq, apply_ite (· = []), hUnicode, reduceCtorEq, ite_self, not_false_eq_true]

end Cabinet.Properties
