import Cabinet.Storage.Path
import Mathlib.Data.List.Infix
import Mathlib.Tactic.Common

/-! Paths above, below and after each other. The paths above a path are its beginnings, the last of
them is its folder, and what hides a path hides all below it. Paths are compared segment by segment,
which is a linear order, and what is below a path is one block of it. -/

namespace Cabinet.StoragePath

variable {p q r : StoragePath} {s : String}

/-! ### Up and down -/

theorem isRoot_iff : p.isRoot = true ↔ p = root := by
  cases p with
  | mk segments => simp [isRoot, root]

theorem ne_root (h : p.isRoot = false) : p ≠ root := fun hRoot =>
  Bool.eq_false_iff.mp h (isRoot_iff.mpr hRoot)

theorem segments_ne_nil (h : p.isRoot = false) : p.segments ≠ [] := fun hNil => by
  simp [isRoot, hNil] at h

theorem parent?_eq (h : p.isRoot = false) : p.parent? = some p.folder := by
  rw [parent?, h, if_neg Bool.false_ne_true, folder]

theorem isRoot_child : (p.child s).isRoot = false := by simp [child, isRoot]

theorem folder_child : (p.child s).folder = p := by simp [child, folder]

theorem name_child : (p.child s).name = s := by
  simp [child, name]

theorem startsWith_iff : p.startsWith q = true ↔ q.segments <+: p.segments :=
  List.isPrefixOf_iff_prefix

theorem startsWith_self : p.startsWith p = true := startsWith_iff.mpr (List.prefix_refl _)

theorem startsWith_trans (h : p.startsWith q = true) (hr : q.startsWith r = true) :
    p.startsWith r = true :=
  startsWith_iff.mpr ((startsWith_iff.mp hr).trans (startsWith_iff.mp h))

theorem startsWith_folder_self : p.startsWith p.folder = true :=
  startsWith_iff.mpr (List.dropLast_prefix _)

/-- A path strictly below another one is in a folder that is there or below, too. -/
theorem startsWith_folder (h : p.startsWith q = true) (hne : p ≠ q) :
    p.folder.startsWith q = true := by
  obtain ⟨rest, hRest⟩ := startsWith_iff.mp h
  rcases List.eq_nil_or_concat rest with rfl | ⟨front, last, rfl⟩
  · rw [List.append_nil] at hRest
    exact absurd (congrArg mk hRest.symm) hne
  · rw [startsWith_iff, folder, ← hRest, List.concat_eq_append, ← List.append_assoc,
      List.dropLast_concat]
    exact List.prefix_append _ _

/-- Nothing is below its own folder. -/
theorem not_folder_startsWith (h : p.isRoot = false) : p.folder.startsWith p = false := by
  refine Bool.eq_false_iff.mpr fun hBelow => ?_
  have hLength := (startsWith_iff.mp hBelow).length_le
  have hPos := List.length_pos_iff.mpr (segments_ne_nil h)
  rw [folder, List.length_dropLast] at hLength
  omega

theorem isRoot_congr (hDepth : p.depth = q.depth) : p.isRoot = q.isRoot := by
  rw [isRoot, isRoot, Bool.eq_iff_iff, List.isEmpty_iff_length_eq_zero,
    List.isEmpty_iff_length_eq_zero]
  exact Eq.congr_left hDepth

/-- Of two paths of one depth none is below the other. -/
theorem not_startsWith_of_ne (hne : p ≠ q) (hDepth : p.depth = q.depth) :
    p.startsWith q = false := Bool.eq_false_iff.mpr fun hBelow =>
  hne (congrArg mk ((startsWith_iff.mp hBelow).eq_of_length hDepth.symm).symm)

/-- What is aside of a path has its folder aside as well. -/
theorem not_folder_startsWith_of_not (h : p.startsWith q = false) : p.folder.startsWith q = false :=
  Bool.eq_false_iff.mpr fun hBelow =>
    Bool.eq_false_iff.mp h (startsWith_trans startsWith_folder_self hBelow)

theorem not_root_startsWith (h : p.isRoot = false) : root.startsWith p = false :=
  Bool.eq_false_iff.mpr fun hBelow =>
    segments_ne_nil h (List.prefix_nil.mp (startsWith_iff.mp hBelow))

theorem shorter_reverse_append (segments : List String) :
    (shorter segments).reverse ++ [segments] = segments.inits := by
  induction segments with
  | nil => rfl
  | cons s rest ih =>
      rw [shorter, List.reverse_append, List.reverse_singleton, List.singleton_append,
        ← List.map_reverse, List.cons_append, List.inits_cons, ← ih, List.map_append,
        List.map_singleton]

/-- The way down to a path: all its beginnings. -/
theorem ancestors_reverse_append (p : StoragePath) :
    p.ancestors.reverse ++ [p] = p.segments.inits.map mk := by
  rw [← shorter_reverse_append, List.map_append, List.map_reverse, ancestors, List.map_singleton]

theorem mem_ancestors_append_iff : q ∈ p.ancestors.reverse ++ [p] ↔ p.startsWith q = true := by
  obtain ⟨segments⟩ := q
  rw [ancestors_reverse_append, startsWith_iff, List.mem_map]
  simp

theorem mem_shorter_iff {l segments : List String} :
    l ∈ shorter segments ↔ l <+: segments ∧ l ≠ segments := by
  induction segments generalizing l with
  | nil => simp [shorter]
  | cons s rest ih =>
      rw [shorter, List.mem_append, List.mem_map, List.mem_singleton, List.prefix_cons_iff]
      constructor
      · rintro (⟨front, hFront, rfl⟩ | rfl)
        · obtain ⟨hPrefix, hne⟩ := ih.mp hFront
          exact ⟨Or.inr ⟨front, rfl, hPrefix⟩, fun h => hne (List.cons.inj h).2⟩
        · exact ⟨Or.inl rfl, (List.cons_ne_nil s rest).symm⟩
      · rintro ⟨rfl | ⟨front, rfl, hPrefix⟩, hne⟩
        · exact Or.inr rfl
        · exact Or.inl ⟨front, ih.mpr ⟨hPrefix, fun h => hne (h ▸ rfl)⟩, rfl⟩

theorem mem_ancestors_iff : q ∈ p.ancestors ↔ p.startsWith q = true ∧ q ≠ p := by
  rw [ancestors, List.mem_map, startsWith_iff]
  constructor
  · rintro ⟨segments, hMem, rfl⟩
    obtain ⟨hPrefix, hne⟩ := mem_shorter_iff.mp hMem
    exact ⟨hPrefix, fun h => hne (h ▸ rfl)⟩
  · rintro ⟨hPrefix, hne⟩
    exact ⟨q.segments, mem_shorter_iff.mpr ⟨hPrefix, fun h => hne (congrArg mk h)⟩, rfl⟩

/-- The ancestors of a path are its folder and all above. -/
theorem mem_ancestors_iff_folder (h : p.isRoot = false) :
    q ∈ p.ancestors ↔ p.folder.startsWith q = true := by
  rw [mem_ancestors_iff]
  constructor
  · exact fun ⟨hBelow, hne⟩ => startsWith_folder hBelow hne.symm
  · intro hBelow
    refine ⟨startsWith_trans startsWith_folder_self hBelow, ?_⟩
    rintro rfl
    rw [not_folder_startsWith h] at hBelow
    exact absurd hBelow Bool.false_ne_true

/-- On the way up every path is below the ones after it. -/
theorem pairwise_ancestors (p : StoragePath) :
    p.ancestors.Pairwise fun a b => a.startsWith b = true := by
  have hShorter (segments : List String) : (shorter segments).Pairwise fun a b => b <+: a := by
    induction segments with
    | nil => exact List.Pairwise.nil
    | cons s rest ih =>
        refine List.pairwise_append.mpr ⟨?_, List.pairwise_singleton _ _, ?_⟩
        · exact List.pairwise_map.mpr (ih.imp fun h => (List.prefix_append_right_inj [s]).mpr h)
        · intro a _ b hb
          obtain rfl := List.mem_singleton.mp hb
          exact List.nil_prefix
  exact List.pairwise_map.mpr ((hShorter p.segments).imp fun h => startsWith_iff.mpr h)

theorem isHidden_of_startsWith (h : p.startsWith q = true) (hq : q.isHidden = true) :
    p.isHidden = true := by
  obtain ⟨s, hs, hDot⟩ := List.any_eq_true.mp hq
  exact List.any_eq_true.mpr ⟨s, (startsWith_iff.mp h).subset hs, hDot⟩

theorem isHidden_folder (h : p.isHidden = false) : p.folder.isHidden = false :=
  Bool.eq_false_iff.mpr fun hHidden =>
    Bool.eq_false_iff.mp h (isHidden_of_startsWith startsWith_folder_self hHidden)

theorem isHidden_append {front back : List String} : isHidden ⟨front ++ back⟩ =
    (isHidden ⟨front⟩ || isHidden ⟨back⟩) := List.any_append

theorem stripPrefix?_eq_some_iff {α : Type} [DecidableEq α] {l k rest : List α} :
    stripPrefix? l k = some rest ↔ k = l ++ rest := by
  induction l generalizing k with
  | nil => simp [stripPrefix?, eq_comm]
  | cons a l ih =>
      cases k with
      | nil => simp [stripPrefix?]
      | cons b k => by_cases hab : a = b <;> simp [stripPrefix?, hab, ih, eq_comm]

/-- Rebasing exchanges the beginning of a path. -/
theorem rebase?_eq_some_iff {source target : StoragePath} : p.rebase? source target = some q ↔
    ∃ rest, p.segments = source.segments ++ rest ∧ (⟨target.segments ++ rest⟩ : StoragePath) = q := by
  rw [rebase?, Option.map_eq_some_iff]
  simp only [stripPrefix?_eq_some_iff]

/-! ### Down from a path -/

/-- The path that segments lead down to. -/
def down (p : StoragePath) (rest : List String) : StoragePath := ⟨p.segments ++ rest⟩

variable {rest tail : List String}

@[simp] theorem down_nil : p.down [] = p := congrArg mk (List.append_nil _)

theorem down_append : p.down (rest ++ tail) = (p.down rest).down tail :=
  congrArg mk (List.append_assoc _ _ _).symm

theorem child_eq_down : p.child s = p.down [s] := rfl

theorem child_down : (p.down rest).child s = p.down (rest ++ [s]) := down_append.symm

theorem down_child : (p.child s).down rest = p.down (s :: rest) := down_append.symm

/-- The beginnings of what leads down lead to the paths on the way. -/
theorem down_startsWith_down : (p.down rest).startsWith (p.down tail) = true ↔ tail <+: rest :=
  startsWith_iff.trans (List.prefix_append_right_inj _)

theorem down_inj : p.down rest = p.down tail ↔ rest = tail :=
  ⟨fun h => List.append_cancel_left (congrArg segments h), fun h => h ▸ rfl⟩

@[simp] theorem depth_down : (p.down rest).depth = p.depth + rest.length := List.length_append

theorem startsWith_iff_down : p.startsWith q = true ↔ ∃ rest, p = q.down rest := by
  rw [startsWith_iff]
  exact exists_congr fun rest => ⟨fun h => congrArg mk h.symm, fun h => (congrArg segments h).symm⟩

theorem startsWith_down : (p.down rest).startsWith p = true := startsWith_iff_down.mpr ⟨rest, rfl⟩

theorem startsWith_child : (p.child s).startsWith p = true := startsWith_down

theorem isHidden_down : (p.down rest).isHidden = (p.isHidden || isHidden ⟨rest⟩) := isHidden_append

/-- The same segments lead down from the new beginning of a path that is rebased. -/
theorem rebase?_eq_some_iff_down {source target : StoragePath} :
    p.rebase? source target = some q ↔ ∃ rest, p = source.down rest ∧ target.down rest = q := by
  rw [rebase?_eq_some_iff]
  exact exists_congr fun rest => and_congr_left fun _ =>
    ⟨congrArg mk, congrArg segments⟩

/-- Two paths above a third one are above each other. -/
theorem startsWith_or_startsWith (hq : p.startsWith q = true) (hr : p.startsWith r = true) :
    q.startsWith r = true ∨ r.startsWith q = true := by
  rw [startsWith_iff] at hq hr
  exact (List.prefix_or_prefix_of_prefix hr hq).imp startsWith_iff.mpr startsWith_iff.mpr

theorem depth_le_of_startsWith (h : p.startsWith q = true) : q.depth ≤ p.depth :=
  (startsWith_iff.mp h).length_le

/-- A path that is not strictly below another one is no deeper than that if it leads down there. -/
theorem depth_le_of_down_startsWith (hAside : p.startsWith q = true → p = q)
    (h : (p.down rest).startsWith q = true) : p.depth ≤ q.depth := by
  rcases startsWith_or_startsWith startsWith_down h with hBelow | hAbove
  · exact le_of_eq (congrArg depth (hAside hBelow))
  · exact depth_le_of_startsWith hAbove

/-- What is below a path is in one of its children, or below that. -/
theorem eq_or_startsWith_child (h : q.startsWith p = true) :
    q = p ∨ ∃ s, q.startsWith (p.child s) = true := by
  obtain ⟨rest, rfl⟩ := startsWith_iff_down.mp h
  cases rest with
  | nil => exact Or.inl down_nil
  | cons s rest =>
      have hChild : p.down ([s] ++ rest) = (p.child s).down rest := down_append
      exact Or.inr ⟨s, startsWith_iff_down.mpr ⟨rest, hChild⟩⟩

/-- What is below a path lies right below it if it is one level deeper. -/
theorem folder_eq_iff_depth (h : q.startsWith p = true) (hne : q ≠ p) :
    q.folder = p ↔ q.depth = p.depth + 1 := by
  obtain ⟨rest, rfl⟩ := startsWith_iff_down.mp h
  rcases List.eq_nil_or_concat rest with rfl | ⟨front, last, rfl⟩
  · exact absurd down_nil hne
  · have hFolder : (p.down (front.concat last)).folder = p.down front := by
      rw [List.concat_eq_append, ← child_down, folder_child]
    have hSelf : p.down front = p ↔ front = [] := by
      rw [← down_inj (p := p), down_nil]
    rw [hFolder, hSelf, depth_down, List.length_concat]
    simp

/-- Nothing that is strictly below a path is the root. -/
theorem not_isRoot_of_startsWith (h : q.startsWith p = true) (hne : q ≠ p) : q.isRoot = false := by
  refine Bool.eq_false_iff.mpr fun hRoot => hne ?_
  obtain rfl := isRoot_iff.mp hRoot
  exact congrArg mk (List.prefix_nil.mp (startsWith_iff.mp h)).symm

theorem folder_ne_self (h : p.isRoot = false) : p.folder ≠ p := fun hSame => by
  have hAside := not_folder_startsWith h
  rw [hSame, startsWith_self] at hAside
  cases hAside

/-- Where an entry comes to be when it is copied into a folder: the root has no name of its own. -/
def under (p folder : StoragePath) : StoragePath := if p.isRoot then folder else folder.child p.name

theorem under_child : (p.child s).under q = q.child s := by
  rw [under, isRoot_child, if_neg Bool.false_ne_true, name_child]

/-- What is copied to strictly below itself is copied into a folder there. -/
theorem startsWith_of_under (h : (p.under q).startsWith p = true) (hne : p.under q ≠ p) :
    q.startsWith p = true := by
  rw [under] at h hne
  split at h
  · exact h
  · rename_i hRoot
    rw [if_neg hRoot] at hne
    have hFolder := startsWith_folder h hne
    rwa [folder_child] at hFolder

/-! ### Order -/

theorem compareSegments_eq_compareLex : compareSegments = List.compareLex compare := by
  funext l k
  induction l generalizing k with
  | nil => cases k <;> rfl
  | cons a l ih =>
      cases k with
      | nil => rfl
      | cons b k => rw [compareSegments, List.compareLex_cons_cons, ih]

instance : Std.TransCmp compareSegments :=
  compareSegments_eq_compareLex ▸ (inferInstance : Std.TransCmp (List.compareLex compare))

instance : Std.LawfulEqCmp compareSegments :=
  compareSegments_eq_compareLex ▸ (inferInstance : Std.LawfulEqCmp (List.compareLex compare))

theorem before_iff : p.before q = true ↔ compareSegments p.segments q.segments = .lt :=
  beq_iff_eq

theorem before_trans (h : p.before q = true) (hr : q.before r = true) : p.before r = true :=
  before_iff.mpr (Std.TransCmp.lt_trans (before_iff.mp h) (before_iff.mp hr))

theorem ne_of_before (h : p.before q = true) : p ≠ q := by
  rintro rfl
  have hSame : compareSegments p.segments p.segments = .eq := Std.ReflCmp.compare_self
  rw [before_iff, hSame] at h
  cases h

theorem not_before_of_before (h : p.before q = true) : q.before p = false :=
  Bool.eq_false_iff.mpr fun hBack => ne_of_before (before_trans h hBack) rfl

/-- Of two paths one comes first. -/
theorem before_of_not_before (hne : p ≠ q) (h : p.before q = false) : q.before p = true := by
  rw [before_iff, ← Std.OrientedCmp.gt_iff_lt]
  cases hCompare : compareSegments p.segments q.segments with
  | lt => rw [before_iff.mpr hCompare] at h; cases h
  | eq => exact absurd (congrArg mk (Std.LawfulEqCmp.eq_of_compare hCompare)) hne
  | gt => rfl

instance : Std.Irrefl fun p q : StoragePath => p.before q = true := ⟨fun _ h => ne_of_before h rfl⟩

instance : Std.Antisymm fun p q : StoragePath => p.before q = true :=
  ⟨fun _ _ h hBack => absurd hBack (Bool.eq_false_iff.mp (not_before_of_before h))⟩

theorem compareSegments_append (l k tail : List String) :
    compareSegments (l ++ k) (l ++ tail) = compareSegments k tail := by
  induction l with
  | nil => rfl
  | cons a l ih =>
      have hSame : compare a a = .eq := Std.ReflCmp.compare_self
      rw [List.cons_append, List.cons_append, compareSegments, hSame, ih, Ordering.then]

/-- What is in path order stays so when it is sorted. -/
theorem mergeSort_of_pairwise_before {paths : List StoragePath} (h : paths.Pairwise fun p q => p.before q = true) :
    (paths.mergeSort fun p q => !q.before p) = paths :=
  List.mergeSort_of_pairwise (h.imp fun hBefore => by rw [not_before_of_before hBefore, Bool.not_false])

/-- A path comes before what is below it. -/
theorem before_of_startsWith (h : q.startsWith p = true) (hne : q ≠ p) : p.before q = true := by
  obtain ⟨rest, rfl⟩ := startsWith_iff_down.mp h
  cases rest with
  | nil => exact absurd down_nil hne
  | cons s rest =>
      have hFirst := compareSegments_append p.segments [] (s :: rest)
      rw [List.append_nil] at hFirst
      exact before_iff.mpr hFirst

theorem isLE_compare_iff : (compare p q).isLE = true ↔ q.before p = false := by
  rw [← Bool.not_eq_true, before_iff, ← Std.OrientedCmp.gt_iff_lt, Ordering.ne_gt_iff_isLE]
  exact Iff.rfl

/-- Between a list and one that it begins there is no list that it does not begin. -/
theorem prefix_of_isLE_of_isLE {l k tail : List String} (h : (compareSegments l k).isLE = true)
    (hTail : (compareSegments k (l ++ tail)).isLE = true) : l <+: k := by
  induction l generalizing k with
  | nil => exact List.nil_prefix
  | cons a l ih =>
      cases k with
      | nil => cases h
      | cons b k =>
          rw [compareSegments] at h
          rw [List.cons_append, compareSegments] at hTail
          have hSame : compare a b = .eq := Std.OrientedCmp.isLE_antisymm
            (Ordering.isLE_left_of_isLE_then h) (Ordering.isLE_left_of_isLE_then hTail)
          obtain rfl := Std.LawfulEqCmp.eq_of_compare hSame
          rw [hSame, Ordering.eq_then] at h hTail
          exact (List.prefix_append_right_inj [a]).mpr (ih h hTail)

/-- What comes from a path on, and up to some path below it, is below it as well. -/
theorem startsWith_of_isLE_of_isLE (hq : (compare p q).isLE = true) (hr : (compare q r).isLE = true)
    (h : r.startsWith p = true) : q.startsWith p = true := by
  obtain ⟨rest, rfl⟩ := startsWith_iff_down.mp h
  exact startsWith_iff.mpr (prefix_of_isLE_of_isLE hq hr)

/-- A path is the first of those at or below it. -/
theorem isLE_of_startsWith (h : q.startsWith p = true) : (compare p q).isLE = true := by
  by_cases hne : q = p
  · subst hne
    exact isLE_compare_iff.mpr (Bool.eq_false_iff.mpr fun hSame => ne_of_before hSame rfl)
  · exact Ordering.isLE_of_eq_lt (before_iff.mp (before_of_startsWith h hne))

theorem compareSegments_append_lt {l k : List String} (h : compareSegments l k = .lt) (hLength : l.length = k.length)
    (tail tail' : List String) : compareSegments (l ++ tail) (k ++ tail') = .lt := by
  induction l generalizing k with
  | nil =>
      obtain rfl := List.length_eq_zero_iff.mp hLength.symm
      cases h
  | cons a l ih =>
      cases k with
      | nil => cases hLength
      | cons b k =>
          rw [compareSegments, Ordering.then_eq_lt] at h
          rw [List.cons_append, List.cons_append, compareSegments, Ordering.then_eq_lt]
          exact h.imp_right fun hRest => ⟨hRest.1, ih hRest.2 (Nat.succ.inj hLength)⟩

/-- What is below two paths side by side is in the order of the two. -/
theorem before_down (h : p.before q = true) (hDepth : p.depth = q.depth) (rest tail : List String) :
    (p.down rest).before (q.down tail) = true :=
  before_iff.mpr (compareSegments_append_lt (before_iff.mp h) hDepth rest tail)

end Cabinet.StoragePath
