import Cabinet.Proofs.Storage.Depth
import Mathlib.Data.List.Sort

/-! What a walk comes by. A tree in memory is walked level by level, and there are levels enough: a walk has
every path below a folder once, in path order. So a listing of any kind is told by the entries that are in
sight, whatever else there is. -/

namespace Cabinet

variable {α : Type} {es : Entries α} {s : Storage} {i : Item} {w : World} {t t' : Tree} {p q : StoragePath}
  {levels : Nat}

/-! ### Below a folder -/

namespace Entries

theorem mem_below_iff (h : es.Ordered) :
    q ∈ es.below p ↔ (q.startsWith p = true ∧ q ≠ p) ∧ es.get? q ≠ none := by
  simp only [below, within, List.mem_map, List.mem_filter, decide_eq_true_eq]
  constructor
  · rintro ⟨⟨r, a⟩, ⟨⟨hEntry, hBelow⟩, hne⟩, rfl⟩
    exact ⟨⟨hBelow, hne⟩, by simp [h.get?_eq_some_iff_mem.mpr hEntry]⟩
  · rintro ⟨⟨hBelow, hne⟩, hFound⟩
    obtain ⟨a, ha⟩ := Option.ne_none_iff_exists'.mp hFound
    exact ⟨(q, a), ⟨⟨mem_of_get? ha, hBelow⟩, hne⟩, rfl⟩

theorem pairwise_below (h : es.Ordered) : (es.below p).Pairwise fun q r => q.before r = true := by
  rw [below, List.pairwise_map]
  exact (h.filter _).filter _

/-- Of what is below a path, the names are those of what is right below it. -/
theorem map_child_names_eq_below (es : Entries α) (p : StoragePath) :
    (es.names p).map p.child = (es.below p).filter fun q => q.depth == p.depth + 1 := by
  rw [map_child_names, below, List.filter_map, List.filter_filter]
  congr 1
  apply List.filter_congr
  intro e _
  by_cases hDepth : e.1.depth = p.depth + 1
  · have hne : e.1 ≠ p := by
      rintro hSame
      rw [hSame] at hDepth
      omega
    simp [hDepth, hne]
  · simp [hDepth]

end Entries

namespace Tree.WellFormed

/-- Below what is no folder there is nothing. -/
theorem below_eq_nil (hT : t.WellFormed) (h : t.get? p ≠ some .folder) : t.entries.below p = [] := by
  refine List.eq_nil_iff_forall_not_mem.mpr fun q hq => ?_
  obtain ⟨⟨hBelow, hne⟩, hFound⟩ := (Entries.mem_below_iff hT.ordered).mp hq
  exact hFound (hT.get?_below h hBelow hne)

/-- Below a path are its children, each right before what is below it. -/
theorem flatMap_below (hT : t.WellFormed) (p : StoragePath) :
    (((t.entries.names p).map p.child).flatMap fun c => c :: t.entries.below c) = t.entries.below p := by
  have hStarts {c q : StoragePath} (hq : q ∈ c :: t.entries.below c) : q.startsWith c = true := by
    rcases List.mem_cons.mp hq with rfl | hq
    · exact StoragePath.startsWith_self
    · exact ((Entries.mem_below_iff hT.ordered).mp hq).1.1
  have hSorted : (((t.entries.names p).map p.child).flatMap fun c => c :: t.entries.below c).Pairwise
      fun q r => q.before r = true := by
    refine List.pairwise_flatMap.mpr ⟨fun c _ => List.pairwise_cons.mpr ⟨fun q hq => ?_,
      Entries.pairwise_below hT.ordered⟩, ?_⟩
    · obtain ⟨⟨hBelow, hne⟩, -⟩ := (Entries.mem_below_iff hT.ordered).mp hq
      exact StoragePath.before_of_startsWith hBelow hne
    · refine (Entries.pairwise_map_child_names hT.ordered).imp_of_mem fun {c d} hc hd hBefore q hq r hr => ?_
      obtain ⟨x, rfl, -⟩ := (Entries.mem_map_child_names hT.ordered).mp hc
      obtain ⟨y, rfl, -⟩ := (Entries.mem_map_child_names hT.ordered).mp hd
      obtain ⟨rest, rfl⟩ := StoragePath.startsWith_iff_down.mp (hStarts hq)
      obtain ⟨tail, rfl⟩ := StoragePath.startsWith_iff_down.mp (hStarts hr)
      have hDepth : (p.child x).depth = (p.child y).depth := by
        rw [StoragePath.child_eq_down, StoragePath.child_eq_down, StoragePath.depth_down, StoragePath.depth_down]
        rfl
      exact StoragePath.before_down hBefore hDepth rest tail
  refine hSorted.eq_of_mem_iff (Entries.pairwise_below hT.ordered) fun q => ?_
  rw [List.mem_flatMap, Entries.mem_below_iff hT.ordered]
  constructor
  · rintro ⟨c, hc, hq⟩
    obtain ⟨x, rfl, hChild⟩ := (Entries.mem_map_child_names hT.ordered).mp hc
    have hFound : t.entries.get? q ≠ none := by
      rcases List.mem_cons.mp hq with rfl | hq
      · exact hChild
      · exact ((Entries.mem_below_iff hT.ordered).mp hq).2
    refine ⟨⟨StoragePath.startsWith_trans (hStarts hq) StoragePath.startsWith_child, ?_⟩, hFound⟩
    rintro rfl
    have hDepth := StoragePath.depth_le_of_startsWith (hStarts hq)
    rw [StoragePath.child_eq_down, StoragePath.depth_down, List.length_singleton] at hDepth
    omega
  · rintro ⟨⟨hBelow, hne⟩, hFound⟩
    obtain ⟨x, hx⟩ := (StoragePath.eq_or_startsWith_child hBelow).resolve_left hne
    by_cases hSame : q = p.child x
    · subst hSame
      exact ⟨_, (Entries.mem_map_child_names hT.ordered).mpr ⟨x, rfl, hFound⟩, List.mem_cons_self⟩
    · obtain ⟨n, hn⟩ := Option.ne_none_iff_exists'.mp hFound
      have hChild : t.entries.get? (p.child x) = some .folder := hT.above hn hx hSame
      refine ⟨p.child x, (Entries.mem_map_child_names hT.ordered).mpr ⟨x, rfl, by simp [hChild]⟩, ?_⟩
      exact List.mem_cons_of_mem _ ((Entries.mem_below_iff hT.ordered).mpr ⟨⟨hx, hSame⟩, hFound⟩)

/-- The folder of what is below a path is below it as well, and comes first; or it is the path itself. -/
theorem folder_first (hT : t.WellFormed) {front back : List StoragePath}
    (h : t.entries.below p = front ++ q :: back) : q.folder = p ∨ q.folder ∈ front := by
  have hMem : q ∈ t.entries.below p := h ▸ List.mem_append_right _ List.mem_cons_self
  obtain ⟨⟨hBelow, hne⟩, hFound⟩ := (Entries.mem_below_iff hT.ordered).mp hMem
  refine or_iff_not_imp_left.mpr fun hDeep => ?_
  obtain ⟨n, hn⟩ := Option.ne_none_iff_exists'.mp hFound
  have hRoot := StoragePath.not_isRoot_of_startsWith hBelow hne
  have hFolder : t.entries.get? q.folder = some .folder := hT.inFolder hn hRoot
  have hAlso : q.folder ∈ t.entries.below p := (Entries.mem_below_iff hT.ordered).mpr
    ⟨⟨StoragePath.startsWith_folder hBelow hne, hDeep⟩, by simp [hFolder]⟩
  rw [h, List.mem_append, List.mem_cons] at hAlso
  rcases hAlso with hFirst | hSame | hLast
  · exact hFirst
  · exact absurd hSame (StoragePath.folder_ne_self hRoot)
  · -- What comes after an entry does not come before it, as its folder does.
    have hSorted := Entries.pairwise_below (p := p) hT.ordered
    rw [h, List.pairwise_append, List.pairwise_cons] at hSorted
    have hAfter : q.before q.folder = true := hSorted.2.1.1 _ hLast
    have hBefore : q.folder.before q = true := StoragePath.before_of_startsWith
      StoragePath.startsWith_folder_self (StoragePath.folder_ne_self hRoot).symm
    cases (StoragePath.not_before_of_before hBefore).symm.trans hAfter

end Tree.WellFormed

/-! ### Walks -/

/-- A walk down from a path, where another one goes on in each of the folders there. -/
def Backend.onward (b : Backend) (inner : StoragePath → Query IoError (List StoragePath)) (p : StoragePath) :
    Query IoError (List StoragePath) := do
  let found ← (← b.list p).mapM fun name => do
    match ← b.metadata (p.child name) with
    | some m =>
      if m.isFolder then return p.child name :: (← inner (p.child name))
      else return [p.child name]
    | none => return [p.child name]
  return found.flatten

theorem Backend.descend_succ (b : Backend) (levels : Nat) (p : StoragePath) :
    b.descend (levels + 1) p = b.onward (b.descend levels) p := rfl

namespace Storage.Holds

theorem metadata (h : s.Holds w t) (p : StoragePath) : s.backend.metadata p w = .ok (t.metadata p) :=
  Query.mapError_eq_ok_iff.mp (h.entry p)

/-- A walk comes by all that is below a folder if it does so in each of the folders there. -/
theorem onward {inner : StoragePath → Query IoError (List StoragePath)} (h : s.Holds w t)
    (hT : t.WellFormed) (hFolder : t.get? p = some .folder)
    (hInner : ∀ name, t.get? (p.child name) = some .folder →
      inner (p.child name) w = .ok (t.entries.below (p.child name))) :
    s.backend.onward inner p w = .ok (t.entries.below p) := by
  have hNames : s.backend.list p w = .ok (t.entries.names p) :=
    (Storage.Holds.list (i := ⟨s, p⟩) h).trans ((Tree.list_eq_ok_iff hT).mpr ⟨hFolder, rfl⟩)
  have hFlat : ((t.entries.names p).map fun name => p.child name :: t.entries.below (p.child name)).flatten =
      t.entries.below p := by
    rw [← hT.flatMap_below p, List.flatMap_map]
    rfl
  rw [Backend.onward, Query.bind_ok hNames, ← hFlat]
  refine Query.bind_ok (Query.mapM_ok fun name hName => ?_)
  obtain ⟨n, (hChild : t.get? (p.child name) = some n)⟩ := Option.ne_none_iff_exists'.mp
    ((Entries.mem_map_child_names hT.ordered).mp (List.mem_map_of_mem hName)).choose_spec.2
  rw [Query.bind_ok (h.metadata _), Tree.metadata, hChild]
  cases n with
  | file contents =>
      rw [hT.below_eq_nil (by simp [hChild])]
      rfl
  | folder => exact Query.bind_ok (hInner name hChild)

/-- With a level for every entry, a way down from a folder comes by all that is below it. -/
theorem descend (h : s.Holds w t) (hT : t.WellFormed) (hFolder : t.get? p = some .folder)
    (hLevels : t.entries.length < p.depth + levels) :
    s.backend.descend levels p w = .ok (t.entries.below p) := by
  induction levels generalizing p with
  | zero => exact absurd (hT.depth_lt hFolder) (Nat.lt_asymm hLevels)
  | succ levels ih =>
      rw [Backend.descend_succ]
      refine h.onward hT hFolder fun name hChild => ih hChild ?_
      rw [StoragePath.child_eq_down, StoragePath.depth_down, List.length_singleton]
      omega

/-- A walk has all the paths below a folder, in path order. -/
theorem walk (h : s.Holds w t) (hT : t.WellFormed) (hFolder : t.get? p = some .folder) :
    s.backend.walk p w = .ok (t.entries.below p) := by
  have hDescend : s.backend.descend (t.entries.length + 1) p w = .ok (t.entries.below p) :=
    h.descend hT hFolder (by omega)
  obtain ⟨n, hBackend, hTree⟩ := h
  rw [hBackend] at hDescend ⊢
  rw [← tree_eq hTree] at hDescend ⊢
  exact hDescend

end Storage.Holds

/-! ### Listings of any kind -/

namespace Item

variable {f : ListFilter}

/-- Is the entry at a path below an item in sight, and asked for? -/
def asksFor (i : Item) (f : ListFilter) (t : Tree) (p : StoragePath) : Bool :=
  !i.storage.hides p && (t.metadata p).any f.accepts && (f.recursive || p.depth == i.path.depth + 1)

/-- What is asked for in a folder of a tree, in path order. -/
def found (i : Item) (f : ListFilter) (t : Tree) : List Item :=
  ((t.entries.below i.path).filter (i.asksFor f t)).map fun p => ⟨i.storage, p⟩

theorem pathsBelow_apply (h : i.storage.Holds w t) (hT : t.WellFormed) (hFolder : t.get? i.path = some .folder)
    (recursive : Bool) : i.pathsBelow recursive w =
      .ok ((t.entries.below i.path).filter fun p => recursive || p.depth == i.path.depth + 1) := by
  cases recursive with
  | true =>
      have hAll : ((t.entries.below i.path).filter fun p => true || p.depth == i.path.depth + 1) =
          t.entries.below i.path := List.filter_eq_self.mpr fun _ _ => rfl
      rw [hAll]
      exact h.walk hT hFolder
  | false =>
      have hNames : i.storage.backend.list i.path w = .ok (t.entries.names i.path) :=
        h.list.trans ((Tree.list_eq_ok_iff hT).mpr ⟨hFolder, rfl⟩)
      have hPaths : i.pathsBelow false w = .ok ((t.entries.names i.path).map i.path.child) :=
        Query.bind_ok hNames
      simp only [hPaths, Entries.map_child_names_eq_below, Bool.false_or]

/-- Whatever is asked for, a folder that is there to be seen is listed. -/
theorem list_apply (h : i.storage.Holds w t) (hT : t.WellFormed) (f : ListFilter) :
    i.list f w = (i.asFolder w).map fun _ => i.found f t := by
  cases hFolder : i.asFolder w with
  | error e => exact Query.bind_error hFolder
  | ok j =>
      obtain ⟨-, hThere, -⟩ := (asFolder_eq_ok_iff h).mp hFolder
      have hPaths := Query.mapError_eq_ok_iff (g := FileError.io i.path) |>.mpr
        (pathsBelow_apply h hT hThere f.recursive)
      have hSorted := (Entries.pairwise_below (p := i.path) hT.ordered).filter
        fun p => f.recursive || p.depth == i.path.depth + 1
      rw [list, Query.bind_ok hFolder, Query.bind_ok hPaths, StoragePath.mergeSort_of_pairwise_before hSorted,
        select_apply h, List.filter_filter]
      rfl

theorem mem_filter_asksFor (hT : t.WellFormed) (hT' : t'.WellFormed)
    (hSame : ∀ p, i.storage.hides p = false → t'.get? p = t.get? p)
    (h : p ∈ (t.entries.below i.path).filter (i.asksFor f t)) :
    p ∈ (t'.entries.below i.path).filter (i.asksFor f t') := by
  obtain ⟨hMem, hAsks⟩ := List.mem_filter.mp h
  obtain ⟨hBelow, hFound⟩ := (Entries.mem_below_iff hT.ordered).mp hMem
  have hShown : i.storage.hides p = false := by
    rw [asksFor, Bool.and_eq_true, Bool.and_eq_true, Bool.not_eq_true'] at hAsks
    exact hAsks.1.1
  have hThere : t'.entries.get? p = t.entries.get? p := hSame p hShown
  refine List.mem_filter.mpr ⟨(Entries.mem_below_iff hT'.ordered).mpr ⟨hBelow, hThere ▸ hFound⟩, ?_⟩
  rwa [asksFor, Tree.metadata, hSame p hShown]

/-- What is out of sight has no part in what is listed. -/
theorem found_congr (hT : t.WellFormed) (hT' : t'.WellFormed)
    (hSame : ∀ p, i.storage.hides p = false → t'.get? p = t.get? p) (f : ListFilter) :
    i.found f t' = i.found f t := by
  have hSorted {t : Tree} (hT : t.WellFormed) :=
    (Entries.pairwise_below (p := i.path) hT.ordered).filter (i.asksFor f t)
  refine congrArg (List.map _) (List.Subset.antisymm_of_pairwise (hSorted hT') (hSorted hT) ?_ ?_)
  · exact fun p hp => mem_filter_asksFor hT' hT (fun q hShown => (hSame q hShown).symm) hp
  · exact fun p hp => mem_filter_asksFor hT hT' hSame hp

end Item

end Cabinet
