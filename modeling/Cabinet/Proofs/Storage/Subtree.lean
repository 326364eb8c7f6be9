import Cabinet.Proofs.Storage.Entries
import Cabinet.Proofs.Storage.PathAlgebra
import Cabinet.Proofs.Text.ByteOrder

/-! Subtrees in the order of paths. A path and all that is below it are one block of the order, which the
path begins. A name that only begins like another one is outside, since names are compared as a whole
before what comes after them. So sorted paths have every path behind those above it, and a scan from a path
comes by its subtree and nothing else. -/

namespace Cabinet

variable {α : Type} {es : Entries α} {e : StoragePath × α} {p q a : StoragePath} {paths : List StoragePath}
  {i j : Nat}

namespace StoragePath

/-! ### Bytes -/

/-- Paths are compared as the lists of their segments' bytes. -/
theorem compare_eq_compare_bytes (p q : StoragePath) :
    compare p q = compare (p.segments.map fun s => Utf8.encode s.toList)
      (q.segments.map fun s => Utf8.encode s.toList) := by
  change compareSegments p.segments q.segments = _
  generalize p.segments = l
  generalize q.segments = k
  induction l generalizing k with
  | nil => cases k <;> rfl
  | cons s l ih =>
      cases k with
      | nil => rfl
      | cons t k =>
          rw [compareSegments, List.map_cons, List.map_cons, List.compare_cons_cons, ih,
            Utf8.compare_eq_compare_encode]

/-! ### Sorted paths -/

theorem not_before_eq_isLE : (!q.before p) = (compare p q).isLE := by
  rw [Bool.eq_iff_iff, Bool.not_eq_true', isLE_compare_iff]

theorem pairwise_isLE_mergeSort (paths : List StoragePath) :
    (paths.mergeSort fun p q => !q.before p).Pairwise fun p q => (compare p q).isLE = true := by
  simp only [not_before_eq_isLE]
  refine List.pairwise_mergeSort (fun p q r hq hr => ?_) (fun p q => ?_) paths
  · have hBoth : (compareSegments p.segments r.segments).isLE = true := Std.TransCmp.isLE_trans hq hr
    exact hBoth
  · rw [← not_before_eq_isLE, ← not_before_eq_isLE]
    cases hBefore : q.before p with
    | false => rfl
    | true => rw [not_before_of_before hBefore]; rfl

/-- A path stands behind those above it. -/
theorem lt_of_mem_ancestors (h : paths.Pairwise fun p q => (compare p q).isLE = true)
    (hi : paths[i]? = some p) (hj : paths[j]? = some a) (ha : a ∈ p.ancestors) : j < i := by
  obtain ⟨hBelow, hne⟩ := mem_ancestors_iff.mp ha
  have hBefore : a.before p = true := before_of_startsWith hBelow hne.symm
  by_contra hNot
  rcases Nat.lt_or_eq_of_le (Nat.le_of_not_lt hNot) with hLess | rfl
  · obtain ⟨hBound, rfl⟩ := List.getElem?_eq_some_iff.mp hi
    obtain ⟨hBound', rfl⟩ := List.getElem?_eq_some_iff.mp hj
    have hLE := List.pairwise_iff_getElem.mp h i j hBound hBound' hLess
    rw [isLE_compare_iff.mp hLE] at hBefore
    cases hBefore
  · exact hne (Option.some.inj (hj.symm.trans hi))

end StoragePath

/-! ### Scans -/

theorem Entries.scan_infix (es : Entries α) (p : StoragePath) : es.scan p <:+: es :=
  (List.takeWhile_prefix _).isInfix.trans (List.dropWhile_suffix _).isInfix

theorem Entries.Ordered.mem_scan_iff (h : es.Ordered) :
    e ∈ es.scan p ↔ e ∈ es ∧ (e.1 = p ∨ p ∈ e.1.ancestors) := by
  rw [h.scan, within, List.mem_filter, StoragePath.startsWith_iff_mem_ancestors, eq_comm]

namespace StoragePath

/-- Paths are compared segment by segment, by bytes. What lies between a path and one below it is below
it as well, and the path itself is the first of its subtree. Sorted paths have every path behind those above
it. A scan from a path through entries in order comes by one stretch of them: those at the path and below. -/
theorem subtree_contiguous (d : StoragePath) :
    (∀ p q : StoragePath, compare p q = compare (p.segments.map fun s => Utf8.encode s.toList)
        (q.segments.map fun s => Utf8.encode s.toList)) ∧
      (∀ q r : StoragePath, (compare d q).isLE → (compare q r).isLE → r.startsWith d → q.startsWith d) ∧
      (d.startsWith d ∧ ∀ q : StoragePath, q.startsWith d → (compare d q).isLE) ∧
      (∀ paths : List StoragePath, (paths.mergeSort fun p q => !q.before p).Perm paths ∧
        ∀ (i j : Nat) (p a : StoragePath), (paths.mergeSort fun p q => !q.before p)[i]? = some p →
          (paths.mergeSort fun p q => !q.before p)[j]? = some a → a ∈ p.ancestors → j < i) ∧
      ∀ {α : Type} (es : Entries α), es.Ordered →
        es.scan d <:+: es ∧ ∀ e, e ∈ es.scan d ↔ e ∈ es ∧ (e.1 = d ∨ d ∈ e.1.ancestors) := by
  refine ⟨compare_eq_compare_bytes, fun q r => startsWith_of_isLE_of_isLE,
    ⟨startsWith_self, fun q => isLE_of_startsWith⟩, fun paths => ⟨List.mergeSort_perm paths _, ?_⟩,
    fun es h => ⟨es.scan_infix d, fun e => h.mem_scan_iff⟩⟩
  exact fun i j p a => lt_of_mem_ancestors (pairwise_isLE_mergeSort paths)

/-- A folder with something below it, and two entries beside it whose names begin like its own. As a text,
one of these would stand between the folder and what is below it. -/
theorem subtree_contiguous_siblings :
    let d : StoragePath := ⟨["a"]⟩
    let paths : List StoragePath := [⟨["a", "b", "c"]⟩, ⟨["ab"]⟩, ⟨["a-b"]⟩, ⟨["a"]⟩, ⟨["a", "b"]⟩]
    let es : Entries Nat := [(.root, 0), (d, 1), (⟨["a", "b"]⟩, 2), (⟨["a", "b", "c"]⟩, 3), (⟨["a-b"]⟩, 4),
      (⟨["ab"]⟩, 5)]
    "/a-b" < "/a/b" ∧ (⟨["a", "b"]⟩ : StoragePath).startsWith d ∧ (compare d ⟨["a", "b", "c"]⟩).isLE ∧
      (∃ i j : Nat, (paths.mergeSort fun p q => !q.before p)[i]? = some ⟨["a", "b", "c"]⟩ ∧
        (paths.mergeSort fun p q => !q.before p)[j]? = some d ∧ j < i) ∧
      es.Ordered ∧ (⟨["a", "b", "c"]⟩, 3) ∈ es.scan d ∧ (⟨["a-b"]⟩, 4) ∉ es.scan d := by
  intro d paths es
  have hOrdered : es.Pairwise fun e f => e.1.before f.1 = true := by decide
  obtain ⟨-, hBlock, ⟨-, hFirst⟩, hSorted, hScan⟩ := subtree_contiguous d
  obtain ⟨hPerm, hBehind⟩ := hSorted paths
  obtain ⟨i, hBelow⟩ := List.getElem?_of_mem (hPerm.mem_iff.mpr (by decide : ⟨["a", "b", "c"]⟩ ∈ paths))
  obtain ⟨j, hFolder⟩ := List.getElem?_of_mem (hPerm.mem_iff.mpr (by decide : d ∈ paths))
  obtain ⟨-, hVisited⟩ := hScan es hOrdered
  refine ⟨by decide, hBlock ⟨["a", "b"]⟩ ⟨["a", "b", "c"]⟩ (by decide) (by decide) (by decide),
    hFirst _ (by decide), ⟨i, j, hBelow, hFolder, hBehind i j _ _ hBelow hFolder (by decide)⟩,
    hOrdered, (hVisited _).mpr (by decide), mt (hVisited _).mp (by decide)⟩

end StoragePath

end Cabinet
