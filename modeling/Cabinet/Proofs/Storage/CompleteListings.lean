import Cabinet.Proofs.Storage.Overlay
import Cabinet.Proofs.Storage.Walking

/-! Listings that lack nothing. A folder of a tree in memory is listed with exactly the entries below it that are
in sight and asked for; a walk has every entry below a folder, each after the folder that it is in. Both come in
path order. A walk obeys a recursion that knows no bound on its levels. -/

namespace Cabinet.Item

variable {i j : Item} {w : World} {t : Tree} {f : ListFilter}

/-- What a listing of a folder is to have: the entries strictly below it, and right in it unless those further
down are asked for, that are in sight and of a kind that is asked for. -/
structure Lists (i : Item) (f : ListFilter) (t : Tree) (q : StoragePath) : Prop where
  below : q.startsWith i.path = true
  other : q ≠ i.path
  direct (h : f.recursive = false) : q.folder = i.path
  shown : i.storage.hides q = false
  wanted : match t.get? q with
    | some (.file _) => f.files = true
    | some .folder => f.folders = true
    | none => False

theorem mem_found_iff (hT : t.WellFormed) :
    j ∈ i.found f t ↔ ∃ q, j = ⟨i.storage, q⟩ ∧ i.Lists f t q := by
  have hDirect {q : StoragePath} (hBelow : q.startsWith i.path = true) (hne : q ≠ i.path) :
      (f.recursive || q.depth == i.path.depth + 1) = true ↔ (f.recursive = false → q.folder = i.path) := by
    rw [StoragePath.folder_eq_iff_depth hBelow hne]
    cases f.recursive <;> simp
  have hWanted {q : StoragePath} : (t.metadata q).any f.accepts = true ↔ match t.get? q with
      | some (.file _) => f.files = true
      | some .folder => f.folders = true
      | none => False := by
    rw [Tree.metadata]
    rcases t.get? q with _ | _ | _ <;>
      simp [Node.metadata, ListFilter.accepts, EntryMeta.isFile, EntryMeta.isFolder]
  simp only [found, List.mem_map, List.mem_filter, Entries.mem_below_iff hT.ordered, asksFor,
    Bool.and_eq_true, Bool.not_eq_true']
  constructor
  · rintro ⟨q, ⟨⟨⟨hBelow, hne⟩, -⟩, ⟨hShown, hKind⟩, hDeep⟩, rfl⟩
    exact ⟨q, rfl, hBelow, hne, (hDirect hBelow hne).mp hDeep, hShown, hWanted.mp hKind⟩
  · rintro ⟨q, rfl, hLists⟩
    have hFound : t.entries.get? q ≠ none := fun (hNone : t.get? q = none) => by
      have hKind := hLists.wanted
      rw [hNone] at hKind
      exact hKind
    exact ⟨q, ⟨⟨⟨hLists.below, hLists.other⟩, hFound⟩, ⟨hLists.shown, hWanted.mpr hLists.wanted⟩,
      (hDirect hLists.below hLists.other).mpr hLists.direct⟩, rfl⟩

theorem pairwise_found (hT : t.WellFormed) :
    ((i.found f t).map path).Pairwise fun p q => p.before q = true := by
  have hPaths : (i.found f t).map path = (t.entries.below i.path).filter (i.asksFor f t) := by
    rw [found, List.map_map]
    exact List.map_id'' (fun _ => rfl) _
  rw [hPaths]
  exact (Entries.pairwise_below hT.ordered).filter _

/-- A folder that is there to be seen is listed with each entry that belongs to the listing, once and in path
order. A walk of a folder has each entry below it once, in path order and after the folder that it is in; it goes
on in every folder as a walk of its own, and is the same whatever bound there is on the levels, as long as there
is one for every entry. -/
theorem list_complete (h : i.storage.Holds w t) (hT : t.WellFormed) :
    (i.storage.isOpen w = true → i.storage.hides i.path = false → t.get? i.path = some .folder →
      ∀ f, ∃ items, i.list f w = .ok items ∧ (items.map path).Pairwise (fun p q => p.before q = true) ∧
        ∀ j, j ∈ items ↔ ∃ q, j = ⟨i.storage, q⟩ ∧ i.Lists f t q) ∧
      ∀ p, t.get? p = some .folder → ∃ paths, i.storage.backend.walk p w = .ok paths ∧
        paths.Pairwise (fun p q => p.before q = true) ∧
        (∀ q, q ∈ paths ↔ (q.startsWith p = true ∧ q ≠ p) ∧ t.get? q ≠ none) ∧
        (∀ front q back, paths = front ++ q :: back → q.folder = p ∨ q.folder ∈ front) ∧
        i.storage.backend.onward i.storage.backend.walk p w = .ok paths ∧
        ∀ levels, t.entries.length < p.depth + levels → i.storage.backend.descend levels p w = .ok paths := by
  refine ⟨fun hOpen hShown hFolder f => ?_, fun p hFolder => ?_⟩
  · have hAsFolder : i.asFolder w = .ok i := (asFolder_eq_ok_iff h).mpr ⟨rfl, hFolder, hOpen, hShown⟩
    refine ⟨i.found f t, ?_, pairwise_found hT, fun j => mem_found_iff hT⟩
    rw [list_apply h hT, hAsFolder]
    rfl
  · refine ⟨t.entries.below p, h.walk hT hFolder, Entries.pairwise_below hT.ordered,
      fun q => Entries.mem_below_iff hT.ordered, fun front q back hSplit => hT.folder_first hSplit, ?_,
      fun levels hLevels => h.descend hT hFolder hLevels⟩
    exact h.onward hT hFolder fun name hChild => h.walk hT hChild

/-- Names that begin alike and what is hidden are no part of what is listed below a folder. A walk has what is
hidden as well. -/
theorem list_complete_alike :
    let s : Storage := ⟨0, "main", ⟨.memory 0, .plain⟩, .standard, .byName, .basic⟩
    let t := ((((((Tree.empty.put ⟨["ab"]⟩ (.file [])).put ⟨["a.b"]⟩ .folder).put ⟨["a"]⟩ .folder).put
      ⟨["a", ".h"]⟩ .folder).put ⟨["a", ".h", "g"]⟩ (.file [])).put ⟨["a", "x"]⟩ .folder).put
      ⟨["a", "x", "y"]⟩ (.file [1])
    let w : World := ⟨.empty, [t], [⟨true, none⟩]⟩
    let i : Item := ⟨s, ⟨["a"]⟩⟩
    i.storage.Holds w t ∧ t.WellFormed ∧
      (∃ items, i.list ⟨true, false, true⟩ w = .ok items ∧ ⟨s, ⟨["a", "x", "y"]⟩⟩ ∈ items ∧
        ⟨s, ⟨["a", "x"]⟩⟩ ∉ items ∧ ⟨s, ⟨["a", ".h", "g"]⟩⟩ ∉ items ∧ ⟨s, ⟨["ab"]⟩⟩ ∉ items) ∧
      ∃ paths, s.backend.walk ⟨["a"]⟩ w = .ok paths ∧ ⟨["a", ".h", "g"]⟩ ∈ paths ∧ ⟨["a.b"]⟩ ∉ paths := by
  intro s t w i
  have hHolds : i.storage.Holds w t := ⟨0, rfl, rfl⟩
  have hFormed : t.WellFormed := Tree.wellFormed_of_entries (by decide +kernel +zetaReduce) (by decide)
  obtain ⟨hList, hWalk⟩ := list_complete hHolds hFormed
  obtain ⟨items, hItems, -, hMem⟩ := hList rfl (by decide) (by decide) ⟨true, false, true⟩
  obtain ⟨paths, hPaths, -, hFound, -⟩ := hWalk ⟨["a"]⟩ (by decide)
  refine ⟨hHolds, hFormed, ⟨items, hItems, (hMem _).mpr ⟨_, rfl, by decide, by decide, nofun, by decide, rfl⟩,
    fun hFolder => ?_, fun hHidden => ?_, fun hAside => ?_⟩, paths, hPaths, (hFound _).mpr (by decide),
    fun hAside => absurd ((hFound _).mp hAside) (by decide)⟩
  · obtain ⟨q, hq, hLists⟩ := (hMem _).mp hFolder
    obtain rfl := (Item.mk.inj hq).2
    cases hLists.wanted
  · obtain ⟨q, hq, hLists⟩ := (hMem _).mp hHidden
    obtain rfl := (Item.mk.inj hq).2
    exact absurd hLists.shown (by decide)
  · obtain ⟨q, hq, hLists⟩ := (hMem _).mp hAside
    obtain rfl := (Item.mk.inj hq).2
    exact absurd hLists.below (by decide)

end Cabinet.Item
