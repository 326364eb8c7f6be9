import Cabinet.Proofs.Storage.Contents
import Mathlib.Data.List.Nodup

/-! What is in a folder. A listing of a tree in memory has each entry right below the folder that is in
sight once, and nothing else. A folder that is made, or was there already, adds itself and those above
it to the tree. -/

namespace Cabinet

variable {α : Type} {es : Entries α} {i j : Item} {w w' : World} {t t' : Tree} {p q : StoragePath}
  {name : String} {children : List Item}

/-! ### Names in a folder -/

namespace Entries

/-- The names in a folder lead back to the entries that they are of. -/
theorem map_child_names (es : Entries α) (p : StoragePath) : (es.names p).map p.child =
    ((es.within p).filter fun e => e.1.depth == p.depth + 1).map Prod.fst := by
  rw [names, List.map_map]
  apply List.map_congr_left
  intro e he
  obtain ⟨hWithin, hDepth⟩ := List.mem_filter.mp he
  obtain ⟨rest, hRest⟩ := StoragePath.startsWith_iff_down.mp (List.mem_filter.mp hWithin).2
  rw [beq_iff_eq, hRest, StoragePath.depth_down] at hDepth
  obtain ⟨s, rfl⟩ := List.length_eq_one_iff.mp (Nat.add_left_cancel hDepth)
  rw [Function.comp_apply, hRest, ← StoragePath.child_eq_down, StoragePath.name_child]

theorem mem_map_child_names (h : es.Ordered) :
    q ∈ (es.names p).map p.child ↔ ∃ s, q = p.child s ∧ es.get? q ≠ none := by
  simp only [map_child_names, List.mem_map, List.mem_filter, within, beq_iff_eq]
  constructor
  · rintro ⟨⟨r, a⟩, ⟨⟨hEntry, hBelow⟩, hDepth⟩, rfl⟩
    obtain ⟨rest, rfl⟩ := StoragePath.startsWith_iff_down.mp hBelow
    rw [StoragePath.depth_down] at hDepth
    obtain ⟨s, rfl⟩ := List.length_eq_one_iff.mp (Nat.add_left_cancel hDepth)
    exact ⟨s, rfl, by simp [h.get?_eq_some_iff_mem.mpr hEntry]⟩
  · rintro ⟨s, rfl, hFound⟩
    obtain ⟨a, ha⟩ := Option.ne_none_iff_exists'.mp hFound
    exact ⟨(p.child s, a), ⟨⟨mem_of_get? ha, StoragePath.startsWith_child⟩, StoragePath.depth_down⟩, rfl⟩

/-- The names come in path order. -/
theorem pairwise_map_child_names (h : es.Ordered) :
    ((es.names p).map p.child).Pairwise fun q r => q.before r = true := by
  rw [map_child_names, List.pairwise_map]
  exact (h.filter _).filter _

end Entries

/-! ### Listings -/

theorem Storage.Holds.list (h : i.storage.Holds w t) :
    i.storage.backend.list i.path w = t.list i.path := by
  obtain ⟨n, hBackend, hTree⟩ := h
  rw [hBackend, ← tree_eq hTree]
  rfl

theorem Tree.list_eq_ok_iff {names : List String} (hT : t.WellFormed) :
    t.list p = .ok names ↔ t.get? p = some .folder ∧ t.entries.names p = names := by
  rw [← requireFolder_eq_ok_iff, list, hT.ordered.scannedNames]
  cases t.requireFolder p <;> simp

/-- What is selected is among the paths, and there. -/
theorem Item.mem_select {f : ListFilter} {paths : List StoragePath}
    (h : i.select f paths w = .ok children) (hMem : j ∈ children) :
    ∃ p ∈ paths, j = ⟨i.storage, p⟩ ∧ ∃ m, i.storage.entry p w = .ok (some m) := by
  induction paths generalizing children with
  | nil =>
      obtain rfl := Except.ok.inj h
      cases hMem
  | cons p rest ih =>
      have hLater {found : List Item} (h : i.select f rest w = .ok found) (hMem : j ∈ found) :
          ∃ q ∈ p :: rest, j = ⟨i.storage, q⟩ ∧ ∃ m, i.storage.entry q w = .ok (some m) := by
        obtain ⟨q, hq, hThere⟩ := ih h hMem
        exact ⟨q, List.mem_cons_of_mem _ hq, hThere⟩
      rw [select] at h
      split at h
      · exact hLater h hMem
      · obtain ⟨found, hFound, h⟩ := Query.bind_eq_ok_iff.mp h
        cases found with
        | none => exact hLater h hMem
        | some m =>
            dsimp only at h
            split at h
            · obtain ⟨others, hOthers, h⟩ := Query.bind_eq_ok_iff.mp h
              obtain rfl := Except.ok.inj h
              rcases List.mem_cons.mp hMem with rfl | hMem
              · exact ⟨p, List.mem_cons_self, rfl, m, hFound⟩
              · exact hLater hOthers hMem
            · exact hLater h hMem

/-- What is listed is there under a name that the backend gives. -/
theorem Item.mem_list (h : i.list .all w = .ok children) (hMem : j ∈ children) :
    ∃ name names m, i.storage.backend.list i.path w = .ok names ∧ name ∈ names ∧
      j = ⟨i.storage, i.path.child name⟩ ∧ i.storage.entry (i.path.child name) w = .ok (some m) := by
  obtain ⟨_, -, h⟩ := Query.bind_eq_ok_iff.mp h
  obtain ⟨paths, hPaths, h⟩ := Query.bind_eq_ok_iff.mp h
  obtain ⟨names, hNames, hPaths⟩ := Query.bind_eq_ok_iff.mp (Query.mapError_eq_ok_iff.mp hPaths)
  obtain rfl := Except.ok.inj hPaths
  obtain ⟨p, hp, rfl, m, hThere⟩ := mem_select h hMem
  obtain ⟨name, hName, rfl⟩ := List.mem_map.mp (List.mem_mergeSort.mp hp)
  exact ⟨name, names, m, hNames, hName, rfl, hThere⟩

/-- A selection keeps of the paths those in sight whose entries are asked for. -/
theorem Item.select_apply (h : i.storage.Holds w t) (f : ListFilter) (paths : List StoragePath) :
    i.select f paths w = .ok ((paths.filter fun p =>
      !i.storage.hides p && (t.metadata p).any f.accepts).map fun p => ⟨i.storage, p⟩) := by
  induction paths with
  | nil => rfl
  | cons p rest ih =>
      rw [select, List.filter_cons]
      cases i.storage.hides p with
      | true => exact ih
      | false =>
          rw [if_neg Bool.false_ne_true, Query.bind_ok (h.entry p)]
          cases t.metadata p with
          | none => exact ih
          | some m =>
              dsimp only
              rw [Option.any_some, Bool.not_false, Bool.true_and]
              split
              · exact Query.bind_ok ih
              · exact ih

/-- Of the paths that are there, a selection of all keeps those in sight. -/
theorem Item.select_all (h : i.storage.Holds w t) (paths : List StoragePath)
    (hThere : ∀ p ∈ paths, t.get? p ≠ none) :
    i.select .all paths w =
      .ok ((paths.filter fun p => !i.storage.hides p).map fun p => ⟨i.storage, p⟩) := by
  have hAccepted : ∀ p ∈ paths, (t.metadata p).any ListFilter.all.accepts = true := by
    intro p hp
    obtain ⟨n, hFound⟩ := Option.ne_none_iff_exists'.mp (hThere p hp)
    rw [Tree.metadata, hFound]
    cases n <;> rfl
  rw [select_apply h, List.filter_congr fun p hp => by rw [hAccepted p hp, Bool.and_true]]

/-- What is in a folder of a tree to be seen, in order. -/
def Item.listed (i : Item) (t : Tree) : List Item :=
  (((t.entries.names i.path).map i.path.child).filter fun p => !i.storage.hides p).map fun p => ⟨i.storage, p⟩

theorem Item.mem_listed_iff (hT : t.WellFormed) : j ∈ i.listed t ↔ ∃ s, j = ⟨i.storage, i.path.child s⟩ ∧
    t.get? (i.path.child s) ≠ none ∧ i.storage.hides (i.path.child s) = false := by
  simp only [listed, List.mem_map (f := fun p : StoragePath => (⟨i.storage, p⟩ : Item)), List.mem_filter,
    Bool.not_eq_true', Entries.mem_map_child_names hT.ordered]
  constructor
  · rintro ⟨p, ⟨⟨s, rfl, hFound⟩, hShown⟩, rfl⟩
    exact ⟨s, rfl, hFound, hShown⟩
  · rintro ⟨s, rfl, hFound, hShown⟩
    exact ⟨_, ⟨⟨s, rfl, hFound⟩, hShown⟩, rfl⟩

theorem Item.nodup_listed (hT : t.WellFormed) : (i.listed t).Nodup := by
  have hNodup := (Entries.pairwise_map_child_names (p := i.path) hT.ordered).imp StoragePath.ne_of_before
  exact (List.Nodup.filter _ hNodup).map fun p q hSame => congrArg Item.path hSame

theorem Item.asFolder_eq_ok_iff (h : i.storage.Holds w t) : i.asFolder w = .ok j ↔
    j = i ∧ t.get? i.path = some .folder ∧ i.storage.isOpen w = true ∧ i.storage.hides i.path = false := by
  simp only [asFolder, Query.bind_eq_ok_iff, requireEntry_eq_ok_iff, h.entry, Tree.metadata]
  constructor
  · rintro ⟨m, ⟨hOpen, hShown, hFound⟩, hFolder⟩
    obtain ⟨n, hn, rfl⟩ := Option.map_eq_some_iff.mp (Except.ok.inj hFound)
    cases n with
    | file contents => cases hFolder
    | folder => exact ⟨(Except.ok.inj hFolder).symm, hn, hOpen, hShown⟩
  · rintro ⟨rfl, hFound, hOpen, hShown⟩
    exact ⟨_, ⟨hOpen, hShown, by rw [hFound, Option.map_some]⟩, rfl⟩

/-- A tree keeps its entries in order, so that there is nothing to sort. -/
theorem Item.list_eq_ok_iff (h : i.storage.Holds w t) (hT : t.WellFormed) :
    i.list .all w = .ok children ↔ i.asFolder w = .ok i ∧ i.listed t = children := by
  have hThere (p) (hp : p ∈ (t.entries.names i.path).map i.path.child) : t.get? p ≠ none :=
    ((Entries.mem_map_child_names hT.ordered).mp hp).choose_spec.2
  have hSorted : ((t.entries.names i.path).map i.path.child).mergeSort (fun p q => !q.before p) =
      (t.entries.names i.path).map i.path.child :=
    StoragePath.mergeSort_of_pairwise_before (Entries.pairwise_map_child_names hT.ordered)
  have hRest (hFolder : t.get? i.path = some .folder) : (do
      let paths ← (i.pathsBelow false).mapError (.io i.path)
      i.select .all (paths.mergeSort fun p q => !q.before p) : Query FileError (List Item)) w =
        .ok (i.listed t) := by
    have hNames : i.storage.backend.list i.path w = .ok (t.entries.names i.path) := by
      rw [h.list, Tree.list_eq_ok_iff hT]
      exact ⟨hFolder, rfl⟩
    have hPaths : Query.mapError (FileError.io i.path) (i.pathsBelow false) w =
        .ok ((t.entries.names i.path).map i.path.child) :=
      Query.mapError_eq_ok_iff.mpr (Query.bind_ok hNames)
    rw [Query.bind_ok hPaths, hSorted, select_all h _ hThere, listed]
  rw [list, Query.bind_eq_ok_iff]
  constructor
  · rintro ⟨j, hFolder, hRun⟩
    obtain ⟨rfl, hFound, -⟩ := (asFolder_eq_ok_iff h).mp hFolder
    exact ⟨hFolder, Except.ok.inj ((hRest hFound).symm.trans hRun)⟩
  · rintro ⟨hFolder, rfl⟩
    exact ⟨i, hFolder, hRest ((asFolder_eq_ok_iff h).mp hFolder).2.1⟩

/-! ### New folders -/

/-- Folders are added on the way down to a path, and nothing else changes. -/
def Tree.AddsFolders (p : StoragePath) (t t' : Tree) : Prop :=
  ∀ q, t'.get? q = t.get? q ∨ p.startsWith q = true ∧ t.get? q = none ∧ t'.get? q = some .folder

namespace Tree.AddsFolders

theorem refl (p : StoragePath) (t : Tree) : t.AddsFolders p t := fun _ => Or.inl rfl

theorem createFolders (h : t.AddsFolders p t') (hBelow : p.startsWith q = true) :
    t.AddsFolders p (t'.createFolders q).2 := by
  intro r
  rcases get?_createFolders (t := t') (p := q) (q := r) with hKept | ⟨hAbove, hNone, hMade⟩
  · rw [hKept]
    exact h r
  · rcases h r with hBefore | ⟨-, -, hFolder⟩
    · exact Or.inr ⟨StoragePath.startsWith_trans hBelow hAbove, hBefore ▸ hNone, hMade⟩
    · cases hNone.symm.trans hFolder

theorem file? (h : t.AddsFolders p t') : t'.file? q = t.file? q := by
  rcases h q with hKept | ⟨-, hNone, hMade⟩
  · exact file?_congr hKept
  · rw [file?_of_get?_ne_file (Or.inr hMade), file?_of_get?_ne_file (Or.inl hNone)]

theorem gains (h : t.AddsFolders p t') (hT : t'.WellFormed) (hHere : t'.get? p = some .folder) :
    t.Gains p .folder t' where
  wellFormed := hT
  here := hHere
  kind hFound := by
    rcases h p with hKept | ⟨-, hNone, -⟩
    · obtain rfl := Option.some.inj (hFound.symm.trans (hKept.symm.trans hHere))
      exact Iff.rfl
    · cases hNone.symm.trans hFound
  elsewhere q _ := (h q).imp_right Or.inl

end Tree.AddsFolders

theorem Storage.prepareParent_ok {s : Storage} (h : s.Holds w t) (hT : t.WellFormed)
    (hRun : s.prepareParent p w = (.ok (), w')) : ∃ t', s.Holds w' t' ∧ t'.WellFormed ∧
      t.AddsFolders p t' ∧ ∀ q ∈ p.ancestors, t.file? q = none := by
  cases hRoot : p.isRoot with
  | true =>
      obtain rfl := StoragePath.isRoot_iff.mp hRoot
      obtain rfl : w = w' := congrArg Prod.snd hRun
      exact ⟨t, h, hT, .refl _ t, fun q hq => nomatch hq⟩
  | false =>
      rcases prepareParent_cases h hT hRoot with ⟨⟨e, hError⟩, -⟩ | ⟨⟨w₁, hOk, -, hAfter⟩, hClear⟩
      · cases hError.symm.trans hRun
      · obtain ⟨-, rfl⟩ := Prod.mk.inj (hOk.symm.trans hRun)
        have hAdds := (Tree.AddsFolders.refl p t).createFolders StoragePath.startsWith_folder_self
        exact ⟨_, hAfter, hT.createFolders _, hAdds, hClear⟩

theorem Item.exists_of_file_eq_ok (h : i.file name w = .ok j) :
    ∃ p, i.path.resolve name = .ok p ∧ j = ⟨i.storage, p⟩ := by
  rw [file_apply] at h
  split at h
  · cases hName : i.path.resolve name with
    | error e =>
        rw [hName] at h
        cases h
    | ok p =>
        rw [hName] at h
        exact ⟨p, rfl, (Except.ok.inj h).symm⟩
  · cases h

/-- A folder that is given is there afterwards, and at most folders above it are new. -/
theorem Item.createFolder_ok (h : i.storage.Holds w t) (hT : t.WellFormed)
    (hRun : i.createFolder name w = (.ok j, w')) :
    ∃ p t', i.path.resolve name = .ok p ∧ j = ⟨i.storage, p⟩ ∧ i.storage.hides p = false ∧
      i.storage.Holds w' t' ∧ t.Gains p .folder t' := by
  obtain ⟨target, w₁, hFile, hRun⟩ := Action.bind_eq_ok_iff.mp hRun
  obtain ⟨hTarget, rfl⟩ := Action.query_eq_ok_iff.mp hFile
  obtain ⟨p, hName, rfl⟩ := exists_of_file_eq_ok hTarget
  obtain ⟨_, w₂, hWritable, hRun⟩ := Action.bind_eq_ok_iff.mp hRun
  obtain rfl : w = w₂ := congrArg Prod.snd hWritable
  cases hHides : i.storage.hides p with
  | true =>
      rw [hHides] at hRun
      cases congrArg Prod.fst hRun
  | false =>
  rw [hHides] at hRun
  obtain ⟨found, w₃, hFound, hRun⟩ := Action.bind_eq_ok_iff.mp hRun
  obtain ⟨hEntry, rfl⟩ := Action.query_eq_ok_iff.mp hFound
  obtain rfl := Except.ok.inj ((h.entry p).symm.trans hEntry)
  cases hThere : t.get? p with
  | some n =>
      rw [Tree.metadata, hThere] at hRun
      cases n with
      | file contents => cases congrArg Prod.fst hRun
      | folder =>
          obtain ⟨hSame, rfl⟩ := Prod.mk.inj hRun
          refine ⟨p, t, hName, (Except.ok.inj hSame).symm, hHides, h, ?_⟩
          exact (Tree.AddsFolders.refl p t).gains hT hThere
  | none =>
      rw [Tree.metadata, hThere] at hRun
      obtain ⟨_, w₁, hPrepared, hRun⟩ := Action.bind_eq_ok_iff.mp hRun
      obtain ⟨_, w₂, hMade, hRun⟩ := Action.bind_eq_ok_iff.mp hRun
      obtain ⟨hSame, rfl⟩ := Prod.mk.inj hRun
      obtain ⟨t₁, hHolds, hFormed, hAdds, hClear⟩ := Storage.prepareParent_ok h hT hPrepared
      obtain ⟨w₃, hCreate, hAfter⟩ := hHolds.createFolders p
      have hNoFile : ∀ q, p.startsWith q = true → t₁.file? q = none := by
        intro q hBelow
        rw [hAdds.file?]
        by_cases hq : q = p
        · exact Tree.file?_of_get?_ne_file (Or.inl (hq ▸ hThere))
        · exact hClear q (StoragePath.mem_ancestors_iff.mpr ⟨hBelow, hq⟩)
      rw [Action.mapError_apply, hCreate] at hMade
      obtain ⟨-, rfl⟩ := Prod.mk.inj hMade
      refine ⟨p, _, hName, (Except.ok.inj hSame).symm, hHides, hAfter.invalidate p, ?_⟩
      apply (hAdds.createFolders StoragePath.startsWith_self).gains (hFormed.createFolders p)
      exact (Tree.createFolders_ok hNoFile).2 p StoragePath.startsWith_self

theorem Storage.prepareParent_clear {s : Storage} (h : s.Holds w t) (hT : t.WellFormed)
    (hClear : ∀ q, p.startsWith q = true → t.file? q = none) :
    ∃ w' t', s.prepareParent p w = (.ok (), w') ∧ s.Holds w' t' ∧
      ∀ q, p.startsWith q = true → t'.file? q = none := by
  cases hRoot : p.isRoot with
  | true =>
      obtain rfl := StoragePath.isRoot_iff.mp hRoot
      exact ⟨w, t, rfl, h, hClear⟩
  | false =>
      rcases prepareParent_cases h hT hRoot with ⟨-, q, hAbove, hFile⟩ | ⟨⟨w₁, hOk, -, hAfter⟩, -⟩
      · exact absurd (hClear q (StoragePath.mem_ancestors_iff.mp hAbove).1) hFile
      · exact ⟨w₁, _, hOk, hAfter, fun q hWay => Tree.file?_createFolders.trans (hClear q hWay)⟩

/-- A folder is made, or there already, where nothing refuses it and no file is on the way. -/
theorem Item.createFolder_clear (h : i.storage.Holds w t) (hT : t.WellFormed)
    (hOpen : i.storage.isOpen w = true) (hWritable : i.storage.checkWritable = .ok ())
    (hName : i.path.resolve name = .ok p) (hShown : i.storage.hides p = false)
    (hClear : ∀ q, p.startsWith q = true → t.file? q = none) :
    ∃ w', i.createFolder name w = (.ok ⟨i.storage, p⟩, w') := by
  have hTarget : i.file name w = .ok ⟨i.storage, p⟩ := by
    rw [file_apply, hName, if_pos hOpen]
    rfl
  have hAsk : (liftM i.storage.checkWritable : Action FileError Unit) w = (.ok (), w) := by
    rw [hWritable]
    rfl
  rw [createFolder, Action.bind_ok (Action.query_eq_ok_iff.mpr ⟨hTarget, rfl⟩), Action.bind_ok hAsk,
    hShown, if_neg Bool.false_ne_true]
  dsimp only
  rw [Action.bind_ok (Action.query_eq_ok_iff.mpr ⟨h.entry p, rfl⟩), Tree.metadata]
  cases hThere : t.get? p with
  | some n =>
      cases n with
      | folder => exact ⟨w, rfl⟩
      | file contents =>
          have hNone := hClear p StoragePath.startsWith_self
          rw [Tree.file?_eq_some_iff.mpr hThere] at hNone
          cases hNone
  | none =>
      obtain ⟨w₁, t₁, hPrepared, hHolds, hStill⟩ := Storage.prepareParent_clear h hT hClear
      obtain ⟨w₂, hCreate, -⟩ := hHolds.createFolders p
      have hMade : Action.mapError (FileError.io p) (i.storage.backend.createFolders p) w₁ =
          (.ok (), w₂) := by
        rw [Action.mapError_apply, hCreate, (Tree.createFolders_ok hStill).1]
        rfl
      dsimp only [Option.map_none]
      rw [Action.bind_ok hPrepared, Action.bind_ok hMade]
      exact ⟨_, rfl⟩

end Cabinet
