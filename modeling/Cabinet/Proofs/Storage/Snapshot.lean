import Cabinet.Proofs.Storage.Overlay

/-! Copies within one storage. A copy is one of what the folder held when it began, unless a file lands
within the folder before its own turn comes. That happens where the copy is made above the folder, at a
path that the folder's own path goes on from. -/

namespace Cabinet.Item

open Cabinet.Action

variable {i folder j copy : Item} {w w' : World} {t : Tree} {children : List Item} {m : EntryMeta}
  {levels : Nat}

/-- A copy within a storage that succeeds leaves every file that was at or below the item at the same
place below the copy, with the contents that it had; provided that no file lands at or below the item in
another place than its own. -/
theorem copyTo_snapshot (h : i.storage.Holds w t) (hT : t.Shown) (hNamed : t.Named)
    (hShowsNoHidden : i.storage.options.showHidden = false) (hSame : folder.storage = i.storage)
    (hPlain : folder.path.Plain)
    (hApart : ∀ q r contents, t.get? q = some (.file contents) →
      q.rebase? i.path (i.path.under folder.path) = some r → r.startsWith i.path = true → r = q)
    (hRun : i.copyTo folder w = (.ok j, w')) :
    j = ⟨i.storage, i.path.under folder.path⟩ ∧ ∃ t', i.storage.Holds w' t' ∧
      ∀ q contents, q.startsWith i.path = true → t.get? q = some (.file contents) →
        ∃ r, q.rebase? i.path j.path = some r ∧ t'.get? r = some (.file contents) := by
  have hFolder : folder.storage.Holds w t := hSame ▸ h
  obtain ⟨m, hEntry⟩ := requireEntry_of_copyDown hRun
  obtain ⟨-, n, hFound, -⟩ := entry_of_requireEntry h hEntry
  have hCopies : i.storage.CopiesApart folder.storage i.path (i.path.under folder.path) t := by
    refine ⟨fun _ => hSame ▸ rfl, hSame ▸ hShowsNoHidden, hT.toWellFormed,
      fun _ => (hNamed _ _ hFound).under hPlain, fun _ hFile hInto => ?_⟩
    exact hApart _ _ _ hFile (StoragePath.rebase?_eq_some_iff_down.mpr ⟨_, rfl, rfl⟩) hInto
  obtain ⟨rfl, -, t', hAfter, hOverlays⟩ := copyTo_copied h hFolder hT hNamed hCopies hRun
  refine ⟨hSame ▸ rfl, t', hSame ▸ hAfter, fun q contents hBelow hFile => ?_⟩
  have hVisible : i.storage.hides q = false := by rw [Storage.hides, hT.shown hFile, Bool.and_false]
  obtain ⟨rest, rfl⟩ := StoragePath.startsWith_iff_down.mp hBelow
  exact ⟨_, StoragePath.rebase?_eq_some_iff_down.mpr ⟨rest, rfl, rfl⟩,
    hOverlays.copied hBelow hVisible hFile⟩

/-- A copy takes the place of an older one, with a file of other contents. -/
theorem copyTo_snapshot_replaced :
    let s : Storage := ⟨0, "main", ⟨.memory 0, .plain⟩, .standard, .byName, .basic⟩
    let t := (((Tree.empty.put ⟨["d"]⟩ .folder).put ⟨["d", "t"]⟩ .folder).put ⟨["d", "t", "f"]⟩
      (.file [9])).put ⟨["t"]⟩ .folder |>.put ⟨["t", "f"]⟩ (.file [1, 2])
    let w : World := ⟨.empty, [t], [⟨true, none⟩]⟩
    let i : Item := ⟨s, ⟨["t"]⟩⟩
    let folder : Item := ⟨s, ⟨["d"]⟩⟩
    s.Holds w t ∧ t.Shown ∧ t.Named ∧ folder.path.Plain ∧
      (∀ q r contents, t.get? q = some (.file contents) →
        q.rebase? i.path (i.path.under folder.path) = some r → r.startsWith i.path = true → r = q) ∧
      ∃ w' t', i.copyTo folder w = (.ok ⟨s, ⟨["d", "t"]⟩⟩, w') ∧ s.Holds w' t' ∧
        t'.get? ⟨["d", "t", "f"]⟩ = some (.file [1, 2]) := by
  intro s t w i folder
  have hHolds : s.Holds w t := ⟨0, rfl, rfl⟩
  have hFormed : t.WellFormed := Tree.wellFormed_of_entries (by decide +kernel +zetaReduce) (by decide)
  have hShown : t.Shown := hFormed.shown_of_entries (by decide)
  have hNamed : t.Named := Tree.named_of_entries (by decide)
  have hSame : folder.storage = i.storage := rfl
  have hPlain : folder.path.Plain := by decide
  have hApart (q r contents) (_ : t.get? q = some (.file contents))
      (hr : q.rebase? i.path (i.path.under folder.path) = some r) (hInto : r.startsWith i.path = true) :
      r = q := by
    obtain ⟨rest, -, rfl⟩ := StoragePath.rebase?_eq_some_iff_down.mp hr
    cases hInto
  obtain ⟨j, w', hRun⟩ : ∃ j w', i.copyTo folder w = (.ok j, w') :=
    Action.exists_eq_ok (by decide +kernel +zetaReduce)
  obtain ⟨rfl, t', hAfter, hCopied⟩ :=
    copyTo_snapshot hHolds hShown hNamed rfl hSame hPlain hApart hRun
  obtain ⟨r, hr, hFile⟩ := hCopied ⟨["t", "f"]⟩ [1, 2] rfl rfl
  obtain rfl := Option.some.inj hr
  exact ⟨hHolds, hShown, hNamed, hPlain, hApart, w', t', hRun, hAfter, hFile⟩

/-- The folder /a/a is copied to the root, and so comes to be at /a. Its child /a/a/a lands on the folder
itself, and takes the place of the file in it that has not been copied yet. -/
theorem not_copyTo_snapshot_overlap :
    let s : Storage := ⟨0, "main", ⟨.memory 0, .plain⟩, .standard, .byName, .basic⟩
    let t := (((Tree.empty.put ⟨["a"]⟩ .folder).put ⟨["a", "a"]⟩ .folder).put ⟨["a", "a", "a"]⟩
      .folder).put ⟨["a", "a", "a", "x"]⟩ (.file [2]) |>.put ⟨["a", "a", "x"]⟩ (.file [1])
    let w : World := ⟨.empty, [t], [⟨true, none⟩]⟩
    s.Holds w t ∧ t.Shown ∧ t.Named ∧ t.get? ⟨["a", "a", "x"]⟩ = some (.file [1]) ∧ ∃ j w',
      copyTo ⟨s, ⟨["a", "a"]⟩⟩ ⟨s, .root⟩ w = (.ok j, w') ∧
        StoragePath.rebase? ⟨["a", "a", "x"]⟩ ⟨["a", "a"]⟩ (StoragePath.under ⟨["a", "a"]⟩ .root) =
          some ⟨["a", "x"]⟩ ∧
        readBytes ⟨s, ⟨["a", "x"]⟩⟩ w' = .ok [2] := by
  intro s t w
  have hHolds : s.Holds w t := ⟨0, rfl, rfl⟩
  have hFormed : t.WellFormed := Tree.wellFormed_of_entries (by decide +kernel +zetaReduce) (by decide)
  have hListed : list ⟨s, ⟨["a", "a"]⟩⟩ .all w =
      .ok [⟨s, ⟨["a", "a", "a"]⟩⟩, ⟨s, ⟨["a", "a", "x"]⟩⟩] :=
    (list_eq_ok_iff (i := ⟨s, ⟨["a", "a"]⟩⟩) hHolds hFormed).mpr ⟨rfl, rfl⟩
  have hMade : createFolder ⟨s, .root⟩ "a" w = (.ok ⟨s, ⟨["a"]⟩⟩, w) := rfl
  have hEntry : requireEntry ⟨s, ⟨["a", "a"]⟩⟩ w = .ok Node.folder.metadata := by
    decide +kernel +zetaReduce
  have hLevels : s.backend.levels w = 6 + 1 := by decide
  have hRun : copyTo ⟨s, ⟨["a", "a"]⟩⟩ ⟨s, .root⟩ w = (copyEach 6 ⟨s, ⟨["a"]⟩⟩
      [⟨s, ⟨["a", "a", "a"]⟩⟩, ⟨s, ⟨["a", "a", "x"]⟩⟩] >>= fun _ => pure ⟨s, ⟨["a"]⟩⟩) w := by
    rw [copyTo_apply, hLevels]
    exact copyDown_of_folder hEntry rfl rfl hListed hMade
  obtain ⟨j, w', hDone⟩ := exists_eq_ok (a := copyEach 6 ⟨s, ⟨["a"]⟩⟩
      [⟨s, ⟨["a", "a", "a"]⟩⟩, ⟨s, ⟨["a", "a", "x"]⟩⟩] >>= fun _ => pure (⟨s, ⟨["a"]⟩⟩ : Item)) (w := w)
      (by decide +kernel +zetaReduce)
  have hRead : readBytes ⟨s, ⟨["a", "x"]⟩⟩ ((copyEach 6 ⟨s, ⟨["a"]⟩⟩
      [⟨s, ⟨["a", "a", "a"]⟩⟩, ⟨s, ⟨["a", "a", "x"]⟩⟩] >>= fun _ => pure (⟨s, ⟨["a"]⟩⟩ : Item)) w).2 =
        .ok [2] := by
    decide +kernel +zetaReduce
  rw [hDone] at hRead
  have hNamed : t.Named := Tree.named_of_entries (by decide)
  exact ⟨hHolds, hFormed.shown_of_entries (by decide), hNamed, by decide, j, w', hRun.trans hDone, by decide,
    hRead⟩

end Cabinet.Item
