import Cabinet.Proofs.Storage.Moving

/-! Moves of items that fail. All that can be refused is refused before anything is made, but for one thing: that
an item is to be moved below itself is noticed by the backend only, when the folders on the way there have been
made. They stay, and everything else is as it was. -/

namespace Cabinet.Item

variable {i : Item} {w w' : World} {t : Tree} {name : String} {e : FileError}

/-- A failed renaming leaves the world as it was, unless the name leads from a folder to below it. Then there are
folders all the way to the target, where folders were or nothing, and no other entry and no file has changed. -/
theorem rename_failed (h : i.storage.Holds w t) (hT : t.WellFormed) (hRun : i.rename name w = (.error e, w')) :
    w' = w ∨ ∃ j, i.sibling name = .ok j ∧ j.path.startsWith i.path = true ∧ j.path ≠ i.path ∧
      t.get? i.path = some .folder ∧ e = .io i.path (.movesInto i.path j.path) ∧ w.SameFiles w' ∧
        ∃ t', i.storage.Holds w' t' ∧
          ∀ q, t'.get? q = if q ∈ j.path.ancestors then some .folder else t.get? q := by
  have hEnds := rename_ends h hT name
  rw [hRun] at hEnds
  cases hEnds with
  | refused => exact Or.inl rfl
  | @stuck j _ _ hOut hError hFiles hAfter =>
      have hRoot := hT.not_isRoot_of_free hOut.there hOut.free hOut.other
      have hPrepared := get?_prepared_eq hRoot fun _ hq => hOut.clear hq
      obtain ⟨n, hn⟩ := Option.ne_none_iff_exists'.mp hOut.there
      have hThere : (j.prepared t).get? i.path = some n := Tree.get?_createFolders_of_some hn
      have hFolder : (j.prepared t).get? j.path.folder = some .folder :=
        get?_prepared_above hRoot (fun _ hq => hOut.clear hq)
          ((StoragePath.mem_ancestors_iff_folder hRoot).mpr StoragePath.startsWith_self)
      obtain ⟨hInto, rfl⟩ := Tree.rename_eq_error hError (by simp [hThere]) hRoot hFolder
      refine Or.inr ⟨j, hOut.leads, hInto, hOut.other, ?_, rfl, hFiles, j.prepared t, hAfter, hPrepared⟩
      -- Below a file nothing would have been made.
      have hNoFile := hOut.clear (StoragePath.mem_ancestors_iff.mpr ⟨hInto, hOut.other.symm⟩)
      cases n with
      | file contents => cases hNoFile.symm.trans (Tree.file?_eq_some_iff.mpr hn)
      | folder => exact hn

/-- A file is not moved over a folder; and a folder with a file is not moved below itself, but a folder is made. -/
theorem rename_failed_inside :
    let s : Storage := ⟨0, "main", ⟨.memory 0, .plain⟩, .standard, .byName, .basic⟩
    let t := ((Tree.empty.put ⟨["a"]⟩ (.file [2])).put ⟨["d"]⟩ .folder).put ⟨["d", "f"]⟩ (.file [1])
    let w : World := ⟨.empty, [t], [⟨true, none⟩]⟩
    let refused := (Item.mk s ⟨["a"]⟩).rename "d" w
    let stuck := (Item.mk s ⟨["d"]⟩).rename "d/x/y" w
    s.Holds w t ∧ t.WellFormed ∧ refused = (.error (.folderExists ⟨["d"]⟩), refused.2) ∧ refused.2 = w ∧
      stuck = (.error (.io ⟨["d"]⟩ (.movesInto ⟨["d"]⟩ ⟨["d", "x", "y"]⟩)), stuck.2) ∧
        ∃ t', s.Holds stuck.2 t' ∧ t'.get? ⟨["d", "x"]⟩ = some .folder ∧ t'.get? ⟨["d", "x", "y"]⟩ = none ∧
          t'.get? ⟨["d", "f"]⟩ = some (.file [1]) := by
  intro s t w refused stuck
  have hHolds : s.Holds w t := ⟨0, rfl, rfl⟩
  have hFirst : (Tree.empty.put ⟨["a"]⟩ (.file [2])).WellFormed :=
    Tree.wellFormed_empty.put (fun _ => by decide) (Or.inl (by decide))
  have hSecond : ((Tree.empty.put ⟨["a"]⟩ (.file [2])).put ⟨["d"]⟩ .folder).WellFormed :=
    hFirst.put (fun _ => by decide) (Or.inl (by decide))
  have hFormed : t.WellFormed := hSecond.put (fun _ => by decide) (Or.inl (by decide))
  have hRefused : refused = (.error (.folderExists ⟨["d"]⟩), refused.2) := rfl
  have hStuck : stuck = (.error (.io ⟨["d"]⟩ (.movesInto ⟨["d"]⟩ ⟨["d", "x", "y"]⟩)), stuck.2) := rfl
  refine ⟨hHolds, hFormed, hRefused, ?_, hStuck, ?_⟩
  · rcases rename_failed (i := ⟨s, ⟨["a"]⟩⟩) hHolds hFormed hRefused with hSame | ⟨j, -, -, -, -, hNever, -⟩
    · exact hSame
    · cases hNever
  · rcases rename_failed (i := ⟨s, ⟨["d"]⟩⟩) hHolds hFormed hStuck with
      hSame | ⟨j, hName, -, -, -, -, -, t', hAfter, hFound⟩
    · have hLeft : s.Holds stuck.2 (t.put ⟨["d", "x"]⟩ .folder) := ⟨0, rfl, by decide +kernel +zetaReduce⟩
      rw [hSame] at hLeft
      exact absurd (hHolds.unique hLeft) (by decide +kernel +zetaReduce)
    · obtain rfl := Except.ok.inj hName
      exact ⟨t', hAfter, (hFound _).trans (by decide), (hFound _).trans (by decide),
        (hFound _).trans (by decide)⟩

/-- A folder that is to be moved below itself stays, and yet there is one more afterwards. -/
theorem not_rename_failed_unchanged :
    let s : Storage := ⟨0, "main", ⟨.memory 0, .plain⟩, .standard, .byName, .basic⟩
    let t := Tree.empty.put ⟨["d"]⟩ .folder
    let w : World := ⟨.empty, [t], [⟨true, none⟩]⟩
    let stuck := (Item.mk s ⟨["d"]⟩).rename "d/x/y" w
    s.Holds w t ∧ t.WellFormed ∧
      stuck = (.error (.io ⟨["d"]⟩ (.movesInto ⟨["d"]⟩ ⟨["d", "x", "y"]⟩)), stuck.2) ∧ ¬s.Holds stuck.2 t := by
  intro s t w stuck
  refine ⟨⟨0, rfl, rfl⟩, Tree.wellFormed_empty.put (fun _ => by decide) (Or.inl (by decide)), rfl, fun hSame => ?_⟩
  have hLeft : s.Holds stuck.2 (t.put ⟨["d", "x"]⟩ .folder) := ⟨0, rfl, by decide +kernel +zetaReduce⟩
  exact absurd (hSame.unique hLeft) (by decide +kernel +zetaReduce)

end Cabinet.Item
