import Cabinet.Proofs.Storage.Writing

/-! What a write leaves alone. Wherever it ends, no file changes or comes about except at its path. But
the draft's name is not kept free for it: a file that has this name already is lost, whether the write
succeeds or fails. -/

namespace Cabinet

variable {i : Item} {source : Source} {w : World} {t t' : Tree} {q : StoragePath} {name : String}
  {r : Except FileError Item}

/-- No file away from an item changes or comes about, unless it is where the item's draft is and has
gone. -/
def Item.Spares (i : Item) (t t' : Tree) : Prop :=
  ∀ q, q ≠ i.path → t'.file? q = t.file? q ∨ q = i.draft ∧ t'.file? q = none

namespace Item

theorem Spares.refl : i.Spares t t := fun _ _ => Or.inl rfl

/-- The folders above an item are no files, and there were none where they are made. -/
theorem file?_prepared : (i.prepared t).file? q = t.file? q := Tree.file?_createFolders

theorem WriteEnds.spares (h : i.WriteEnds source w t r t') : i.Spares t t' := by
  intro q hq
  cases h with
  | refused => exact Or.inl rfl
  | itself => exact Or.inl rfl
  | blocked => exact Or.inl rfl
  | unopened => exact Or.inl file?_prepared
  | cut _ _ _ _ hLeft =>
      have hFound := hLeft q
      split_ifs at hFound with hDraft
      · exact Or.inr ⟨hDraft, Tree.file?_of_get?_ne_file (Or.inl hFound)⟩
      · exact Or.inl ((Tree.file?_congr hFound).trans file?_prepared)
  | done _ _ _ _ hLeft =>
      have hFound := hLeft q
      rw [if_neg hq] at hFound
      split_ifs at hFound with hDraft
      · exact Or.inr ⟨hDraft, Tree.file?_of_get?_ne_file (Or.inl hFound)⟩
      · exact Or.inl ((Tree.file?_congr hFound).trans file?_prepared)

theorem exists_spares_write (h : i.storage.Holds w t) (hT : t.WellFormed) (source : Source) :
    ∃ t', i.storage.Holds (i.write source w).2 t' ∧ i.Spares t t' := by
  obtain ⟨r, w', t', hRun, hHolds, -, hEnds⟩ := write_ends h hT source
  exact ⟨t', hRun ▸ hHolds, hEnds.spares⟩

/-- An item that is made in a folder is the one that the name leads to, written. -/
theorem create_cases (i : Item) (name : String) (source : Source) (w : World) :
    (∃ e, i.create name source w = (.error e, w)) ∨
      ∃ p, i.path.resolve name = .ok p ∧ i.create name source w = write ⟨i.storage, p⟩ source w := by
  have hAsk : (liftM (i.file name) : Action FileError Item) w = (i.file name w, w) :=
    Action.query_apply _ w
  rw [file_apply] at hAsk
  split at hAsk
  · cases hName : i.path.resolve name with
    | error e =>
        rw [hName] at hAsk
        exact Or.inl ⟨e, Action.bind_error hAsk⟩
    | ok p =>
        rw [hName] at hAsk
        exact Or.inr ⟨p, rfl, Action.bind_ok hAsk⟩
  · exact Or.inl ⟨_, Action.bind_error hAsk⟩

/-- Whether it succeeds or fails, a write spares every file but the one at its path and one that is in
the way of the draft. Nothing else comes about. -/
theorem write_spares (h : i.storage.Holds w t) (hT : t.WellFormed) (source : Source) :
    (∃ t', i.storage.Holds (i.write source w).2 t' ∧ i.Spares t t') ∧
      ∀ name, (∀ p, i.path.resolve name = .ok p →
          ∃ t', i.storage.Holds (i.create name source w).2 t' ∧ Spares ⟨i.storage, p⟩ t t') ∧
        ∀ e, i.path.resolve name = .error e → (i.create name source w).2 = w := by
  refine ⟨exists_spares_write h hT source, fun name => ⟨fun p hp => ?_, fun e he => ?_⟩⟩
  · rcases create_cases i name source w with ⟨e, hRun⟩ | ⟨p', hName, hRun⟩
    · exact ⟨t, hRun ▸ h, .refl⟩
    · obtain rfl := Except.ok.inj (hp.symm.trans hName)
      have hWritten : (⟨i.storage, p⟩ : Item).storage.Holds w t := h
      rw [hRun]
      exact exists_spares_write hWritten hT source
  · rcases create_cases i name source w with ⟨_, hRun⟩ | ⟨p, hName, -⟩
    · rw [hRun]
    · cases he.symm.trans hName

/-- A writer that fails half way, in a folder that does not exist, and next to other files. -/
theorem write_spares_broken :
    let s : Storage := ⟨0, "main", ⟨.memory 0, .plain⟩, ⟨some 9, false, true⟩, .byName, .basic⟩
    let t := (Tree.empty.put ⟨["a"]⟩ (.file [1])).put ⟨[".b"]⟩ (.file [2, 3])
    let w : World := ⟨.empty, [t], [⟨true, none⟩]⟩
    let source : Source := .feed [.bytes [4, 5], .interrupted, .failed .reset]
    s.Holds w t ∧ t.WellFormed ∧
      (∃ t', s.Holds (create ⟨s, .root⟩ "c/a" source w).2 t' ∧ Spares ⟨s, ⟨["c", "a"]⟩⟩ t t') ∧
      (write ⟨s, ⟨["a"]⟩⟩ source w).1 = .error (.io ⟨["a"]⟩ .reset) ∧
      ∃ t', s.Holds (write ⟨s, ⟨["a"]⟩⟩ source w).2 t' ∧ t'.file? ⟨[".b"]⟩ = some [2, 3] := by
  intro s t w source
  have hHolds : s.Holds w t := ⟨0, rfl, rfl⟩
  have hFirst : (Tree.empty.put ⟨["a"]⟩ (.file [1])).WellFormed :=
    Tree.wellFormed_empty.put (fun _ => by decide) (Or.inl (by decide))
  have hFormed : t.WellFormed := hFirst.put (fun _ => by decide) (Or.inl (by decide))
  obtain ⟨⟨t', hAfter, hSpares⟩, -⟩ := write_spares (i := ⟨s, ⟨["a"]⟩⟩) hHolds hFormed source
  have hCreated := ((write_spares (i := ⟨s, .root⟩) hHolds hFormed source).2 "c/a").1 _ rfl
  have hOther := (hSpares ⟨[".b"]⟩ (by decide)).resolve_right fun h => absurd h.1 (by decide)
  exact ⟨hHolds, hFormed, hCreated, rfl, t', hAfter, hOther.trans (by decide)⟩

/-- A file whose name is that of a draft is moved away by a write that succeeds, and removed by one
that fails. -/
theorem not_write_spares_draft :
    let s : Storage := ⟨0, "main", ⟨.memory 0, .plain⟩, ⟨none, false, true⟩, .byName, .basic⟩
    let t := Tree.empty.put ⟨[".a.partial"]⟩ (.file [7])
    let w : World := ⟨.empty, [t], [⟨true, none⟩]⟩
    let i : Item := ⟨s, ⟨["a"]⟩⟩
    s.Holds w t ∧ t.WellFormed ∧ ∀ source ∈ [Source.bytes [1], .feed [.failed .reset]],
      ¬∃ t', s.Holds (i.write source w).2 t' ∧ ∀ q, q ≠ i.path → t'.file? q = t.file? q := by
  intro s t w i
  refine ⟨⟨0, rfl, rfl⟩, Tree.wellFormed_empty.put (fun _ => by decide) (Or.inl (by decide)), ?_⟩
  have hWritten : s.Holds (i.write (.bytes [1]) w).2 (Tree.empty.put ⟨["a"]⟩ (.file [1])) :=
    ⟨0, rfl, by decide⟩
  have hFailed : s.Holds (i.write (.feed [.failed .reset]) w).2 .empty := ⟨0, rfl, by decide⟩
  rintro source hSource ⟨t', hAfter, hKept⟩
  have hDraft := hKept ⟨[".a.partial"]⟩ (by decide)
  rcases List.mem_pair.mp hSource with rfl | rfl
  · rw [hAfter.unique hWritten] at hDraft
    exact absurd hDraft (by decide)
  · rw [hAfter.unique hFailed] at hDraft
    exact absurd hDraft (by decide)

end Item

end Cabinet
