import Cabinet.Proofs.Storage.Inquiry
import Cabinet.Proofs.Storage.Walking

/-! What is hidden is not to be seen. Two trees that differ only in hidden entries, and in what is below them,
cannot be told apart by anything that is asked of a storage that shows no hidden entries. -/

namespace Cabinet

variable {s : Storage} {w w' : World} {t t' : Tree} {p : StoragePath}

namespace Storage

theorem Holds.openRead_alike (h : s.Holds w t) (h' : s.Holds w' t') (hSame : t'.get? p = t.get? p) :
    Query.Alike w w' (s.backend.openRead p) := by
  have hRead : t'.read p = t.read p := by rw [Tree.read, Tree.read, hSame]
  rw [Query.Alike, openRead (i := ⟨s, p⟩) h, openRead (i := ⟨s, p⟩) h', hRead]

/-- A reader of a tree holds all that it will give. -/
theorem Holds.rest_eq (h : s.Holds w t) {r : Reader} (hRead : s.backend.openRead p w = .ok r) :
    r.rest w' = r.rest w := by
  rw [openRead (i := ⟨s, p⟩) h] at hRead
  cases hContents : t.read p with
  | error e =>
      rw [hContents] at hRead
      cases hRead
  | ok contents =>
      rw [hContents] at hRead
      obtain rfl := Except.ok.inj hRead
      rfl

/-- Where two trees have the same entries in sight, a storage shows the same of them. -/
theorem Holds.showsAlike (h : s.Holds w t) (h' : s.Holds w' t') (hT : t.WellFormed) (hT' : t'.WellFormed)
    (hOpen : s.isOpen w' = s.isOpen w) (hSame : ∀ p, s.hides p = false → t'.get? p = t.get? p) :
    s.ShowsAlike w w' := by
  have hEntry {p : StoragePath} (hShown : s.hides p = false) : Query.Alike w w' (s.entry p) := by
    rw [Query.Alike, h.entry, h'.entry, Tree.metadata, Tree.metadata, hSame p hShown]
  refine ⟨hOpen, hEntry, fun hShown => h.openRead_alike h' (hSame _ hShown), h.rest_eq, fun p f => ?_⟩
  have hFolder : Query.Alike w w' (Item.asFolder ⟨s, p⟩) := Item.SeesAlike.asFolder ⟨hOpen, hEntry⟩
  rw [Query.Alike, Item.list_apply (i := ⟨s, p⟩) h hT, Item.list_apply (i := ⟨s, p⟩) h' hT', hFolder,
    Item.found_congr hT hT' hSame]

/-- Nothing that is asked of a storage without hidden entries depends on what is hidden; nor does metadata
that may be remembered, as long as the same is remembered. -/
theorem answers_of_shown {α : Type} (hHidden : s.options.showHidden = false) (h : s.Holds w t) (h' : s.Holds w' t')
    (hT : t.WellFormed) (hT' : t'.WellFormed) (hOpen : s.isOpen w' = s.isOpen w)
    (hSame : ∀ p, p.isHidden = false → t'.get? p = t.get? p) (p : StoragePath) (q : Inquiry α) :
    q.ask ⟨s, p⟩ w' = q.ask ⟨s, p⟩ w ∧
      (s.cached? p w' = s.cached? p w → (Item.metadata ⟨s, p⟩ w').1 = (Item.metadata ⟨s, p⟩ w).1) := by
  have hShows := h.showsAlike h' hT hT' hOpen fun p hShown => hSame p (isHidden_of_shown hHidden hShown)
  exact ⟨q.ask_alike hShows, hShows.metadata⟩

/-- A hidden folder with a file, and a hidden file in a folder that is shown: neither is listed by a walk of
the whole tree. -/
theorem answers_of_shown_walk :
    let s : Storage := ⟨0, "main", ⟨.memory 0, .plain⟩, ⟨none, false, false⟩, .byName, .basic⟩
    let t := (Tree.empty.put ⟨["d"]⟩ .folder).put ⟨["d", "a"]⟩ (.file [1])
    let t' := ((t.put ⟨[".h"]⟩ .folder).put ⟨[".h", "x"]⟩ (.file [2])).put ⟨["d", ".s"]⟩ (.file [3])
    let w : World := ⟨.empty, [t], [⟨true, some []⟩]⟩
    let w' : World := ⟨.empty, [t'], [⟨true, some []⟩]⟩
    let q : Inquiry (List Item) := .list ⟨true, true, true⟩
    s.Holds w t ∧ s.Holds w' t' ∧ t.WellFormed ∧ t'.WellFormed ∧ t' ≠ t ∧
      (∀ p, p.isHidden = false → t'.get? p = t.get? p) ∧
      q.ask ⟨s, .root⟩ w' = q.ask ⟨s, .root⟩ w ∧
      q.ask ⟨s, .root⟩ w = .ok [⟨s, ⟨["d"]⟩⟩, ⟨s, ⟨["d", "a"]⟩⟩] ∧
      (Item.metadata ⟨s, .root⟩ w').1 = (Item.metadata ⟨s, .root⟩ w).1 := by
  intro s t t' w w' q
  have hHolds : s.Holds w t := ⟨0, rfl, rfl⟩
  have hHolds' : s.Holds w' t' := ⟨0, rfl, rfl⟩
  have hT : t.WellFormed := (Tree.wellFormed_empty.put (fun _ => by decide) (Or.inl (by decide))).put
    (fun _ => by decide) (Or.inl (by decide))
  have hT' : t'.WellFormed := ((hT.put (fun _ => by decide) (Or.inl (by decide))).put
    (fun _ => by decide) (Or.inl (by decide))).put (fun _ => by decide) (Or.inl (by decide))
  have hSame : ∀ p, p.isHidden = false → t'.get? p = t.get? p := by
    intro p hShown
    have hne {q : StoragePath} (hq : q.isHidden = true) : p ≠ q := by
      rintro rfl
      cases hShown.symm.trans hq
    rw [Tree.get?_put_of_ne (hne (by decide)), Tree.get?_put_of_ne (hne (by decide)),
      Tree.get?_put_of_ne (hne (by decide))]
  obtain ⟨hListed, hMetadata⟩ := answers_of_shown rfl hHolds hHolds' hT hT' rfl hSame .root q
  have hAll : q.ask ⟨s, .root⟩ w = .ok [⟨s, ⟨["d"]⟩⟩, ⟨s, ⟨["d", "a"]⟩⟩] :=
    Item.list_apply (i := ⟨s, .root⟩) hHolds hT ⟨true, true, true⟩
  exact ⟨hHolds, hHolds', hT, hT', by decide, hSame, hListed, hAll, hMetadata rfl⟩

end Storage

end Cabinet
