import Cabinet.Proofs.Storage.Copying
import Cabinet.Proofs.Storage.Remembering

/-! Requests heed what is remembered. Each forgets what is known of the entries that it changes, before it
ends, and a new folder is at a path of which nothing was known. Only the draft of a file that is written is
changed without a word. -/

namespace Cabinet

/-- Contents for some item are gathered at a path before they take its place. -/
def StoragePath.IsDraft (p : StoragePath) : Prop := ∃ i : Item, i.draft = p

/-- A storage that shows no hidden entries shows no drafts. -/
theorem Storage.hides_or_not_isDraft {s : Storage} (hShown : s.options.showHidden = false) (p : StoragePath) :
    s.hides p = true ∨ ¬p.IsDraft := by
  rw [hides, hShown, Bool.not_false, Bool.true_and]
  refine (Classical.em _).imp_right fun hVisible => ?_
  rintro ⟨i, rfl⟩
  exact hVisible i.draft_isHidden

/-- From one world to another a storage in memory remembers nothing new, and what it remembers still is of
entries that are as they were, or of drafts. -/
structure Storage.Heeds (s : Storage) (w w' : World) : Prop where
  remembers {p : StoragePath} {m : Members} (h : s.cached? p w' = some m) : s.cached? p w = some m
  tree {t : Tree} (h : s.Holds w t) (hT : t.WellFormed) : ∃ t', s.Holds w' t' ∧ t'.WellFormed ∧
    ∀ p m n, s.cached? p w' = some m → ¬p.IsDraft → t.get? p = some n → t'.get? p = some n

namespace Tree

variable {t t' : Tree} {p q : StoragePath}

theorem removeFolder_eq_ok (h : t.get? p = some .folder) : ∃ t', t.removeFolder p = .ok t' := by
  rw [removeFolder, requireFolder_eq_ok_iff.mpr h]
  dsimp only
  split
  · exact ⟨_, rfl⟩
  · exact ⟨_, rfl⟩

/-- Removals take nothing away that lies elsewhere. -/
theorem get?_of_removeFolder (h : t.removeFolder p = .ok t') (hApart : q.startsWith p = false) :
    t'.get? q = t.get? q := by
  rw [removeFolder] at h
  split at h
  · cases h
  · split at h
    · rename_i hRoot
      rw [StoragePath.isRoot_iff.mp hRoot] at hApart
      cases hApart
    · obtain rfl := Except.ok.inj h
      rw [get?_outside, if_neg (Bool.eq_false_iff.mp hApart)]

theorem get?_of_removeFile (h : t.removeFile p = .ok t') (hApart : q.startsWith p = false) :
    t'.get? q = t.get? q := by
  rw [removeFile] at h
  split at h
  · obtain rfl := Except.ok.inj h
    rw [get?_erase, if_neg]
    rintro rfl
    rw [StoragePath.startsWith_self] at hApart
    cases hApart
  · cases h
  · cases h

end Tree

namespace Storage

open Cabinet.Action

variable {s : Storage} {w₀ w w' w'' : World} {p q : StoragePath}

namespace Heeds

theorem refl (s : Storage) (w : World) : s.Heeds w w where
  remembers h := h
  tree h hT := ⟨_, h, hT, fun _ _ _ _ _ hFound => hFound⟩

theorem trans (h : s.Heeds w w') (h' : s.Heeds w' w'') : s.Heeds w w'' where
  remembers hKnown := h.remembers (h'.remembers hKnown)
  tree hHolds hT := by
    obtain ⟨t', hHolds', hFormed', hKept⟩ := h.tree hHolds hT
    obtain ⟨t'', hHolds'', hFormed'', hKept'⟩ := h'.tree hHolds' hFormed'
    refine ⟨t'', hHolds'', hFormed'', fun p m n hKnown hNoDraft hFound => ?_⟩
    exact hKept' p m n hKnown hNoDraft (hKept p m n (h'.remembers hKnown) hNoDraft hFound)

/-- What is forgotten on top does no harm. -/
theorem invalidate (h : s.Heeds w w') (p : StoragePath) : s.Heeds w (s.invalidate p w') where
  remembers hKnown := h.remembers (cached?_of_invalidate hKnown)
  tree hHolds hT := by
    obtain ⟨t', hHolds', hFormed', hKept⟩ := h.tree hHolds hT
    refine ⟨t', hHolds'.invalidate p, hFormed', fun q m n hKnown => ?_⟩
    exact hKept q m n (cached?_of_invalidate hKnown)

end Heeds

/-- An action heeds what is remembered if it does so from every world. -/
theorem keeps_heeds {ε α : Type} {a : Action ε α} (h : ∀ w, s.Heeds w (a w).2) : Keeps (s.Heeds w₀) a :=
  fun w hw => hw.trans (h w)

/-- Nothing is remembered around a path that was invalidated last. -/
theorem apart_of_cached? {m : Members} (h : s.cached? p (s.invalidate q w) = some m) :
    p.startsWith q = false ∧ q.startsWith p = false := by
  rw [cached?_invalidate] at h
  split at h
  · cases h
  · rename_i hApart
    exact Bool.or_eq_false_iff.mp (Bool.eq_false_iff.mpr hApart)

/-! ### New folders -/

theorem heeds_createFolders (s : Storage) (p : StoragePath) (w : World) :
    s.Heeds w (s.backend.createFolders p w).2 where
  remembers {q m} hKnown := by
    have hLeaves := s.leaves_cached s w
    exact Backend.keeps_createFolders hLeaves.toLeaves p w (fun _ _ h => h) q m hKnown
  tree {t} hHolds hT := by
    obtain ⟨w', hRun, hAfter⟩ := hHolds.createFolders p
    rw [hRun]
    exact ⟨_, hAfter, hT.createFolders p, fun _ _ _ _ _ hFound => Tree.get?_createFolders_of_some hFound⟩

theorem keeps_prepareParent_heeds (s : Storage) (p : StoragePath) :
    Keeps (s.Heeds w₀) (s.prepareParent p) := by
  rw [prepareParent]
  cases p.parent? with
  | none => exact Keeps.pure _
  | some parent =>
      exact (Keeps.query _).bind fun _ _ _ => (keeps_heeds (s.heeds_createFolders parent)).mapError

theorem keeps_invalidate_heeds (s : Storage) (p : StoragePath) :
    Keeps (s.Heeds w₀) (modify (s.invalidate p) : Action FileError PUnit) :=
  Keeps.modify fun _ h => h.invalidate p

end Storage

namespace Item

open Cabinet.Action

variable {i : Item} {w₀ w w' : World} {t : Tree}

theorem keeps_createFolder_heeds (i : Item) (name : String) :
    Keeps (i.storage.Heeds w₀) (i.createFolder name) := by
  refine (Keeps.query _).bind fun _ target _ => (Keeps.except _).bind fun _ _ _ =>
    Keeps.guard fun _ => (Keeps.query _).bind fun _ found _ => ?_
  cases found with
  | some m =>
      dsimp only
      split
      · exact Keeps.pure _
      · exact Keeps.throw _
  | none =>
      exact (i.storage.keeps_prepareParent_heeds target.path).bind fun _ _ _ =>
        (Storage.keeps_heeds (i.storage.heeds_createFolders target.path)).mapError.bind fun _ _ _ =>
          (i.storage.keeps_invalidate_heeds target.path).bind fun _ _ _ => Keeps.pure _

/-! ### Writes -/

/-- A write that succeeds has forgotten what was known of its item, unless it is one of the item to itself. -/
theorem cached?_of_write {j : Item} {source : Source} (hRun : i.write source w = (.ok j, w'))
    (hSource : i.isSource source = false) : i.storage.cached? i.path w' = none := by
  rw [write_eq] at hRun
  obtain ⟨_, _, -, hRun⟩ := bind_eq_ok_iff.mp hRun
  obtain ⟨_, _, -, hRun⟩ := bind_eq_ok_iff.mp hRun
  split at hRun
  · cases congrArg Prod.fst hRun
  · rw [hSource, if_neg Bool.false_ne_true] at hRun
    obtain ⟨_, _, -, hRun⟩ := bind_eq_ok_iff.mp hRun
    obtain ⟨_, _, -, hRun⟩ := bind_eq_ok_iff.mp hRun
    obtain ⟨_, _, -, hRun⟩ := bind_eq_ok_iff.mp hRun
    obtain ⟨_, _, -, hRun⟩ := bind_eq_ok_iff.mp hRun
    rw [settle] at hRun
    split at hRun
    · obtain ⟨-, rfl⟩ := Prod.mk.inj hRun
      rw [Storage.cached?_invalidate, StoragePath.startsWith_self, Bool.true_or, if_pos rfl]
    · cases congrArg Prod.fst hRun

theorem heeds_write (i : Item) (source : Source) (w : World) : i.storage.Heeds w (i.write source w).2 where
  remembers {q m} hKnown := (i.storage.leaves_cached i.storage w).write source w (fun _ _ h => h) q m hKnown
  tree {t} hHolds hT := by
    obtain ⟨r, w', t', hRun, hAfter, hFormed, hEnds⟩ := write_ends hHolds hT source
    rw [hRun]
    refine ⟨t', hAfter, hFormed, fun q m n hKnown hNoDraft hFound => ?_⟩
    have hPrepared : (i.prepared t).get? q = some n := Tree.get?_createFolders_of_some hFound
    have hNotDraft : q ≠ i.draft := fun hSame => hNoDraft ⟨i, hSame.symm⟩
    cases hEnds with
    | refused => exact hFound
    | itself => exact hFound
    | blocked => exact hFound
    | unopened => exact hPrepared
    | cut _ _ _ _ hLeft => rw [hLeft, if_neg hNotDraft, hPrepared]
    | done _ _ _ _ hLeft =>
        cases hSource : i.isSource source with
        | true =>
            obtain ⟨-, -, hItself⟩ := write_checks (congrArg Prod.fst hRun)
            obtain ⟨-, rfl⟩ := Prod.mk.inj ((hItself hSource).symm.trans hRun)
            rwa [hAfter.unique hHolds]
        | false =>
            have hNotPath : q ≠ i.path := by
              rintro rfl
              cases (cached?_of_write hRun hSource).symm.trans hKnown
            rw [hLeft, if_neg hNotPath, if_neg hNotDraft, hPrepared]

theorem keeps_create_heeds (i : Item) (name : String) (source : Source) :
    Keeps (i.storage.Heeds w₀) (i.create name source) := by
  intro w hw
  rcases create_cases i name source w with ⟨e, hRun⟩ | ⟨p, -, hRun⟩
  · rwa [hRun]
  · rw [hRun]
    exact hw.trans (heeds_write ⟨i.storage, p⟩ source w)

/-! ### Removals and moves -/

/-- In a tree whatever is there can be removed. -/
theorem removeEach_ok {s : Storage} (h : s.Holds w t) (hT : t.WellFormed) (paths : List StoragePath) :
    ∃ w' t', removeEach s.backend paths w = (.ok (), w') ∧ s.Holds w' t' ∧ t'.WellFormed := by
  induction paths generalizing w t with
  | nil => exact ⟨w, t, rfl, h, hT⟩
  | cons p rest ih =>
      have hAsk : s.backend.metadata p w = .ok (t.metadata p) := Query.mapError_eq_ok_iff.mp (h.entry p)
      rw [removeEach, bind_ok (query_eq_ok_iff.mpr ⟨hAsk, rfl⟩), Tree.metadata]
      cases hFound : t.get? p with
      | none => exact ih h hT
      | some n =>
          cases n with
          | file contents =>
              obtain ⟨w', hRun, hAfter⟩ := h.removeFile p
              rw [Tree.removeFile_eq hFound] at hRun hAfter
              have hRemoved := Tree.thins_removeFile (Tree.removeFile_eq hFound)
              obtain ⟨w'', t'', hRest, hLeft⟩ := ih hAfter (hRemoved.wellFormed hT)
              exact ⟨w'', t'', (bind_ok hRun).trans hRest, hLeft⟩
          | folder =>
              obtain ⟨t', hRemove⟩ := Tree.removeFolder_eq_ok hFound
              obtain ⟨w', hRun, hAfter⟩ :=
                h.onTree (Tree.removeFolder · p) (Backend.removeFolder · p) fun _ => rfl
              rw [hRemove] at hRun hAfter
              obtain ⟨w'', t'', hRest, hLeft⟩ := ih hAfter ((Tree.thins_removeFolder hRemove).wellFormed hT)
              exact ⟨w'', t'', (bind_ok hRun).trans hRest, hLeft⟩

/-- An entry is removed with all that is below it, or the tree stays as it is. -/
theorem removeEntry_cases (h : i.storage.Holds w t) (hT : t.WellFormed) (m : EntryMeta) :
    (∃ e w', i.removeEntry m w = (.error e, w') ∧ i.storage.Holds w' t) ∨
      ∃ w' t', i.removeEntry m w = (.ok (), w') ∧ i.storage.Holds w' t' ∧ t'.WellFormed ∧
        ∀ q, q.startsWith i.path = false → t'.get? q = t.get? q := by
  rw [removeEntry]
  split_ifs with hRoot
  · cases hNames : t.list i.path with
    | error e => exact Or.inl ⟨e, w, bind_error (congrArg (·, w) (h.list.trans hNames)), h⟩
    | ok names =>
        obtain ⟨w', t', hRun, hAfter, hFormed⟩ := removeEach_ok h hT (names.map i.path.child)
        have hAsk := query_eq_ok_iff.mpr ⟨h.list.trans hNames, rfl⟩
        refine Or.inr ⟨w', t', (bind_ok hAsk).trans hRun, hAfter, hFormed, fun q hApart => ?_⟩
        rw [StoragePath.isRoot_iff.mp hRoot] at hApart
        cases hApart
  · obtain ⟨w', hRun, hAfter⟩ := h.onTree (Tree.removeFolder · i.path) (Backend.removeFolder · i.path) fun _ => rfl
    cases hRemove : t.removeFolder i.path with
    | error e =>
        rw [hRemove] at hRun hAfter
        exact Or.inl ⟨e, w', hRun, hAfter⟩
    | ok t' =>
        rw [hRemove] at hRun hAfter
        exact Or.inr ⟨w', t', hRun, hAfter, (Tree.thins_removeFolder hRemove).wellFormed hT, fun _ =>
          Tree.get?_of_removeFolder hRemove⟩
  · obtain ⟨w', hRun, hAfter⟩ := h.removeFile i.path
    cases hRemove : t.removeFile i.path with
    | error e =>
        rw [hRemove] at hRun hAfter
        exact Or.inl ⟨e, w', hRun, hAfter⟩
    | ok t' =>
        rw [hRemove] at hRun hAfter
        exact Or.inr ⟨w', t', hRun, hAfter, (Tree.thins_removeFile hRemove).wellFormed hT, fun _ =>
          Tree.get?_of_removeFile hRemove⟩

/-- A removal is followed by forgetting what was known there. -/
theorem heeds_removal (i : Item) (m : EntryMeta) (w : World) : i.storage.Heeds w
    (((i.removeEntry m).mapError (.io i.path) >>= fun _ => modify (i.storage.invalidate i.path) :
      Action FileError Unit) w).2 where
  remembers {p k} hKnown := by
    have hLeaves := i.storage.leaves_cached i.storage w
    exact (hLeaves.removeEntry m).mapError.bind (fun _ _ _ => hLeaves.keeps_invalidate i.path) w
      (fun _ _ h => h) p k hKnown
  tree {t} hHolds hT := by
    rcases removeEntry_cases hHolds hT m with ⟨e, w', hRun, hSame⟩ | ⟨w', t', hRun, hAfter, hFormed, hAside⟩
    · rw [bind_error (mapError_error _ hRun)]
      exact ⟨t, hSame, hT, fun _ _ _ _ _ hFound => hFound⟩
    · rw [bind_ok (mapError_ok _ hRun)]
      refine ⟨t', hAfter.invalidate i.path, hFormed, fun q m n hKnown _ hFound => ?_⟩
      have hApart := Storage.apart_of_cached? hKnown
      rw [hAside q hApart.1, hFound]

theorem keeps_delete_heeds (i : Item) : Keeps (i.storage.Heeds w₀) i.delete :=
  (Keeps.except _).bind fun _ _ _ => (Keeps.query _).bind fun _ m _ =>
    Storage.keeps_heeds (heeds_removal i m)

/-- A move is followed by forgetting what was known at both of its ends. -/
theorem heeds_move (i target : Item) (w : World) : i.storage.Heeds w
    (((i.storage.backend.rename i.path target.path).mapError (.io i.path) >>= fun _ =>
      (modify fun w => i.storage.invalidate target.path (i.storage.invalidate i.path w)) >>= fun _ =>
        pure target : Action FileError Item) w).2 where
  remembers {p m} hKnown := by
    have hLeaves := i.storage.leaves_cached i.storage w
    have hForget := hLeaves.keeps_invalidate_both i.path target.path
    exact (Backend.keeps_rename hLeaves.toLeaves i.path target.path).mapError.bind
      (fun _ _ _ => hForget.bind fun _ _ _ => Keeps.pure target) w (fun _ _ h => h) p m hKnown
  tree {t} hHolds hT := by
    obtain ⟨w', hRun, hAfter⟩ := hHolds.rename i.path target.path
    cases hRename : t.rename i.path target.path with
    | error e =>
        rw [hRename] at hRun hAfter
        rw [bind_error (mapError_error _ hRun)]
        exact ⟨t, hAfter, hT, fun _ _ _ _ _ hFound => hFound⟩
    | ok t' =>
        rw [hRename] at hRun hAfter
        rw [bind_ok (mapError_ok _ hRun)]
        refine ⟨t', (hAfter.invalidate i.path).invalidate target.path, hT.rename hRename,
          fun q m n hKnown _ hFound => ?_⟩
        have hTarget := (Storage.apart_of_cached? hKnown).1
        have hSource := (Storage.apart_of_cached? (Storage.cached?_of_invalidate hKnown)).1
        obtain ⟨-, -, -, -, rfl⟩ := Tree.rename_eq_ok hRename
        rw [Tree.get?, Entries.get?_move_of_not_startsWith hTarget, if_neg (Bool.eq_false_iff.mp hSource)]
        exact hFound

theorem keeps_rename_heeds (i : Item) (name : String) : Keeps (i.storage.Heeds w₀) (i.rename name) := by
  refine (Keeps.except _).bind fun _ _ _ => (Keeps.query _).bind fun _ _ _ =>
    (Keeps.except _).bind fun _ target _ => ?_
  split
  · exact Keeps.pure _
  · exact Keeps.guard fun _ => (Keeps.query _).bind fun _ _ _ => Keeps.guard fun _ =>
      (i.storage.keeps_prepareParent_heeds target.path).bind fun _ _ _ =>
        Storage.keeps_heeds (heeds_move i target)

/-- A copy heeds what is remembered by the storage that it goes to. -/
theorem keeps_copyDown_heeds (levels : Nat) (i folder : Item) :
    Keeps (folder.storage.Heeds w₀) (copyDown levels i folder) := by
  induction levels generalizing i folder with
  | zero => exact Keeps.throw _
  | succ levels ih =>
      refine (Keeps.query _).bind fun _ m _ => ?_
      split
      · exact folder.keeps_create_heeds i.name (.item i)
      · refine Keeps.guard fun _ => (Keeps.query _).bind fun _ children _ =>
          (folder.keeps_createFolder_heeds i.name).bind fun w copy hCopy => ?_
        have hSame : copy.storage = folder.storage := storage_of_createFolder hCopy
        exact (Keeps.forM fun child _ => (hSame ▸ ih child copy).discard).bind fun _ _ _ => Keeps.pure _

end Item

/-- Whatever is requested of a storage, it heeds what it remembers. -/
theorem Request.heeds_perform (r : Request) (w : World) : r.storage.Heeds w (r.perform w).2 := by
  have hSame : r.storage.Heeds w w := .refl _ w
  cases r with
  | write i source => exact (Storage.keeps_heeds (Item.heeds_write i source)).discard w hSame
  | create folder name source => exact (folder.keeps_create_heeds name source).discard w hSame
  | createFolder folder name => exact (folder.keeps_createFolder_heeds name).discard w hSame
  | delete i => exact i.keeps_delete_heeds w hSame
  | rename i name => exact (i.keeps_rename_heeds name).discard w hSame
  | copyTo i folder =>
      exact (Action.Keeps.get.bind fun _ _ _ => Item.keeps_copyDown_heeds _ i folder).discard w hSame

end Cabinet
