import Cabinet.Proofs.Storage.Copying
import Cabinet.Proofs.Storage.Naming

/-! What a copy leaves. While it runs, the source still has below its path what it had, and the target
is overlaid entry by entry: what has been copied is there as it was in the source, and nothing else is
lost or comes about but folders. That holds between two trees, and within one as long as no file lands
in the part that is copied, unless on itself. -/

namespace Cabinet

variable {A B : Storage} {s c p q : StoragePath} {rest : List String} {t t' tA tB : Tree} {n m : Node}
  {w w' : World} {done : StoragePath → Prop}

namespace Tree

theorem wellFormed_of_entries (hOrdered : t.entries.Pairwise fun e f => e.1.before f.1 = true)
    (h : ∀ e ∈ t.entries, e.1.isRoot = false → t.get? e.1.folder = some .folder) : t.WellFormed :=
  ⟨hOrdered, fun hFound => h _ (Entries.mem_of_get? hFound)⟩

theorem WellFormed.shown_of_entries (hT : t.WellFormed) (h : ∀ e ∈ t.entries, e.1.isHidden = false) :
    t.Shown :=
  ⟨hT, fun hFound => h _ (Entries.mem_of_get? hFound)⟩

namespace Gains

/-- What is elsewhere in a tree without hidden entries stays. -/
theorem get?_eq_some (h : t.Gains p n t') (hT : t.Shown) (hq : q ≠ p) (hFound : t.get? q = some m) :
    t'.get? q = some m := by
  rcases h.elsewhere q hq with hKept | ⟨-, hNone, -⟩ | ⟨hHidden, -, -⟩
  · exact hKept.trans hFound
  · cases hNone.symm.trans hFound
  · cases (hT.shown hFound).symm.trans hHidden

theorem file?_eq_some {contents : Bytes} (h : t.Gains p n t') (hq : q ≠ p)
    (hFile : t'.get? q = some (.file contents)) : t.get? q = some (.file contents) := by
  rcases h.elsewhere q hq with hKept | ⟨-, -, hMade⟩ | ⟨-, -, hGone⟩
  · exact hKept.symm.trans hFile
  · cases hMade.symm.trans hFile
  · cases hGone.symm.trans hFile

/-- All that is new is on the way to the path. -/
theorem startsWith_of_get? (h : t.Gains p n t') (hFound : t'.get? q = some m) :
    t.get? q = some m ∨ p.startsWith q = true := by
  by_cases hq : q = p
  · exact Or.inr (hq ▸ StoragePath.startsWith_self)
  · rcases h.elsewhere q hq with hKept | ⟨hBelow, -, -⟩ | ⟨-, -, hGone⟩
    · exact Or.inl (hKept.symm.trans hFound)
    · exact Or.inr hBelow
    · cases hGone.symm.trans hFound

theorem shown (h : t.Gains p n t') (hT : t.Shown) (hp : p.isHidden = false) : t'.Shown where
  toWellFormed := h.wellFormed
  shown {q m} hFound := by
    rcases h.startsWith_of_get? hFound with hBefore | hBelow
    · exact hT.shown hBefore
    · refine Bool.eq_false_iff.mpr fun hHidden => ?_
      cases hp.symm.trans (StoragePath.isHidden_of_startsWith hBelow hHidden)

theorem named (h : t.Gains p n t') (hT : t.Named) (hp : p.Plain) : t'.Named := fun q m hFound =>
  (h.startsWith_of_get? hFound).elim (hT q m) hp.of_startsWith

end Gains

/-- At and below a path a tree has all entries of another one, and no other files. -/
structure Guards (s : StoragePath) (tA t : Tree) : Prop where
  wellFormed : t.WellFormed
  named : t.Named
  kept {q : StoragePath} {n : Node} (hq : q.startsWith s = true) (h : tA.get? q = some n) :
    t.get? q = some n
  files {q : StoragePath} {contents : Bytes} (hq : q.startsWith s = true)
    (h : t.get? q = some (.file contents)) : tA.get? q = some (.file contents)

/-- The entries of a tree at and below a path, as far as a storage shows them and they are done, lie at
another path over what was there. -/
structure Overlays (A : Storage) (s c : StoragePath) (tA tB : Tree) (done : StoragePath → Prop)
    (t : Tree) : Prop extends t.Shown where
  copied {rest : List String} {n : Node} (hDone : done (s.down rest))
    (hShown : A.hides (s.down rest) = false) (h : tA.get? (s.down rest) = some n) :
    t.get? (c.down rest) = some n
  kept {q : StoragePath} {n : Node} (h : tB.get? q = some n) : t.get? q = some n ∨
    ∃ rest contents, c.down rest = q ∧ A.hides (s.down rest) = false ∧
      tA.get? (s.down rest) = some (.file contents)
  files {q : StoragePath} {contents : Bytes} (h : t.get? q = some (.file contents)) :
    tB.get? q = some (.file contents) ∨ ∃ rest, c.down rest = q ∧ A.hides (s.down rest) = false ∧
      tA.get? (s.down rest) = some (.file contents)

theorem Overlays.weaken {todo : StoragePath → Prop} (h : Overlays A s c tA tB done t)
    (hDone : ∀ q n, todo q → A.hides q = false → tA.get? q = some n → done q) :
    Overlays A s c tA tB todo t where
  toShown := h.toShown
  copied hTodo hShown hFound := h.copied (hDone _ _ hTodo hShown hFound) hShown hFound
  kept := h.kept
  files := h.files

/-- One more entry is done when it is gained at its new place. -/
theorem Overlays.gain (h : Overlays A s c tA tB done t) (hGains : t.Gains (c.down rest) n t')
    (hHere : (c.down rest).isHidden = false) (hShown : A.hides (s.down rest) = false)
    (hSame : ∀ m, tA.get? (s.down rest) = some m → m = n)
    (hFile : ∀ contents, n = .file contents → tA.get? (s.down rest) = some n) :
    Overlays A s c tA tB (fun q => done q ∨ q = s.down rest) t' where
  toShown := hGains.shown h.toShown hHere
  copied {tail m} hDone hTailShown hFound := by
    by_cases hTail : tail = rest
    · subst hTail
      rw [hGains.here, hSame m hFound]
    · have hPlace : c.down tail ≠ c.down rest := fun hSame => hTail (StoragePath.down_inj.mp hSame)
      have hBefore := hDone.resolve_right fun hSame => hTail (StoragePath.down_inj.mp hSame)
      exact hGains.get?_eq_some h.toShown hPlace (h.copied hBefore hTailShown hFound)
  kept {q m} hFound := by
    rcases h.kept hFound with hKept | hReplaced
    · by_cases hq : q = c.down rest
      · subst hq
        cases n with
        | folder => exact Or.inl (by rw [hGains.here, (hGains.kind hKept).mpr rfl])
        | file contents => exact Or.inr ⟨rest, contents, rfl, hShown, hFile contents rfl⟩
      · exact Or.inl (hGains.get?_eq_some h.toShown hq hKept)
    · exact Or.inr hReplaced
  files {q contents} hFound := by
    by_cases hq : q = c.down rest
    · subst hq
      obtain rfl := Option.some.inj (hGains.here.symm.trans hFound)
      exact Or.inr ⟨rest, rfl, hShown, hFile contents rfl⟩
    · exact h.files (hGains.file?_eq_some hq hFound)

/-- A file that lands below the path lands on itself, and a folder loses nothing. -/
theorem Guards.gain (h : Guards s tA t) (hT : t.Shown) (hGains : t.Gains p n t') (hp : p.Plain)
    (hFile : ∀ contents, n = .file contents → p.startsWith s = true → tA.get? p = some n) :
    Guards s tA t' where
  wellFormed := hGains.wellFormed
  named := hGains.named h.named hp
  kept {q m} hq hFound := by
    have hBefore := h.kept hq hFound
    by_cases hPlace : q = p
    · subst hPlace
      cases n with
      | folder => rw [hGains.here, (hGains.kind hBefore).mpr rfl]
      | file contents => rw [hGains.here, ← hFile contents rfl hq, hFound]
    · exact hGains.get?_eq_some hT hPlace hBefore
  files {q contents} hq hFound := by
    by_cases hPlace : q = p
    · subst hPlace
      obtain rfl := Option.some.inj (hGains.here.symm.trans hFound)
      exact hFile contents rfl hq
    · exact h.files hq (hGains.file?_eq_some hPlace hFound)

end Tree

/-! ### The run of a copy -/

theorem Tree.WellFormed.exists_above (hT : t.WellFormed) (h : t.get? p = some n)
    (hBelow : p.startsWith q = true) : ∃ m, t.get? q = some m := by
  by_cases hq : p = q
  · exact ⟨n, hq ▸ h⟩
  · exact ⟨.folder, hT.above h hBelow hq⟩

theorem Storage.hides_of_startsWith (hBelow : p.startsWith q = true) (h : A.hides p = false) :
    A.hides q = false := by
  rw [hides, Bool.and_eq_false_iff] at h ⊢
  refine h.imp_right fun hShown => Bool.eq_false_iff.mpr fun hHidden => ?_
  cases hShown.symm.trans (StoragePath.isHidden_of_startsWith hBelow hHidden)

/-- No file of a storage's tree at and below a path lands there in another place when it is copied to
another storage, and hidden entries are no concern. -/
structure Storage.CopiesApart (A B : Storage) (s c : StoragePath) (tA : Tree) : Prop where
  one (h : A.same B = true) : A.backend = B.backend
  showsNoHidden : B.options.showHidden = false
  wellFormed : tA.WellFormed
  plain (h : A.backend = B.backend) : c.Plain
  apart {rest : List String} {contents : Bytes} (h : A.backend = B.backend)
    (hFile : tA.get? (s.down rest) = some (.file contents)) (hInto : (c.down rest).startsWith s = true) :
    c.down rest = s.down rest

/-- The state of a copy in which some of the entries are done. -/
structure World.Copying (A B : Storage) (s c : StoragePath) (tA tB : Tree) (done : StoragePath → Prop)
    (w : World) : Prop where
  source : ∃ t, A.Holds w t ∧ Tree.Guards s tA t ∧ (A.backend ≠ B.backend → t = tA)
  target : ∃ t, B.Holds w t ∧ Tree.Overlays A s c tA tB done t

namespace World.Copying

theorem weaken {todo : StoragePath → Prop} (h : Copying A B s c tA tB done w)
    (hDone : ∀ q n, todo q → A.hides q = false → tA.get? q = some n → done q) :
    Copying A B s c tA tB todo w := by
  obtain ⟨t, hHolds, hOverlays⟩ := h.target
  exact ⟨h.source, t, hHolds, hOverlays.weaken hDone⟩

theorem gain (h : Copying A B s c tA tB done w) (hApart : A.CopiesApart B s c tA) (hB : B.Holds w t)
    (hAfter : B.Holds w' t') (hElsewhere : w.SameBut B.backend.place w')
    (hGains : t.Gains (c.down rest) n t') (hHere : B.hides (c.down rest) = false)
    (hShown : A.hides (s.down rest) = false) (hPlain : (s.down rest).Plain)
    (hSame : ∀ m, tA.get? (s.down rest) = some m → m = n)
    (hFile : ∀ contents, n = .file contents → tA.get? (s.down rest) = some n) :
    Copying A B s c tA tB (fun q => done q ∨ q = s.down rest) w' := by
  obtain ⟨t₁, hTarget, hOverlays⟩ := h.target
  obtain rfl := hTarget.unique hB
  have hHereShown := Storage.isHidden_of_shown hApart.showsNoHidden hHere
  refine ⟨?_, t', hAfter, hOverlays.gain hGains hHereShown hShown hSame hFile⟩
  obtain ⟨t₂, hSource, hGuards, hOther⟩ := h.source
  by_cases hBackend : A.backend = B.backend
  · -- The source is the tree that has just changed.
    obtain rfl := hSource.unique (hB.of_backend hBackend)
    have hPlace : (c.down rest).Plain := (hApart.plain hBackend).down hPlain
    refine ⟨t', hAfter.of_backend hBackend, ?_, fun hne => absurd hBackend hne⟩
    apply hGuards.gain hOverlays.toShown hGains hPlace
    intro contents hContents hInto
    rw [hApart.apart hBackend (hContents ▸ hFile contents hContents) hInto, hFile contents hContents]
  · have hPlace : A.backend.place ≠ B.backend.place := fun hSame =>
      hBackend (hSource.backend_eq hB hSame)
    exact ⟨t₂, hElsewhere.holds hSource hPlace, hGuards, hOther⟩

end World.Copying

namespace Item

open Cabinet.Action World

/-- What a copy owes once it is done with an item: the new item, and everything at and below the old
one. -/
def Copied (A B : Storage) (s c : StoragePath) (tA tB : Tree) (done : StoragePath → Prop)
    (rest : List String) (j : Item) (w : World) : Prop :=
  j = ⟨B, c.down rest⟩ ∧
    Copying A B s c tA tB (fun q => done q ∨ q.startsWith (s.down rest) = true) w

variable {folder j copy : Item} {m : EntryMeta} {children : List Item}

theorem copied_file (hApart : A.CopiesApart folder.storage s c tA)
    (hPlace : (s.down rest).under folder.path = c.down rest) (h : Copying A folder.storage s c tA tB done w)
    (hEntry : requireEntry ⟨A, s.down rest⟩ w = .ok m) (hFile : m.isFile = true)
    (hRun : folder.create (name ⟨A, s.down rest⟩) (.item ⟨A, s.down rest⟩) w = (.ok j, w')) :
    Copied A folder.storage s c tA tB done rest j w' := by
  obtain ⟨tS, hSource, hGuards, -⟩ := h.source
  obtain ⟨t, hTarget, hOverlays⟩ := h.target
  obtain ⟨hShown, n, hFound, -⟩ := entry_of_requireEntry hSource hEntry
  have hPlain := hGuards.named _ _ hFound
  obtain ⟨contents, t', rfl, hHere, hContents, hAfter, hGains⟩ :=
    create_copy_ok hSource hTarget hOverlays.toWellFormed hApart.one hPlain hEntry hFile hRun
  have hElsewhere := keeps_create_elsewhere folder (name ⟨A, s.down rest⟩) (.item ⟨A, s.down rest⟩) w
    (.refl _ w)
  rw [hRun] at hElsewhere
  rw [hPlace] at hHere hGains
  have hOriginal := hGuards.files StoragePath.startsWith_down hContents
  have hGained := h.gain hApart hTarget hAfter hElsewhere hGains hHere hShown hPlain
    (fun m hm => Option.some.inj (hm.symm.trans hOriginal)) fun _ _ => hOriginal
  refine ⟨congrArg _ hPlace, hGained.weaken fun q m hq _ hEntry => hq.imp_right fun hBelow => ?_⟩
  -- Below a file there is nothing.
  by_contra hne
  have hNone := hApart.wellFormed.get?_below (by simp [hOriginal]) hBelow hne
  cases hNone.symm.trans hEntry

theorem copying_folder (hApart : A.CopiesApart folder.storage s c tA)
    (hPlace : (s.down rest).under folder.path = c.down rest) (h : Copying A folder.storage s c tA tB done w)
    (hEntry : requireEntry ⟨A, s.down rest⟩ w = .ok m) (hKind : m.isFile = false)
    (hMade : folder.createFolder (name ⟨A, s.down rest⟩) w = (.ok copy, w')) :
    copy = ⟨folder.storage, c.down rest⟩ ∧
      Copying A folder.storage s c tA tB (fun q => done q ∨ q = s.down rest) w' := by
  obtain ⟨tS, hSource, hGuards, -⟩ := h.source
  obtain ⟨t, hTarget, hOverlays⟩ := h.target
  obtain ⟨hShown, n, hFound, rfl⟩ := entry_of_requireEntry hSource hEntry
  obtain rfl : n = .folder := by cases n <;> [cases hKind; rfl]
  have hPlain := hGuards.named _ _ hFound
  obtain ⟨t', rfl, hHere, hAfter, hGains⟩ :=
    createFolder_copy_ok hTarget hOverlays.toWellFormed hPlain hMade
  have hElsewhere := keeps_createFolder_elsewhere folder (name ⟨A, s.down rest⟩) w (.refl _ w)
  rw [hMade] at hElsewhere
  rw [hPlace] at hHere hGains
  have hSame (m) (hm : tA.get? (s.down rest) = some m) : m = .folder :=
    Option.some.inj ((hGuards.kept StoragePath.startsWith_down hm).symm.trans hFound)
  exact ⟨congrArg _ hPlace, h.gain hApart hTarget hAfter hElsewhere hGains hHere hShown hPlain hSame nofun⟩

/-- When the children that were listed have been copied, all that is below the folder is done. -/
theorem copying_each (levels : Nat) {tS : Tree} (hTA : tA.WellFormed) (hGuards : Tree.Guards s tA tS)
    (hEach : ∀ x done w, Copying A B s c tA tB done w →
      Ends (fun _ => True) (Copied A B s c tA tB done (rest ++ [x]))
        (copyDown levels ⟨A, s.down (rest ++ [x])⟩ ⟨B, c.down rest⟩ w))
    (h : Copying A B s c tA tB (fun q => done q ∨ q = s.down rest) w) :
    Ends (fun _ => True) (fun _ => Copying A B s c tA tB fun q => done q ∨ q.startsWith (s.down rest) = true)
      (copyEach levels ⟨B, c.down rest⟩ (listed ⟨A, s.down rest⟩ tS) w) := by
  -- What is below a child whose turn is still to come is not done.
  have hLoop := Ends.forM (E := fun _ => True) (l := listed ⟨A, s.down rest⟩ tS)
    (f := fun child => discard (copyDown levels child ⟨B, c.down rest⟩))
    (P := fun remaining => Copying A B s c tA tB fun q => done q ∨
      q.startsWith (s.down rest) = true ∧ ∀ child ∈ remaining, q.startsWith child.path = false)
    (w := w) ?_ ?_
  · apply hLoop.imp
    intro _ w' hDone
    apply hDone.weaken
    intro q m hq _ _
    exact hq.imp_right fun hBelow => ⟨hBelow, fun _ hNone => nomatch hNone⟩
  · refine h.weaken fun q m hq hVisible hEntry => hq.imp_right fun ⟨hBelow, hTurn⟩ => ?_
    refine (StoragePath.eq_or_startsWith_child hBelow).resolve_right fun ⟨x, hChild⟩ => ?_
    obtain ⟨k, hk⟩ := hTA.exists_above hEntry hChild
    have hInside : ((s.down rest).child x).startsWith s = true :=
      StoragePath.startsWith_trans StoragePath.startsWith_child StoragePath.startsWith_down
    have hThere : tS.get? ((s.down rest).child x) ≠ none := by simp [hGuards.kept hInside hk]
    have hListed : (⟨A, (s.down rest).child x⟩ : Item) ∈ listed ⟨A, s.down rest⟩ tS :=
      (mem_listed_iff hGuards.wellFormed).mpr ⟨x, rfl, hThere, Storage.hides_of_startsWith hChild hVisible⟩
    cases (hTurn _ hListed).symm.trans hChild
  · intro child remaining hSuffix w' hDone
    obtain ⟨x, rfl, -, -⟩ := (mem_listed_iff hGuards.wellFormed).mp (hSuffix.subset List.mem_cons_self)
    have hRun := hEach x _ w' hDone
    rw [← StoragePath.child_down] at hRun
    apply Ends.discard
    apply hRun.imp
    intro j w' hCopied
    apply hCopied.2.weaken
    refine fun q m hq _ _ => hq.elim (fun hDone => Or.inl (Or.inl hDone)) fun ⟨hBelow, hTurn⟩ => ?_
    cases hHere : q.startsWith ((s.down rest).child x) with
    | true => exact Or.inr (StoragePath.child_down ▸ hHere)
    | false =>
        refine Or.inl (Or.inr ⟨hBelow, fun child hMem => ?_⟩)
        rcases List.mem_cons.mp hMem with rfl | hMem
        · exact hHere
        · exact hTurn child hMem

/-- A copy that succeeds has copied everything at and below the item that it is of. -/
theorem copied_copyDown (hApart : A.CopiesApart B s c tA) (levels : Nat) (folder : Item)
    (hFolder : folder.storage = B) (hPlace : (s.down rest).under folder.path = c.down rest)
    (h : Copying A B s c tA tB done w) :
    Ends (fun _ => True) (Copied A B s c tA tB done rest) (copyDown levels ⟨A, s.down rest⟩ folder w) := by
  induction levels generalizing rest folder done w with
  | zero => trivial
  | succ levels ih =>
      subst hFolder
      apply copyDown_ends fun _ _ => trivial
      · intro m j w' hEntry hFile hRun
        exact copied_file hApart hPlace h hEntry hFile hRun
      · intro m children copy w₁ hEntry hKind _ hListed hMade
        obtain ⟨rfl, hMadeHere⟩ := copying_folder hApart hPlace h hEntry hKind hMade
        obtain ⟨tS, hSource, hGuards, -⟩ := h.source
        obtain ⟨-, rfl⟩ := (list_eq_ok_iff hSource hGuards.wellFormed).mp hListed
        have hEach := copying_each levels hApart.wellFormed hGuards (fun x done w hNow => ?_) hMadeHere
        · exact hEach.imp fun _ _ hDone => ⟨rfl, hDone⟩
        · apply ih ⟨folder.storage, c.down rest⟩ rfl _ hNow
          rw [← StoragePath.child_down, StoragePath.under_child, StoragePath.child_down]

variable {i : Item}

/-- What a copy that succeeds leaves of the trees it began with. -/
theorem copyTo_copied (hA : i.storage.Holds w tA) (hB : folder.storage.Holds w tB) (hTB : tB.Shown)
    (hNamed : tA.Named)
    (hApart : i.storage.CopiesApart folder.storage i.path (i.path.under folder.path) tA)
    (hRun : i.copyTo folder w = (.ok j, w')) : j = ⟨folder.storage, i.path.under folder.path⟩ ∧
      Copying i.storage folder.storage i.path (i.path.under folder.path) tA tB
        (fun q => q.startsWith i.path = true) w' := by
  have hStart : Copying i.storage folder.storage i.path (i.path.under folder.path) tA tB (fun _ => False) w :=
    ⟨⟨tA, hA, ⟨hApart.wellFormed, hNamed, fun _ h => h, fun _ h => h⟩, fun _ => rfl⟩,
      tB, hB, hTB, nofun, fun h => Or.inl h, fun h => Or.inl h⟩
  have hPlace : (i.path.down []).under folder.path = (i.path.under folder.path).down [] := by
    rw [StoragePath.down_nil, StoragePath.down_nil]
  have hEnds := copied_copyDown hApart (i.storage.backend.levels w) folder rfl hPlace hStart
  rw [StoragePath.down_nil] at hEnds
  obtain ⟨hCopy, hDone⟩ := hEnds.of_ok hRun
  rw [StoragePath.down_nil] at hCopy hDone
  exact ⟨hCopy, hDone.weaken fun _ _ hBelow _ _ => Or.inr hBelow⟩

end Item

end Cabinet
