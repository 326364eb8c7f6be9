import Cabinet.Proofs.Storage.Frame
import Cabinet.Proofs.Storage.Requests

/-! Writes are all or nothing. In a storage that shows no hidden entries no file is in the way of a
draft, so that a write either puts all contents at its path and touches no other file, or leaves every
file as it was. Which of the two it is depends on the contents, and not on how they are delivered. -/

namespace Cabinet

variable {i : Item} {source : Source} {w : World} {t t' : Tree} {result : Except IoError Bytes}
  {contents : Bytes}

/-- Contents come whole, and may take the place of an item in a tree. -/
structure Item.Accepts (i : Item) (t : Tree) (result : Except IoError Bytes) (contents : Bytes) :
    Prop where
  shown : i.path.isHidden = false
  notRoot : i.path ≠ .root
  notFolder : t.get? i.path ≠ some .folder
  clear : ∀ q ∈ i.path.ancestors, t.file? q = none
  complete : result = .ok contents
  fits : ∀ limit, i.storage.options.sizeLimit = some limit → contents.length ≤ limit

/-- The two ways that a write settles: with everything in place, or with every file as it was. -/
inductive Item.Settles (i : Item) (t : Tree) (result : Except IoError Bytes) :
    Except FileError Item → Tree → Prop where
  | written {t' : Tree} {contents : Bytes} (hAccepts : i.Accepts t result contents)
      (hFile : t'.file? i.path = some contents)
      (hAbove : ∀ q ∈ i.path.ancestors, t'.get? q = some .folder)
      (hOthers : ∀ q, q ≠ i.path → t'.file? q = t.file? q) : Settles i t result (.ok i) t'
  | untouched {t' : Tree} (e : FileError) (hRefused : ∀ contents, ¬i.Accepts t result contents)
      (hFiles : ∀ q, t'.file? q = t.file? q) : Settles i t result (.error e) t'

namespace Source.Yields

variable {p : StoragePath} {reads : List Delivery}

theorem received_eq (h : source.Yields result) (hBrings : source.Brings p w reads) :
    received reads = result := by
  obtain ⟨stream, w₁, w₂, -, -, hOpen, rfl⟩ := hBrings
  obtain ⟨found, hFound, hReceived⟩ := h.exists_openFor p w₁
  obtain rfl := Except.ok.inj (hOpen.symm.trans hFound)
  exact hReceived w₂

end Source.Yields

/-- What a clean tree has room for, a storage that is open and writable admits. -/
theorem Item.Accepts.admits (h : i.Accepts t result contents) (hOpen : i.storage.isOpen w = true)
    (hWritable : i.storage.options.readOnly = false) (hSource : source.Yields result) :
    i.Admits source w t where
  isOpen := hOpen
  writable := hWritable
  shown := by rw [Storage.hides, h.shown, Bool.and_false]
  notRoot := Bool.eq_false_iff.mpr fun hRoot => h.notRoot (StoragePath.isRoot_iff.mp hRoot)
  notFolder := h.notFolder
  fits hSize := by
    have hYields := h.complete ▸ hSource
    rw [hYields.size_eq hSize]
    exact exceeds_eq_false_iff.mpr h.fits

theorem Item.WriteEnds.settles {r : Except FileError Item} (h : i.WriteEnds source w t r t')
    (hShown : i.storage.options.showHidden = false) (hOpen : i.storage.isOpen w = true)
    (hWritable : i.storage.options.readOnly = false) (hSource : source.Yields result)
    (hClean : t.Clean i.storage.options.sizeLimit) : i.Settles t result r t' := by
  -- A draft is hidden, and so there is nothing at its path in a clean tree.
  have hNoDraft : t.get? i.draft = none := by
    cases hFound : t.get? i.draft with
    | none => rfl
    | some n => cases (hClean.shown hFound).symm.trans i.draft_isHidden
  have hFree : (i.prepared t).get? i.draft = none := by
    rw [get?_prepared draft_isRoot draft_folder, hNoDraft]
  have hOthers : ∀ q, q ≠ i.path → t'.file? q = t.file? q := by
    intro q hq
    rcases h.spares q hq with hSame | ⟨rfl, hGone⟩
    · exact hSame
    · rw [hGone, Tree.file?_of_get?_ne_file (Or.inl hNoDraft)]
  cases h with
  | refused e hNot =>
      exact .untouched e (fun _ hAccepts => hNot (hAccepts.admits hOpen hWritable hSource)) fun _ => rfl
  | itself hItself => cases hSource <;> cases hItself
  | blocked e hFile =>
      obtain ⟨q, hq, hFile⟩ := hFile
      exact .untouched e (fun _ hAccepts => hFile (hAccepts.clear q hq)) fun _ => rfl
  | unopened e hAdmits hCause =>
      rcases hCause with ⟨w', e', hError⟩ | hTaken
      · obtain ⟨stream, hFound, -⟩ := hSource.exists_openFor i.path w'
        cases hError.symm.trans hFound
      · cases hFree.symm.trans hTaken
  | cut e hAdmits hBrings hNever hLeft =>
      refine .untouched e (fun contents hAccepts => ?_) fun q => ?_
      · refine hNever contents ⟨(hSource.received_eq hBrings).trans hAccepts.complete, ?_⟩
        rw [Nat.zero_add]
        exact exceeds_eq_false_iff.mpr hAccepts.fits
      · by_cases hq : q = i.path
        · have hFound := hLeft q
          rw [if_neg (hq ▸ draft_ne_path.symm)] at hFound
          exact (Tree.file?_congr hFound).trans file?_prepared
        · exact hOthers q hq
  | done hAdmits hClear hBrings hArrives hLeft =>
      obtain ⟨hComplete, hFits⟩ := hArrives
      rw [Nat.zero_add] at hFits
      have hPath := Storage.isHidden_of_shown hShown hAdmits.shown
      refine .written ⟨hPath, StoragePath.ne_root hAdmits.notRoot, hAdmits.notFolder, hClear,
        (hSource.received_eq hBrings).symm.trans hComplete, exceeds_eq_false_iff.mp hFits⟩
        ?_ (fun q hq => ?_) hOthers
      · exact Tree.file?_eq_some_iff.mpr (by rw [hLeft, if_pos rfl])
      · obtain ⟨hBelow, hNotPath⟩ := StoragePath.mem_ancestors_iff.mp hq
        have hNotDraft : q ≠ i.draft := fun hSame => by
          cases hPath.symm.trans
            (StoragePath.isHidden_of_startsWith hBelow (hSame ▸ i.draft_isHidden))
        rw [hLeft, if_neg hNotPath, if_neg hNotDraft,
          get?_prepared_above hAdmits.notRoot hClear hq]

namespace Item.Settles

variable {t'' : Tree} {r r' : Except FileError Item}

theorem ok_iff (h : i.Settles t result r t') :
    (∃ j, r = .ok j) ↔ ∃ contents, i.Accepts t result contents := by
  cases h with
  | written hAccepts => exact ⟨fun _ => ⟨_, hAccepts⟩, fun _ => ⟨i, rfl⟩⟩
  | untouched e hRefused =>
      exact ⟨fun ⟨_, hOk⟩ => (nomatch hOk), fun ⟨_, hAccepts⟩ => (hRefused _ hAccepts).elim⟩

/-- How contents are delivered decides nothing. -/
theorem file?_eq (h : i.Settles t result r t') (h' : i.Settles t result r' t'') (q : StoragePath) :
    t'.file? q = t''.file? q := by
  cases h with
  | written hAccepts hFile _ hOthers =>
      cases h' with
      | written hAccepts' hFile' _ hOthers' =>
          by_cases hq : q = i.path
          · obtain rfl := Except.ok.inj (hAccepts.complete.symm.trans hAccepts'.complete)
            rw [hq, hFile, hFile']
          · rw [hOthers q hq, hOthers' q hq]
      | untouched _ hRefused => exact (hRefused _ hAccepts).elim
  | untouched _ hRefused hFiles =>
      cases h' with
      | written hAccepts' => exact (hRefused _ hAccepts').elim
      | untouched _ _ hFiles' => rw [hFiles, hFiles']

end Item.Settles

theorem Storage.Reached.write_settles (h : i.storage.Reached w)
    (hShown : i.storage.options.showHidden = false) (hOpen : i.storage.isOpen w = true)
    (hWritable : i.storage.options.readOnly = false) (hSource : source.Yields result) :
    ∃ t t', i.storage.Holds w t ∧ i.storage.Holds (i.write source w).2 t' ∧
      i.Settles t result (i.write source w).1 t' := by
  obtain ⟨t, hHolds, hClean⟩ := h.tidy hShown
  obtain ⟨r, w', t', hRun, hAfter, -, hEnds⟩ := i.write_ends hHolds hClean.toWellFormed source
  rw [hRun]
  exact ⟨t, t', hHolds, hAfter, hEnds.settles hShown hOpen hWritable hSource hClean⟩

/-- In a state that comes about of a storage, a write of bytes or a feed succeeds exactly if the
contents come whole and may be there. Then they are all at the path, with folders above and every other
file as it was; otherwise every file is as it was. It makes no difference how the bytes come. -/
theorem Item.write_all_or_nothing (h : i.storage.Reached w)
    (hShown : i.storage.options.showHidden = false) (hOpen : i.storage.isOpen w = true)
    (hWritable : i.storage.options.readOnly = false) (hSource : source.Yields result) :
    ∃ t t', i.storage.Holds w t ∧ i.storage.Holds (i.write source w).2 t' ∧
      ((∃ j, (i.write source w).1 = .ok j) ↔ ∃ contents, i.Accepts t result contents) ∧
      (∀ j, (i.write source w).1 = .ok j → ∃ contents, result = .ok contents ∧
        t'.file? i.path = some contents ∧ (∀ q ∈ i.path.ancestors, t'.get? q = some .folder) ∧
        ∀ q, q ≠ i.path → t'.file? q = t.file? q) ∧
      (∀ e, (i.write source w).1 = .error e → ∀ q, t'.file? q = t.file? q) ∧
      ∀ contents, result = .ok contents →
        ∃ whole, i.storage.Holds (i.write (.bytes contents) w).2 whole ∧
          ((∃ j, (i.write (.bytes contents) w).1 = .ok j) ↔ ∃ j, (i.write source w).1 = .ok j) ∧
          ∀ q, whole.file? q = t'.file? q := by
  obtain ⟨t, t', hHolds, hAfter, hSettles⟩ := h.write_settles hShown hOpen hWritable hSource
  refine ⟨t, t', hHolds, hAfter, ?_, fun j hOk => ?_, fun e hError => ?_, fun contents hWhole => ?_⟩
  · exact hSettles.ok_iff
  · rw [hOk] at hSettles
    cases hSettles with
    | written hAccepts hFile hAbove hOthers => exact ⟨_, hAccepts.complete, hFile, hAbove, hOthers⟩
  · rw [hError] at hSettles
    cases hSettles with
    | untouched _ _ hFiles => exact hFiles
  · subst hWhole
    obtain ⟨_, whole, hSame, hWritten, hSettles'⟩ :=
      h.write_settles hShown hOpen hWritable (.bytes contents)
    obtain rfl := hSame.unique hHolds
    exact ⟨whole, hWritten, hSettles'.ok_iff.trans hSettles.ok_iff.symm, hSettles'.file?_eq hSettles⟩

/-- Three bytes that come in two pieces with an interruption between them, into a folder that is made
for them. -/
theorem Item.write_all_or_nothing_chunked :
    let s : Storage := ⟨0, "main", ⟨.memory 0, .plain⟩, ⟨some 3, false, false⟩, .byName, .basic⟩
    let w := (World.empty.addTree.2.addStorage (fun _ => s) false).2
    let i : Item := ⟨s, ⟨["d", "f"]⟩⟩
    let source : Source := .feed [.bytes [1], .interrupted, .bytes [2, 3]]
    s.Reached w ∧ s.options.showHidden = false ∧ s.isOpen w = true ∧ s.options.readOnly = false ∧
      source.Yields (.ok [1, 2, 3]) ∧
      ∃ t' whole, s.Holds (i.write source w).2 t' ∧ t'.file? i.path = some [1, 2, 3] ∧
        s.Holds (i.write (.bytes [1, 2, 3]) w).2 whole ∧ ∀ q, whole.file? q = t'.file? q := by
  intro s w i source
  have hReached : s.Reached w := .fresh rfl rfl
  have hYields : source.Yields (.ok [1, 2, 3]) := .feed _
  obtain ⟨t, t', hHolds, hAfter, hIff, hOk, -, hWhole⟩ :=
    i.write_all_or_nothing hReached rfl rfl rfl hYields
  have hEmpty : t = .empty := hHolds.unique ⟨0, rfl, rfl⟩
  subst hEmpty
  obtain ⟨j, hj⟩ := hIff.mpr ⟨[1, 2, 3], by decide, by decide, by decide, by decide, rfl, by decide⟩
  obtain ⟨contents, hContents, hFile, -⟩ := hOk j hj
  obtain rfl := Except.ok.inj hContents
  obtain ⟨whole, hWritten, -, hFiles⟩ := hWhole _ rfl
  exact ⟨hReached, rfl, rfl, rfl, hYields, t', whole, hAfter, hFile, hWritten, hFiles⟩

end Cabinet
