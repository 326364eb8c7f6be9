import Cabinet.Proofs.Storage.Delivery
import Cabinet.Proofs.Storage.Memory

/-! Writing into a storage in memory whose entries all lie in folders. Every run of a write ends in one
of a few ways, and for each of them the answer and the tree that is left are given. -/

namespace Cabinet

variable {s : Storage} {i : Item} {source : Source} {w w' : World} {t t' : Tree} {p q : StoragePath}

/-! ### The draft -/

namespace Item

theorem draft_folder : i.draft.folder = i.path.folder := StoragePath.folder_child

theorem draft_isRoot : i.draft.isRoot = false := StoragePath.isRoot_child

theorem draft_name : i.draft.name = "." ++ i.name ++ ".partial" := StoragePath.name_child

theorem draft_isHidden : i.draft.isHidden = true := by
  refine List.any_eq_true.mpr ⟨_, List.mem_append_right _ List.mem_cons_self, ?_⟩
  change ("." ++ i.name ++ ".partial").toList.head? == some '.'
  simp [String.toList_append]

/-- The draft's name is longer than that of its item. -/
theorem draft_ne_path : i.draft ≠ i.path := by
  intro hSame
  have hLength : i.draft.name.length = i.name.length := by rw [hSame, name]
  rw [draft_name, String.length_append, String.length_append] at hLength
  have hDot : ".".length = 1 := rfl
  omega

theorem depth_draft (h : i.path.isRoot = false) : i.draft.depth = i.path.depth := by
  have hPos := List.length_pos_iff.mpr (StoragePath.segments_ne_nil h)
  rw [StoragePath.depth, StoragePath.depth, draft, StoragePath.child, StoragePath.folder,
    List.length_append, List.length_dropLast, List.length_singleton]
  omega

end Item

/-! ### What is checked first -/

theorem Tree.metadata_isFolder_iff :
    (t.metadata p).any EntryMeta.isFolder = true ↔ t.get? p = some .folder := by
  rw [Tree.metadata]
  rcases t.get? p with _ | _ | _ <;> simp [Node.metadata, EntryMeta.isFolder]

/-- Nothing forbids to write from a source to an item. -/
structure Item.Admits (i : Item) (source : Source) (w : World) (t : Tree) : Prop where
  isOpen : i.storage.isOpen w = true
  writable : i.storage.options.readOnly = false
  shown : i.storage.hides i.path = false
  notRoot : i.path.isRoot = false
  notFolder : t.get? i.path ≠ some .folder
  fits {size : Nat} (h : source.size? w = some size) : exceeds size i.storage.options.sizeLimit = false

theorem Item.requireTarget_eq_ok_iff (h : i.storage.Holds w t) :
    i.requireTarget source w = .ok () ↔ i.path.isRoot = false ∧ t.get? i.path ≠ some .folder ∧
      ∀ size, source.size? w = some size → exceeds size i.storage.options.sizeLimit = false := by
  have hRead : (read : Query FileError World) w = .ok w := rfl
  simp only [requireTarget, Query.guard_eq_ok_iff, Query.bind_ok (h.entry _),
    Tree.metadata_isFolder_iff, Bool.not_eq_true, Query.bind_ok hRead]
  refine and_congr_right fun _ => and_congr_right fun _ => ?_
  cases i.storage.options.sizeLimit with
  | none => simp [exceeds, Query.pure_apply]
  | some limit =>
      cases source.size? w with
      | none => simp [Query.pure_apply]
      | some size =>
          by_cases hOver : limit < size <;>
            simp [exceeds, hOver, Query.pure_apply, Query.throw_apply, Nat.not_lt.mp]

theorem Item.file_apply (i : Item) (name : String) (w : World) :
    i.file name w = if i.storage.isOpen w then
      (i.path.resolve name).map fun p => ⟨i.storage, p⟩
    else .error (.closed i.storage.name) := by
  have hValidate : i.validate w =
      if i.storage.isOpen w then .ok () else .error (.closed i.storage.name) := rfl
  cases hOpen : i.storage.isOpen w with
  | false =>
      rw [hOpen] at hValidate
      exact Query.bind_error hValidate
  | true =>
      rw [hOpen] at hValidate
      rw [file, Query.bind_ok hValidate, if_pos rfl]
      cases hName : i.path.resolve name with
      | error e => rfl
      | ok p => rfl

/-! ### The folders above -/

/-- Going up, nothing is refused exactly if there is no file. -/
theorem Storage.requireClear_eq_ok_iff (h : s.Holds w t) (hT : t.WellFormed) {paths : List StoragePath}
    (hUp : paths.Pairwise fun a b => a.startsWith b = true) :
    s.requireClear paths w = .ok () ↔ ∀ q ∈ paths, t.file? q = none := by
  induction paths with
  | nil => simp [requireClear, Query.pure_apply]
  | cons p rest ih =>
      obtain ⟨hAbove, hUp⟩ := List.pairwise_cons.mp hUp
      rw [requireClear, Query.bind_ok (h.entry p), List.forall_mem_cons, Tree.metadata]
      cases hFound : t.get? p with
      | none =>
          rw [Tree.file?_of_get?_ne_file (Or.inl hFound), ← ih hUp]
          simp
      | some n =>
          cases n with
          | file contents =>
              simp [Tree.file?_eq_some_iff.mpr hFound, Node.metadata, EntryMeta.isFolder,
                Query.throw_apply]
          | folder =>
              -- The search stops here, since all that is above a folder are folders.
              have hFolders : ∀ q ∈ rest, t.file? q = none := by
                intro q hq
                by_cases hSame : p = q
                · exact Tree.file?_of_get?_ne_file (Or.inr (hSame ▸ hFound))
                · exact Tree.file?_of_get?_ne_file (Or.inr (hT.above hFound (hAbove q hq) hSame))
              simpa [Tree.file?_of_get?_ne_file (Or.inr hFound), Node.metadata, EntryMeta.isFolder,
                Query.pure_apply] using hFolders

/-- A file above a path ends the preparation at once; without one all of the folders are made. -/
theorem Storage.prepareParent_cases (h : s.Holds w t) (hT : t.WellFormed) (hp : p.isRoot = false) :
    (∃ e, s.prepareParent p w = (.error e, w)) ∧ (∃ q ∈ p.ancestors, t.file? q ≠ none) ∨
      (∃ w', s.prepareParent p w = (.ok (), w') ∧ w.SameFiles w' ∧
        s.Holds w' (t.createFolders p.folder).2) ∧ ∀ q ∈ p.ancestors, t.file? q = none := by
  have hClear := requireClear_eq_ok_iff h hT (StoragePath.pairwise_ancestors p)
  have hAsk : (liftM (s.requireClear p.ancestors) : Action FileError Unit) w =
      (s.requireClear p.ancestors w, w) := Action.query_apply _ w
  simp only [prepareParent, StoragePath.parent?_eq hp]
  cases hResult : s.requireClear p.ancestors w with
  | error e =>
      rw [hResult] at hAsk hClear
      refine Or.inl ⟨⟨e, Action.bind_error hAsk⟩, ?_⟩
      simpa using hClear
  | ok _ =>
      have hNoFile := hClear.mp hResult
      obtain ⟨w', hRun, hHolds⟩ := h.createFolders p.folder
      have hFiles := h.sameFiles_createFolders p.folder
      rw [hRun] at hFiles
      have hMade := (Tree.createFolders_ok (t := t) (p := p.folder) fun q hq =>
        hNoFile q ((StoragePath.mem_ancestors_iff_folder hp).mpr hq)).1
      refine Or.inr ⟨⟨w', ?_, hFiles, hHolds⟩, hNoFile⟩
      rw [hResult] at hAsk
      rw [Action.bind_ok hAsk, Action.mapError_apply, hRun, hMade]
      rfl

/-! ### Filling the draft -/

/-- Opening the draft begins an empty file, unless a folder has its name. -/
theorem Item.openWrite_draft (h : i.storage.Holds w t)
    (hFolder : t.get? i.path.folder = some .folder) :
    (∃ e, i.storage.backend.openWrite i.draft w = (.error e, w)) ∧ t.get? i.draft = some .folder ∨
      ∃ n w', i.storage.backend = ⟨.memory n, .plain⟩ ∧
        i.storage.backend.openWrite i.draft w = (.ok (treeWriter n i.draft [] false), w') ∧
        w'.disk = w.disk ∧ i.storage.Holds w' (t.put i.draft (.file [])) ∧
        t.get? i.draft ≠ some .folder := by
  obtain ⟨n, hBackend, hTree⟩ := h
  have hCheck : Rig.plain.check .openWrite = .ok () := rfl
  simp only [hBackend, Backend.openWrite, hCheck, Storage.Holds.tree_eq hTree,
    Tree.create_eq draft_isRoot (draft_folder ▸ hFolder)]
  by_cases hTaken : t.get? i.draft = some .folder
  · exact Or.inl ⟨⟨.isAFolder i.draft, by rw [if_pos hTaken]⟩, hTaken⟩
  · refine Or.inr ⟨n, w.setTree n (t.put i.draft (.file [])), rfl, ?_, rfl,
      Storage.Holds.setTree hBackend hTree _, hTaken⟩
    rw [if_neg hTaken]
    rfl

/-- Whatever a tree's writer has gathered is in its file when it is given up. -/
theorem close_treeWriter {n : Nat} {dirty : Bool} (hBackend : s.backend = ⟨.memory n, .plain⟩)
    (h : s.Holds w (t.put p (.file []))) (contents : Bytes) (hDirty : dirty = false → contents = []) :
    s.Holds ((treeWriter n p contents dirty).close w) (t.put p (.file contents)) := by
  have hTree := h.getElem?_eq hBackend
  cases dirty with
  | false =>
      -- Nothing is stored, but the file was begun empty.
      obtain rfl := hDirty rfl
      exact ⟨n, hBackend, hTree⟩
  | true =>
      have hStored : (w.tree n).put p (.file contents) = t.put p (.file contents) := by
        rw [Storage.Holds.tree_eq hTree, Tree.put_put]
      change s.Holds (w.setTree n ((w.tree n).put p (.file contents))) _
      rw [hStored]
      exact Storage.Holds.setTree hBackend hTree _

/-- Flushing stores what is stored at the end anyway. -/
theorem flush_treeWriter (n : Nat) (p : StoragePath) (contents : Bytes) (dirty : Bool) (w : World) :
    ∃ x w', (treeWriter n p contents dirty).flush w = (.ok (), x, w') ∧
      x.close w' = (treeWriter n p contents dirty).close w := by
  cases dirty <;> exact ⟨_, _, rfl, rfl⟩

/-- The draft holds what was poured into it, and that is everything exactly if all of it arrived. -/
theorem Item.fillDraft_cases {n : Nat} (hBackend : i.storage.backend = ⟨.memory n, .plain⟩)
    (h : i.storage.Holds w (t.put i.draft (.file []))) (stream : Stream) :
    ∃ r contents w', i.fillDraft stream (treeWriter n i.draft [] false) w = (r, w') ∧
      i.storage.Holds w' (t.put i.draft (.file contents)) ∧
      (r = .ok () ∧ Arrives i.storage.options.sizeLimit 0 (stream.reads w) contents ∨
        (∃ e, r = .error e) ∧
          ∀ contents, ¬Arrives i.storage.options.sizeLimit 0 (stream.reads w) contents) := by
  obtain ⟨r, contents, hPour, hResult⟩ := pour_treeWriter (stream.reads w) i.path n i.draft []
    false w (exceeds_zero i.storage.options.sizeLimit)
  rw [List.nil_append, Bool.false_or] at hPour
  have hHolds : i.storage.Holds ((treeWriter n i.draft contents !contents.isEmpty).close w)
      (t.put i.draft (.file contents)) := close_treeWriter hBackend h contents (by simp)
  rcases hResult with ⟨rfl, hArrives⟩ | ⟨⟨e, rfl⟩, hNever⟩
  · obtain ⟨x, w', hFlush, hClose⟩ := flush_treeWriter n i.draft contents (!contents.isEmpty) w
    refine ⟨.ok (), contents, x.close w', ?_, hClose ▸ hHolds, Or.inl ⟨rfl, hArrives⟩⟩
    simp only [fillDraft, hPour, hFlush, Except.mapError]
  · refine ⟨.error e, contents, _, ?_, hHolds, Or.inr ⟨⟨e, rfl⟩, hNever⟩⟩
    simp only [fillDraft, hPour]

/-! ### How a write ends -/

/-- What a source gives to read when it is opened for a path, once folders have been made. -/
def Source.Brings (source : Source) (p : StoragePath) (w : World) (reads : List Delivery) : Prop :=
  ∃ stream w₁ w₂, w.SameFiles w₁ ∧ w₂.disk = w.disk ∧ source.openFor p w₁ = .ok stream ∧
    stream.reads w₂ = reads

/-- The tree with the folders above an item. -/
def Item.prepared (i : Item) (t : Tree) : Tree := (t.createFolders i.path.folder).2

/-- Preparing changes nothing right beside the item. -/
theorem Item.get?_prepared (hq : q.isRoot = false) (hBeside : q.folder = i.path.folder) :
    (i.prepared t).get? q = t.get? q := by
  rcases Tree.get?_createFolders (t := t) (p := i.path.folder) (q := q) with hKept | ⟨hBelow, -⟩
  · exact hKept
  · rw [← hBeside, StoragePath.not_folder_startsWith hq] at hBelow
    cases hBelow

/-- Without a file above the item everything there becomes a folder. -/
theorem Item.get?_prepared_above (hRoot : i.path.isRoot = false)
    (hClear : ∀ q ∈ i.path.ancestors, t.file? q = none) (hq : q ∈ i.path.ancestors) :
    (i.prepared t).get? q = some .folder :=
  (Tree.createFolders_ok fun _ hBelow =>
      hClear _ ((StoragePath.mem_ancestors_iff_folder hRoot).mpr hBelow)).2 q
    ((StoragePath.mem_ancestors_iff_folder hRoot).mp hq)

/-- The folders above an item are made, and all else stays. -/
theorem Item.get?_prepared_eq (hRoot : i.path.isRoot = false) (hClear : ∀ q ∈ i.path.ancestors, t.file? q = none)
    (q : StoragePath) : (i.prepared t).get? q = if q ∈ i.path.ancestors then some .folder else t.get? q := by
  split
  · rename_i hAbove
    exact get?_prepared_above hRoot hClear hAbove
  · rename_i hAside
    rcases Tree.get?_createFolders (t := t) (p := i.path.folder) (q := q) with hKept | ⟨hBelow, -⟩
    · exact hKept
    · exact absurd ((StoragePath.mem_ancestors_iff_folder hRoot).mpr hBelow) hAside

/-- Is an item to be written from itself? -/
def Item.isSource (i : Item) : Source → Bool
  | .item other => other.same i
  | _ => false

/-- The ways in which a write ends, each with the answer and the tree that is left. -/
inductive Item.WriteEnds (i : Item) (source : Source) (w : World) (t : Tree) :
    Except FileError Item → Tree → Prop where
  | refused (e : FileError) (h : ¬i.Admits source w t) : WriteEnds i source w t (.error e) t
  | itself (h : i.isSource source = true) : WriteEnds i source w t (.ok i) t
  | blocked (e : FileError) (hFile : ∃ q ∈ i.path.ancestors, t.file? q ≠ none) :
      WriteEnds i source w t (.error e) t
  | unopened (e : FileError) (h : i.Admits source w t)
      (hCause : (∃ w e, source.openFor i.path w = .error e) ∨
        (i.prepared t).get? i.draft = some .folder) :
      WriteEnds i source w t (.error e) (i.prepared t)
  | cut (e : FileError) {t' : Tree} {reads : List Delivery} (h : i.Admits source w t)
      (hBrings : source.Brings i.path w reads)
      (hNever : ∀ contents, ¬Arrives i.storage.options.sizeLimit 0 reads contents)
      (hLeft : ∀ q, t'.get? q = if q = i.draft then none else (i.prepared t).get? q) :
      WriteEnds i source w t (.error e) t'
  | done {t' : Tree} {reads : List Delivery} {contents : Bytes} (h : i.Admits source w t)
      (hClear : ∀ q ∈ i.path.ancestors, t.file? q = none)
      (hBrings : source.Brings i.path w reads)
      (hArrives : Arrives i.storage.options.sizeLimit 0 reads contents)
      (hLeft : ∀ q, t'.get? q = if q = i.path then some (.file contents)
        else if q = i.draft then none else (i.prepared t).get? q)
      (hFree : (i.prepared t).get? i.draft ≠ some .folder) :
      WriteEnds i source w t (.ok i) t'

/-- Filling the draft and settling it, from a tree where the draft was just begun. -/
theorem Item.settle_replace {n : Nat} (hBackend : i.storage.backend = ⟨.memory n, .plain⟩)
    (h : i.storage.Holds w (t.put i.draft (.file []))) (hT : t.WellFormed)
    (hRoot : i.path.isRoot = false) (hFolder : t.get? i.path.folder = some .folder)
    (hTarget : t.get? i.path ≠ some .folder) (hDraft : t.get? i.draft ≠ some .folder)
    (stream : Stream) :
    ∃ r w' t', i.settle (i.replace stream (treeWriter n i.draft [] false)) w = (r, w') ∧
      i.storage.Holds w' t' ∧ t'.WellFormed ∧
      ((∃ contents, r = .ok i ∧
          Arrives i.storage.options.sizeLimit 0 (stream.reads w) contents ∧
          ∀ q, t'.get? q = if q = i.path then some (.file contents)
            else if q = i.draft then none else t.get? q) ∨
        (∃ e, r = .error e) ∧
          (∀ contents, ¬Arrives i.storage.options.sizeLimit 0 (stream.reads w) contents) ∧
          ∀ q, t'.get? q = if q = i.draft then none else t.get? q) := by
  obtain ⟨r, contents, w₁, hFill, hHolds, hResult⟩ := fillDraft_cases hBackend h stream
  have hFilled : (t.put i.draft (.file contents)).WellFormed :=
    hT.put (fun _ => draft_folder ▸ hFolder) (Or.inl hDraft)
  have hFile : (t.put i.draft (.file contents)).get? i.draft = some (.file contents) :=
    Tree.get?_put_self
  have hOther : i.path.folder ≠ i.draft := fun hSame => hDraft (hSame ▸ hFolder)
  rcases hResult with ⟨rfl, hArrives⟩ | ⟨⟨e, rfl⟩, hNever⟩
  · obtain ⟨t', hRenamed, hFound⟩ := Tree.rename_file hFilled hFile hRoot
      ((Tree.get?_put_of_ne hOther).trans hFolder)
      (by rwa [Tree.get?_put_of_ne draft_ne_path.symm]) draft_ne_path (depth_draft hRoot)
    obtain ⟨w₂, hRename, hRest⟩ := hHolds.rename i.draft i.path
    rw [hRenamed] at hRename hRest
    have hReplace : i.replace stream (treeWriter n i.draft [] false) w = (.ok (), w₂) := by
      rw [replace, Action.bind_ok hFill, Action.mapError_apply, hRename]
      rfl
    refine ⟨.ok i, i.storage.invalidate i.path w₂, t', ?_, hRest.invalidate _,
      hFilled.rename hRenamed, Or.inl ⟨contents, rfl, hArrives, fun q => ?_⟩⟩
    · rw [settle, hReplace]
    · rw [hFound]
      split_ifs with hPath hHere
      · rfl
      · rfl
      · exact Tree.get?_put_of_ne hHere
  · obtain ⟨w₂, hRemove, hRest⟩ := (hHolds.invalidate i.path).removeFile i.draft
    rw [Tree.removeFile_eq hFile] at hRemove hRest
    have hReplace : i.replace stream (treeWriter n i.draft [] false) w = (.error e, w₁) := by
      rw [replace, Action.bind_error hFill]
    refine ⟨.error e, w₂, _, ?_, hRest, hFilled.erase (by simp [hFile]),
      Or.inr ⟨⟨e, rfl⟩, hNever, fun q => ?_⟩⟩
    · rw [settle, hReplace]
      dsimp only
      rw [hRemove]
    · rw [Tree.after, Tree.get?_erase]
      split_ifs with hHere
      · rfl
      · exact Tree.get?_put_of_ne hHere

/-- What is left of a write when nothing forbids it. -/
def Item.carry (i : Item) (source : Source) : Action FileError Item := do
  i.storage.prepareParent i.path
  let stream ← source.openFor i.path
  let x ← (i.storage.backend.openWrite i.draft).mapError (.io i.path)
  i.settle (i.replace stream x)

theorem Item.carry_ends (h : i.storage.Holds w t) (hT : t.WellFormed) (hAdmits : i.Admits source w t) :
    ∃ r w' t', i.carry source w = (r, w') ∧ i.storage.Holds w' t' ∧ t'.WellFormed ∧
      i.WriteEnds source w t r t' := by
  have hRoot := hAdmits.notRoot
  rcases Storage.prepareParent_cases h hT hRoot with
    ⟨⟨e, hRun⟩, hFile⟩ | ⟨⟨w₁, hRun, hFiles, hHolds⟩, hClear⟩
  · exact ⟨.error e, w, t, by rw [carry, Action.bind_error hRun], h, hT, .blocked e hFile⟩
  · have hFolder : (i.prepared t).get? i.path.folder = some .folder :=
      get?_prepared_above hRoot hClear
        ((StoragePath.mem_ancestors_iff_folder hRoot).mpr StoragePath.startsWith_self)
    have hPrepared : (i.prepared t).WellFormed := hT.createFolders _
    have hTarget : (i.prepared t).get? i.path ≠ some .folder := by
      rw [get?_prepared hRoot rfl]
      exact hAdmits.notFolder
    cases hOpen : source.openFor i.path w₁ with
    | error e =>
        have hAsk : (liftM (source.openFor i.path) : Action FileError Stream) w₁ = (.error e, w₁) := by
          rw [Action.query_apply, hOpen]
        refine ⟨.error e, w₁, i.prepared t, ?_, hHolds, hPrepared,
          .unopened e hAdmits (Or.inl ⟨w₁, e, hOpen⟩)⟩
        rw [carry, Action.bind_ok hRun, Action.bind_error hAsk]
    | ok stream =>
        have hAsk : (liftM (source.openFor i.path) : Action FileError Stream) w₁ = (.ok stream, w₁) := by
          rw [Action.query_apply, hOpen]
        rcases openWrite_draft hHolds hFolder with
          ⟨⟨e, hBegin⟩, hTaken⟩ | ⟨n, w₂, hBackend, hBegin, hDisk, hBegun, hFree⟩
        · refine ⟨.error (.io i.path e), w₁, i.prepared t, ?_, hHolds, hPrepared,
            .unopened _ hAdmits (Or.inr hTaken)⟩
          rw [carry, Action.bind_ok hRun, Action.bind_ok hAsk, Action.bind_error]
          rw [Action.mapError_apply, hBegin]
          rfl
        · obtain ⟨r, w', t', hSettle, hLast, hFormed, hEnd⟩ :=
            settle_replace hBackend hBegun hPrepared hRoot hFolder hTarget hFree stream
          have hBrings : source.Brings i.path w (stream.reads w₂) :=
            ⟨stream, w₁, w₂, hFiles, hDisk.trans hFiles.disk, hOpen, rfl⟩
          refine ⟨r, w', t', ?_, hLast, hFormed, ?_⟩
          · rw [carry, Action.bind_ok hRun, Action.bind_ok hAsk, Action.bind_ok, hSettle]
            rw [Action.mapError_apply, hBegin]
            rfl
          · rcases hEnd with ⟨contents, rfl, hArrives, hLeft⟩ | ⟨⟨e, rfl⟩, hNever, hLeft⟩
            · exact .done hAdmits hClear hBrings hArrives hLeft hFree
            · exact .cut e hAdmits hBrings hNever hLeft

/-- A write is a row of checks before the contents are carried. -/
theorem Item.write_eq (i : Item) (source : Source) : i.write source = (do
    i.validate
    (i.storage.checkWritable : Except FileError Unit)
    if i.storage.hides i.path then throw (.hidden i.path)
    if i.isSource source then return i
    i.requireTarget source
    i.carry source) := by
  cases source <;> rfl

/-- Every write into a tree whose entries lie in folders ends in one of the ways, and the entries lie
in folders again. -/
theorem Item.write_ends (h : i.storage.Holds w t) (hT : t.WellFormed) (source : Source) :
    ∃ r w' t', i.write source w = (r, w') ∧ i.storage.Holds w' t' ∧ t'.WellFormed ∧
      i.WriteEnds source w t r t' := by
  have hRefused {e : FileError} (hRun : i.write source w = (.error e, w))
      (hNot : ¬i.Admits source w t) : ∃ r w' t', i.write source w = (r, w') ∧
        i.storage.Holds w' t' ∧ t'.WellFormed ∧ i.WriteEnds source w t r t' :=
    ⟨.error e, w, t, hRun, h, hT, .refused e hNot⟩
  have hValidate : (liftM i.validate : Action FileError Unit) w =
      (if i.storage.isOpen w then .ok () else .error (.closed i.storage.name), w) := rfl
  have hCheck : (liftM i.storage.checkWritable : Action FileError Unit) w =
      (if i.storage.options.readOnly then .error (.readOnly i.storage.name) else .ok (), w) := rfl
  rw [write_eq] at hRefused ⊢
  cases hOpen : i.storage.isOpen w with
  | false =>
      rw [hOpen] at hValidate
      exact hRefused (Action.bind_error hValidate) fun hAdmits => nomatch hOpen.symm.trans hAdmits.isOpen
  | true =>
  rw [hOpen] at hValidate
  rw [Action.bind_ok hValidate] at hRefused ⊢
  cases hReadOnly : i.storage.options.readOnly with
  | true =>
      rw [hReadOnly] at hCheck
      exact hRefused (Action.bind_error hCheck) fun hAdmits =>
        nomatch hReadOnly.symm.trans hAdmits.writable
  | false =>
  rw [hReadOnly] at hCheck
  rw [Action.bind_ok hCheck] at hRefused ⊢
  cases hHides : i.storage.hides i.path with
  | true =>
      rw [hHides] at hRefused
      exact hRefused rfl fun hAdmits => nomatch hHides.symm.trans hAdmits.shown
  | false =>
  simp only [hHides, Bool.false_eq_true, if_false] at hRefused ⊢
  cases hItself : i.isSource source with
  | true =>
      exact ⟨.ok i, w, t, rfl, h, hT, .itself hItself⟩
  | false =>
  simp only [hItself, Bool.false_eq_true, if_false] at hRefused ⊢
  have hAsk : (liftM (i.requireTarget source) : Action FileError Unit) w =
      (i.requireTarget source w, w) := Action.query_apply _ w
  cases hTarget : i.requireTarget source w with
  | error e =>
      rw [hTarget] at hAsk
      refine hRefused (Action.bind_error hAsk) fun hAdmits => ?_
      have hPassed := (requireTarget_eq_ok_iff h).mpr
        ⟨hAdmits.notRoot, hAdmits.notFolder, fun _ => hAdmits.fits⟩
      cases hTarget.symm.trans hPassed
  | ok _ =>
      rw [hTarget] at hAsk
      rw [Action.bind_ok hAsk]
      obtain ⟨hRoot, hFolder, hFits⟩ := (requireTarget_eq_ok_iff h).mp hTarget
      exact carry_ends h hT ⟨hOpen, hReadOnly, hHides, hRoot, hFolder, hFits _⟩

end Cabinet
