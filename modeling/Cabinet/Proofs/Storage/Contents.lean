import Cabinet.Proofs.Storage.Confined

/-! What a write delivers. A source is opened after the folders above the target have been made, which
touches no file, so that what arrives is what the source stood for when the write began. The one write
that delivers nothing is that of an item to itself, which is given back before anything is looked at,
even if it is a folder or missing. -/

namespace Cabinet

variable {i j : Item} {source : Source} {w w₁ w₂ w' : World} {t t' : Tree} {p : StoragePath}
  {contents : Bytes} {reads : List Delivery} {b : Backend} {r : Reader}

/-! ### Reading -/

theorem Item.requireEntry_eq_ok_iff {m : EntryMeta} : i.requireEntry w = .ok m ↔
    i.storage.isOpen w = true ∧ i.storage.hides i.path = false ∧ i.storage.entry i.path w = .ok (some m) := by
  have hValidate : i.validate w = .ok () ↔ i.storage.isOpen w = true := by
    rw [validate, Storage.validate]
    split <;> simp_all
  simp only [requireEntry, Query.bind_eq_ok_iff, hValidate, Query.guard_eq_ok_iff, Bool.not_eq_true,
    exists_const]
  refine and_congr_right fun _ => and_congr_right fun _ => ?_
  constructor
  · rintro ⟨found, hFound, hThere⟩
    cases found with
    | none => cases hThere
    | some found =>
        obtain rfl := Except.ok.inj hThere
        exact hFound
  · intro hFound
    exact ⟨some m, hFound, rfl⟩

theorem Item.openReader_eq_ok_iff : i.openReader w = .ok r ↔
    ∃ m, i.requireEntry w = .ok m ∧ m.isFolder = false ∧ i.storage.backend.openRead i.path w = .ok r := by
  simp only [openReader, Query.bind_eq_ok_iff, Query.guard_eq_ok_iff, Bool.not_eq_true,
    Query.mapError_eq_ok_iff]

theorem Item.readBytes_eq_ok_iff :
    i.readBytes w = .ok contents ↔ ∃ r, i.openReader w = .ok r ∧ r.rest w = .ok contents := by
  rw [readBytes, Query.bind_eq_ok_iff]
  refine exists_congr fun r => and_congr_right fun _ => ?_
  cases r.rest w <;> simp [Except.mapError]

/-! ### The same files -/

/-- What can be opened after folders were made could be opened before, and nothing else is told of it. -/
theorem World.SameFiles.openRead_eq_ok (h : w.SameFiles w₁) (hRead : b.openRead p w₁ = .ok r) :
    b.metadata p w = b.metadata p w₁ ∧ b.openRead p w = .ok r := by
  obtain ⟨place, rig⟩ := b
  cases place with
  | memory n =>
      cases hCheck : rig.check .openRead with
      | error e =>
          rw [Backend.openRead, hCheck] at hRead
          cases hRead
      | ok _ =>
          simp only [Backend.openRead, hCheck, Tree.read] at hRead ⊢
          cases hFound : (w₁.tree n).get? p with
          | none =>
              rw [hFound] at hRead
              cases hRead
          | some node =>
              cases node with
              | folder =>
                  rw [hFound] at hRead
                  cases hRead
              | file contents =>
                  have hBefore : (w.tree n).get? p = some (.file contents) := by
                    rw [← Tree.file?_eq_some_iff, ← h.file?, Tree.file?_eq_some_iff, hFound]
                  rw [hFound] at hRead
                  rw [hBefore]
                  exact ⟨by simp only [Backend.metadata, Tree.metadata, hFound, hBefore], hRead⟩
  | directory root =>
      rw [Backend.openRead] at hRead
      rw [Backend.metadata, Backend.metadata, Backend.openRead, ← h.disk]
      exact ⟨rfl, hRead⟩

theorem World.SameFiles.openReader_eq_ok (h : w.SameFiles w₁) (hOpened : j.openReader w₁ = .ok r) :
    j.openReader w = .ok r := by
  obtain ⟨m, hEntry, hFile, hRead⟩ := Item.openReader_eq_ok_iff.mp hOpened
  obtain ⟨hOpen, hShown, hFound⟩ := Item.requireEntry_eq_ok_iff.mp hEntry
  obtain ⟨hMeta, hReadBefore⟩ := h.openRead_eq_ok hRead
  have hFoundBefore : j.storage.entry j.path w = .ok (some m) := by
    rw [Storage.entry, Query.mapError_eq_ok_iff] at hFound ⊢
    rw [hMeta, hFound]
  apply Item.openReader_eq_ok_iff.mpr
  have hEntryBefore := Item.requireEntry_eq_ok_iff.mpr ⟨h.isOpen _ ▸ hOpen, hShown, hFoundBefore⟩
  exact ⟨m, hEntryBefore, hFile, hReadBefore⟩

theorem Reader.rest_congr (h : w₂.disk = w.disk) (r : Reader) : r.rest w₂ = r.rest w := by
  cases r with
  | memory rest => rfl
  | file number offset => rw [rest, rest, h]
  | folder => rfl

/-! ### What sources stand for -/

/-- A source stands for bytes: its own, what a feed brings, or what can be read of a file. -/
def Source.StandsFor (w : World) : Source → Bytes → Prop
  | bytes contents, found => contents = found
  | feed deliveries, found => received deliveries = .ok found
  | native name, found => ∃ r, openNative name w = .ok r ∧ r.rest w = .ok found
  | item j, found => j.readBytes w = .ok found

theorem received_reads_reader (h : received (Stream.reads w (.reader r)) = .ok contents) :
    r.rest w = .ok contents := by
  rw [Stream.reads] at h
  cases hRest : r.rest w with
  | error e =>
      rw [hRest] at h
      cases h
  | ok found =>
      rw [hRest] at h
      exact received_deliver.symm.trans h

theorem Source.Brings.standsFor (h : source.Brings p w reads)
    (hReceived : received reads = .ok contents) : source.StandsFor w contents := by
  obtain ⟨stream, w₁, w₂, hFiles, hDisk, hOpened, rfl⟩ := h
  cases source with
  | bytes whole =>
      obtain rfl := Except.ok.inj hOpened
      rw [Stream.reads, received_flatMap_reads, received_deliver] at hReceived
      exact Except.ok.inj hReceived
  | feed deliveries =>
      obtain rfl := Except.ok.inj hOpened
      rwa [Stream.reads, received_flatMap_reads] at hReceived
  | native name =>
      change ((openNative name w₁).mapError _).map Stream.reader = _ at hOpened
      cases hFound : openNative name w₁ with
      | error e =>
          rw [hFound] at hOpened
          cases hOpened
      | ok r =>
          rw [hFound] at hOpened
          obtain rfl := Except.ok.inj hOpened
          have hBefore : openNative name w = .ok r := by
            rw [openNative, ← hFiles.disk]
            exact hFound
          exact ⟨r, hBefore, (r.rest_congr hDisk).symm.trans (received_reads_reader hReceived)⟩
  | item j =>
      obtain ⟨r, hReader, hStream⟩ := Query.bind_eq_ok_iff.mp hOpened
      obtain rfl := Except.ok.inj hStream
      exact Item.readBytes_eq_ok_iff.mpr ⟨r, hFiles.openReader_eq_ok hReader,
        (r.rest_congr hDisk).symm.trans (received_reads_reader hReceived)⟩

/-! ### Files of a storage in memory -/

theorem Storage.Holds.openRead (h : i.storage.Holds w t) :
    i.storage.backend.openRead i.path w = (t.read i.path).map .memory := by
  obtain ⟨n, hBackend, hTree⟩ := h
  rw [hBackend, ← tree_eq hTree]
  rfl

/-- Of a tree an item reads the file that is there to be seen. -/
theorem Storage.Holds.readBytes_eq_ok_iff (h : i.storage.Holds w t) : i.readBytes w = .ok contents ↔
    i.storage.isOpen w = true ∧ i.storage.hides i.path = false ∧ t.file? i.path = some contents := by
  simp only [Item.readBytes_eq_ok_iff, Item.openReader_eq_ok_iff, Item.requireEntry_eq_ok_iff,
    h.entry, h.openRead, Tree.metadata, Tree.read, Tree.file?]
  rcases t.get? i.path with _ | _ | _ <;>
    simp [Node.metadata, EntryMeta.isFolder, Except.map, Reader.rest, and_assoc]

theorem Storage.Holds.isFile_eq_ok (h : i.storage.Holds w t) (hOpen : i.storage.isOpen w = true)
    (hShown : i.storage.hides i.path = false) (hFile : t.file? i.path = some contents) :
    i.isFile w = .ok true := by
  have hValidate : i.validate w = .ok () := by rw [Item.validate, validate, if_pos hOpen]
  have hVisible : i.visibleEntry w = .ok (t.metadata i.path) := by
    rw [Item.visibleEntry, Query.bind_ok hValidate, if_neg (Bool.eq_false_iff.mp hShown), h.entry]
  rw [Item.isFile, Query.bind_ok hVisible, Tree.metadata, Tree.file?_eq_some_iff.mp hFile]
  rfl

/-! ### What is added to a tree -/

/-- An entry comes to be at a path, and the folders above it. Nothing else changes, but for a hidden
file that may be lost. -/
structure Tree.Gains (p : StoragePath) (n : Node) (t t' : Tree) : Prop where
  wellFormed : t'.WellFormed
  here : t'.get? p = some n
  kind {m : Node} (h : t.get? p = some m) : m = .folder ↔ n = .folder
  elsewhere (q : StoragePath) (hq : q ≠ p) : t'.get? q = t.get? q ∨
    (p.startsWith q = true ∧ t.get? q = none ∧ t'.get? q = some .folder) ∨
    q.isHidden = true ∧ t.get? q ≠ some .folder ∧ t'.get? q = none

/-- A write that succeeds has passed every check, and one from the item itself does nothing more. -/
theorem Item.write_checks (h : (i.write source w).1 = .ok j) :
    i.storage.isOpen w = true ∧ i.storage.hides i.path = false ∧
      (i.isSource source = true → i.write source w = (.ok i, w)) := by
  have hValidate : (liftM i.validate : Action FileError Unit) w =
      (if i.storage.isOpen w then .ok () else .error (.closed i.storage.name), w) := rfl
  rw [write_eq] at h ⊢
  cases hOpen : i.storage.isOpen w with
  | false =>
      rw [hOpen] at hValidate
      rw [Action.bind_error hValidate] at h
      cases h
  | true =>
  rw [hOpen] at hValidate
  rw [Action.bind_ok hValidate] at h ⊢
  obtain ⟨_, w₁, hWritable, h⟩ := Action.bind_eq_ok h
  obtain rfl : w = w₁ := congrArg Prod.snd hWritable
  rw [Action.bind_ok hWritable]
  cases hHides : i.storage.hides i.path with
  | true =>
      rw [hHides] at h
      cases h
  | false =>
      refine ⟨rfl, rfl, fun hItself => ?_⟩
      rw [hItself]
      rfl

/-- A write that succeeds either is one of the item to itself, or puts what the source stood for at its
path. -/
theorem Item.write_ok (h : i.storage.Holds w t) (hT : t.WellFormed)
    (hRun : i.write source w = (.ok j, w')) :
    j = i ∧ i.storage.isOpen w' = true ∧ i.storage.hides i.path = false ∧
      (i.isSource source = true ∧ w' = w ∨
        i.isSource source = false ∧ ∃ t' contents, i.storage.Holds w' t' ∧ source.StandsFor w contents ∧
          t.Gains i.path (.file contents) t') := by
  obtain ⟨hOpen, hShown, hItself⟩ := write_checks (congrArg Prod.fst hRun)
  have hStays := keeps_write_elsewhere i source w (.refl _ w)
  rw [hRun] at hStays
  have hOpen' : i.storage.isOpen w' = true := (hStays.isOpen _).trans hOpen
  cases hSource : i.isSource source with
  | true =>
      obtain ⟨hSame, rfl⟩ := Prod.mk.inj (hRun.symm.trans (hItself hSource))
      exact ⟨Except.ok.inj hSame, hOpen', hShown, Or.inl ⟨rfl, rfl⟩⟩
  | false =>
      obtain ⟨r, _, t', hRun', hAfter, hFormed, hEnds⟩ := write_ends h hT source
      obtain ⟨rfl, rfl⟩ := Prod.mk.inj (hRun.symm.trans hRun')
      cases hEnds with
      | itself hSame => cases hSource.symm.trans hSame
      | done hAdmits hClear hBrings hArrives hLeft hFree =>
          rename_i found contents
          refine ⟨rfl, hOpen', hShown, Or.inr ⟨rfl, t', contents, hAfter, hBrings.standsFor hArrives.1, ?_⟩⟩
          have hKind {m : Node} (hFound : t.get? i.path = some m) :
              m = .folder ↔ Node.file contents = .folder :=
            iff_of_false (fun hFolder => hAdmits.notFolder (hFolder ▸ hFound)) fun hFolder => nomatch hFolder
          refine ⟨hFormed, by rw [hLeft, if_pos rfl], hKind, fun q hq => ?_⟩
          rw [hLeft, if_neg hq]
          by_cases hDraft : q = i.draft
          · rw [get?_prepared draft_isRoot draft_folder] at hFree
            exact Or.inr (Or.inr ⟨hDraft ▸ draft_isHidden, hDraft ▸ hFree, if_pos hDraft⟩)
          · rw [if_neg hDraft]
            rcases Tree.get?_createFolders (t := t) (p := i.path.folder) (q := q) with
              hKept | ⟨hAbove, hNone, hMade⟩
            · exact Or.inl hKept
            · have hBelow := StoragePath.startsWith_trans StoragePath.startsWith_folder_self hAbove
              exact Or.inr (Or.inl ⟨hBelow, hNone, hMade⟩)

/-- What is there without anything happening has been gained as well. -/
theorem Tree.Gains.refl {n : Node} (hT : t.WellFormed) (h : t.get? p = some n) : t.Gains p n t where
  wellFormed := hT
  here := h
  kind hFound := Option.some.inj (hFound.symm.trans h) ▸ Iff.rfl
  elsewhere _ _ := Or.inl rfl

/-! ### Delivery -/

/-- A file is there that holds what a source stood for. -/
structure Item.Delivers (j : Item) (source : Source) (w w' : World) (t : Tree) : Prop where
  notFolder : t.get? j.path ≠ some .folder
  isFile : j.isFile w' = .ok true
  contents : ∃ contents, source.StandsFor w contents ∧ j.readBytes w' = .ok contents

/-- An item is to be written from itself, but there is no file. -/
def Item.IsHollow (j : Item) (source : Source) (t : Tree) : Prop :=
  j.isSource source = true ∧ t.file? j.path = none

/-- The number of a storage tells it from the storages of a source. -/
def Storage.KnownIn (s : Storage) (source : Source) : Prop :=
  ∀ other, source = .item other → other.storage.same s = true → other.storage = s

theorem Item.isSource_iff :
    i.isSource source = true ↔ ∃ other, source = .item other ∧ other.same i = true := by
  cases source <;> simp [isSource]

theorem Item.write_delivers (h : i.storage.Holds w t) (hT : t.WellFormed) (hOne : i.storage.KnownIn source)
    (hRun : i.write source w = (.ok j, w')) :
    (j.IsHollow source t → w' = w) ∧ (¬j.IsHollow source t → j.Delivers source w w' t) := by
  obtain ⟨rfl, hOpen, hShown, ⟨hSource, rfl⟩ | ⟨hSource, t', contents, hAfter, hStands, hGains⟩⟩ :=
    write_ok h hT hRun
  · refine ⟨fun _ => rfl, fun hSolid => ?_⟩
    obtain ⟨contents, hFile⟩ := Option.ne_none_iff_exists'.mp fun hNone => hSolid ⟨hSource, hNone⟩
    obtain ⟨other, rfl, hSame⟩ := isSource_iff.mp hSource
    obtain ⟨hStorage, hPath⟩ := Bool.and_eq_true_iff.mp hSame
    have hItem : other = j := congrArg₂ Item.mk (hOne other rfl hStorage) (beq_iff_eq.mp hPath)
    have hRead := h.readBytes_eq_ok_iff.mpr ⟨hOpen, hShown, hFile⟩
    refine ⟨?_, h.isFile_eq_ok hOpen hShown hFile, contents, ?_, hRead⟩
    · simp [Tree.file?_eq_some_iff.mp hFile]
    · rw [hItem]
      exact hRead
  · refine ⟨fun hHollow => ?_, fun _ => ?_⟩
    · cases hSource.symm.trans hHollow.1
    · have hFile := Tree.file?_eq_some_iff.mpr hGains.here
      refine ⟨fun hFolder => (nomatch (hGains.kind hFolder).mp rfl), hAfter.isFile_eq_ok hOpen hShown hFile,
        contents, hStands, hAfter.readBytes_eq_ok_iff.mpr ⟨hOpen, hShown, hFile⟩⟩

/-- When a write or a create of a storage in memory succeeds, there is a file that holds exactly what
the source stood for at the beginning, and there was no folder in its place; except that an item which
is no file may be written from itself, and then nothing happens. -/
theorem Item.create_delivers (h : i.storage.Holds w t) (hT : t.WellFormed)
    (hOne : i.storage.KnownIn source) :
    (∀ j w', i.write source w = (.ok j, w') → j = i ∧ (j.IsHollow source t → w' = w) ∧
        (¬j.IsHollow source t → j.Delivers source w w' t)) ∧
      ∀ name j w', i.create name source w = (.ok j, w') →
        (∃ p, i.path.resolve name = .ok p ∧ j = ⟨i.storage, p⟩) ∧ (j.IsHollow source t → w' = w) ∧
        (¬j.IsHollow source t → j.Delivers source w w' t) := by
  refine ⟨fun j w' hRun => ⟨(write_ok h hT hRun).1, write_delivers h hT hOne hRun⟩,
    fun name j w' hRun => ?_⟩
  rcases create_cases i name source w with ⟨e, hError⟩ | ⟨p, hName, hWrite⟩
  · cases hError.symm.trans hRun
  · have hTarget : (⟨i.storage, p⟩ : Item).storage.Holds w t := h
    rw [hWrite] at hRun
    exact ⟨⟨p, hName, (write_ok hTarget hT hRun).1⟩, write_delivers hTarget hT hOne hRun⟩

/-- A file is written from itself by way of another storage with the same tree. -/
theorem Item.create_delivers_handle :
    let s : Storage := ⟨0, "main", ⟨.memory 0, .plain⟩, ⟨some 3, false, false⟩, .byName, .basic⟩
    let r : Storage := { s with number := 1 }
    let t := (Tree.empty.put ⟨["d"]⟩ .folder).put ⟨["d", "f"]⟩ (.file [1, 2, 3])
    let w : World := ⟨.empty, [t], [⟨true, none⟩, ⟨true, none⟩]⟩
    let f : StoragePath := ⟨["d", "f"]⟩
    s.Holds w t ∧ t.WellFormed ∧ s.KnownIn (.item ⟨r, f⟩) ∧ ∃ w',
      create ⟨s, .root⟩ "d/f" (.item ⟨r, f⟩) w = (.ok ⟨s, f⟩, w') ∧
        Delivers ⟨s, f⟩ (.item ⟨r, f⟩) w w' t := by
  intro s r t w f
  have hHolds : s.Holds w t := ⟨0, rfl, rfl⟩
  have hFolder : (Tree.empty.put ⟨["d"]⟩ .folder).WellFormed :=
    Tree.wellFormed_empty.put (fun _ => by decide) (Or.inl (by decide))
  have hFormed : t.WellFormed := hFolder.put (fun _ => by decide) (Or.inl (by decide))
  have hOne : s.KnownIn (.item ⟨r, f⟩) := by
    intro other hSource hSame
    obtain rfl := Source.item.inj hSource
    cases hSame
  obtain ⟨j, w', hRun⟩ : ∃ j w', create ⟨s, .root⟩ "d/f" (.item ⟨r, f⟩) w = (.ok j, w') :=
    Action.exists_eq_ok (by decide +kernel +zetaReduce)
  obtain ⟨⟨p, hName, rfl⟩, -, hDelivers⟩ :=
    (create_delivers (i := ⟨s, .root⟩) hHolds hFormed hOne).2 "d/f" j w' hRun
  obtain rfl : f = p := Except.ok.inj hName
  exact ⟨hHolds, hFormed, hOne, w', hRun, hDelivers fun hHollow => nomatch hHollow.1⟩

/-- A folder and a missing item are written to themselves, and there is no file afterwards. -/
theorem Item.not_create_delivers_itself :
    let s : Storage := ⟨0, "main", ⟨.memory 0, .plain⟩, .standard, .byName, .basic⟩
    let t := Tree.empty.put ⟨["d"]⟩ .folder
    let w : World := ⟨.empty, [t], [⟨true, none⟩]⟩
    s.Holds w t ∧ t.WellFormed ∧ t.get? ⟨["d"]⟩ = some .folder ∧ ∀ name ∈ ["d", "a"],
      create ⟨s, .root⟩ name (.item ⟨s, ⟨[name]⟩⟩) w = (.ok ⟨s, ⟨[name]⟩⟩, w) ∧
        isFile ⟨s, ⟨[name]⟩⟩ w = .ok false := by
  intro s t w
  refine ⟨⟨0, rfl, rfl⟩, Tree.wellFormed_empty.put (fun _ => by decide) (Or.inl (by decide)), rfl, ?_⟩
  intro name hName
  rcases List.mem_pair.mp hName with rfl | rfl
  · exact ⟨rfl, rfl⟩
  · exact ⟨rfl, rfl⟩

end Cabinet
