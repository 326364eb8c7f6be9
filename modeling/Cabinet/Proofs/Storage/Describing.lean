import Cabinet.Proofs.Storage.Contents
import Cabinet.Storage.Metadata

/-! What metadata depends on. Whatever is remembered, metadata that is made for an item of a storage in
memory is told by the entry at its path, and with documents beside items also by the file beside it. -/

namespace Cabinet

variable {ε α β : Type} {w w' : World} {i : Item} {t t' : Tree} {m : Members}

/-! ### Queries that answer alike -/

namespace Query

/-- A query answers in two worlds alike. -/
def Alike (w w' : World) (q : Query ε α) : Prop := q w' = q w

variable {q : Query ε α} {f : α → Query ε β}

theorem Alike.pure (x : α) : Alike w w' (Pure.pure x : Query ε α) := rfl

theorem Alike.throw (e : ε) : Alike w w' (MonadExcept.throw e : Query ε α) := rfl

theorem Alike.except (r : Except ε α) : Alike w w' (liftM r : Query ε α) := rfl

theorem Alike.read {f : World → Query ε α} (h : f w' w' = f w w) :
    Alike w w' (MonadReader.read >>= f : Query ε α) := h

theorem Alike.mapError {δ : Type} {g : ε → δ} (h : Alike w w' q) : Alike w w' (q.mapError g) := by
  rw [Alike, Query.mapError, h]
  rfl

/-- What comes after a query has to answer alike only after answers of the query. -/
theorem Alike.bind (hq : Alike w w' q) (hf : ∀ x, q w = .ok x → Alike w w' (f x)) :
    Alike w w' (q >>= f) := by
  rw [Alike] at hq ⊢
  cases hFirst : q w with
  | error e => rw [bind_error hFirst, bind_error (hq.trans hFirst)]
  | ok x =>
      rw [bind_ok hFirst, bind_ok (hq.trans hFirst)]
      exact hf x hFirst

theorem Alike.mapM {l : List β} {f : β → Query ε α} (h : ∀ b ∈ l, Alike w w' (f b)) : Alike w w' (l.mapM f) := by
  induction l with
  | nil => exact .pure _
  | cons b l ih =>
      obtain ⟨hFirst, hRest⟩ := List.forall_mem_cons.mp h
      rw [List.mapM_cons]
      exact hFirst.bind fun _ _ => (ih hRest).bind fun _ _ => .pure _

theorem Alike.guard {c : Prop} [Decidable c] {e : ε} {g : β → Query ε α} (h : ¬c → Alike w w' q) :
    Alike w w' (if c then MonadExcept.throw e >>= g else q) := by
  split
  · rfl
  · exact h ‹_›

end Query

/-! ### Made metadata -/

namespace Item

open Cabinet.Query

/-- Two worlds are alike to an item: its storage is open in both or in neither, and the same entry is at
its path, unless that is out of sight. -/
structure SeesAlike (i : Item) (w w' : World) : Prop where
  isOpen : i.storage.isOpen w' = i.storage.isOpen w
  entry (hShown : i.storage.hides i.path = false) : Alike w w' (i.storage.entry i.path)

namespace SeesAlike

theorem of_holds (h : i.storage.Holds w t) (h' : i.storage.Holds w' t')
    (hOpen : i.storage.isOpen w' = i.storage.isOpen w) (hEntry : t'.get? i.path = t.get? i.path) :
    i.SeesAlike w w' :=
  ⟨hOpen, fun _ => by rw [Alike, h.entry, h'.entry, Tree.metadata, Tree.metadata, hEntry]⟩

theorem validate (h : i.SeesAlike w w') : Alike w w' i.validate := by
  rw [Alike, Item.validate, Storage.validate, Storage.validate, h.isOpen]

theorem visibleEntry (h : i.SeesAlike w w') : Alike w w' i.visibleEntry := by
  refine h.validate.bind fun _ _ => ?_
  split
  · exact .pure none
  · exact h.entry (Bool.eq_false_iff.mpr ‹_›)

theorem requireEntry (h : i.SeesAlike w w') : Alike w w' i.requireEntry := by
  refine h.validate.bind fun _ _ => Alike.guard fun hShown =>
    (h.entry (Bool.eq_false_iff.mpr hShown)).bind fun found _ => ?_
  cases found with
  | none => exact .throw _
  | some m => exact .pure m

theorem isFolder (h : i.SeesAlike w w') : Alike w w' i.isFolder := h.visibleEntry.bind fun _ _ => .pure _

theorem contentType (h : i.SeesAlike w w') : Alike w w' i.contentType := by
  refine h.validate.bind fun _ _ => h.isFolder.bind fun folder _ => ?_
  split
  · exact .pure _
  · cases i.storage.typing with
    | byName known => exact .pure _
    | fixed type => exact .pure type

theorem size (h : i.SeesAlike w w') : Alike w w' i.size := h.requireEntry.bind fun _ _ => .pure _

theorem requireTime (h : i.SeesAlike w w') : Alike w w' i.requireTime := by
  refine h.requireEntry.bind fun _ _ => ?_
  split
  · exact .pure _
  · exact .throw _

theorem basicMetadata (h : i.SeesAlike w w') : Alike w w' i.basicMetadata := by
  have hRest (start : Members) : Alike w w' (do
      i.requireTime
      let type ← i.contentType
      return start ++ [("lastModified", .string timeMark), ("contentType", .string type)] : Query FileError Members) :=
    h.requireTime.bind fun _ _ => h.contentType.bind fun _ _ => .pure _
  refine h.isFolder.bind fun folder _ => ?_
  cases folder with
  | true => exact (Alike.pure []).bind fun _ _ => hRest _
  | false => exact h.size.bind fun _ _ => (Alike.pure _).bind fun _ _ => hRest _

end SeesAlike

/-- Metadata is made only of an item that is there to be seen. -/
theorem requireEntry_of_basicMetadata (h : i.basicMetadata w = .ok m) :
    ∃ found, i.requireEntry w = .ok found := by
  obtain ⟨folder, -, h⟩ := bind_eq_ok_iff.mp h
  cases folder with
  | true =>
      obtain ⟨_, -, h⟩ := bind_eq_ok_iff.mp h
      obtain ⟨_, hTime, -⟩ := bind_eq_ok_iff.mp h
      obtain ⟨found, hFound, -⟩ := bind_eq_ok_iff.mp hTime
      exact ⟨found, hFound⟩
  | false =>
      obtain ⟨_, hSize, -⟩ := bind_eq_ok_iff.mp h
      obtain ⟨found, hFound, -⟩ := bind_eq_ok_iff.mp hSize
      exact ⟨found, hFound⟩

theorem basicMetadata_of_sidecarMetadata {suffix : String} (h : i.sidecarMetadata suffix w = .ok m) :
    ∃ basic, i.basicMetadata w = .ok basic := by
  obtain ⟨basic, hBasic, -⟩ := bind_eq_ok_iff.mp h
  exact ⟨basic, hBasic⟩

theorem requireEntry_of_freshMetadata (h : i.freshMetadata w = .ok m) :
    ∃ found, i.requireEntry w = .ok found := by
  cases hSource : i.storage.metadataSource with
  | basic =>
      rw [freshMetadata, hSource] at h
      exact requireEntry_of_basicMetadata h
  | sidecar suffix =>
      rw [freshMetadata, hSource] at h
      obtain ⟨basic, hBasic⟩ := basicMetadata_of_sidecarMetadata h
      exact requireEntry_of_basicMetadata hBasic

/-! ### Files beside items -/

theorem validate_eq_ok (h : i.storage.isOpen w = true) : i.validate w = .ok () := by
  rw [validate, Storage.validate, if_pos h]

theorem validate_closed (h : i.storage.isOpen w = false) : i.validate w = .error (.closed i.storage.name) := by
  rw [validate, Storage.validate, h]
  rfl

theorem requireEntry_closed (h : i.storage.isOpen w = false) :
    i.requireEntry w = .error (.closed i.storage.name) := bind_error (validate_closed h)

/-- An item is a file where its storage shows one. -/
theorem isFile_apply (h : i.storage.Holds w t) (hOpen : i.storage.isOpen w = true) :
    i.isFile w = .ok (!i.storage.hides i.path && (t.file? i.path).isSome) := by
  have hVisible : i.visibleEntry w = .ok (if i.storage.hides i.path then none else t.metadata i.path) := by
    rw [visibleEntry, bind_ok (validate_eq_ok hOpen)]
    cases i.storage.hides i.path with
    | true => rfl
    | false => exact h.entry i.path
  rw [isFile, bind_ok hVisible]
  cases i.storage.hides i.path with
  | true => rfl
  | false =>
      rw [Tree.metadata, Tree.file?]
      rcases t.get? i.path with _ | _ | _ <;> rfl

theorem readBytes_eq_ok (h : i.storage.Holds w t) (hOpen : i.storage.isOpen w = true)
    (hFile : i.isFile w = .ok true) : ∃ contents, t.file? i.path = some contents ∧ i.readBytes w = .ok contents := by
  rw [isFile_apply h hOpen] at hFile
  obtain ⟨hShown, hThere⟩ := Bool.and_eq_true_iff.mp (Except.ok.inj hFile)
  obtain ⟨contents, hContents⟩ := Option.isSome_iff_exists.mp hThere
  exact ⟨contents, hContents, h.readBytes_eq_ok_iff.mpr ⟨hOpen, by simpa using hShown, hContents⟩⟩

theorem storage_of_sibling {j : Item} {name : String} (h : i.sibling name = .ok j) : j.storage = i.storage := by
  rw [sibling] at h
  cases hName : i.path.folder.resolve name with
  | error e =>
      rw [hName] at h
      cases h
  | ok p =>
      rw [hName] at h
      obtain rfl := Except.ok.inj h
      rfl

/-- With a document beside it an item is told of alike where it is without, and the document is read alike
where there is one. -/
theorem sidecarMetadata_alike_of_beside {suffix : String} (hBasic : Alike w w' i.basicMetadata)
    (hBeside : ∀ j, i.sibling (i.name ++ suffix) = .ok j → i.storage.isOpen w = true →
      Alike w w' j.isFile ∧ (j.isFile w = .ok true → Alike w w' j.readBytes)) :
    Alike w w' (i.sidecarMetadata suffix) := by
  refine hBasic.bind fun basic hMade => ?_
  obtain ⟨found, hFound⟩ := requireEntry_of_basicMetadata hMade
  obtain ⟨hOpen, -⟩ := requireEntry_eq_ok_iff.mp hFound
  split
  · exact .pure _
  · refine (Alike.except _).bind fun j hSibling => ?_
    obtain ⟨hKind, hRead⟩ := hBeside j hSibling hOpen
    refine hKind.bind fun isFile hIsFile => ?_
    cases isFile with
    | false => exact .pure basic
    | true =>
        refine (hRead hIsFile).bind fun bytes _ => ?_
        split
        · exact .throw _
        · exact .pure _
        · exact .pure _

/-- With a document beside it an item is told of alike where its entry and the file beside it are the
same. -/
theorem sidecarMetadata_alike {suffix : String} (h : i.storage.Holds w t) (h' : i.storage.Holds w' t')
    (hOpen : i.storage.isOpen w' = i.storage.isOpen w) (hEntry : t'.get? i.path = t.get? i.path)
    (hFile : ∀ j, i.sibling (i.name ++ suffix) = .ok j → t'.file? j.path = t.file? j.path) :
    Alike w w' (i.sidecarMetadata suffix) := by
  refine sidecarMetadata_alike_of_beside (SeesAlike.of_holds h h' hOpen hEntry).basicMetadata
    fun j hSibling hOpenHere => ?_
  rw [← storage_of_sibling hSibling] at h h' hOpen hOpenHere
  have hKind : Alike w w' j.isFile := by
    rw [Alike, isFile_apply h hOpenHere, isFile_apply h' (hOpen.trans hOpenHere), hFile j hSibling]
  refine ⟨hKind, fun hIsFile => ?_⟩
  obtain ⟨contents, hHere, hRead⟩ := readBytes_eq_ok h hOpenHere hIsFile
  obtain ⟨contents', hThere, hRead'⟩ := readBytes_eq_ok h' (hOpen.trans hOpenHere) (hKind.trans hIsFile)
  have hContents : contents' = contents :=
    Option.some.inj (hThere.symm.trans ((hFile j hSibling).trans hHere))
  rw [Alike, hRead, hRead', hContents]

/-- Where all that metadata depends on is the same, so is what is made. -/
theorem freshMetadata_alike (h : i.storage.Holds w t) (h' : i.storage.Holds w' t')
    (hOpen : i.storage.isOpen w' = i.storage.isOpen w) (hEntry : t'.get? i.path = t.get? i.path)
    (hFile : ∀ suffix j, i.storage.metadataSource = .sidecar suffix → i.sibling (i.name ++ suffix) = .ok j →
      t'.file? j.path = t.file? j.path) : Alike w w' i.freshMetadata := by
  cases hSource : i.storage.metadataSource with
  | basic =>
      have hBasic := (SeesAlike.of_holds h h' hOpen hEntry).basicMetadata
      simpa only [Alike, freshMetadata, hSource] using hBasic
  | sidecar suffix =>
      have hSidecar := sidecarMetadata_alike h h' hOpen hEntry fun j => hFile suffix j hSource
      simpa only [Alike, freshMetadata, hSource] using hSidecar

theorem freshMetadata_closed (hClosed : i.storage.isOpen w = false) :
    i.freshMetadata w = .error (.closed i.storage.name) := by
  have hBasic : i.basicMetadata w = .error (.closed i.storage.name) :=
    bind_error (bind_error (bind_error (validate_closed hClosed)))
  cases hSource : i.storage.metadataSource with
  | basic => rwa [freshMetadata, hSource]
  | sidecar suffix =>
      rw [freshMetadata, hSource]
      exact bind_error hBasic

/-! ### Answers -/

theorem metadata_closed (hClosed : i.storage.isOpen w = false) :
    i.metadata w = (.error (.closed i.storage.name), w) := by
  apply Action.bind_error
  rw [Action.query_apply, validate_closed hClosed]

/-- What is remembered is answered at once. -/
theorem metadata_of_cached (hOpen : i.storage.isOpen w = true) (h : i.storage.cached? i.path w = some m) :
    i.metadata w = (.ok m, w) := by
  have hValidate := Action.query_eq_ok_iff.mpr ⟨validate_eq_ok hOpen, rfl⟩
  have hGet : (get : Action FileError World) w = (.ok w, w) := rfl
  rw [metadata, Action.bind_ok hValidate, Action.bind_ok hGet, h]
  rfl

theorem metadata_apply_of_not_cached (h : i.storage.cached? i.path w = none) :
    i.metadata w = match i.freshMetadata w with
      | .ok made => (.ok made, i.storage.remember i.path made w)
      | .error e => (.error e, w) := by
  cases hOpen : i.storage.isOpen w with
  | false => rw [metadata_closed hOpen, freshMetadata_closed hOpen]
  | true =>
      have hValidate := Action.query_eq_ok_iff.mpr ⟨validate_eq_ok hOpen, rfl⟩
      have hGet : (get : Action FileError World) w = (.ok w, w) := rfl
      have hAsk := Action.query_apply i.freshMetadata w
      rw [metadata, Action.bind_ok hValidate, Action.bind_ok hGet, h]
      dsimp only
      cases hMade : i.freshMetadata w with
      | error e =>
          rw [hMade] at hAsk
          rw [Action.bind_error hAsk]
      | ok made =>
          rw [hMade] at hAsk
          rw [Action.bind_ok hAsk]
          rfl

/-- What is not remembered is made, and then remembered. -/
theorem metadata_of_not_cached (h : i.storage.cached? i.path w = none) :
    (i.metadata w).1 = i.freshMetadata w ∧ ((i.metadata w).2 = w ∨
      ∃ m, i.freshMetadata w = .ok m ∧ (i.metadata w).2 = i.storage.remember i.path m w) := by
  rw [metadata_apply_of_not_cached h]
  cases i.freshMetadata w with
  | error e => exact ⟨rfl, Or.inl rfl⟩
  | ok made => exact ⟨rfl, Or.inr ⟨made, rfl, rfl⟩⟩

end Item

end Cabinet
