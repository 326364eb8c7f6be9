import Cabinet.Proofs.Storage.Clean
import Cabinet.Proofs.Storage.Describing

/-! All that can be asked without changing anything. A closed storage answers nothing. An open one answers
from what is in sight: where that is the same in two worlds, so are all answers. -/

namespace Cabinet

open Cabinet.Query

/-- What can be asked of an item, of the folder that it is, or of its storage; with the type of the answer. -/
inductive Inquiry : Type → Type where
  | native : Inquiry (Option String)
  | existence : Inquiry Bool
  | isFile : Inquiry Bool
  | isFolder : Inquiry Bool
  | isHidden : Inquiry Bool
  | isWritable : Inquiry Bool
  | size : Inquiry Nat
  | time : Inquiry Unit
  | contentType : Inquiry String
  | sizeLimit : Inquiry (Option Nat)
  | parent : Inquiry (Option Item)
  | reader : Inquiry Reader
  | bytes : Inquiry Bytes
  | text : Inquiry String
  | metadata : Inquiry Members
  | asFolder : Inquiry Item
  | file (name : String) : Inquiry Item
  | folder (name : String) : Inquiry Item
  | list (f : ListFilter) : Inquiry (List Item)
  | root : Inquiry Item
  | rootFile (name : String) : Inquiry Item
  | rootFolder (name : String) : Inquiry Item

/-- The answer, made afresh. -/
def Inquiry.ask {α : Type} (i : Item) : Inquiry α → Query FileError α
  | native => i.native?
  | existence => i.exists?
  | isFile => i.isFile
  | isFolder => i.isFolder
  | isHidden => i.isHidden
  | isWritable => i.isWritable
  | size => i.size
  | time => i.requireTime
  | contentType => i.contentType
  | sizeLimit => i.sizeLimit
  | parent => i.parent?
  | reader => i.openReader
  | bytes => i.readBytes
  | text => i.readText
  | metadata => i.freshMetadata
  | asFolder => i.asFolder
  | file name => i.file name
  | folder name => i.folder name
  | list f => i.list f
  | root => i.storage.root
  | rootFile name => i.storage.file name
  | rootFolder name => i.storage.folder name

variable {α : Type} {s : Storage} {i : Item} {w w' : World}

/-! ### Closed storages -/

/-- Nothing is answered of a closed storage. -/
theorem Inquiry.ask_closed (h : i.storage.isOpen w = false) (q : Inquiry α) :
    q.ask i w = .error (.closed i.storage.name) := by
  have hItem := Item.validate_closed h
  have hEntry := Item.requireEntry_closed h
  have hVisible : i.visibleEntry w = .error (.closed i.storage.name) := bind_error hItem
  have hReader : i.openReader w = .error (.closed i.storage.name) := bind_error hEntry
  have hBytes : i.readBytes w = .error (.closed i.storage.name) := bind_error hReader
  have hFolder : i.asFolder w = .error (.closed i.storage.name) := bind_error hEntry
  have hFile (name : String) : i.file name w = .error (.closed i.storage.name) := bind_error hItem
  have hRoot : i.storage.root w = .error (.closed i.storage.name) := bind_error hItem
  cases q with
  | native | isHidden | isWritable | contentType | sizeLimit | parent => exact bind_error hItem
  | existence | isFile | isFolder => exact bind_error hVisible
  | size | time => exact bind_error hEntry
  | reader => exact hReader
  | bytes => exact hBytes
  | text => exact bind_error hBytes
  | metadata => exact Item.freshMetadata_closed h
  | asFolder => exact hFolder
  | file name => exact hFile name
  | folder name => exact bind_error (hFile name)
  | list f => exact bind_error hFolder
  | root => exact hRoot
  | rootFile name | rootFolder name => exact bind_error hRoot

/-! ### Storages that show the same -/

theorem Item.SeesAlike.asFolder (h : i.SeesAlike w w') : Alike w w' i.asFolder := by
  refine h.requireEntry.bind fun m _ => ?_
  split
  · exact .pure _
  · exact .throw _

/-- A storage shows the same in two worlds: it is open in both or in neither, the same is told of what is in
sight, with the same contents, and the same is listed. -/
structure Storage.ShowsAlike (s : Storage) (w w' : World) : Prop where
  isOpen : s.isOpen w' = s.isOpen w
  entry {p : StoragePath} (hShown : s.hides p = false) : Alike w w' (s.entry p)
  openRead {p : StoragePath} (hShown : s.hides p = false) : Alike w w' (s.backend.openRead p)
  rest {p : StoragePath} {r : Reader} (hRead : s.backend.openRead p w = .ok r) : r.rest w' = r.rest w
  list (p : StoragePath) (f : ListFilter) : Alike w w' (Item.list ⟨s, p⟩ f)

namespace Storage.ShowsAlike

theorem seesAlike (h : s.ShowsAlike w w') (p : StoragePath) : Item.SeesAlike ⟨s, p⟩ w w' := ⟨h.isOpen, h.entry⟩

theorem isWritable (h : s.ShowsAlike w w') (p : StoragePath) : Alike w w' (Item.isWritable ⟨s, p⟩) := by
  refine (h.seesAlike p).validate.bind fun _ _ => ?_
  split
  · exact .pure false
  · rename_i hWritable
    rw [Bool.or_eq_true, not_or, Bool.not_eq_true] at hWritable
    refine (h.entry (Bool.eq_false_iff.mpr hWritable.2)).bind fun found _ => ?_
    cases found with
    | none => exact .pure true
    | some m => exact .pure _

theorem openReader (h : s.ShowsAlike w w') (p : StoragePath) : Alike w w' (Item.openReader ⟨s, p⟩) := by
  refine (h.seesAlike p).requireEntry.bind fun m hFound => Alike.guard fun _ => ?_
  obtain ⟨-, hShown, -⟩ := Item.requireEntry_eq_ok_iff.mp hFound
  exact (h.openRead hShown).mapError

theorem readBytes (h : s.ShowsAlike w w') (p : StoragePath) : Alike w w' (Item.readBytes ⟨s, p⟩) := by
  refine (h.openReader p).bind fun r hOpened => ?_
  obtain ⟨m, -, -, hRead⟩ := Item.openReader_eq_ok_iff.mp hOpened
  rw [Alike, h.rest hRead]

theorem readText (h : s.ShowsAlike w w') (p : StoragePath) : Alike w w' (Item.readText ⟨s, p⟩) := by
  refine (h.readBytes p).bind fun bytes _ => ?_
  split
  · exact .pure _
  · exact .throw _

theorem file (h : s.ShowsAlike w w') (p : StoragePath) (name : String) :
    Alike w w' (Item.file ⟨s, p⟩ name) :=
  (h.seesAlike p).validate.bind fun _ _ => (Alike.except _).bind fun _ _ => .pure _

theorem folder (h : s.ShowsAlike w w') (p : StoragePath) (name : String) :
    Alike w w' (Item.folder ⟨s, p⟩ name) := by
  refine (h.file p name).bind fun j hFound => ?_
  obtain ⟨s', q⟩ := j
  obtain rfl : s' = s := Item.storage_of_file hFound
  exact (h.seesAlike q).asFolder

theorem freshMetadata (h : s.ShowsAlike w w') (p : StoragePath) : Alike w w' (Item.freshMetadata ⟨s, p⟩) := by
  have hBasic := (h.seesAlike p).basicMetadata
  rw [Item.freshMetadata]
  cases hSource : s.metadataSource with
  | basic => exact hBasic
  | sidecar suffix =>
      refine Item.sidecarMetadata_alike_of_beside hBasic fun j hSibling _ => ?_
      obtain ⟨s', q⟩ := j
      obtain rfl : s' = s := Item.storage_of_sibling hSibling
      exact ⟨(h.seesAlike q).visibleEntry.bind fun _ _ => .pure _, fun _ => h.readBytes q⟩

/-- What is answered from a cache is the same as long as the same is remembered. -/
theorem metadata (h : s.ShowsAlike w w') {p : StoragePath} (hCached : s.cached? p w' = s.cached? p w) :
    (Item.metadata ⟨s, p⟩ w').1 = (Item.metadata ⟨s, p⟩ w).1 := by
  cases hOpen : s.isOpen w with
  | false =>
      rw [Item.metadata_closed (i := ⟨s, p⟩) hOpen, Item.metadata_closed (i := ⟨s, p⟩) (h.isOpen.trans hOpen)]
  | true =>
      cases hKnown : s.cached? p w with
      | none =>
          rw [(Item.metadata_of_not_cached (i := ⟨s, p⟩) hKnown).1,
            (Item.metadata_of_not_cached (i := ⟨s, p⟩) (hCached.trans hKnown)).1, h.freshMetadata p]
      | some m =>
          rw [Item.metadata_of_cached (i := ⟨s, p⟩) hOpen hKnown,
            Item.metadata_of_cached (i := ⟨s, p⟩) (h.isOpen.trans hOpen) (hCached.trans hKnown)]

theorem root (h : s.ShowsAlike w w') : Alike w w' s.root :=
  (h.seesAlike .root).validate.bind fun _ _ => .pure _

end Storage.ShowsAlike

/-- Where a storage shows the same, all answers are the same. -/
theorem Inquiry.ask_alike (h : i.storage.ShowsAlike w w') (q : Inquiry α) : Alike w w' (q.ask i) := by
  have hSees := h.seesAlike i.path
  have hRoot {j : Item} (hj : i.storage.root w = .ok j) : j = ⟨i.storage, .root⟩ := by
    obtain ⟨_, -, hj⟩ := bind_eq_ok_iff.mp hj
    exact (Except.ok.inj hj).symm
  cases q with
  | native | isHidden | sizeLimit | parent => exact hSees.validate.bind fun _ _ => .pure _
  | existence | isFile => exact hSees.visibleEntry.bind fun _ _ => .pure _
  | isFolder => exact hSees.isFolder
  | isWritable => exact h.isWritable i.path
  | size => exact hSees.size
  | time => exact hSees.requireTime
  | contentType => exact hSees.contentType
  | reader => exact h.openReader i.path
  | bytes => exact h.readBytes i.path
  | text => exact h.readText i.path
  | metadata => exact h.freshMetadata i.path
  | asFolder => exact hSees.asFolder
  | file name => exact h.file i.path name
  | folder name => exact h.folder i.path name
  | list f => exact h.list i.path f
  | root => exact h.root
  | rootFile name => exact h.root.bind fun j hj => hRoot hj ▸ h.file .root name
  | rootFolder name => exact h.root.bind fun j hj => hRoot hj ▸ h.folder .root name

end Cabinet
