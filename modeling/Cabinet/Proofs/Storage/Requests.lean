import Cabinet.Proofs.Storage.Clean

/-! What can come about of a storage with a tree of its own, while requests are made to it and anything
else happens elsewhere. No request is atomic, and many fail half way. -/

namespace Cabinet

/-- What may be asked of items and folders so that a storage changes. -/
inductive Request where
  | write (i : Item) (source : Source)
  | create (folder : Item) (name : String) (source : Source)
  | createFolder (folder : Item) (name : String)
  | delete (i : Item)
  | rename (i : Item) (name : String)
  | copyTo (i folder : Item)

namespace Request

/-- The storage that a request may change. Of a copy it is where the copy goes. -/
def storage : Request → Storage
  | write i _ => i.storage
  | create folder _ _ => folder.storage
  | createFolder folder _ => folder.storage
  | delete i => i.storage
  | rename i _ => i.storage
  | copyTo _ folder => folder.storage

/-- The item that a request is made to. Of a copy it is the folder where the copy goes. -/
def base : Request → Item
  | write i _ => i
  | create folder _ _ => folder
  | createFolder folder _ => folder
  | delete i => i
  | rename i _ => i
  | copyTo _ folder => folder

def perform : Request → Action FileError Unit
  | write i source => discard (i.write source)
  | create folder name source => discard (folder.create name source)
  | createFolder folder name => discard (folder.createFolder name)
  | delete i => i.delete
  | rename i name => discard (i.rename name)
  | copyTo i folder => discard (i.copyTo folder)

/-- A request keeps to a kind of entries that has room where names lead from its item. -/
theorem keeps_perform {Kind : StoragePath → Node → Prop} {P : StoragePath → Prop} (r : Request)
    (hRoom : r.storage.HasRoom Kind P) (hp : P r.base.path) :
    Action.Keeps (r.storage.Bears Kind) r.perform := by
  cases r with
  | write i source => exact (Item.keeps_write hRoom hp source).discard
  | create folder name source => exact (Item.keeps_create hRoom hp name source).discard
  | createFolder folder name => exact (Item.keeps_createFolder hRoom hp name).discard
  | delete i => exact Item.keeps_delete i
  | rename i name => exact (Item.keeps_rename hRoom hp name).discard
  | copyTo i folder => exact (Item.keeps_copyTo hRoom hp).discard

end Request

namespace Storage

/-- The states that come about of a storage: it begins with an empty tree of its own, and requests are
made to it. In between everything else may change, but nobody else changes the tree. -/
inductive Reached (s : Storage) : World → Prop where
  | fresh {w : World} {make : Nat → Storage} {cached : Bool}
      (hMade : (w.addTree.2.addStorage make cached).1 = s)
      (hPlace : s.backend = ⟨w.addTree.1, .plain⟩) :
      Reached s (w.addTree.2.addStorage make cached).2
  | elsewhere {w w' : World} (h : Reached s w) (hTree : ∀ t, s.Holds w t → s.Holds w' t) :
      Reached s w'
  | request {w : World} (h : Reached s w) (r : Request) (hTo : r.storage = s) :
      Reached s (r.perform w).2

variable {s : Storage} {w : World}

theorem Reached.tidy (h : s.Reached w) (hShown : s.options.showHidden = false) : s.Tidy w := by
  induction h with
  | fresh hMade hPlace =>
      refine ⟨.empty, ⟨_, hPlace, ?_⟩, .empty⟩
      exact List.getElem?_concat_length
  | elsewhere h hTree ih =>
      obtain ⟨t, hHolds, hClean⟩ := ih
      exact ⟨t, hTree t hHolds, hClean⟩
  | request h r hTo ih =>
      subst hTo
      exact r.keeps_perform (hasRoom_clean hShown) trivial _ ih

/-- In every state that comes about of a storage which shows no hidden entries, the root is a folder
and every other entry lies in one, no segment begins with a dot, and no file is too long. -/
theorem reached_clean (h : s.Reached w) (hShown : s.options.showHidden = false) :
    ∃ t, s.Holds w t ∧ t.get? .root = some .folder ∧
      ∀ p n, (p, n) ∈ t.entries →
        (p ≠ .root → t.get? p.folder = some .folder) ∧
        (∀ segment ∈ p.segments, segment.toList.head? ≠ some '.') ∧
        ∀ contents limit, n = .file contents → s.options.sizeLimit = some limit →
          contents.length ≤ limit := by
  obtain ⟨t, hHolds, hClean⟩ := h.tidy hShown
  refine ⟨t, hHolds, hClean.root, fun p n hEntry => ?_⟩
  have hFound := hClean.ordered.get?_eq_some_iff_mem.mpr hEntry
  refine ⟨fun hp => ?_, fun segment hSegment hDot => ?_, fun contents limit hFile hLimit => ?_⟩
  · exact hClean.inFolder hFound
      (Bool.eq_false_iff.mpr fun hRoot => hp (StoragePath.isRoot_iff.mp hRoot))
  · have hShownPath := hClean.shown hFound
    rw [StoragePath.isHidden, List.any_eq_false] at hShownPath
    exact hShownPath segment hSegment (beq_iff_eq.mpr hDot)
  · subst hFile
    exact exceeds_eq_false_iff.mp (hClean.fits hFound) limit hLimit

/-- A file in a folder made for it, and a longer one that fails half way over it. -/
theorem reached_clean_interrupted :
    let s : Storage := ⟨0, "main", ⟨.memory 0, .plain⟩, ⟨some 3, false, false⟩, .byName, .basic⟩
    let w₀ := (World.empty.addTree.2.addStorage (fun _ => s) true).2
    let w₁ := ((Request.create ⟨s, .root⟩ "d/f" (.feed [.bytes [1, 2], .bytes [3]])).perform w₀).2
    let w₂ := ((Request.write ⟨s, ⟨["d", "f"]⟩⟩ (.feed [.bytes [4], .bytes [5, 6, 7]])).perform w₁).2
    s.Reached w₂ ∧ s.options.showHidden = false ∧
      ∃ t, s.Holds w₂ t ∧ t.file? ⟨["d", "f"]⟩ = some [1, 2, 3] ∧
        ∀ p n, (p, n) ∈ t.entries → ∀ segment ∈ p.segments, segment.toList.head? ≠ some '.' := by
  intro s w₀ w₁ w₂
  have hFresh : s.Reached w₀ := .fresh rfl rfl
  have hReached : s.Reached w₂ := (hFresh.request _ rfl).request _ rfl
  obtain ⟨t, hHolds, -, hEntries⟩ := reached_clean hReached rfl
  have hLeft : s.Holds w₂ ((Tree.empty.put ⟨["d"]⟩ .folder).put ⟨["d", "f"]⟩ (.file [1, 2, 3])) :=
    ⟨0, rfl, by decide⟩
  refine ⟨hReached, rfl, t, hHolds, ?_, fun p n hEntry => (hEntries p n hEntry).2.1⟩
  rw [hHolds.unique hLeft]
  rfl

end Storage

end Cabinet
