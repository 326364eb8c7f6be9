import Cabinet.Proofs.Storage.Writing
import Cabinet.Storage.Change

/-! Trees told entry by entry. A request puts entries at few paths: where its item is or a name leads from
there, on the way to that, and below it what is moved there. Where a kind of entries has room at these, a
storage with a tree of its own keeps to the kind, whatever is asked of it and however that ends. -/

namespace Cabinet

variable {Kind : StoragePath → Node → Prop} {P : StoragePath → Prop} {limit : Option Nat} {t t' : Tree}
  {p q source target : StoragePath}

/-- A tree with a root and with entries of one kind. -/
structure Tree.Bears (Kind : StoragePath → Node → Prop) (t : Tree) : Prop extends t.WellFormed where
  root : t.get? .root = some .folder
  kind {p : StoragePath} {n : Node} (h : t.get? p = some n) : Kind p n

/-- Entries of a kind may come at a path: folders on the way there, files that are not too long, and what
is moved there with all that is below. -/
structure StoragePath.HasRoom (Kind : StoragePath → Node → Prop) (limit : Option Nat) (p : StoragePath) :
    Prop where
  folder {q : StoragePath} (h : p.startsWith q = true) : Kind q .folder
  file {contents : Bytes} (h : exceeds contents.length limit = false) : Kind p (.file contents)
  moved {q : StoragePath} {rest : List String} {n : Node} (h : Kind (q.down rest) n) : Kind (p.down rest) n

namespace Tree.Bears

theorem empty (h : Kind .root .folder) : Bears Kind .empty where
  toWellFormed := wellFormed_empty
  root := rfl
  kind hFound := by
    obtain ⟨rfl, rfl⟩ := Prod.mk.inj (List.mem_singleton.mp (Entries.mem_of_get? hFound))
    exact h

theorem thins (h : t.Bears Kind) (hThins : Thins t t') : t'.Bears Kind where
  toWellFormed := hThins.wellFormed h.toWellFormed
  root := hThins.root h.root
  kind hFound := h.kind (hThins.found hFound)

theorem createFolders (h : t.Bears Kind) (hFolders : ∀ q, p.startsWith q = true → Kind q .folder) :
    (t.createFolders p).2.Bears Kind where
  toWellFormed := h.toWellFormed.createFolders p
  root := get?_createFolders_of_some h.root
  kind {q n} hFound := by
    rcases get?_createFolders (t := t) (p := p) (q := q) with hKept | ⟨hBelow, -, hMade⟩
    · exact h.kind (hKept.symm.trans hFound)
    · obtain rfl := Option.some.inj (hMade.symm.trans hFound)
      exact hFolders q hBelow

theorem rename (h : t.Bears Kind) (hRoom : target.HasRoom Kind limit)
    (hRenamed : t.rename source target = .ok t') : t'.Bears Kind := by
  have hFormed := h.toWellFormed.rename hRenamed
  obtain ⟨-, hSource, hRoot, -, rfl⟩ := rename_eq_ok hRenamed
  refine ⟨hFormed, ?_, fun {q n} hFound => ?_⟩
  · rw [get?, Entries.get?_move_of_not_startsWith (StoragePath.not_root_startsWith hRoot),
      if_neg (Bool.eq_false_iff.mp (StoragePath.not_root_startsWith hSource))]
    exact h.root
  · rcases get?_move h.toWellFormed hFound with ⟨rest, rfl, hOld, -⟩ | ⟨-, -, hOld⟩
    · exact hRoom.moved (h.kind hOld)
    · exact h.kind hOld

end Tree.Bears

/-- However a write ends, what it leaves is of the kind. -/
theorem Item.WriteEnds.leaves_bears {i : Item} {source : Source} {w : World} {r : Except FileError Item}
    (h : i.WriteEnds source w t r t') (hFormed : t'.WellFormed) (hBears : t.Bears Kind)
    (hRoom : i.storage.hides i.path = false → i.path.HasRoom Kind i.storage.options.sizeLimit) :
    t'.Bears Kind := by
  have hPrepared (hAdmits : i.Admits source w t) : (i.prepared t).Bears Kind :=
    hBears.createFolders fun q hBelow =>
      (hRoom hAdmits.shown).folder (StoragePath.startsWith_trans StoragePath.startsWith_folder_self hBelow)
  have hNotDraft : StoragePath.root ≠ i.draft := (StoragePath.ne_root draft_isRoot).symm
  cases h with
  | refused => exact hBears
  | itself => exact hBears
  | blocked => exact hBears
  | unopened _ hAdmits => exact hPrepared hAdmits
  | cut _ hAdmits _ _ hLeft =>
      -- The draft is taken out again, and nothing else.
      have hBefore := hPrepared hAdmits
      refine hBefore.thins ⟨fun _ => hFormed, fun {q n} hn => ?_, fun hRoot => ?_⟩
      · rw [hLeft] at hn
        split at hn
        · cases hn
        · exact hn
      · rw [hLeft, if_neg hNotDraft, hRoot]
  | done hAdmits _ _ hArrives hLeft =>
      have hBefore := hPrepared hAdmits
      have hNotPath : StoragePath.root ≠ i.path := (StoragePath.ne_root hAdmits.notRoot).symm
      refine ⟨hFormed, ?_, fun {q n} hn => ?_⟩
      · rw [hLeft, if_neg hNotPath, if_neg hNotDraft, hBefore.root]
      · rw [hLeft] at hn
        split_ifs at hn with hHere
        · obtain rfl := Option.some.inj hn
          exact hHere ▸ (hRoom hAdmits.shown).file (by simpa using hArrives.2)
        · exact hBefore.kind hn

/-! ### Steps that keep to a kind -/

/-- The tree of a storage is there, with entries of one kind. -/
def Storage.Bears (s : Storage) (Kind : StoragePath → Node → Prop) (w : World) : Prop :=
  ∃ t, s.Holds w t ∧ t.Bears Kind

/-- Names lead from paths of some sort to such paths only, and where one is in sight, a kind of entries has
room in the storage. -/
structure Storage.HasRoom (s : Storage) (Kind : StoragePath → Node → Prop) (P : StoragePath → Prop) : Prop where
  folder {p : StoragePath} (hp : P p) : P p.folder
  resolve {p q : StoragePath} {name : String} (hp : P p) (h : p.resolve name = .ok q) : P q
  room {p : StoragePath} (hp : P p) (hShown : s.hides p = false) : p.HasRoom Kind s.options.sizeLimit

namespace Storage

open Cabinet.Action

variable {s : Storage}

theorem keeps_invalidate (p : StoragePath) :
    Keeps (s.Bears Kind) (modify (s.invalidate p) : Action FileError PUnit) :=
  Keeps.modify fun _ ⟨t, hHolds, hBears⟩ => ⟨t, hHolds.invalidate p, hBears⟩

/-- What changes the tree at once keeps to a kind if every success does. -/
theorem keeps_onTree (f : Tree → Except IoError Tree) (op : Backend → Action IoError Unit)
    (hOp : ∀ n, op ⟨.memory n, .plain⟩ = Action.onTree n f)
    (hf : ∀ t t', t.Bears Kind → f t = .ok t' → t'.Bears Kind) : Keeps (s.Bears Kind) (op s.backend) := by
  rintro w ⟨t, hHolds, hBears⟩
  obtain ⟨w', hRun, hAfter⟩ := hHolds.onTree f op hOp
  rw [hRun]
  cases hAnswer : f t with
  | error e => exact ⟨t, by rwa [hAnswer] at hAfter, hBears⟩
  | ok t' => exact ⟨t', by rwa [hAnswer] at hAfter, hf t t' hBears hAnswer⟩

theorem keeps_removeFile (p : StoragePath) : Keeps (s.Bears Kind) (s.backend.removeFile p) :=
  keeps_onTree (Tree.removeFile · p) (Backend.removeFile · p) (fun _ => rfl) fun _ _ hBears hRemoved =>
    hBears.thins (Tree.thins_removeFile hRemoved)

theorem keeps_removeFolder (p : StoragePath) : Keeps (s.Bears Kind) (s.backend.removeFolder p) :=
  keeps_onTree (Tree.removeFolder · p) (Backend.removeFolder · p) (fun _ => rfl)
    fun _ _ hBears hRemoved => hBears.thins (Tree.thins_removeFolder hRemoved)

theorem keeps_rename (hRoom : target.HasRoom Kind limit) :
    Keeps (s.Bears Kind) (s.backend.rename source target) :=
  keeps_onTree (Tree.rename · source target) (Backend.rename · source target) (fun _ => rfl)
    fun _ _ hBears hRenamed => hBears.rename hRoom hRenamed

theorem keeps_createFolders (hFolders : ∀ q, p.startsWith q = true → Kind q .folder) :
    Keeps (s.Bears Kind) (s.backend.createFolders p) := by
  rintro w ⟨t, hHolds, hBears⟩
  obtain ⟨w', hRun, hAfter⟩ := hHolds.createFolders p
  rw [hRun]
  exact ⟨_, hAfter, hBears.createFolders hFolders⟩

theorem keeps_prepareParent (hRoom : p.HasRoom Kind limit) : Keeps (s.Bears Kind) (s.prepareParent p) := by
  rw [prepareParent]
  cases hRoot : p.isRoot with
  | true =>
      rw [StoragePath.parent?, hRoot]
      exact Keeps.pure _
  | false =>
      rw [StoragePath.parent?_eq hRoot]
      exact (Keeps.query _).bind fun _ _ _ => (keeps_createFolders fun q hBelow =>
        hRoom.folder (StoragePath.startsWith_trans StoragePath.startsWith_folder_self hBelow)).mapError

end Storage

/-! ### Requests -/

namespace Item

open Cabinet.Action

variable {i folder found made : Item} {name : String} {w : World}

theorem keeps_write (hRoom : i.storage.HasRoom Kind P) (hp : P i.path) (source : Source) :
    Keeps (i.storage.Bears Kind) (i.write source) := by
  rintro w ⟨t, hHolds, hBears⟩
  obtain ⟨r, w', t', hRun, hAfter, hFormed, hEnds⟩ := write_ends hHolds hBears.toWellFormed source
  rw [hRun]
  exact ⟨t', hAfter, hEnds.leaves_bears hFormed hBears (hRoom.room hp)⟩

theorem file_eq_ok (h : i.file name w = .ok found) :
    i.path.resolve name = .ok found.path ∧ found.storage = i.storage := by
  rw [file_apply] at h
  split at h
  · cases hName : i.path.resolve name with
    | error e =>
        rw [hName] at h
        cases h
    | ok p =>
        rw [hName] at h
        obtain rfl := Except.ok.inj h
        exact ⟨rfl, rfl⟩
  · cases h

theorem storage_of_file (h : i.file name w = .ok found) : found.storage = i.storage :=
  (file_eq_ok h).2

theorem keeps_create (hRoom : i.storage.HasRoom Kind P) (hp : P i.path) (name : String) (source : Source) :
    Keeps (i.storage.Bears Kind) (i.create name source) := by
  refine (Keeps.query _).bind fun w target hTarget => ?_
  obtain ⟨hName, hSame⟩ := file_eq_ok hTarget
  have hKeeps := keeps_write (hSame ▸ hRoom) (hRoom.resolve hp hName) source
  rwa [hSame] at hKeeps

theorem keeps_createFolder (hRoom : i.storage.HasRoom Kind P) (hp : P i.path) (name : String) :
    Keeps (i.storage.Bears Kind) (i.createFolder name) := by
  refine (Keeps.query _).bind fun _ target hTarget => (Keeps.except _).bind fun _ _ _ =>
    Keeps.guard fun hHides => (Keeps.query _).bind fun _ found _ => ?_
  have hPath := hRoom.room (hRoom.resolve hp (file_eq_ok hTarget).1) (Bool.not_eq_true _ ▸ hHides)
  cases found with
  | some m =>
      dsimp only
      split
      · exact Keeps.pure _
      · exact Keeps.throw _
  | none =>
      exact (Storage.keeps_prepareParent hPath).bind fun _ _ _ =>
        (Storage.keeps_createFolders fun _ => hPath.folder).mapError.bind fun _ _ _ =>
          (Storage.keeps_invalidate _).bind fun _ _ _ => Keeps.pure _

/-- The folder that is made is where its name leads. -/
theorem file_of_createFolder (h : (i.createFolder name w).1 = .ok made) : i.file name w = .ok made := by
  obtain ⟨target, w₁, hTarget, h⟩ := bind_eq_ok h
  have hFile : i.file name w = .ok target := congrArg Prod.fst hTarget
  rw [hFile]
  obtain ⟨_, w₂, -, h⟩ := bind_eq_ok h
  split at h
  · cases h
  · obtain ⟨found, w₃, -, h⟩ := bind_eq_ok h
    cases found with
    | some m =>
        dsimp only at h
        split at h
        · exact h
        · cases h
    | none =>
        obtain ⟨_, w₄, -, h⟩ := bind_eq_ok h
        obtain ⟨_, w₅, -, h⟩ := bind_eq_ok h
        obtain ⟨_, w₆, -, h⟩ := bind_eq_ok h
        exact h

theorem storage_of_createFolder (h : (i.createFolder name w).1 = .ok made) : made.storage = i.storage :=
  storage_of_file (file_of_createFolder h)

theorem keeps_removeEach (s : Storage) (paths : List StoragePath) :
    Keeps (s.Bears Kind) (removeEach s.backend paths) := by
  induction paths with
  | nil => exact Keeps.pure _
  | cons p rest ih =>
      refine (Keeps.query _).bind fun _ found _ => ?_
      cases found with
      | none => exact ih
      | some m =>
          dsimp only
          split
          · exact (Storage.keeps_removeFolder p).bind fun _ _ _ => ih
          · exact (Storage.keeps_removeFile p).bind fun _ _ _ => ih

theorem keeps_delete (i : Item) : Keeps (i.storage.Bears Kind) i.delete := by
  refine (Keeps.except _).bind fun _ _ _ => (Keeps.query _).bind fun _ m _ => ?_
  have hRemove : Keeps (i.storage.Bears Kind) (i.removeEntry m) := by
    rw [removeEntry]
    split_ifs
    · exact (Keeps.query _).bind fun _ _ _ => keeps_removeEach i.storage _
    · exact Storage.keeps_removeFolder i.path
    · exact Storage.keeps_removeFile i.path
  exact hRemove.mapError.bind fun _ _ _ => Storage.keeps_invalidate _

theorem resolve_of_sibling {target : Item} (h : i.sibling name = .ok target) :
    i.path.folder.resolve name = .ok target.path := by
  rw [sibling] at h
  cases hName : i.path.folder.resolve name with
  | error e =>
      rw [hName] at h
      cases h
  | ok p =>
      rw [hName] at h
      obtain rfl := Except.ok.inj h
      rfl

theorem keeps_rename (hRoom : i.storage.HasRoom Kind P) (hp : P i.path) (name : String) :
    Keeps (i.storage.Bears Kind) (i.rename name) := by
  refine (Keeps.except _).bind fun _ _ _ => (Keeps.query _).bind fun _ _ _ =>
    (Keeps.except _).bind fun _ target hTarget => ?_
  split
  · exact Keeps.pure _
  · refine Keeps.guard fun hHides => (Keeps.query _).bind fun _ _ _ => Keeps.guard fun _ => ?_
    have hPath := hRoom.room (hRoom.resolve (hRoom.folder hp) (resolve_of_sibling hTarget))
      (Bool.not_eq_true _ ▸ hHides)
    refine (Storage.keeps_prepareParent hPath).bind fun _ _ _ =>
      (Storage.keeps_rename hPath).mapError.bind fun _ _ _ => ?_
    exact (Keeps.modify fun _ ⟨t, hHolds, hBears⟩ =>
      ⟨t, (hHolds.invalidate _).invalidate _, hBears⟩).bind fun _ _ _ => Keeps.pure _

/-- A copy changes the storage that it goes to. -/
theorem keeps_copyDown (levels : Nat) (hRoom : folder.storage.HasRoom Kind P) (hp : P folder.path) :
    Keeps (folder.storage.Bears Kind) (copyDown levels i folder) := by
  induction levels generalizing i folder with
  | zero => exact Keeps.throw _
  | succ levels ih =>
      refine (Keeps.query _).bind fun _ m _ => ?_
      split
      · exact keeps_create hRoom hp i.name (.item i)
      · refine Keeps.guard fun _ => (Keeps.query _).bind fun _ children _ =>
          (keeps_createFolder hRoom hp i.name).bind fun w copy hCopy => ?_
        -- The children go to the copy, which is an item of the same storage.
        obtain ⟨hName, hSame⟩ := file_eq_ok (file_of_createFolder hCopy)
        refine (Keeps.forM fun child _ => ?_).bind fun _ _ _ => Keeps.pure _
        have hKeeps := ih (i := child) (hSame ▸ hRoom) (hRoom.resolve hp hName)
        rw [hSame] at hKeeps
        exact hKeeps.discard

theorem keeps_copyTo (hRoom : folder.storage.HasRoom Kind P) (hp : P folder.path) :
    Keeps (folder.storage.Bears Kind) (i.copyTo folder) :=
  Keeps.get.bind fun _ _ _ => keeps_copyDown _ hRoom hp

end Item

end Cabinet
