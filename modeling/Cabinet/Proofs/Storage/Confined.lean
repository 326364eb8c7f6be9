import Cabinet.Proofs.Storage.Clean
import Cabinet.Proofs.Storage.Disk
import Cabinet.Proofs.Storage.Frame

/-! What a storage does stays in its place. Whatever is asked of it, what changes is at the place of the
storage's entries, or in its cache, however the action ends; a property that does not depend on those is
kept. So the other trees, the disk of a storage in memory, and whether storages are open are as before. On
a disk no entry comes to have an empty name. -/

namespace Cabinet

variable {w₀ w : World} {place : Place} {n : Nat} {s : Storage} {p : StoragePath}

/-- Changes at a place leave a property of the world alone. -/
structure Place.Leaves (place : Place) (P : World → Prop) : Prop where
  setTree {w : World} {n : Nat} (hPlace : place = .memory n) (h : P w) (t : Tree) : P (w.setTree n t)
  setDisk {w : World} {root : List String} {disk : Disk} (hPlace : place = .directory root) (h : P w)
    (hDisk : w.disk.Named → disk.Named) : P { w with disk }

/-- Changes of the entries of a storage, and of what it remembers, leave a property of the world alone. -/
structure Storage.Leaves (s : Storage) (P : World → Prop) : Prop extends s.backend.place.Leaves P where
  invalidate {w : World} (h : P w) (p : StoragePath) : P (s.invalidate p w)

/-- Of two worlds only what is at a place differs, and caches. -/
structure World.SameBut (place : Place) (w w' : World) : Prop where
  disk (h : ∀ root, place ≠ .directory root) : w'.disk = w.disk
  named (h : w.disk.Named) : w'.disk.Named
  tree (n : Nat) (h : place ≠ .memory n) : w'.trees[n]? = w.trees[n]?
  isOpen (s : Storage) : s.isOpen w' = s.isOpen w

namespace World.SameBut

theorem refl (place : Place) (w : World) : w.SameBut place w :=
  ⟨fun _ => rfl, fun h => h, fun _ _ => rfl, fun _ => rfl⟩

theorem setTree (h : w₀.SameBut (.memory n) w) (t : Tree) : w₀.SameBut (.memory n) (w.setTree n t) where
  disk := h.disk
  named := h.named
  tree m hOther := by
    have hNumber : n ≠ m := fun hSame => hOther (hSame ▸ rfl)
    rw [World.setTree, List.getElem?_set_ne hNumber, h.tree m hOther]
  isOpen := h.isOpen

theorem setDisk {root : List String} {disk : Disk} (h : w₀.SameBut (.directory root) w)
    (hDisk : w.disk.Named → disk.Named) : w₀.SameBut (.directory root) { w with disk } where
  disk hOther := absurd rfl (hOther root)
  named hNamed := hDisk (h.named hNamed)
  tree := h.tree
  isOpen := h.isOpen

theorem isOpen_onCache (f : Cache → Cache) (s r : Storage) : r.isOpen (s.onCache f w) = r.isOpen w := by
  rw [Storage.isOpen, Storage.isOpen, Storage.onCache, World.session, World.setSession,
    List.getD_eq_getElem?_getD, List.getElem?_set]
  split
  · rename_i hNumber
    split
    · rw [Option.getD_some, ← hNumber]
    · rename_i hBeyond
      rw [World.session, List.getD_eq_getElem?_getD,
        List.getElem?_eq_none (Nat.le_of_not_lt (hNumber ▸ hBeyond))]
  · rw [World.session, List.getD_eq_getElem?_getD]

theorem invalidate (h : w₀.SameBut place w) (s : Storage) (p : StoragePath) :
    w₀.SameBut place (s.invalidate p w) where
  disk := h.disk
  named := h.named
  tree := h.tree
  isOpen r := (isOpen_onCache _ s r).trans (h.isOpen r)

/-- What differs only at a place does so after further changes there. -/
theorem leaves (w : World) (s : Storage) : s.Leaves (w.SameBut s.backend.place) where
  setTree hPlace h t := by
    rw [hPlace] at h ⊢
    exact h.setTree t
  setDisk hPlace h hDisk := by
    rw [hPlace] at h ⊢
    exact h.setDisk hDisk
  invalidate h p := h.invalidate s p

/-- What a storage holds elsewhere is there still. -/
theorem holds {t : Tree} (h : w₀.SameBut place w) (hHolds : s.Holds w₀ t)
    (hPlace : s.backend.place ≠ place) : s.Holds w t := by
  obtain ⟨m, hBackend, hTree⟩ := hHolds
  have hOther : place ≠ .memory m := fun hSame => hPlace (by rw [hBackend, hSame])
  exact ⟨m, hBackend, (h.tree m hOther).trans hTree⟩

end World.SameBut

/-! ### Writers -/

/-- A writer puts what it is given at a place. -/
def Sink.IsAt (place : Place) : Sink → Prop
  | .memory n _ _ _ => place = .memory n
  | .file _ _ _ => ∃ root, place = .directory root

variable {P : World → Prop} {sink : Sink} {x : Writer}

theorem Sink.isAt_commit (hP : place.Leaves P) (hAt : sink.IsAt place) (h : P w) :
    (sink.commit w).1.IsAt place ∧ P (sink.commit w).2 := by
  cases sink with
  | memory m p gathered dirty =>
      obtain rfl := hAt
      cases dirty with
      | true => exact ⟨rfl, hP.setTree rfl h _⟩
      | false => exact ⟨rfl, h⟩
  | file number offset pending =>
      obtain ⟨root, rfl⟩ := hAt
      rw [commit]
      split
      · exact ⟨⟨root, rfl⟩, h⟩
      · exact ⟨⟨root, rfl⟩, hP.setDisk rfl h fun hNamed => hNamed.writeAt _ _ _⟩

theorem Sink.isAt_write (hP : place.Leaves P) (bytes : Bytes) (hAt : sink.IsAt place) (h : P w) :
    (sink.write bytes w).1.IsAt place ∧ P (sink.write bytes w).2 := by
  cases sink with
  | memory m p gathered dirty => exact ⟨hAt, h⟩
  | file number offset pending =>
      obtain ⟨root, rfl⟩ := hAt
      have hFile (o : Nat) (bytes : Bytes) : (Sink.file number o bytes).IsAt (.directory root) := ⟨root, rfl⟩
      by_cases hRoom : pending.length + bytes.length < capacity
      · rw [write, if_pos hRoom]
        exact ⟨hFile _ _, h⟩
      · by_cases hOver : capacity < pending.length + bytes.length
        · have hStored := isAt_commit hP (hFile offset pending) h
          obtain ⟨stored, w₁, hCommit⟩ : ∃ stored w₁,
              (Sink.file number offset pending).commit w = (stored, w₁) := ⟨_, _, rfl⟩
          rw [hCommit] at hStored
          simp only [write, if_neg hRoom, if_pos hOver, hCommit]
          cases stored with
          | memory m p gathered dirty => exact hStored
          | file number offset pending =>
              dsimp only
              split
              · exact isAt_commit hP ⟨root, rfl⟩ hStored.2
              · exact hStored
        · simp only [write, if_neg hRoom, if_neg hOver]
          split
          · exact isAt_commit hP (hFile _ _) h
          · exact ⟨hFile _ _, h⟩

theorem Writer.isAt_write (hP : place.Leaves P) (bytes : Bytes) (hAt : x.sink.IsAt place) (h : P w) :
    (x.write bytes w).2.1.sink.IsAt place ∧ P (x.write bytes w).2.2 := by
  rw [write]
  split
  · exact ⟨hAt, h⟩
  · rw [writeOnce]
    cases x.rig.check .write with
    | error e => exact ⟨hAt, h⟩
    | ok _ => exact Sink.isAt_write hP bytes hAt h

theorem Writer.isAt_flush (hP : place.Leaves P) (hAt : x.sink.IsAt place) (h : P w) :
    (x.flush w).2.1.sink.IsAt place ∧ P (x.flush w).2.2 := by
  rw [flush]
  cases x.rig.check .flush with
  | error e => exact ⟨hAt, h⟩
  | ok _ => exact Sink.isAt_commit hP hAt h

theorem isAt_pour (hP : place.Leaves P) (path : StoragePath) (limit : Option Nat) (total : Nat)
    (reads : List Delivery) (hAt : x.sink.IsAt place) (h : P w) :
    (pour path limit total reads x w).2.1.sink.IsAt place ∧
      P (pour path limit total reads x w).2.2 := by
  induction reads generalizing total x w with
  | nil => exact ⟨hAt, h⟩
  | cons d reads ih =>
      cases d with
      | interrupted => exact ih total hAt h
      | failed e => exact ⟨hAt, h⟩
      | bytes piece =>
          rw [pour]
          split_ifs
          · exact ⟨hAt, h⟩
          · exact ⟨hAt, h⟩
          · have hWritten := x.isAt_write hP piece hAt h
            obtain ⟨r, x', w', hRun⟩ : ∃ r x' w', x.write piece w = (r, x', w') := ⟨_, _, _, rfl⟩
            rw [hRun] at hWritten ⊢
            cases r with
            | error e => exact hWritten
            | ok _ => exact ih _ hWritten.1 hWritten.2

/-! ### Operations -/

open Cabinet.Action

namespace Backend

variable {b : Backend}

/-- An operation that is made to fail changes nothing. -/
theorem keeps_check {α : Type} {r : Except IoError Unit} {a : Action IoError α}
    (h : Keeps P a) : Keeps P fun w => match r with
      | .error e => (.error e, w)
      | .ok _ => a w := by
  cases r with
  | error e => exact Keeps.throw e
  | ok _ => exact h

theorem keeps_createFolders (hP : b.place.Leaves P) (p : StoragePath) : Keeps P (b.createFolders p) := by
  apply keeps_check
  intro w h
  cases hPlace : b.place with
  | memory n => exact hP.setTree hPlace h _
  | directory root =>
      exact hP.setDisk hPlace h fun hNamed => Directory.named_createFolders hNamed root p

/-- What changes the tree or the disk at once stays there. -/
theorem keeps_at (hP : place.Leaves P) (f : Tree → Except IoError Tree)
    (g : List String → Disk → Except IoError Disk) :
    (∀ root d d', d.Named → g root d = .ok d' → d'.Named) →
      Keeps P fun w => match place with
        | .memory n => onTree n f w
        | .directory root => onDisk (g root) w := by
  intro hg w h
  cases place with
  | memory n =>
      change P (onTree n f w).2
      rw [onTree]
      split
      · exact hP.setTree rfl h _
      · exact h
  | directory root =>
      change P (onDisk (g root) w).2
      rw [onDisk]
      split
      · rename_i hDone
        exact hP.setDisk rfl h fun hNamed => hg root _ _ hNamed hDone
      · exact h

theorem keeps_removeFile (hP : b.place.Leaves P) (p : StoragePath) : Keeps P (b.removeFile p) := by
  apply keeps_check
  exact keeps_at hP (Tree.removeFile · p) (fun root d => Directory.removeFile d root p)
    fun _ _ _ hNamed => Directory.named_removeFile hNamed

theorem keeps_removeFolder (hP : b.place.Leaves P) (p : StoragePath) : Keeps P (b.removeFolder p) := by
  apply keeps_check
  exact keeps_at hP (Tree.removeFolder · p) (fun root d => Directory.removeFolder d root p)
    fun _ _ _ hNamed => Directory.named_removeFolder hNamed

theorem keeps_rename (hP : b.place.Leaves P) (source target : StoragePath) :
    Keeps P (b.rename source target) := by
  apply keeps_check
  exact keeps_at hP (Tree.rename · source target) (fun root d => Directory.rename d root source target)
    fun _ _ _ hNamed => Directory.named_rename hNamed

theorem keeps_openWrite (hP : b.place.Leaves P) (p : StoragePath) : Keeps P (b.openWrite p) := by
  apply keeps_check
  intro w h
  cases hPlace : b.place with
  | memory n =>
      dsimp only
      split
      · exact h
      · exact hP.setTree hPlace h _
  | directory root =>
      dsimp only
      split
      · exact h
      · rename_i hMade
        exact hP.setDisk hPlace h fun hNamed => Directory.named_create hNamed hMade

/-- A backend's writer writes to its own place. -/
theorem isAt_openWrite {x : Writer} (h : (b.openWrite p w).1 = .ok x) : x.sink.IsAt b.place := by
  rw [openWrite] at h
  split at h
  · cases h
  · split at h
    · rename_i n hPlace
      split at h
      · cases h
      · obtain rfl := Except.ok.inj h
        exact hPlace
    · rename_i root hPlace
      split at h
      · cases h
      · obtain rfl := Except.ok.inj h
        exact ⟨root, hPlace⟩

end Backend

/-! ### Requests -/

namespace Storage.Leaves

variable {i folder : Item} {name : String}

theorem keeps_invalidate (hP : s.Leaves P) (p : StoragePath) :
    Keeps P (modify (s.invalidate p) : Action FileError PUnit) :=
  Keeps.modify fun _ h => hP.invalidate h p

theorem keeps_invalidate_both (hP : s.Leaves P) (p q : StoragePath) :
    Keeps P (modify fun w => s.invalidate q (s.invalidate p w) : Action FileError PUnit) :=
  Keeps.modify fun _ h => hP.invalidate (hP.invalidate h p) q

theorem prepareParent (hP : s.Leaves P) (p : StoragePath) : Keeps P (s.prepareParent p) := by
  rw [Storage.prepareParent]
  cases p.parent? with
  | none => exact Keeps.pure _
  | some parent =>
      exact (Keeps.query _).bind fun _ _ _ => (Backend.keeps_createFolders hP.toLeaves parent).mapError

theorem fillDraft (hP : i.storage.Leaves P) (stream : Stream) (hAt : x.sink.IsAt i.storage.backend.place) :
    Keeps P (i.fillDraft stream x) := by
  intro w h
  have hPoured := isAt_pour hP.toLeaves i.path i.storage.options.sizeLimit 0 (stream.reads w) hAt h
  obtain ⟨r, x', w', hRun⟩ : ∃ r x' w',
      pour i.path i.storage.options.sizeLimit 0 (stream.reads w) x w = (r, x', w') := ⟨_, _, _, rfl⟩
  rw [hRun] at hPoured
  rw [Item.fillDraft, hRun]
  cases r with
  | error e => exact (Sink.isAt_commit hP.toLeaves hPoured.1 hPoured.2).2
  | ok _ =>
      have hFlushed := x'.isAt_flush hP.toLeaves hPoured.1 hPoured.2
      exact (Sink.isAt_commit hP.toLeaves hFlushed.1 hFlushed.2).2

theorem settle (hP : i.storage.Leaves P) (stream : Stream) (hAt : x.sink.IsAt i.storage.backend.place) :
    Keeps P (i.settle (i.replace stream x)) := by
  have hReplace : Keeps P (i.replace stream x) :=
    (hP.fillDraft stream hAt).bind fun _ _ _ => (Backend.keeps_rename hP.toLeaves i.draft i.path).mapError
  intro w h
  have hReplaced := hReplace w h
  obtain ⟨r, w', hRun⟩ : ∃ r w', i.replace stream x w = (r, w') := ⟨_, _, rfl⟩
  rw [hRun] at hReplaced
  rw [Item.settle, hRun]
  cases r with
  | ok _ => exact hP.invalidate hReplaced _
  | error e => exact Backend.keeps_removeFile hP.toLeaves i.draft _ (hP.invalidate hReplaced _)

theorem carry (hP : i.storage.Leaves P) (source : Source) : Keeps P (i.carry source) := by
  refine (hP.prepareParent i.path).bind fun _ _ _ => (Keeps.query _).bind fun _ stream _ =>
    (Backend.keeps_openWrite hP.toLeaves i.draft).mapError.bind fun w x hOpened => ?_
  exact hP.settle stream (Backend.isAt_openWrite (mapError_eq_ok_iff.mp hOpened))

/-- A write leaves alone what does not depend on the entries and the cache of its storage. -/
theorem write (hP : i.storage.Leaves P) (source : Source) : Keeps P (i.write source) := by
  rw [Item.write_eq]
  refine (Keeps.query _).bind fun _ _ _ => (Keeps.except _).bind fun _ _ _ => Keeps.guard fun _ => ?_
  split
  · exact Keeps.pure _
  · exact (Keeps.query _).bind fun _ _ _ => hP.carry source

theorem create (hP : i.storage.Leaves P) (name : String) (source : Source) :
    Keeps P (i.create name source) := by
  intro w h
  rcases Item.create_cases i name source w with ⟨e, hRun⟩ | ⟨p, -, hRun⟩
  · rw [hRun]
    exact h
  · rw [hRun]
    exact write (i := ⟨i.storage, p⟩) hP source w h

theorem createFolder (hP : i.storage.Leaves P) (name : String) : Keeps P (i.createFolder name) := by
  refine (Keeps.query _).bind fun _ target hTarget => (Keeps.except _).bind fun _ _ _ =>
    Keeps.guard fun _ => (Keeps.query _).bind fun _ found _ => ?_
  cases found with
  | some m =>
      dsimp only
      split
      · exact Keeps.pure _
      · exact Keeps.throw _
  | none =>
      exact (hP.prepareParent target.path).bind fun _ _ _ =>
        (Backend.keeps_createFolders hP.toLeaves target.path).mapError.bind fun _ _ _ =>
          (hP.keeps_invalidate _).bind fun _ _ _ => Keeps.pure _

theorem removeEach (hP : s.Leaves P) (paths : List StoragePath) :
    Keeps P (Item.removeEach s.backend paths) := by
  induction paths with
  | nil => exact Keeps.pure _
  | cons p rest ih =>
      refine (Keeps.query _).bind fun _ found _ => ?_
      cases found with
      | none => exact ih
      | some m =>
          dsimp only
          split
          · exact (Backend.keeps_removeFolder hP.toLeaves p).bind fun _ _ _ => ih
          · exact (Backend.keeps_removeFile hP.toLeaves p).bind fun _ _ _ => ih

theorem removeEntry (hP : i.storage.Leaves P) (m : EntryMeta) : Keeps P (i.removeEntry m) := by
  rw [Item.removeEntry]
  split_ifs
  · exact (Keeps.query _).bind fun _ _ _ => hP.removeEach _
  · exact Backend.keeps_removeFolder hP.toLeaves i.path
  · exact Backend.keeps_removeFile hP.toLeaves i.path

theorem delete (hP : i.storage.Leaves P) : Keeps P i.delete :=
  (Keeps.except _).bind fun _ _ _ => (Keeps.query _).bind fun _ m _ =>
    (hP.removeEntry m).mapError.bind fun _ _ _ => hP.keeps_invalidate _

theorem rename (hP : i.storage.Leaves P) (name : String) : Keeps P (i.rename name) := by
  refine (Keeps.except _).bind fun _ _ _ => (Keeps.query _).bind fun _ _ _ =>
    (Keeps.except _).bind fun _ target _ => ?_
  split
  · exact Keeps.pure _
  · exact Keeps.guard fun _ => (Keeps.query _).bind fun _ _ _ => Keeps.guard fun _ =>
      (hP.prepareParent target.path).bind fun _ _ _ =>
        (Backend.keeps_rename hP.toLeaves i.path target.path).mapError.bind fun _ _ _ =>
          (hP.keeps_invalidate_both i.path target.path).bind fun _ _ _ => Keeps.pure _

/-- What a copy changes is in the storage that it goes to. -/
theorem copyDown (hP : folder.storage.Leaves P) (levels : Nat) (i : Item) :
    Keeps P (Item.copyDown levels i folder) := by
  induction levels generalizing i folder with
  | zero => exact Keeps.throw _
  | succ levels ih =>
      refine (Keeps.query _).bind fun _ m _ => ?_
      split
      · exact hP.create i.name (.item i)
      · refine Keeps.guard fun _ => (Keeps.query _).bind fun _ children _ =>
          (hP.createFolder i.name).bind fun w copy hCopy => ?_
        have hSame : copy.storage = folder.storage := Item.storage_of_createFolder hCopy
        exact (Keeps.forM fun child _ => (ih (hSame ▸ hP) child).discard).bind fun _ _ _ => Keeps.pure _

end Storage.Leaves

namespace Item

/-- A write changes nothing but what is at the place of its storage. -/
theorem keeps_write_elsewhere (i : Item) (source : Source) :
    Keeps (w₀.SameBut i.storage.backend.place) (i.write source) :=
  (World.SameBut.leaves w₀ i.storage).write source

theorem keeps_create_elsewhere (i : Item) (name : String) (source : Source) :
    Keeps (w₀.SameBut i.storage.backend.place) (i.create name source) :=
  (World.SameBut.leaves w₀ i.storage).create name source

theorem keeps_createFolder_elsewhere (i : Item) (name : String) :
    Keeps (w₀.SameBut i.storage.backend.place) (i.createFolder name) :=
  (World.SameBut.leaves w₀ i.storage).createFolder name

end Item

end Cabinet
