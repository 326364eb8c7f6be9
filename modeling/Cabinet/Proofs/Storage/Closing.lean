import Cabinet.Proofs.Storage.Overlooking

/-! Closing a storage and opening it again. A closed storage refuses whatever is asked or requested of it, and
nothing changes thereby. Once it is open again everything goes on as if it had never been closed, whatever has
been done elsewhere meanwhile; only what it remembered is forgotten. -/

namespace Cabinet

variable {s r : Storage} {known : Storage → Prop} {f : World → World} {w v w' v' w₀ v₀ : World} {p : StoragePath}

/-! ### Refusals -/

/-- A request is made of a storage: to one of its items, or for a copy from it or into it. -/
def Request.IsOf (s : Storage) : Request → Prop
  | .copyTo i folder => i.storage = s ∨ folder.storage = s
  | r => r.storage = s

/-- There is something to copy: an item that is there to be seen, which can be listed unless it is a file. -/
def Item.CanBeCopied (i : Item) (w : World) : Prop :=
  ∃ m, i.requireEntry w = .ok m ∧ (m.isFile = false → ∃ children, i.list .all w = .ok children)

/-- Everything is refused of a storage, and nothing changes. It is refused because the storage is closed,
except that the storage may be read-only, or that there may be nothing to copy into it. -/
structure Storage.Refuses (s : Storage) (w : World) : Prop where
  ask {α : Type} (p : StoragePath) (q : Inquiry α) : q.ask ⟨s, p⟩ w = .error (.closed s.name)
  metadata (p : StoragePath) : Item.metadata ⟨s, p⟩ w = (.error (.closed s.name), w)
  write (p : StoragePath) (source : Source) : Item.write ⟨s, p⟩ source w = (.error (.closed s.name), w)
  create (p : StoragePath) (name : String) (source : Source) :
    Item.create ⟨s, p⟩ name source w = (.error (.closed s.name), w)
  createFolder (p : StoragePath) (name : String) : Item.createFolder ⟨s, p⟩ name w = (.error (.closed s.name), w)
  copyFrom (p : StoragePath) (folder : Item) : Item.copyTo ⟨s, p⟩ folder w = (.error (.closed s.name), w)
  copyInto (i : Item) (p : StoragePath) : ∃ e, i.copyTo ⟨s, p⟩ w = (.error e, w) ∧
    (i.CanBeCopied w → e = .closed s.name)
  delete (p : StoragePath) : ∃ e, Item.delete ⟨s, p⟩ w = (.error e, w) ∧
    (s.options.readOnly = false → e = .closed s.name)
  rename (p : StoragePath) (name : String) : ∃ e, Item.rename ⟨s, p⟩ name w = (.error e, w) ∧
    (s.options.readOnly = false → e = .closed s.name)

namespace Item

open Cabinet.Action

variable {i : Item}

/-- What looks for an entry once it is clear that the storage is no read-only one is refused of a closed
storage. -/
theorem refused_of_checkWritable {α : Type} {f : EntryMeta → Action FileError α} (h : i.storage.isOpen w = false) :
    ∃ e, ((liftM i.storage.checkWritable : Action FileError Unit) >>= fun _ =>
      (liftM i.requireEntry : Action FileError EntryMeta) >>= f) w = (.error e, w) ∧
        (i.storage.options.readOnly = false → e = .closed i.storage.name) := by
  cases hReadOnly : i.storage.options.readOnly with
  | true =>
      have hCheck : (liftM i.storage.checkWritable : Action FileError Unit) w =
          (.error (.readOnly i.storage.name), w) := by
        rw [Storage.checkWritable, hReadOnly]
        rfl
      exact ⟨_, bind_error hCheck, fun hNever => absurd hNever (by decide)⟩
  | false =>
      have hCheck : (liftM i.storage.checkWritable : Action FileError Unit) w = (.ok (), w) := by
        rw [Storage.checkWritable, hReadOnly]
        rfl
      exact ⟨_, (bind_ok hCheck).trans (query_bind_error (requireEntry_closed h)), fun _ => rfl⟩

theorem create_closed (h : i.storage.isOpen w = false) (name : String) (source : Source) :
    i.create name source w = (.error (.closed i.storage.name), w) :=
  query_bind_error ((Inquiry.file name).ask_closed h)

theorem createFolder_closed (h : i.storage.isOpen w = false) (name : String) :
    i.createFolder name w = (.error (.closed i.storage.name), w) :=
  query_bind_error ((Inquiry.file name).ask_closed h)

theorem copyDown_from_closed (h : i.storage.isOpen w = false) (levels : Nat) (folder : Item) :
    copyDown (levels + 1) i folder w = (.error (.closed i.storage.name), w) :=
  query_bind_error (requireEntry_closed h)

/-- Nothing comes of a copy into a closed storage. The item to copy is looked at first. -/
theorem copyDown_into_closed (levels : Nat) (i folder : Item) (h : folder.storage.isOpen w = false) :
    ∃ e, copyDown (levels + 1) i folder w = (.error e, w) ∧
      (i.CanBeCopied w → e = .closed folder.storage.name) := by
  cases hEntry : i.requireEntry w with
  | error e =>
      refine ⟨e, query_bind_error hEntry, ?_⟩
      rintro ⟨m, hFound, -⟩
      cases hEntry.symm.trans hFound
  | ok m =>
      rw [copyDown, query_bind_ok hEntry]
      cases hKind : m.isFile with
      | true =>
          rw [if_pos rfl]
          exact ⟨_, create_closed h _ _, fun _ => rfl⟩
      | false =>
          have hApart : (folder.storage.same i.storage && folder.path.startsWith i.path) = false := by
            refine Bool.eq_false_iff.mpr fun hInto => ?_
            have hOpen : i.storage.isOpen w = true := (requireEntry_eq_ok_iff.mp hEntry).1
            have hNumber : folder.storage.number = i.storage.number :=
              beq_iff_eq.mp (Bool.and_eq_true_iff.mp hInto).1
            rw [Storage.isOpen, hNumber] at h
            cases h.symm.trans hOpen
          rw [if_neg Bool.false_ne_true, hApart, if_neg Bool.false_ne_true]
          cases hListed : i.list .all w with
          | error e =>
              refine ⟨e, query_bind_error hListed, ?_⟩
              rintro ⟨m', hFound, hChildren⟩
              obtain rfl := Except.ok.inj (hEntry.symm.trans hFound)
              obtain ⟨children, hThere⟩ := hChildren hKind
              cases hListed.symm.trans hThere
          | ok children =>
              exact ⟨_, (query_bind_ok hListed).trans (bind_error (createFolder_closed h _)), fun _ => rfl⟩

end Item

theorem Backend.exists_levels (b : Backend) (w : World) : ∃ levels, b.levels w = levels + 1 := by
  rw [levels]
  cases b.place <;> exact ⟨_, rfl⟩

namespace Storage

open Cabinet.Action

/-- A closed storage refuses everything. -/
theorem refuses_of_closed (h : s.isOpen w = false) : s.Refuses w where
  ask p q := q.ask_closed (i := ⟨s, p⟩) h
  metadata p := Item.metadata_closed (i := ⟨s, p⟩) h
  write p source := by
    rw [Item.write_eq]
    exact query_bind_error (if_neg (Bool.eq_false_iff.mp h))
  create p name source := Item.create_closed (i := ⟨s, p⟩) h name source
  createFolder p name := Item.createFolder_closed (i := ⟨s, p⟩) h name
  copyFrom p folder := by
    obtain ⟨levels, hLevels⟩ := s.backend.exists_levels w
    rw [Item.copyTo_apply, hLevels]
    exact Item.copyDown_from_closed (i := ⟨s, p⟩) h levels folder
  copyInto i p := by
    obtain ⟨levels, hLevels⟩ := i.storage.backend.exists_levels w
    rw [Item.copyTo_apply, hLevels]
    exact Item.copyDown_into_closed levels i ⟨s, p⟩ h
  delete p := Item.refused_of_checkWritable (i := ⟨s, p⟩) h
  rename p name := Item.refused_of_checkWritable (i := ⟨s, p⟩) h

theorem Refuses.perform (h : s.Refuses w) {r : Request} (hOf : r.IsOf s) : (r.perform w).2 = w := by
  cases r with
  | write i source =>
      obtain rfl : i.storage = s := hOf
      exact congrArg Prod.snd (bind_error (h.write i.path source))
  | create folder name source =>
      obtain rfl : folder.storage = s := hOf
      exact congrArg Prod.snd (bind_error (h.create folder.path name source))
  | createFolder folder name =>
      obtain rfl : folder.storage = s := hOf
      exact congrArg Prod.snd (bind_error (h.createFolder folder.path name))
  | delete i =>
      obtain rfl : i.storage = s := hOf
      obtain ⟨e, hRun, -⟩ := h.delete i.path
      exact congrArg Prod.snd hRun
  | rename i name =>
      obtain rfl : i.storage = s := hOf
      obtain ⟨e, hRun, -⟩ := h.rename i.path name
      exact congrArg Prod.snd (bind_error hRun)
  | copyTo i folder =>
      rcases hOf with rfl | rfl
      · exact congrArg Prod.snd (bind_error (h.copyFrom i.path folder))
      · obtain ⟨e, hRun, -⟩ := h.copyInto i folder.path
        exact congrArg Prod.snd (bind_error hRun)

end Storage

/-! ### While a storage is closed, and after -/

namespace World

/-- What is done where only storages of a kind have a part; or what changes entries from outside. -/
inductive Move (known : Storage → Prop) : (World → World) → Prop where
  | request (r : Request) (h : r.Among known) : Move known fun w => (r.perform w).2
  | metadata (i : Item) (h : known i.storage) : Move known fun w => (i.metadata w).2
  | close (r : Storage) (h : known r) : Move known r.close
  | reopen (r : Storage) (h : known r) : Move known r.reopen
  | outside (disk : Disk) (trees : List Tree) : Move known fun w => { w with disk, trees }

/-- The same is done in two worlds, from where they begin. -/
inductive Together (w₀ v₀ : World) : World → World → Prop where
  | start : Together w₀ v₀ w₀ v₀
  | move {w v : World} {f : World → World} (h : Together w₀ v₀ w v) (hf : Move (fun _ => True) f) :
      Together w₀ v₀ (f w) (f v)

theorem Agree.move (h : w.Agree s known v) (hf : Move known f) : (f w).Agree s known (f v) := by
  cases hf with
  | request r hAmong => exact (Action.Overlooks.perform hAmong w v h).2
  | metadata i hKnown => exact h.metadata_world hKnown
  | close r hKnown => exact h.close hKnown
  | reopen r hKnown => exact h.reopen r
  | outside disk trees => exact ⟨rfl, rfl, h.length, h.session, h.isOpen⟩

theorem Agree.together (h : w₀.Agree s (fun _ => True) v₀) (hTogether : Together w₀ v₀ w v) :
    w.Agree s (fun _ => True) v := by
  induction hTogether with
  | start => exact h
  | move _ hf ih => exact ih.move hf

end World

namespace Storage

/-- Another storage than one. -/
def IsOther (s r : Storage) : Prop := r.number ≠ s.number

theorem session_move (hf : World.Move s.IsOther f) (w : World) : (f w).session s.number = w.session s.number := by
  cases hf with
  | request r hAmong => exact r.keeps_of_leaves (leaves_session hAmong.storage _) w rfl
  | metadata i hOther =>
      obtain ⟨c, hAfter⟩ := i.exists_metadata_world w
      change (i.metadata w).2.session s.number = _
      rw [hAfter, World.session_setSession, if_neg fun hSet => hOther hSet.1]
  | close r hOther =>
      cases hOpen : r.isOpen w with
      | false => rw [close_of_closed hOpen]
      | true => rw [close_of_isOpen hOpen, World.session_setSession, if_neg fun hSet => hOther hSet.1]
  | reopen r hOther => rw [reopen, World.session_setSession, if_neg fun hSet => hOther hSet.1]
  | outside disk trees => rfl

/-- A storage is closed in one world, but not in another one: there it has never been. Meanwhile it is asked
in vain, and the same is done elsewhere in both. -/
inductive Pause (s : Storage) : World → World → Prop where
  | close {v : World} (hOpen : s.isOpen v = true) (hKnown : s.number < v.sessions.length) : Pause s (s.close v) v
  | request {w v : World} (h : Pause s w v) (r : Request) (hOf : r.IsOf s) : Pause s (r.perform w).2 v
  | metadata {w v : World} (h : Pause s w v) (p : StoragePath) : Pause s (Item.metadata ⟨s, p⟩ w).2 v
  | again {w v : World} (h : Pause s w v) : Pause s (s.close w) v
  | elsewhere {w v : World} {f : World → World} (h : Pause s w v) (hf : World.Move s.IsOther f) :
      Pause s (f w) (f v)

/-- The two worlds differ in the session of the storage alone: where it is closed, it has forgotten all. -/
structure Paused (s : Storage) (w v : World) : Prop where
  agree : w.Agree s s.IsOther v
  session : ∃ c, v.session s.number = ⟨true, c⟩ ∧ w.session s.number = ⟨false, c.map fun _ => []⟩

namespace Paused

theorem isOpen (h : s.Paused w v) : s.isOpen w = false := by
  obtain ⟨c, -, hHere⟩ := h.session
  rw [Storage.isOpen, hHere]

theorem close (hOpen : s.isOpen v = true) (hKnown : s.number < v.sessions.length) : s.Paused (s.close v) v where
  agree := by
    have hAgree := (World.Agree.refl s s.IsOther v).setSession s.number
      (x := ⟨false, (v.session s.number).cache.map fun _ => []⟩) (y := v.session s.number) (absurd rfl)
      fun _ hOther hHere => absurd hHere hOther
    rwa [World.setSession_session, ← close_of_isOpen hOpen] at hAgree
  session := by
    have hSession : v.session s.number = ⟨true, (v.session s.number).cache⟩ := hOpen ▸ rfl
    rw [close_of_isOpen hOpen, World.session_setSession, if_pos ⟨rfl, hKnown⟩]
    exact ⟨_, hSession, rfl⟩

theorem move (h : s.Paused w v) (hf : World.Move s.IsOther f) : s.Paused (f w) (f v) := by
  obtain ⟨c, hThere, hHere⟩ := h.session
  exact ⟨h.agree.move hf, c, (session_move hf v).trans hThere, (session_move hf w).trans hHere⟩

/-- Once the storage is open again, the worlds differ only in what it remembers. -/
theorem reopen (h : s.Paused w v) : (s.reopen w).Agree s (fun _ => True) v where
  disk := h.agree.disk
  trees := h.agree.trees
  length := h.agree.length.trans List.length_set.symm
  session hn := by
    rw [Storage.reopen, World.session_setSession, if_neg fun hSet => hn hSet.1.symm]
    exact h.agree.session hn
  isOpen {r} _ := by
    by_cases hHere : r.number = s.number
    · obtain ⟨c, hThere, -⟩ := h.session
      have hOpen := isOpen_reopen s w
      rw [Storage.isOpen, ← hHere] at hOpen
      rw [Storage.isOpen, Storage.isOpen, hOpen, hHere, hThere]
    · rw [Storage.isOpen, Storage.isOpen, Storage.reopen, World.session_setSession,
        if_neg fun hSet => hHere hSet.1.symm, h.agree.session hHere]

theorem forgets (h : s.Paused w v) (p : StoragePath) : s.cached? p (s.reopen w) = none := by
  obtain ⟨c, -, hHere⟩ := h.session
  rw [cached?_reopen, cached?, hHere]
  cases c <;> rfl

/-- A storage without a cache has nothing to forget. -/
theorem reopen_eq (h : s.Paused w v) (hCache : (v.session s.number).cache = none) : s.reopen w = v := by
  obtain ⟨c, hThere, hHere⟩ := h.session
  obtain rfl : c = none := by
    rw [hThere] at hCache
    exact hCache
  apply h.reopen.eq_of_session
  rw [session_reopen, hThere, hHere]
  rfl

end Paused

theorem Pause.paused (h : s.Pause w v) : s.Paused w v := by
  induction h with
  | close hOpen hKnown => exact .close hOpen hKnown
  | request _ r hOf ih => exact ((refuses_of_closed ih.isOpen).perform hOf).symm ▸ ih
  | metadata _ p ih => exact (congrArg Prod.snd ((refuses_of_closed ih.isOpen).metadata p)).symm ▸ ih
  | again _ ih => exact (close_of_closed ih.isOpen).symm ▸ ih
  | elsewhere _ hf ih => exact ih.move hf

/-- Everything goes on in one world as in another, but for what one storage remembers: the same is answered and
done; and of an item the same metadata is told where the same of it is remembered, as it is by all other
storages. -/
structure Continues (s : Storage) (w v : World) : Prop where
  ask {α : Type} (i : Item) (q : Inquiry α) : q.ask i w = q.ask i v
  perform (r : Request) : (r.perform w).1 = (r.perform v).1
  metadata (i : Item) (hCached : i.storage.cached? i.path v = i.storage.cached? i.path w) :
    (i.metadata w).1 = (i.metadata v).1
  cached (i : Item) (hOther : s.IsOther i.storage) : i.storage.cached? i.path v = i.storage.cached? i.path w
  disk : w.disk = v.disk
  trees : w.trees = v.trees

theorem continues_of_agree (h : w.Agree s (fun _ => True) v) : s.Continues w v where
  ask _ q := (q.ask_alike (h.showsAlike trivial)).symm
  perform r := (Action.Overlooks.perform r.among_all w v h).1.symm
  metadata i hCached := ((h.showsAlike (r := i.storage) trivial).metadata hCached).symm
  cached i hOther := cached?_congr (h.session hOther) i.path
  disk := h.disk.symm
  trees := h.trees.symm

/-- As long as a storage is closed everything is refused. After it has been opened again all goes on as if it
had never been closed, except that metadata which is asked for is made afresh, whatever was remembered. -/
theorem closed_until_reopened (h : s.Pause w v) : s.Refuses w ∧
    (∀ w' v', World.Together (s.reopen w) v w' v' → s.Continues w' v') ∧
    (∀ p, (Item.metadata ⟨s, p⟩ (s.reopen w)).1 = Item.freshMetadata ⟨s, p⟩ v) ∧
    ((v.session s.number).cache = none → s.reopen w = v) := by
  have hPaused := h.paused
  have hFresh (p : StoragePath) := (hPaused.reopen.showsAlike (r := s) trivial).freshMetadata p
  refine ⟨refuses_of_closed hPaused.isOpen, fun w' v' hTogether => ?_, fun p => ?_, hPaused.reopen_eq⟩
  · exact continues_of_agree (hPaused.reopen.together hTogether)
  · rw [(Item.metadata_of_not_cached (i := ⟨s, p⟩) (hPaused.forgets p)).1, hFresh p]

/-- A file is overwritten by another storage with the same tree, while the storage that remembers it is closed
and refuses to delete it. -/
theorem closed_until_reopened_overwritten :
    let a : Storage := ⟨0, "a", ⟨.memory 0, .plain⟩, ⟨none, false, false⟩, .byName, .basic⟩
    let b : Storage := ⟨1, "b", ⟨.memory 0, .plain⟩, ⟨none, false, false⟩, .byName, .basic⟩
    let i : Item := ⟨a, ⟨["x"]⟩⟩
    let w₀ : World := ⟨.empty, [Tree.empty.put ⟨["x"]⟩ (.file [1])], [⟨true, some []⟩, ⟨true, none⟩]⟩
    let v₀ := (i.metadata w₀).2
    let r : Request := .write ⟨b, ⟨["x"]⟩⟩ (.bytes [2, 3])
    let v := (r.perform v₀).2
    let w := (r.perform ((Request.delete i).perform (a.close v₀)).2).2
    a.Pause w v ∧ (a.cached? i.path v).isSome = true ∧ i.write (.bytes []) w = (.error (.closed "a"), w) ∧
      i.readBytes (a.reopen w) = i.readBytes v ∧ i.readBytes v = .ok [2, 3] ∧
      (i.metadata (a.reopen w)).1 = i.freshMetadata v := by
  intro a b i w₀ v₀ r v w
  have hOther : r.Among a.IsOther := ⟨Nat.one_ne_zero, trivial⟩
  have hOpen : a.isOpen v₀ = true := by decide +kernel +zetaReduce
  have hKnown : a.number < v₀.sessions.length := by decide +kernel +zetaReduce
  have hClosed : a.Pause ((Request.delete i).perform (a.close v₀)).2 v₀ := .request (.close hOpen hKnown) _ rfl
  have hPause : a.Pause w v := .elsewhere (f := fun w => (r.perform w).2) hClosed (.request r hOther)
  obtain ⟨hRefuses, hContinues, hFresh, -⟩ := closed_until_reopened hPause
  exact ⟨hPause, by decide +kernel +zetaReduce, hRefuses.write _ _, (hContinues _ _ .start).ask i .bytes,
    by decide +kernel +zetaReduce, hFresh _⟩

/-- Metadata is remembered of a file that another storage deletes; it is not after the storage has been closed.
Into a closed storage there may be nothing to copy, and a read-only one tells only this when something is to be
deleted. -/
theorem not_closed_until_reopened :
    let a : Storage := ⟨0, "a", ⟨.memory 0, .plain⟩, ⟨none, false, false⟩, .byName, .basic⟩
    let b : Storage := ⟨1, "b", ⟨.memory 0, .plain⟩, ⟨none, false, false⟩, .byName, .basic⟩
    let c : Storage := ⟨2, "c", ⟨.memory 0, .plain⟩, ⟨none, true, false⟩, .byName, .basic⟩
    let i : Item := ⟨a, ⟨["x"]⟩⟩
    let w₀ : World :=
      ⟨.empty, [Tree.empty.put ⟨["x"]⟩ (.file [1])], [⟨true, some []⟩, ⟨true, none⟩, ⟨true, none⟩]⟩
    let w := ((Request.delete ⟨b, ⟨["x"]⟩⟩).perform (i.metadata w₀).2).2
    (i.metadata (a.reopen (a.close w))).1 ≠ (i.metadata w).1 ∧
      (Request.perform (.copyTo ⟨b, ⟨["y"]⟩⟩ ⟨a, .root⟩) (a.close w)).1 = .error (.notFound ⟨["y"]⟩) ∧
      (Item.delete ⟨c, ⟨["x"]⟩⟩ (c.close w)).1 = .error (.readOnly "c") := by
  intro a b c i w₀ w
  have hTold : (i.metadata w).1.toOption.isSome = true := by decide +kernel +zetaReduce
  have hNot : (i.metadata (a.reopen (a.close w))).1.toOption.isSome = false := by decide +kernel +zetaReduce
  have hMissing : (Request.perform (.copyTo ⟨b, ⟨["y"]⟩⟩ ⟨a, .root⟩) (a.close w)).1 = .error (.notFound ⟨["y"]⟩) := by
    decide +kernel +zetaReduce
  have hReadOnly : (Item.delete ⟨c, ⟨["x"]⟩⟩ (c.close w)).1 = .error (.readOnly "c") := by
    decide +kernel +zetaReduce
  have hForgotten : (i.metadata (a.reopen (a.close w))).1 ≠ (i.metadata w).1 := by
    intro hSame
    rw [← hSame, hNot] at hTold
    cases hTold
  exact ⟨hForgotten, hMissing, hReadOnly⟩

end Storage

end Cabinet
