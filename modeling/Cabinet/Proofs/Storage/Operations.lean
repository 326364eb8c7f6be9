import Cabinet.Proofs.Storage.Writing

/-! Backends in memory, used one operation after the other. Their entries are kept in a flat map, and yet
every operation leaves a tree: the root is a folder, and every other entry lies in one. An operation that
fails leaves everything as it was. Folders are made while the way down to them is still being checked, but
below a path where nothing is there is nothing either, so that a file is met before anything is made. -/

namespace Cabinet

variable {t t' : Tree} {p source target : StoragePath} {contents : Bytes} {e : IoError}

/-! ### Trees with a root -/

namespace Tree

/-- A tree whose root is a folder, and whose other entries lie in folders. -/
structure Rooted (t : Tree) : Prop extends t.WellFormed where
  root : t.get? .root = some .folder

theorem rooted_empty : empty.Rooted := ⟨wellFormed_empty, rfl⟩

theorem root_rename (h : t.get? .root = some .folder) (hRenamed : t.rename source target = .ok t') :
    t'.get? .root = some .folder := by
  obtain ⟨-, hSource, hTarget, -, rfl⟩ := rename_eq_ok hRenamed
  rw [get?, Entries.get?_move_of_not_startsWith (StoragePath.not_root_startsWith hTarget),
    if_neg (Bool.eq_false_iff.mp (StoragePath.not_root_startsWith hSource))]
  exact h

/-- On the way down to a path, what fails has found a file before anything was missing. -/
theorem WellFormed.createEach_inits_error (h : t.WellFormed) (above segments : List String)
    (hError : (t.createEach (segments.inits.map fun l => ⟨above ++ l⟩)).1 = .error e) :
    (t.createEach (segments.inits.map fun l => ⟨above ++ l⟩)).2 = t := by
  induction segments generalizing above with
  | nil =>
      simp only [List.inits, List.map_cons, List.map_nil, List.append_nil, createEach] at hError ⊢
      split at hError
      · cases hError
      · rfl
      · cases hError
  | cons s rest ih =>
      have hPaths : ((s :: rest).inits.map fun l => StoragePath.mk (above ++ l)) =
          StoragePath.mk above :: rest.inits.map fun l => StoragePath.mk (above ++ [s] ++ l) := by
        simp [Function.comp_def]
      rw [hPaths, createEach] at hError ⊢
      split at hError
      · exact ih (above ++ [s]) hError
      · rfl
      · rename_i hMissing
        -- All that is further down is missing as well, so nothing stops the folders from being made.
        have hFree : ∀ q ∈ rest.inits.map fun l => StoragePath.mk (above ++ [s] ++ l),
            (t.put ⟨above⟩ .folder).file? q = none := by
          intro q hq
          obtain ⟨l, -, rfl⟩ := List.mem_map.mp hq
          have hne : StoragePath.mk (above ++ [s] ++ l) ≠ ⟨above⟩ := fun hSame =>
            absurd (congrArg StoragePath.segments hSame) (by simp)
          have hBelow : StoragePath.startsWith ⟨above ++ [s] ++ l⟩ ⟨above⟩ = true :=
            StoragePath.startsWith_iff.mpr ⟨[s] ++ l, (List.append_assoc _ _ _).symm⟩
          have hNothing := h.get?_below (by simp [hMissing]) hBelow hne
          exact file?_of_get?_ne_file (Or.inl ((get?_put_of_ne hne).trans hNothing))
        cases (createEach_ok hFree).1.symm.trans hError

theorem WellFormed.createFolders_error (h : t.WellFormed) (hError : (t.createFolders p).1 = .error e) :
    (t.createFolders p).2 = t := by
  rw [createFolders_eq] at hError ⊢
  exact h.createEach_inits_error [] p.segments hError

/-- A file fits at a path: its folder is there, and nothing lies below it. -/
def HasRoom (t : Tree) (p : StoragePath) : Prop :=
  t.get? p.folder = some .folder ∧ ∀ q n, t.get? q = some n → q.startsWith p = true → q = p

/-- A file can be put exactly where it fits, if there is to be a tree afterwards. -/
theorem Rooted.put_file_iff (h : t.Rooted) (hp : p.isRoot = false) :
    (t.put p (.file contents)).Rooted ↔ t.HasRoom p := by
  have hFolder : p.folder ≠ p := StoragePath.folder_ne_self hp
  constructor
  · intro hPut
    refine ⟨?_, fun q n hFound hBelow => by_contra fun hne => ?_⟩
    · rw [← get?_put_of_ne hFolder]
      exact hPut.inFolder get?_put_self hp
    · have hAbove := hPut.above ((get?_put_of_ne hne).trans hFound) hBelow hne
      cases hAbove.symm.trans get?_put_self
  · rintro ⟨hIn, hBare⟩
    refine ⟨⟨h.ordered.put p _, fun {q n} hFound hRoot => ?_⟩, ?_⟩
    · by_cases hq : q = p
      · subst hq
        rwa [get?_put_of_ne hFolder]
      · rw [get?_put_of_ne hq] at hFound
        have hOther : q.folder ≠ p := fun hSame =>
          hq (hBare q n hFound (hSame ▸ StoragePath.startsWith_folder_self))
        rw [get?_put_of_ne hOther]
        exact h.inFolder hFound hRoot
    · rw [get?_put_of_ne (StoragePath.ne_root hp).symm]
      exact h.root

theorem create_eq_ok (h : t.create p = .ok t') : p.isRoot = false ∧ t.get? p.folder = some .folder ∧
    t.get? p ≠ some .folder ∧ t' = t.put p (.file []) := by
  cases hRoot : p.isRoot with
  | true =>
      rw [create, requireParent, StoragePath.parent?, if_pos hRoot] at h
      cases h
  | false =>
      rw [create, requireParent_eq hRoot] at h
      split at h
      · cases h
      · rename_i hFolder
        split at h
        · cases h
        · rename_i hFree
          exact ⟨rfl, requireFolder_eq_ok_iff.mp hFolder, hFree, (Except.ok.inj h).symm⟩

/-- Where a file can be begun there is room for it. -/
theorem Rooted.hasRoom_of_create (h : t.Rooted) (hCreate : t.create p = .ok t') : t.HasRoom p := by
  obtain ⟨-, hFolder, hFree, -⟩ := create_eq_ok hCreate
  refine ⟨hFolder, fun q n hFound hBelow => by_contra fun hne => ?_⟩
  cases (h.get?_below hFree hBelow hne).symm.trans hFound

end Tree

/-! ### Changes -/

/-- What changes the entries of a backend at once. -/
inductive Change where
  | createFolders (p : StoragePath)
  | removeFile (p : StoragePath)
  | removeFolder (p : StoragePath)
  | rename (source target : StoragePath)

namespace Change

def perform (b : Backend) : Change → Action IoError Unit
  | createFolders p => b.createFolders p
  | removeFile p => b.removeFile p
  | removeFolder p => b.removeFolder p
  | rename source target => b.rename source target

/-- The answer to a change of a tree, and the tree after it. -/
def onTree (t : Tree) : Change → Except IoError Unit × Tree
  | createFolders p => t.createFolders p
  | removeFile p => ((t.removeFile p).map fun _ => (), t.after (t.removeFile p))
  | removeFolder p => ((t.removeFolder p).map fun _ => (), t.after (t.removeFolder p))
  | rename source target => ((t.rename source target).map fun _ => (), t.after (t.rename source target))

variable {s : Storage} {w : World}

/-- A change of a backend in memory is the change of its tree. -/
theorem perform_onTree (h : s.Holds w t) (c : Change) :
    (c.perform s.backend w).1 = (c.onTree t).1 ∧ s.Holds (c.perform s.backend w).2 (c.onTree t).2 := by
  obtain ⟨w', hRun, hAfter⟩ : ∃ w', c.perform s.backend w = ((c.onTree t).1, w') ∧
      s.Holds w' (c.onTree t).2 := by
    cases c with
    | createFolders p => exact h.createFolders p
    | removeFile p => exact h.removeFile p
    | removeFolder p => exact h.onTree (Tree.removeFolder · p) (Backend.removeFolder · p) fun _ => rfl
    | rename source target => exact h.rename source target
  rw [hRun]
  exact ⟨rfl, hAfter⟩

/-- The root of a tree stays a folder. -/
theorem root_onTree (h : t.get? .root = some .folder) (c : Change) :
    (c.onTree t).2.get? .root = some .folder := by
  have hAfter {r : Except IoError Tree} (hDone : ∀ t', r = .ok t' → t'.get? .root = some .folder) :
      (t.after r).get? .root = some .folder := by
    cases r with
    | error e => exact h
    | ok t' => exact hDone t' rfl
  cases c with
  | createFolders p => exact Tree.get?_createFolders_of_some h
  | removeFile p => exact hAfter fun _ hRemoved => (Tree.thins_removeFile hRemoved).root h
  | removeFolder p => exact hAfter fun _ hRemoved => (Tree.thins_removeFolder hRemoved).root h
  | rename source target => exact hAfter fun _ hRenamed => Tree.root_rename h hRenamed

/-- A change leaves a tree, and the same tree when it fails. -/
theorem rooted_onTree (h : t.Rooted) (c : Change) :
    (c.onTree t).2.Rooted ∧ ∀ e, (c.onTree t).1 = .error e → (c.onTree t).2 = t := by
  have hAfter {r : Except IoError Tree} (hDone : ∀ t', r = .ok t' → t'.WellFormed) :
      (t.after r).WellFormed ∧ ∀ e, (r.map fun _ => ()) = .error e → t.after r = t := by
    cases r with
    | error e => exact ⟨h.toWellFormed, fun _ _ => rfl⟩
    | ok t' => exact ⟨hDone t' rfl, nofun⟩
  have hForms : (c.onTree t).2.WellFormed ∧ ∀ e, (c.onTree t).1 = .error e → (c.onTree t).2 = t := by
    cases c with
    | createFolders p =>
        exact ⟨h.toWellFormed.createFolders p, fun _ hError => h.toWellFormed.createFolders_error hError⟩
    | removeFile p =>
        exact hAfter fun _ hRemoved => (Tree.thins_removeFile hRemoved).wellFormed h.toWellFormed
    | removeFolder p =>
        exact hAfter fun _ hRemoved => (Tree.thins_removeFolder hRemoved).wellFormed h.toWellFormed
    | rename source target => exact hAfter fun _ hRenamed => h.toWellFormed.rename hRenamed
  exact ⟨⟨hForms.1, root_onTree h.root c⟩, hForms.2⟩

end Change

/-! ### Whole writes -/

/-- Opening a writer of a tree begins its file there. -/
theorem Backend.openWrite_tree {b : Backend} {w : World} {n : Nat} (hBackend : b = ⟨.memory n, .plain⟩)
    (hTree : w.trees[n]? = some t) (p : StoragePath) : b.openWrite p w = match t.create p with
      | .error e => (.error e, w)
      | .ok t' => (.ok (treeWriter n p [] false), w.setTree n t') := by
  have hCheck : Rig.plain.check .openWrite = .ok () := rfl
  simp only [hBackend, openWrite, hCheck, Storage.Holds.tree_eq hTree]
  rfl

/-- Give pieces to a writer one after the other, flush it and give it up. After a failure it is only given
up. -/
def Writer.complete : List Bytes → Writer → World → Except IoError Unit × World
  | [], x, w =>
    let (r, x, w) := x.flush w
    (r, x.close w)
  | piece :: rest, x, w =>
    match x.writeOnce piece w with
    | (.error e, x, w) => (.error e, x.close w)
    | (.ok _, x, w) => complete rest x w

/-- A tree's writer has all of the pieces in the end. -/
theorem Writer.complete_treeWriter (pieces : List Bytes) (n : Nat) (p : StoragePath) (gathered : Bytes)
    (dirty : Bool) (w : World) : complete pieces (treeWriter n p gathered dirty) w =
      (.ok (), (treeWriter n p (gathered ++ pieces.flatten) (dirty || !pieces.isEmpty)).close w) := by
  induction pieces generalizing gathered dirty with
  | nil =>
      obtain ⟨x, w', hFlush, hClose⟩ := flush_treeWriter n p gathered dirty w
      simp only [complete, hFlush, hClose, List.flatten_nil, List.append_nil, List.isEmpty_nil,
        Bool.not_true, Bool.or_false]
  | cons piece rest ih =>
      simp only [complete, writeOnce_treeWriter, ih, List.flatten_cons, List.append_assoc, List.isEmpty_cons,
        Bool.true_or, Bool.not_false, Bool.or_true]

/-- An operation that is over before the next one begins: a change, or a file that is opened, written
piece by piece, flushed and given up. -/
inductive Backend.Call where
  | change (c : Change)
  | store (p : StoragePath) (pieces : List Bytes)

namespace Backend.Call

def perform (b : Backend) : Call → Action IoError Unit
  | change c => c.perform b
  | store p pieces => do
    let x ← b.openWrite p
    fun w => Writer.complete pieces x w

variable {s : Storage} {w : World}

/-- A file is not begun, or is there with all of its pieces. -/
theorem store_cases (h : s.Holds w t) (p : StoragePath) (pieces : List Bytes) :
    (∃ e, (store p pieces).perform s.backend w = (.error e, w) ∧ t.create p = .error e) ∨
      ∃ w', (store p pieces).perform s.backend w = (.ok (), w') ∧ (∃ t', t.create p = .ok t') ∧
        s.Holds w' (t.put p (.file pieces.flatten)) := by
  obtain ⟨n, hBackend, hTree⟩ := h
  have hOpen := openWrite_tree hBackend hTree p
  cases hCreate : t.create p with
  | error e =>
      rw [hCreate] at hOpen
      exact Or.inl ⟨e, Action.bind_error hOpen, rfl⟩
  | ok t' =>
      rw [hCreate] at hOpen
      refine Or.inr ⟨_, (Action.bind_ok hOpen).trans (Writer.complete_treeWriter pieces n p [] false _),
        ⟨t', rfl⟩, ?_⟩
      obtain ⟨-, -, -, rfl⟩ := Tree.create_eq_ok hCreate
      rw [List.nil_append, Bool.false_or]
      refine close_treeWriter hBackend (Storage.Holds.setTree hBackend hTree _) pieces.flatten fun hClean => ?_
      obtain rfl : pieces = [] := by simpa using hClean
      rfl

/-- Whatever is done with a backend in memory whose entries make a tree, they make a tree afterwards; and
when it fails, it is the same tree with the same contents. -/
theorem perform_rooted (h : s.Holds w t) (hT : t.Rooted) (c : Call) :
    ∃ t', s.Holds (c.perform s.backend w).2 t' ∧ t'.Rooted ∧
      ∀ e, (c.perform s.backend w).1 = .error e → t' = t := by
  cases c with
  | change c =>
      obtain ⟨hAnswer, hAfter⟩ := c.perform_onTree h
      obtain ⟨hRooted, hSame⟩ := c.rooted_onTree hT
      exact ⟨_, hAfter, hRooted, fun e hError => hSame e (hAnswer.symm.trans hError)⟩
  | store p pieces =>
      rcases store_cases h p pieces with ⟨e, hRun, -⟩ | ⟨w', hRun, ⟨t', hCreate⟩, hAfter⟩
      · rw [hRun]
        exact ⟨t, h, hT, fun _ _ => rfl⟩
      · rw [hRun]
        have hRoot := (Tree.create_eq_ok hCreate).1
        exact ⟨_, hAfter, (hT.put_file_iff hRoot).mpr (hT.hasRoom_of_create hCreate), nofun⟩

/-- Folders are to be made below a file, where a folder would be missing as well; a folder with a file is
moved into a new place; and a file is replaced in three pieces. -/
theorem perform_rooted_nested :
    let s : Storage := ⟨0, "main", ⟨.memory 0, .plain⟩, .standard, .byName, .basic⟩
    let t := (Tree.empty.put ⟨["a"]⟩ .folder).put ⟨["a", "f"]⟩ (.file [1])
    let w : World := ⟨.empty, [t], [⟨true, none⟩]⟩
    let b : Backend := s.backend
    s.Holds w t ∧ t.Rooted ∧
      ((change (.createFolders ⟨["a", "f", "c", "d"]⟩)).perform b w).1 =
        .error (.notAFolder ⟨["a", "f"]⟩) ∧
      s.Holds ((change (.createFolders ⟨["a", "f", "c", "d"]⟩)).perform b w).2 t ∧
      (∃ t', s.Holds ((change (.rename ⟨["a"]⟩ ⟨["b"]⟩)).perform b w).2 t' ∧ t'.Rooted) ∧
      ∃ t', s.Holds ((store ⟨["a", "f"]⟩ [[2], [], [3, 4]]).perform b w).2 t' ∧ t'.Rooted ∧
        t'.get? ⟨["a", "f"]⟩ = some (.file [2, 3, 4]) := by
  intro s t w b
  have hHolds : s.Holds w t := ⟨0, rfl, rfl⟩
  have hFolder : (Tree.empty.put ⟨["a"]⟩ .folder).WellFormed :=
    Tree.wellFormed_empty.put (fun _ => by decide) (Or.inl (by decide))
  have hRooted : t.Rooted := ⟨hFolder.put (fun _ => by decide) (Or.inl (by decide)), by decide⟩
  have hRefused : ((change (.createFolders ⟨["a", "f", "c", "d"]⟩)).perform b w).1 =
      .error (.notAFolder ⟨["a", "f"]⟩) := rfl
  obtain ⟨t₁, hSame, -, hKept⟩ := perform_rooted hHolds hRooted (change (.createFolders ⟨["a", "f", "c", "d"]⟩))
  obtain ⟨t₂, hMoved, hMovedRooted, -⟩ := perform_rooted hHolds hRooted (change (.rename ⟨["a"]⟩ ⟨["b"]⟩))
  obtain ⟨t₃, hStored, hStoredRooted, -⟩ :=
    perform_rooted hHolds hRooted (store ⟨["a", "f"]⟩ [[2], [], [3, 4]])
  have hLeft : s.Holds ((store ⟨["a", "f"]⟩ [[2], [], [3, 4]]).perform b w).2
      (t.put ⟨["a", "f"]⟩ (.file [2, 3, 4])) := ⟨0, rfl, by decide⟩
  refine ⟨hHolds, hRooted, hRefused, hKept _ hRefused ▸ hSame, ⟨t₂, hMoved, hMovedRooted⟩, t₃, hStored,
    hStoredRooted, ?_⟩
  rw [hStored.unique hLeft]
  decide

end Backend.Call

end Cabinet
