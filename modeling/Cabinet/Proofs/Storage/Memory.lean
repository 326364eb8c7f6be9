import Cabinet.Proofs.Storage.Action
import Cabinet.Proofs.Storage.Tree
import Cabinet.Storage.Basic

/-! Storages in memory. What a backend operation does to the world is what its counterpart does to the
tree of the storage: the answers are the same, and the tree that is left is the storage's new one. -/

namespace Cabinet

/-- The tree after an operation, which leaves it alone when it fails. -/
def Tree.after {ε : Type} (t : Tree) : Except ε Tree → Tree
  | .ok t' => t'
  | .error _ => t

/-- A storage keeps its entries in a tree in memory, and no operation is made to fail. -/
def Storage.Holds (s : Storage) (w : World) (t : Tree) : Prop :=
  ∃ n, s.backend = ⟨.memory n, .plain⟩ ∧ w.trees[n]? = some t

namespace Storage.Holds

variable {s : Storage} {w w' : World} {t t' : Tree} {p : StoragePath}

theorem getElem?_eq {n : Nat} (h : s.Holds w t) (hBackend : s.backend = ⟨.memory n, .plain⟩) :
    w.trees[n]? = some t := by
  obtain ⟨m, hBackend', hTree⟩ := h
  obtain rfl : n = m := Place.memory.inj (congrArg Backend.place (hBackend.symm.trans hBackend'))
  exact hTree

theorem unique (h : s.Holds w t) (h' : s.Holds w t') : t = t' := by
  obtain ⟨n, hBackend, hTree⟩ := h
  exact Option.some.inj (hTree.symm.trans (h'.getElem?_eq hBackend))

theorem of_backend {r : Storage} (h : s.Holds w t) (hBackend : r.backend = s.backend) : r.Holds w t := by
  obtain ⟨n, hHere, hTree⟩ := h
  exact ⟨n, hBackend.trans hHere, hTree⟩

/-- Two storages in memory with one place have one backend. -/
theorem backend_eq {r : Storage} (h : s.Holds w t) (hr : r.Holds w' t')
    (hPlace : s.backend.place = r.backend.place) : s.backend = r.backend := by
  obtain ⟨n, hHere, -⟩ := h
  obtain ⟨m, hThere, -⟩ := hr
  rw [hHere, hThere] at hPlace ⊢
  obtain rfl := Place.memory.inj hPlace
  rfl

theorem congr (h : s.Holds w t) (hTrees : w'.trees = w.trees) : s.Holds w' t := by
  obtain ⟨n, hBackend, hTree⟩ := h
  exact ⟨n, hBackend, hTrees ▸ hTree⟩

theorem invalidate (h : s.Holds w t) (p : StoragePath) : s.Holds (s.invalidate p w) t :=
  h.congr rfl

theorem tree_eq {n : Nat} (h : w.trees[n]? = some t) : w.tree n = t := by
  rw [World.tree, List.getD_eq_getElem?_getD, h, Option.getD_some]

theorem setTree {n : Nat} (hBackend : s.backend = ⟨.memory n, .plain⟩) (h : w.trees[n]? = some t)
    (t' : Tree) : s.Holds (w.setTree n t') t' := by
  obtain ⟨hBound, -⟩ := List.getElem?_eq_some_iff.mp h
  exact ⟨n, hBackend, List.getElem?_set_self hBound⟩

theorem levels (h : s.Holds w t) : s.backend.levels w = t.entries.length + 1 := by
  obtain ⟨n, hBackend, hTree⟩ := h
  rw [hBackend, ← tree_eq hTree]
  rfl

theorem entry (h : s.Holds w t) (p : StoragePath) : s.entry p w = .ok (t.metadata p) := by
  obtain ⟨n, hBackend, hTree⟩ := h
  have hDisguise : Rig.plain.disguise = id := by
    funext m
    simp [Rig.disguise, Rig.plain]
  have hCheck : Rig.plain.check .metadata = .ok () := rfl
  simp only [Storage.entry, Query.mapError, Backend.metadata, hBackend, hCheck, tree_eq hTree,
    hDisguise, Except.map, Option.map_id, id, Except.mapError]

/-- What changes the tree at once, or not at all. -/
theorem onTree (h : s.Holds w t) (f : Tree → Except IoError Tree)
    (op : Backend → Action IoError Unit) (hOp : ∀ n, op ⟨.memory n, .plain⟩ = Action.onTree n f) :
    ∃ w', op s.backend w = ((f t).map fun _ => (), w') ∧ s.Holds w' (t.after (f t)) := by
  obtain ⟨n, hBackend, hTree⟩ := h
  rw [hBackend, hOp, Action.onTree, tree_eq hTree]
  cases hAnswer : f t with
  | error e => exact ⟨w, rfl, n, hBackend, hTree⟩
  | ok t' => exact ⟨w.setTree n t', rfl, setTree hBackend hTree t'⟩

theorem removeFile (h : s.Holds w t) (p : StoragePath) :
    ∃ w', s.backend.removeFile p w = ((t.removeFile p).map fun _ => (), w') ∧
      s.Holds w' (t.after (t.removeFile p)) :=
  h.onTree (Tree.removeFile · p) (Backend.removeFile · p) fun _ => rfl

theorem rename (h : s.Holds w t) (source target : StoragePath) :
    ∃ w', s.backend.rename source target w = ((t.rename source target).map fun _ => (), w') ∧
      s.Holds w' (t.after (t.rename source target)) :=
  h.onTree (Tree.rename · source target) (Backend.rename · source target) fun _ => rfl

theorem rename_error {e : IoError} {source target : StoragePath} (h : s.Holds w t)
    (hError : t.rename source target = .error e) :
    s.backend.rename source target w = (.error e, w) := by
  obtain ⟨n, hBackend, hTree⟩ := h
  have hRun : s.backend.rename source target w = Action.onTree n (Tree.rename · source target) w := by
    rw [hBackend]
    rfl
  rw [hRun, Action.onTree, tree_eq hTree, hError]

/-- Folders on the way to a file are made, even though the operation fails there. -/
theorem createFolders (h : s.Holds w t) (p : StoragePath) :
    ∃ w', s.backend.createFolders p w = ((t.createFolders p).1, w') ∧
      s.Holds w' (t.createFolders p).2 := by
  obtain ⟨n, hBackend, hTree⟩ := h
  refine ⟨w.setTree n (t.createFolders p).2, ?_, setTree hBackend hTree _⟩
  rw [hBackend, ← tree_eq hTree]
  rfl

end Storage.Holds

/-- Two worlds have the same files, though folders may have been added. -/
structure World.SameFiles (w w' : World) : Prop where
  disk : w'.disk = w.disk
  isOpen (s : Storage) : s.isOpen w' = s.isOpen w
  file? (n : Nat) (p : StoragePath) : (w'.tree n).file? p = (w.tree n).file? p

theorem World.SameFiles.refl (w : World) : w.SameFiles w := ⟨rfl, fun _ => rfl, fun _ _ => rfl⟩

theorem World.tree_setTree (w : World) (n m : Nat) (t : Tree) :
    (w.setTree n t).tree m = if n = m ∧ n < w.trees.length then t else w.tree m := by
  rw [tree, setTree, List.getD_eq_getElem?_getD, List.getElem?_set, tree, List.getD_eq_getElem?_getD]
  by_cases hNumber : n = m
  · subst hNumber
    by_cases hBound : n < w.trees.length
    · simp [hBound]
    · simp [hBound]
  · simp [hNumber]

/-- Making folders in a tree makes and changes no file. -/
theorem Storage.Holds.sameFiles_createFolders {s : Storage} {w : World} {t : Tree} (h : s.Holds w t)
    (p : StoragePath) : w.SameFiles (s.backend.createFolders p w).2 := by
  obtain ⟨n, hBackend, -⟩ := h
  rw [hBackend]
  refine ⟨rfl, fun _ => rfl, fun m q => ?_⟩
  change ((w.setTree n ((w.tree n).createFolders p).2).tree m).file? q = _
  rw [World.tree_setTree]
  split
  · rename_i hSame
    rw [Tree.file?_createFolders, hSame.1]
  · rfl

end Cabinet
