import Cabinet.Proofs.Storage.Entrywise

/-! Storages that stay clean. A storage that shows no hidden entries and has a tree of its own never
puts one there that lasts: whatever is asked of it, and however it ends, all entries lie in folders,
none is hidden, and no file is longer than allowed. -/

namespace Cabinet

variable {t : Tree} {p : StoragePath} {n : Node} {limit : Option Nat}

/-- An entry that is not hidden, and no file longer than a limit. -/
def Tree.CleanEntry (limit : Option Nat) (p : StoragePath) (n : Node) : Prop :=
  p.isHidden = false ∧ ∀ contents, n = .file contents → exceeds contents.length limit = false

/-- A tree with a root, without hidden entries, and without files longer than a limit. -/
def Tree.Clean (limit : Option Nat) (t : Tree) : Prop := t.Bears (CleanEntry limit)

namespace Tree.Clean

theorem empty : Clean limit .empty := Bears.empty ⟨rfl, nofun⟩

theorem shown (h : t.Clean limit) (hFound : t.get? p = some n) : p.isHidden = false := (h.kind hFound).1

theorem fits {contents : Bytes} (h : t.Clean limit) (hFile : t.get? p = some (.file contents)) :
    exceeds contents.length limit = false :=
  (h.kind hFile).2 contents rfl

end Tree.Clean

theorem StoragePath.hasRoom_clean (hp : p.isHidden = false) : p.HasRoom (Tree.CleanEntry limit) limit where
  folder hBelow :=
    ⟨Bool.eq_false_iff.mpr fun hHidden => Bool.eq_false_iff.mp hp (isHidden_of_startsWith hBelow hHidden), nofun⟩
  file hFits := ⟨hp, fun _ hSame => Node.file.inj hSame ▸ hFits⟩
  moved {q rest n} h := by
    have hRest := h.1
    rw [down, isHidden_append] at hRest
    refine ⟨?_, h.2⟩
    rw [down, isHidden_append, hp, (Bool.or_eq_false_iff.mp hRest).2, Bool.or_false]

namespace Storage

variable {s : Storage}

theorem isHidden_of_shown (hShown : s.options.showHidden = false) (h : s.hides p = false) :
    p.isHidden = false := by
  rwa [hides, hShown, Bool.not_false, Bool.true_and] at h

theorem hasRoom_clean (hShown : s.options.showHidden = false) :
    s.HasRoom (Tree.CleanEntry s.options.sizeLimit) fun _ => True where
  folder := id
  resolve _ _ := trivial
  room _ hSight := StoragePath.hasRoom_clean (isHidden_of_shown hShown hSight)

/-- The tree of a storage is there, and clean. -/
def Tidy (s : Storage) (w : World) : Prop :=
  ∃ t, s.Holds w t ∧ t.Clean s.options.sizeLimit

end Storage

end Cabinet
