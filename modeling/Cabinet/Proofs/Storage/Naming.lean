import Cabinet.Proofs.Storage.Listing
import Cabinet.Proofs.Storage.Requests
import Cabinet.Proofs.Storage.Resolution

/-! Trees whose entries can be named. Names lead from plain paths to plain paths, and so do listings as long
as no entry has any other path. So a storage with a tree of its own, asked for nothing but at such paths,
never comes to have an entry that no name leads to. -/

namespace Cabinet

variable {s : Storage} {i : Item} {t : Tree} {p : StoragePath} {w : World} {limit : Option Nat}

namespace Tree

/-- A tree without hidden entries. -/
structure Shown (t : Tree) : Prop extends t.WellFormed where
  shown {p : StoragePath} {n : Node} (h : t.get? p = some n) : p.isHidden = false

/-- A tree whose entries can all be named. -/
def Named (t : Tree) : Prop := ∀ p n, t.get? p = some n → p.Plain

theorem named_of_entries (h : ∀ e ∈ t.entries, e.1.Plain) : t.Named :=
  fun _ _ hFound => h _ (Entries.mem_of_get? hFound)

end Tree

/-! ### Plain paths -/

theorem StoragePath.Plain.hasRoom (hp : p.Plain) : p.HasRoom (fun q _ => q.Plain) limit where
  folder hBelow := hp.of_startsWith hBelow
  file _ := hp
  moved h := hp.down h

theorem Storage.hasRoom_plain (s : Storage) : s.HasRoom (fun q _ => q.Plain) StoragePath.Plain where
  folder hp := hp.of_startsWith StoragePath.startsWith_folder_self
  resolve hp h := hp.resolve h
  room hp _ := hp.hasRoom

/-- What an item with a plain path gives out has plain paths again. -/
theorem Item.gives_plain (hHolds : i.storage.Holds w t) (hNamed : t.Named) (hp : i.path.Plain) :
    (∀ name j, i.file name w = .ok j → j.path.Plain) ∧
      (∀ name j, i.sibling name = .ok j → j.path.Plain) ∧
      (∀ j, i.parent? w = .ok (some j) → j.path.Plain) ∧
      ∀ f children, i.list f w = .ok children → ∀ j ∈ children, j.path.Plain := by
  refine ⟨fun name j hFile => hp.resolve (file_eq_ok hFile).1, fun name j hBeside => ?_, fun j hAbove => ?_,
    fun f children hList j hMem => ?_⟩
  · exact (i.storage.hasRoom_plain.folder hp).resolve (resolve_of_sibling hBeside)
  · obtain ⟨_, -, hAbove⟩ := Query.bind_eq_ok_iff.mp hAbove
    obtain ⟨q, hParent, rfl⟩ := Option.map_eq_some_iff.mp (Except.ok.inj hAbove)
    exact hp.parent? hParent
  · obtain ⟨_, -, hList⟩ := Query.bind_eq_ok_iff.mp hList
    obtain ⟨paths, -, hList⟩ := Query.bind_eq_ok_iff.mp hList
    obtain ⟨q, -, rfl, m, hThere⟩ := mem_select hList hMem
    rw [hHolds.entry] at hThere
    obtain ⟨n, hFound, -⟩ := Option.map_eq_some_iff.mp (Except.ok.inj hThere)
    exact hNamed q n hFound

/-! ### Requests by name -/

namespace Storage

/-- The states that come about of a storage when all that is asked of it is asked at plain paths. -/
inductive ReachedByName (s : Storage) : World → Prop where
  | fresh {w : World} {make : Nat → Storage} {cached : Bool}
      (hMade : (w.addTree.2.addStorage make cached).1 = s)
      (hPlace : s.backend = ⟨w.addTree.1, .plain⟩) :
      ReachedByName s (w.addTree.2.addStorage make cached).2
  | elsewhere {w w' : World} (h : ReachedByName s w) (hTree : ∀ t, s.Holds w t → s.Holds w' t) :
      ReachedByName s w'
  | request {w : World} (h : ReachedByName s w) (r : Request) (hTo : r.storage = s)
      (hPlain : r.base.path.Plain) : ReachedByName s (r.perform w).2

namespace ReachedByName

theorem reached (h : s.ReachedByName w) : s.Reached w := by
  induction h with
  | fresh hMade hPlace => exact .fresh hMade hPlace
  | elsewhere h hTree ih => exact .elsewhere ih hTree
  | request h r hTo hPlain ih => exact .request ih r hTo

theorem bears (h : s.ReachedByName w) : s.Bears (fun p _ => p.Plain) w := by
  induction h with
  | fresh hMade hPlace =>
      exact ⟨.empty, ⟨_, hPlace, List.getElem?_concat_length⟩, .empty StoragePath.plain_root⟩
  | elsewhere h hTree ih =>
      obtain ⟨t, hHolds, hBears⟩ := ih
      exact ⟨t, hTree t hHolds, hBears⟩
  | request h r hTo hPlain ih =>
      subst hTo
      exact r.keeps_perform r.storage.hasRoom_plain hPlain _ ih

/-- Every tree that comes about by name is a tree of named entries. -/
theorem named (h : s.ReachedByName w) (hHolds : s.Holds w t) : t.WellFormed ∧ t.Named := by
  obtain ⟨u, hOther, hBears⟩ := h.bears
  rw [hHolds.unique hOther]
  exact ⟨hBears.toWellFormed, fun _ _ => hBears.kind⟩

/-- A tree that comes about by name has no hidden entries if its storage shows none. -/
theorem shown (h : s.ReachedByName w) (hHidden : s.options.showHidden = false) (hHolds : s.Holds w t) :
    t.Shown := by
  obtain ⟨u, hOther, hClean⟩ := h.reached.tidy hHidden
  rw [hHolds.unique hOther]
  exact ⟨hClean.toWellFormed, hClean.shown⟩

end ReachedByName

end Storage

end Cabinet
