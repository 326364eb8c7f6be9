import Cabinet.Proofs.Storage.Overlay
import Mathlib.Data.List.Perm.Subperm

/-! How deep a copy goes. The tree that is copied only changes where the copy is made, if it does at all.
As long as what is listed of a folder comes closer to a bound, and what is added keeps to it, a copy
comes to its end. So it does, within the depth of the tree, unless the copy is made below the folder. -/

namespace Cabinet

variable {A B : Storage} {s c p q : StoragePath} {rest : List String} {t t' : Tree} {n m : Node}
  {w w' : World} {bound : Nat}

/-! ### Counting entries -/

namespace Tree

/-- There are at least as many entries as different paths that have one. -/
theorem length_le_entries {paths : List StoragePath} (hNodup : paths.Nodup)
    (h : ∀ p ∈ paths, ∃ n, t.get? p = some n) : paths.length ≤ t.entries.length := by
  have hSubset : paths ⊆ t.entries.map Prod.fst := by
    intro p hp
    obtain ⟨n, hFound⟩ := h p hp
    exact List.mem_map.mpr ⟨(p, n), Entries.mem_of_get? hFound, rfl⟩
  have hLength := (List.subperm_of_subset hNodup hSubset).length_le
  rwa [List.length_map] at hLength

/-- The beginnings of a path, from one on. -/
theorem nodup_takes (s : StoragePath) (front rest : List String) :
    ((List.range rest.length).map fun k => s.down (front ++ rest.take (k + 1))).Nodup := by
  apply List.Nodup.map_on _ List.nodup_range
  intro k hk l hl hSame
  have hTakes := congrArg List.length (List.append_cancel_left (StoragePath.down_inj.mp hSame))
  rw [List.length_take, List.length_take] at hTakes
  have := List.mem_range.mp hk
  have := List.mem_range.mp hl
  omega

/-- Nothing lies deeper than there are other entries. -/
theorem WellFormed.depth_lt (hT : t.WellFormed) (h : t.get? p = some n) :
    p.depth < t.entries.length := by
  have hNodup : (StoragePath.root :: ((List.range p.segments.length).map fun k =>
      StoragePath.root.down ([] ++ p.segments.take (k + 1)))).Nodup := by
    refine List.nodup_cons.mpr ⟨fun hMem => ?_, nodup_takes _ _ _⟩
    obtain ⟨k, hk, hSame⟩ := List.mem_map.mp hMem
    have hLength := congrArg StoragePath.depth hSame
    have := List.mem_range.mp hk
    rw [StoragePath.depth_down, List.nil_append, List.length_take] at hLength
    have hRoot : StoragePath.root.depth = 0 := rfl
    omega
  have hLength := length_le_entries (t := t) hNodup fun q hq => ?_
  · rwa [List.length_cons, List.length_map, List.length_range] at hLength
  · apply hT.exists_above h
    rcases List.mem_cons.mp hq with rfl | hq
    · exact StoragePath.startsWith_iff.mpr List.nil_prefix
    · obtain ⟨k, -, rfl⟩ := List.mem_map.mp hq
      exact StoragePath.startsWith_iff.mpr (List.take_prefix _ _)

end Tree

/-! ### Going down a tree -/

/-- Two storages have one tree, or each a place of its own. -/
def Storage.Beside (A B : Storage) : Prop := A.backend = B.backend ∨ A.backend.place ≠ B.backend.place

/-- A storage has a tree of a kind. -/
def Storage.HoldsSuch (A : Storage) (J : Tree → Prop) (w : World) : Prop := ∃ t, A.Holds w t ∧ J t

/-- A storage's tree after something has been made at a path of another storage. -/
def Storage.Grows (A B : Storage) (p : StoragePath) (t t' : Tree) : Prop :=
  t' = t ∨ A.backend = B.backend ∧ ∃ n, t.Gains p n t'

namespace Item

open Cabinet.Action

variable {folder j copy : Item} {e : EntryMeta} {E : FileError → Prop} {J : Tree → Prop}
  {G : Nat → List String → Prop} {levels : Nat}

theorem grows_file (hBeside : A.Beside folder.storage) (hA : A.Holds w t) (hT : t.WellFormed)
    (hp : p.Plain) (hEntry : requireEntry ⟨A, p⟩ w = .ok e) (hFile : e.isFile = true)
    (hRun : folder.create (name ⟨A, p⟩) (.item ⟨A, p⟩) w = (.ok j, w')) :
    ∃ t', A.Holds w' t' ∧ A.Grows folder.storage (p.under folder.path) t t' := by
  rcases hBeside with hOne | hOther
  · obtain ⟨contents, t', -, -, -, hAfter, hGains⟩ :=
      create_copy_ok hA (hA.of_backend hOne.symm) hT (fun _ => hOne) hp hEntry hFile hRun
    exact ⟨t', hAfter.of_backend hOne, Or.inr ⟨hOne, _, hGains⟩⟩
  · have hElsewhere := keeps_create_elsewhere folder (name ⟨A, p⟩) (.item ⟨A, p⟩) w (.refl _ w)
    rw [hRun] at hElsewhere
    exact ⟨t, hElsewhere.holds hA hOther, Or.inl rfl⟩

theorem grows_folder (hBeside : A.Beside folder.storage) (hA : A.Holds w t) (hT : t.WellFormed)
    (hp : p.Plain) (hMade : folder.createFolder (name ⟨A, p⟩) w = (.ok copy, w')) :
    ∃ t', A.Holds w' t' ∧ A.Grows folder.storage (p.under folder.path) t t' := by
  rcases hBeside with hOne | hOther
  · obtain ⟨t', -, -, hAfter, hGains⟩ :=
      createFolder_copy_ok (i := ⟨A, p⟩) (hA.of_backend hOne.symm) hT hp hMade
    exact ⟨t', hAfter.of_backend hOne, Or.inr ⟨hOne, _, hGains⟩⟩
  · have hElsewhere := keeps_createFolder_elsewhere folder (name ⟨A, p⟩) w (.refl _ w)
    rw [hMade] at hElsewhere
    exact ⟨t, hElsewhere.holds hA hOther, Or.inl rfl⟩

/-- An induction over the copy of a tree: what every growth of the tree keeps, and what leads from an
entry to those below it that are there. -/
structure TreeDescent (E : FileError → Prop) (A B : Storage) (s c : StoragePath) (J : Tree → Prop)
    (G : Nat → List String → Prop) : Prop where
  beside : A.Beside B
  ordinary {e : FileError} (h : e.IsOrdinary) : E e
  cut {rest : List String} (hG : G 0 rest) : E (.endless (s.down rest))
  wellFormed {t : Tree} (h : J t) : t.WellFormed
  named {t : Tree} (h : J t) : t.Named
  gains {levels : Nat} {rest : List String} {t t' : Tree} {n m : Node} (hOne : A.backend = B.backend)
    (hG : G (levels + 1) rest) (h : J t) (hThere : t.get? (s.down rest) = some m)
    (hGains : t.Gains (c.down rest) n t') : J t'
  child {levels : Nat} {rest : List String} {x : String} {t : Tree} {n : Node} (hG : G (levels + 1) rest)
    (h : J t) (hThere : t.get? (s.down (rest ++ [x])) = some n) : G levels (rest ++ [x])

namespace TreeDescent

theorem grows (h : TreeDescent E A B s c J G) (hG : G (levels + 1) rest) (hJ : J t)
    (hThere : t.get? (s.down rest) = some m) (hPlace : A.backend = B.backend → p = c.down rest)
    (hGrows : A.Grows B p t t') : J t' := by
  rcases hGrows with rfl | ⟨hOne, n, hGains⟩
  · exact hJ
  · exact h.gains hOne hG hJ hThere (hPlace hOne ▸ hGains)

theorem descent (h : TreeDescent E A B s c J G) :
    Descent E (A.HoldsSuch J) fun levels i folder => ∃ rest, i = ⟨A, s.down rest⟩ ∧
      folder.storage = B ∧ (A.backend = B.backend → i.path.under folder.path = c.down rest) ∧
      G levels rest where
  ordinary := h.ordinary
  cut {i folder} hG := by
    obtain ⟨rest, rfl, -, -, hG⟩ := hG
    exact h.cut hG
  file {levels i folder j e w w'} hG hw hEntry hFile hRun := by
    obtain ⟨rest, rfl, rfl, hPlace, hG⟩ := hG
    obtain ⟨t, hHolds, hJ⟩ := hw
    obtain ⟨-, n, hFound, -⟩ := entry_of_requireEntry hHolds hEntry
    obtain ⟨t', hAfter, hGrows⟩ :=
      grows_file h.beside hHolds (h.wellFormed hJ) (h.named hJ _ _ hFound) hEntry hFile hRun
    exact ⟨t', hAfter, h.grows hG hJ hFound hPlace hGrows⟩
  folder {levels i folder copy e children w w'} hG hw hEntry hKind hListed hMade := by
    obtain ⟨rest, rfl, rfl, hPlace, hG⟩ := hG
    obtain ⟨t, hHolds, hJ⟩ := hw
    obtain ⟨-, n, hFound, -⟩ := entry_of_requireEntry hHolds hEntry
    have hPlain := h.named hJ _ _ hFound
    obtain ⟨t', hAfter, hGrows⟩ := grows_folder h.beside hHolds (h.wellFormed hJ) hPlain hMade
    refine ⟨⟨t', hAfter, h.grows hG hJ hFound hPlace hGrows⟩, fun child hMem => ?_⟩
    -- The children were there before the copy was made.
    obtain ⟨-, rfl⟩ := (list_eq_ok_iff hHolds (h.wellFormed hJ)).mp hListed
    obtain ⟨x, rfl, hThere, -⟩ := (mem_listed_iff (h.wellFormed hJ)).mp hMem
    obtain ⟨k, hThere⟩ := Option.ne_none_iff_exists'.mp hThere
    rw [StoragePath.child_down] at hThere
    refine ⟨rest ++ [x], by rw [StoragePath.child_down], ?_, fun hOne => ?_, h.child hG hJ hThere⟩
    · exact storage_of_createFolder (congrArg Prod.fst hMade)
    · have hB := hHolds.of_backend hOne.symm
      obtain ⟨-, rfl, -⟩ := createFolder_copy_ok (i := ⟨A, s.down rest⟩) hB (h.wellFormed hJ) hPlain hMade
      rw [← StoragePath.child_down, StoragePath.under_child, hPlace hOne]

/-- A copy ends as it should, and the tree is as it should be afterwards. -/
theorem ends (h : TreeDescent E A folder.storage s c J G) (hG : G levels rest) (hA : A.Holds w t)
    (hJ : J t) (hPlace : (s.down rest).under folder.path = c.down rest) :
    Ends E (fun _ => A.HoldsSuch J) (copyDown levels ⟨A, s.down rest⟩ folder w) :=
  h.descent.ends ⟨rest, rfl, rfl, fun _ => hPlace, hG⟩ ⟨t, hA, hJ⟩

end TreeDescent

end Item

/-! ### The depth of a tree -/

/-- A tree in which nothing at or below a path lies deeper than a bound. -/
structure Tree.Shallow (s : StoragePath) (bound : Nat) (t : Tree) : Prop extends t.WellFormed where
  named : t.Named
  depth_le {q : StoragePath} {n : Node} (hBelow : q.startsWith s = true) (h : t.get? q = some n) :
    q.depth ≤ bound

/-- What is copied aside of the path does not come deeper than it was. -/
theorem Tree.Shallow.gains (h : t.Shallow s bound) (hAside : c.startsWith s = true → c = s)
    (hc : c.Plain) (hThere : t.get? (s.down rest) = some m) (hGains : t.Gains (c.down rest) n t') :
    t'.Shallow s bound where
  toWellFormed := hGains.wellFormed
  named := hGains.named h.named (hc.down (h.named _ _ hThere))
  depth_le {q k} hBelow hFound := by
    rcases hGains.startsWith_of_get? hFound with hBefore | hWay
    · exact h.depth_le hBelow hBefore
    · have hDepth : c.depth ≤ s.depth :=
        StoragePath.depth_le_of_down_startsWith hAside (StoragePath.startsWith_trans hWay hBelow)
      calc q.depth ≤ (c.down rest).depth := StoragePath.depth_le_of_startsWith hWay
        _ = c.depth + rest.length := StoragePath.depth_down
        _ ≤ s.depth + rest.length := Nat.add_le_add_right hDepth _
        _ = (s.down rest).depth := StoragePath.depth_down.symm
        _ ≤ bound := h.depth_le StoragePath.startsWith_down hThere

namespace Item

open Cabinet.Action

theorem descent_shallow (hBeside : A.Beside B) (hc : c.Plain)
    (hAside : A.backend = B.backend → c.startsWith s = true → c = s) :
    TreeDescent FileError.IsOrdinary A B s c (Tree.Shallow s bound) fun levels rest =>
      0 < levels ∧ bound < levels + (s.down rest).depth where
  beside := hBeside
  ordinary he := he
  cut hG := absurd hG.1 (Nat.lt_irrefl 0)
  wellFormed h := h.toWellFormed
  named h := h.named
  gains hOne _ h hThere hGains := h.gains (hAside hOne) hc hThere hGains
  child {levels rest x t n} hG h hThere := by
    have hDepth := h.depth_le StoragePath.startsWith_down hThere
    have hLevels := hG.2
    rw [StoragePath.depth_down] at hDepth hLevels ⊢
    rw [List.length_append, List.length_singleton] at hDepth ⊢
    omega

/-- A copy that is not made below the folder needs no more levels than there are at and below it. -/
theorem completes_shallow {i folder : Item} {levels : Nat} (hBeside : i.storage.Beside folder.storage)
    (hPlain : i.path.Plain) (hFolder : folder.path.Plain)
    (hAside : i.storage.backend = folder.storage.backend →
      (i.path.under folder.path).startsWith i.path = true → i.path.under folder.path = i.path)
    (hA : i.storage.Holds w t) (hT : t.Shallow i.path bound) (hPositive : 0 < levels)
    (hLevels : bound < levels + i.path.depth) : Completes (copyDown levels i folder w) := by
  have hPlace : (i.path.down []).under folder.path = (i.path.under folder.path).down [] := by
    rw [StoragePath.down_nil, StoragePath.down_nil]
  have hStart : 0 < levels ∧ bound < levels + (i.path.down []).depth := by
    rw [StoragePath.down_nil]
    exact ⟨hPositive, hLevels⟩
  have hEnds := (descent_shallow hBeside (hPlain.under hFolder) hAside).ends hStart hA hT hPlace
  rw [StoragePath.down_nil] at hEnds
  exact completes_of_ends hEnds

end Item

/-! ### The length of file names -/

namespace Storage

variable {root names : List String} {e : EntryMeta} {x : String}

theorem native_le_of_entry (hPlace : A.backend.place = .directory root)
    (h : A.entry p w = .ok (some e)) :
    (Disk.native (Directory.namesOf root p)).utf8ByteSize ≤ Disk.pathLimit := by
  have hMetadata : A.backend.metadata p w = .ok (some e) := Query.mapError_eq_ok_iff.mp h
  rw [Backend.metadata] at hMetadata
  split at hMetadata
  · cases hMetadata
  · rw [hPlace] at hMetadata
    dsimp only at hMetadata
    cases hFound : Directory.metadata w.disk root p with
    | error cause =>
        rw [hFound] at hMetadata
        cases hMetadata
    | ok found =>
        rw [hFound] at hMetadata
        cases found with
        | none => cases Except.ok.inj hMetadata
        | some m => exact Directory.native_le_of_metadata hFound

theorem ne_empty_of_list (hPlace : A.backend.place = .directory root) (hNamed : w.disk.Named)
    (h : A.backend.list p w = .ok names) (hName : x ∈ names) : x ≠ "" := by
  rw [Backend.list] at h
  split at h
  · cases h
  · rw [hPlace] at h
    dsimp only at h
    rw [Directory.list] at h
    split at h
    · cases h
    · rw [Disk.list] at h
      split at h
      · cases h
      · rename_i q _
        split at h
        · obtain rfl := Except.ok.inj h
          have hThere : q.child x ∈ (w.disk.entries.names q).map q.child := List.mem_map_of_mem hName
          rw [Entries.map_child_names] at hThere
          obtain ⟨e, he, hEntry⟩ := List.mem_map.mp hThere
          rintro rfl
          apply hNamed e (List.mem_of_mem_filter (List.mem_of_mem_filter he))
          rw [hEntry]
          exact List.mem_append_right _ (List.mem_singleton_self _)
        · cases h
        · cases h

end Storage

namespace Item

open Cabinet.Action

variable {root : List String} {folder : Item}

/-- File names become longer from level to level. -/
theorem descent_directory (hPlace : A.backend.place = .directory root) :
    Descent FileError.IsOrdinary (fun w => w.disk.Named) fun levels i _ => i.storage = A ∧ 0 < levels ∧
      Disk.pathLimit < levels + (Disk.native (Directory.namesOf root i.path)).utf8ByteSize where
  ordinary he := he
  cut hG := absurd hG.2.1 (Nat.lt_irrefl 0)
  file {levels i folder j e w w'} _ h _ _ hRun := by
    have hElsewhere := keeps_create_elsewhere folder i.name (.item i) w (.refl _ w)
    rw [hRun] at hElsewhere
    exact hElsewhere.named h
  folder {levels i folder copy e children w w'} hG h _ _ hListed hMade := by
    obtain ⟨rfl, -, hLevels⟩ := hG
    have hElsewhere := keeps_createFolder_elsewhere folder i.name w (.refl _ w)
    rw [hMade] at hElsewhere
    refine ⟨hElsewhere.named h, fun child hMem => ?_⟩
    obtain ⟨x, names, m, hNames, hName, rfl, hThere⟩ := mem_list hListed hMem
    have hLimit := Storage.native_le_of_entry hPlace hThere
    have hLonger := Disk.native_lt (Directory.namesOf root i.path)
      (Storage.ne_empty_of_list hPlace h hNames hName)
    have hWay : Directory.namesOf root (i.path.child x) = Directory.namesOf root i.path ++ [x] :=
      (List.append_assoc _ _ _).symm
    rw [hWay] at hLimit ⊢
    exact ⟨rfl, by omega, by omega⟩

/-- A copy of a directory ends, wherever it is made. -/
theorem completes_directory {i : Item} {levels : Nat}
    (hPlace : i.storage.backend.place = .directory root) (hNamed : w.disk.Named)
    (hLevels : Disk.pathLimit < levels) : Completes (copyDown levels i folder w) := by
  have hStart : 0 < levels ∧
      Disk.pathLimit < levels + (Disk.native (Directory.namesOf root i.path)).utf8ByteSize := by omega
  exact completes_of_ends ((descent_directory hPlace).ends ⟨rfl, hStart⟩ hNamed)

end Item

end Cabinet
