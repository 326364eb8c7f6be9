import Cabinet.Proofs.Storage.Entries
import Cabinet.Storage.Tree

/-! Trees whose entries all lie in folders. Each operation is told by what is found after it, and keeps
the tree in this form, whether it succeeds or fails. Making folders never touches a file, and below a
file there is nothing, so that a file that is renamed takes nothing along. -/

namespace Cabinet.Tree

variable {t t' : Tree} {p q source target : StoragePath} {n : Node} {contents : Bytes}
  {ps : List StoragePath}

/-- The contents of the file at a path, if there is one. -/
def file? (t : Tree) (p : StoragePath) : Option Bytes :=
  match t.get? p with
  | some (.file contents) => some contents
  | _ => none

theorem file?_eq_some_iff : t.file? p = some contents ↔ t.get? p = some (.file contents) := by
  rw [file?]
  split
  · rename_i found hFound
    simp [hFound]
  · rename_i hNone
    simp only [reduceCtorEq, false_iff]
    exact hNone contents

theorem file?_congr (h : t.get? p = t'.get? q) : t.file? p = t'.file? q := by
  rw [file?, file?, h]

theorem file?_of_get?_ne_file (h : t.get? p = none ∨ t.get? p = some .folder) : t.file? p = none := by
  rcases h with h | h <;> rw [file?, h]

theorem get?_put : (t.put p n).get? q = if q = p then some n else t.get? q :=
  Entries.get?_put p n t.entries q

theorem get?_put_self : (t.put p n).get? p = some n := by rw [get?_put, if_pos rfl]

theorem get?_put_of_ne (h : q ≠ p) : (t.put p n).get? q = t.get? q := by rw [get?_put, if_neg h]

/-! ### Entries in folders -/

/-- A tree whose entries are in path order, each in a folder that is there as well. -/
structure WellFormed (t : Tree) : Prop where
  ordered : t.entries.Ordered
  inFolder {p : StoragePath} {n : Node} (h : t.get? p = some n) (hp : p.isRoot = false) :
    t.get? p.folder = some .folder

theorem wellFormed_empty : empty.WellFormed where
  ordered := List.pairwise_singleton _ _
  inFolder {p n} h hp := by
    obtain ⟨rfl, -⟩ := Prod.mk.inj (List.mem_singleton.mp (Entries.mem_of_get? h))
    cases hp

namespace WellFormed

/-- All that is above an entry is a folder. -/
theorem above (h : t.WellFormed) (hn : t.get? p = some n) (hBelow : p.startsWith q = true)
    (hne : p ≠ q) : t.get? q = some .folder := by
  induction hDepth : p.depth generalizing p n with
  | zero =>
      have hRoot : p = .root := congrArg StoragePath.mk (List.length_eq_zero_iff.mp hDepth)
      subst hRoot
      have hPrefix := List.prefix_nil.mp (StoragePath.startsWith_iff.mp hBelow)
      exact absurd (congrArg StoragePath.mk hPrefix.symm) hne
  | succ depth ih =>
      have hNotRoot : p.isRoot = false := by
        refine Bool.eq_false_iff.mpr fun hRoot => ?_
        rw [StoragePath.isRoot_iff.mp hRoot] at hDepth
        cases hDepth
      have hFolder := h.inFolder hn hNotRoot
      have hFolderDepth : p.folder.depth = depth := by
        rw [StoragePath.depth, StoragePath.folder, List.length_dropLast]
        exact Nat.sub_eq_of_eq_add hDepth
      by_cases hLast : p.folder = q
      · exact hLast ▸ hFolder
      · exact ih hFolder (StoragePath.startsWith_folder hBelow hne) hLast hFolderDepth

/-- Below what is no folder there is nothing. -/
theorem get?_below (h : t.WellFormed) (hq : t.get? q ≠ some .folder)
    (hBelow : p.startsWith q = true) (hne : p ≠ q) : t.get? p = none := by
  cases hp : t.get? p with
  | none => rfl
  | some n => exact absurd (h.above hp hBelow hne) hq

theorem put (h : t.WellFormed) (hFolder : p.isRoot = false → t.get? p.folder = some .folder)
    (hStays : t.get? p ≠ some .folder ∨ n = .folder) : (t.put p n).WellFormed where
  ordered := h.ordered.put p n
  inFolder {q m} hq hRoot := by
    have hKept : t.get? q.folder = some .folder := by
      by_cases hqp : q = p
      · subst hqp
        exact hFolder hRoot
      · rw [get?_put_of_ne hqp] at hq
        exact h.inFolder hq hRoot
    by_cases hSame : q.folder = p
    · rw [hSame, get?_put_self, hStays.resolve_left (not_not_intro (hSame ▸ hKept))]
    · rw [get?_put_of_ne hSame, hKept]

end WellFormed

/-! ### Taking entries out -/

theorem get?_erase : get? ⟨t.entries.erase p⟩ q = if q = p then none else t.get? q :=
  Entries.get?_erase

theorem get?_outside : get? ⟨t.entries.outside p⟩ q = if q.startsWith p then none else t.get? q :=
  Entries.get?_outside

/-- What is no folder can be taken out alone. -/
theorem WellFormed.erase (h : t.WellFormed) (hp : t.get? p ≠ some .folder) :
    WellFormed ⟨t.entries.erase p⟩ where
  ordered := h.ordered.filter _
  inFolder {q n} hq hRoot := by
    rw [get?_erase] at hq ⊢
    split at hq
    · cases hq
    · have hFolder := h.inFolder hq hRoot
      have hOther : q.folder ≠ p := fun hSame => hp (hSame ▸ hFolder)
      rw [if_neg hOther, hFolder]

theorem WellFormed.outside (h : t.WellFormed) (p : StoragePath) :
    WellFormed ⟨t.entries.outside p⟩ where
  ordered := h.ordered.filter _
  inFolder {q n} hq hRoot := by
    rw [get?_outside] at hq ⊢
    split at hq
    · cases hq
    · rename_i hAway
      have hAside := StoragePath.not_folder_startsWith_of_not (Bool.eq_false_iff.mpr hAway)
      rw [if_neg (Bool.eq_false_iff.mp hAside)]
      exact h.inFolder hq hRoot

/-- The entries that are left after a removal are as they were. -/
structure Thins (t t' : Tree) : Prop where
  wellFormed : t.WellFormed → t'.WellFormed
  found {p : StoragePath} {n : Node} (h : t'.get? p = some n) : t.get? p = some n
  root (h : t.get? .root = some .folder) : t'.get? .root = some .folder

theorem thins_removeFile (h : t.removeFile p = .ok t') : Thins t t' := by
  rw [removeFile] at h
  split at h
  · rename_i contents hFile
    obtain rfl := Except.ok.inj h
    have hNoFolder : t.get? p ≠ some .folder := by simp [hFile]
    refine ⟨fun hT => hT.erase hNoFolder, fun {q n} hq => ?_, fun hRoot => ?_⟩
    · rw [get?_erase] at hq
      split at hq
      · cases hq
      · exact hq
    · have hOther : StoragePath.root ≠ p := fun hSame => hNoFolder (hSame ▸ hRoot)
      rw [get?_erase, if_neg hOther, hRoot]
  · cases h
  · cases h

theorem thins_removeFolder (h : t.removeFolder p = .ok t') : Thins t t' := by
  rw [removeFolder] at h
  split at h
  · cases h
  · split at h
    · obtain rfl := Except.ok.inj h
      have hFound (q : StoragePath) :
          get? ⟨t.entries.filter fun e => e.1.isRoot⟩ q = if q.isRoot then t.get? q else none :=
        Entries.get?_filter (fun r => r.isRoot) t.entries q
      refine ⟨fun hT => ⟨hT.ordered.filter _, fun {q n} hq hRoot => ?_⟩, fun {q n} hq => ?_,
        fun hRoot => ?_⟩
      · rw [hFound, hRoot] at hq
        cases hq
      · rw [hFound] at hq
        split at hq
        · exact hq
        · cases hq
      · have hIs : StoragePath.root.isRoot = true := rfl
        rw [hFound, if_pos hIs, hRoot]
    · rename_i hNotRoot
      obtain rfl := Except.ok.inj h
      refine ⟨fun hT => hT.outside p, fun {q n} hq => ?_, fun hRoot => ?_⟩
      · rw [get?_outside] at hq
        split at hq
        · cases hq
        · exact hq
      · have hAside := StoragePath.not_root_startsWith (Bool.eq_false_iff.mpr hNotRoot)
        rw [get?_outside, if_neg (Bool.eq_false_iff.mp hAside), hRoot]

/-! ### Making folders -/

theorem get?_createEach (t : Tree) (ps : List StoragePath) : (t.createEach ps).2.get? q = t.get? q ∨
    q ∈ ps ∧ t.get? q = none ∧ (t.createEach ps).2.get? q = some .folder := by
  induction ps generalizing t with
  | nil => exact Or.inl rfl
  | cons p rest ih =>
      rw [createEach]
      split
      · exact (ih t).imp_right fun ⟨hMem, hNone, hMade⟩ => ⟨List.mem_cons_of_mem _ hMem, hNone, hMade⟩
      · exact Or.inl rfl
      · rename_i hNone
        by_cases hq : q = p
        · subst hq
          refine Or.inr ⟨List.mem_cons_self, hNone, ?_⟩
          rcases ih (t.put q .folder) with hKept | ⟨-, hAbsent, -⟩
          · rw [hKept, get?_put_self]
          · rw [get?_put_self] at hAbsent
            cases hAbsent
        · rcases ih (t.put p .folder) with hKept | ⟨hMem, hAbsent, hMade⟩
          · exact Or.inl (hKept.trans (get?_put_of_ne hq))
          · exact Or.inr ⟨List.mem_cons_of_mem _ hMem, (get?_put_of_ne hq).symm.trans hAbsent, hMade⟩

/-- Without a file among them, all of the paths are folders in the end. -/
theorem createEach_ok (h : ∀ q ∈ ps, t.file? q = none) :
    (t.createEach ps).1 = .ok () ∧ ∀ q ∈ ps, (t.createEach ps).2.get? q = some .folder := by
  induction ps generalizing t with
  | nil => exact ⟨rfl, fun q hq => absurd hq List.not_mem_nil⟩
  | cons p rest ih =>
      obtain ⟨hFirst, hRest⟩ := List.forall_mem_cons.mp h
      rw [createEach]
      split
      · rename_i hFolder
        obtain ⟨hOk, hAll⟩ := ih hRest
        refine ⟨hOk, List.forall_mem_cons.mpr ⟨?_, hAll⟩⟩
        rcases get?_createEach t rest (q := p) with hKept | ⟨-, hNone, -⟩
        · rw [hKept, hFolder]
        · rw [hFolder] at hNone
          cases hNone
      · rename_i hFile
        rw [file?_eq_some_iff.mpr hFile] at hFirst
        cases hFirst
      · have hFiles : ∀ q ∈ rest, (t.put p .folder).file? q = none := by
          intro q hq
          by_cases hSame : q = p
          · subst hSame
            exact file?_of_get?_ne_file (Or.inr get?_put_self)
          · rw [file?_congr (get?_put_of_ne hSame), hRest q hq]
        obtain ⟨hOk, hAll⟩ := ih hFiles
        refine ⟨hOk, List.forall_mem_cons.mpr ⟨?_, hAll⟩⟩
        rcases get?_createEach (t.put p .folder) rest (q := p) with hKept | ⟨-, -, hMade⟩
        · rw [hKept, get?_put_self]
        · exact hMade

/-- Folders made on the way down lie in the ones before. -/
theorem WellFormed.createEach_inits (h : t.WellFormed) (above segments : List String)
    (hAbove : (StoragePath.mk above).isRoot = false →
      t.get? (StoragePath.mk above).folder = some .folder) :
    (t.createEach (segments.inits.map fun l => ⟨above ++ l⟩)).2.WellFormed := by
  induction segments generalizing above t with
  | nil =>
      simp only [List.inits, List.map_cons, List.map_nil, List.append_nil, createEach]
      split
      · exact h
      · exact h
      · exact h.put hAbove (Or.inr rfl)
  | cons s rest ih =>
      have hPaths : ((s :: rest).inits.map fun l => StoragePath.mk (above ++ l)) =
          StoragePath.mk above :: rest.inits.map fun l => StoragePath.mk (above ++ [s] ++ l) := by
        simp [Function.comp_def]
      have hFolder : (StoragePath.mk (above ++ [s])).folder = ⟨above⟩ :=
        StoragePath.folder_child (p := ⟨above⟩)
      rw [hPaths, createEach]
      split
      · rename_i hFound
        exact ih h (above ++ [s]) fun _ => hFolder ▸ hFound
      · exact h
      · exact ih (h.put hAbove (Or.inr rfl)) (above ++ [s]) fun _ => hFolder ▸ get?_put_self

theorem createFolders_eq (t : Tree) (p : StoragePath) :
    t.createFolders p = t.createEach (p.segments.inits.map StoragePath.mk) := by
  rw [createFolders, StoragePath.ancestors_reverse_append]

theorem WellFormed.createFolders (h : t.WellFormed) (p : StoragePath) :
    (t.createFolders p).2.WellFormed := by
  rw [createFolders_eq]
  exact h.createEach_inits [] p.segments fun hRoot => nomatch hRoot

/-- Only folders are made, where there was nothing, and on the way down. -/
theorem get?_createFolders : (t.createFolders p).2.get? q = t.get? q ∨
    p.startsWith q = true ∧ t.get? q = none ∧ (t.createFolders p).2.get? q = some .folder := by
  rw [← StoragePath.mem_ancestors_append_iff]
  exact get?_createEach t _

/-- New folders leave what is there. -/
theorem get?_createFolders_of_some (h : t.get? q = some n) : (t.createFolders p).2.get? q = some n := by
  rcases get?_createFolders (t := t) (p := p) (q := q) with hKept | ⟨-, hNone, -⟩
  · exact hKept.trans h
  · cases hNone.symm.trans h

theorem file?_createFolders : (t.createFolders p).2.file? q = t.file? q := by
  rcases get?_createFolders (t := t) (p := p) (q := q) with hKept | ⟨-, hNone, hMade⟩
  · exact file?_congr hKept
  · rw [file?_of_get?_ne_file (Or.inr hMade), file?_of_get?_ne_file (Or.inl hNone)]

theorem createFolders_ok (h : ∀ q, p.startsWith q = true → t.file? q = none) :
    (t.createFolders p).1 = .ok () ∧
      ∀ q, p.startsWith q = true → (t.createFolders p).2.get? q = some .folder := by
  simp only [← StoragePath.mem_ancestors_append_iff] at h ⊢
  exact createEach_ok h

/-! ### Files -/

theorem requireFolder_eq_ok_iff : t.requireFolder p = .ok () ↔ t.get? p = some .folder := by
  rw [requireFolder]
  split <;> simp_all

theorem requireParent_eq (hp : p.isRoot = false) : t.requireParent p = t.requireFolder p.folder := by
  rw [requireParent, StoragePath.parent?_eq hp]

/-- In a folder a file can be begun, but not over another folder. -/
theorem create_eq (hp : p.isRoot = false) (hFolder : t.get? p.folder = some .folder) :
    t.create p = if t.get? p = some .folder then .error (.isAFolder p) else .ok (t.put p (.file [])) := by
  rw [create, requireParent_eq hp, requireFolder_eq_ok_iff.mpr hFolder]
  dsimp only
  split
  · rename_i hFound
    rw [if_pos hFound]
  · rename_i hNone
    rw [if_neg hNone]

theorem removeFile_eq (h : t.get? p = some (.file contents)) :
    t.removeFile p = .ok ⟨t.entries.erase p⟩ := by
  rw [removeFile, h]

theorem put_put (n m : Node) : (t.put p n).put p m = t.put p m := by
  have hEntries (es : Entries Node) : (es.put p n).put p m = es.put p m := by
    induction es with
    | nil => simp [Entries.put]
    | cons e rest ih =>
        simp only [Entries.put]
        split_ifs with hKey hBefore
        · rw [Entries.put, if_pos rfl]
        · rw [Entries.put, if_pos rfl]
        · rw [Entries.put, if_neg hKey, if_neg hBefore, ih]
  exact congrArg Tree.mk (hEntries t.entries)

/-! ### Renaming -/

theorem rename_eq_ok (h : t.rename source target = .ok t') :
    target.startsWith source = false ∧ source.isRoot = false ∧ target.isRoot = false ∧
      t.get? target.folder = some .folder ∧ t' = ⟨t.entries.move source target⟩ := by
  rw [rename] at h
  split at h
  · cases h
  · split at h
    · cases h
    · rename_i hInto
      obtain ⟨hSource, hBelow⟩ := not_or.mp fun hOr => hInto (Bool.or_eq_true_iff.mpr hOr)
      split at h
      · cases h
      · rename_i hParent
        obtain rfl := Except.ok.inj h
        cases hRoot : target.isRoot with
        | true =>
            rw [requireParent, StoragePath.parent?, if_pos hRoot] at hParent
            cases hParent
        | false =>
            rw [requireParent_eq hRoot] at hParent
            exact ⟨Bool.eq_false_iff.mpr hBelow, Bool.eq_false_iff.mpr hSource, rfl,
              requireFolder_eq_ok_iff.mp hParent, rfl⟩

/-- What stands in the way of an entry that is there, once the folder of its target is there as well, is only that
the target lies at or below the entry itself. -/
theorem rename_eq_error {e : IoError} (hError : t.rename source target = .error e)
    (hThere : t.get? source ≠ none) (hRoot : target.isRoot = false) (hFolder : t.get? target.folder = some .folder) :
    target.startsWith source = true ∧ e = .movesInto source target := by
  rw [rename, if_neg (by simpa using hThere), requireParent_eq hRoot,
    requireFolder_eq_ok_iff.mpr hFolder] at hError
  split at hError
  · rename_i hInto
    refine ⟨?_, (Except.error.inj hError).symm⟩
    rcases Bool.or_eq_true_iff.mp hInto with hTop | hBelow
    · exact StoragePath.startsWith_iff.mpr (StoragePath.isRoot_iff.mp hTop ▸ List.nil_prefix)
    · exact hBelow
  · cases hError

/-- What is found after a move was there before, at the same path or at the one it is moved from. -/
theorem get?_move (h : t.WellFormed) (hn : get? ⟨t.entries.move source target⟩ q = some n) :
    (∃ rest, q = ⟨target.segments ++ rest⟩ ∧ t.get? ⟨source.segments ++ rest⟩ = some n ∧
        StoragePath.startsWith ⟨source.segments ++ rest⟩ target = false) ∨
      q.startsWith target = false ∧ q.startsWith source = false ∧ t.get? q = some n := by
  cases hTarget : q.startsWith target with
  | true =>
      obtain ⟨segments⟩ := q
      obtain ⟨rest, rfl⟩ := StoragePath.startsWith_iff.mp hTarget
      rw [get?, Entries.get?_move_target h.ordered] at hn
      split at hn
      · cases hn
      · rename_i hAway
        exact Or.inl ⟨rest, rfl, hn, Bool.eq_false_iff.mpr hAway⟩
  | false =>
      rw [get?, Entries.get?_move_of_not_startsWith hTarget] at hn
      split at hn
      · cases hn
      · rename_i hAway
        exact Or.inr ⟨rfl, Bool.eq_false_iff.mpr hAway, hn⟩

theorem WellFormed.rename (h : t.WellFormed) (hRenamed : t.rename source target = .ok t') :
    t'.WellFormed := by
  obtain ⟨hInto, -, hRoot, hFolder, rfl⟩ := rename_eq_ok hRenamed
  refine ⟨h.ordered.move source target, fun {q n} hq hqRoot => ?_⟩
  rcases get?_move h hq with ⟨rest, rfl, hOld, hAway⟩ | ⟨hTarget, hSource, hOld⟩
  · rcases List.eq_nil_or_concat rest with rfl | ⟨front, last, rfl⟩
    · -- The target itself: its folder is neither moved nor lost.
      simp only [List.append_nil]
      have hAside := StoragePath.not_folder_startsWith_of_not hInto
      rw [get?, Entries.get?_move_of_not_startsWith (StoragePath.not_folder_startsWith hRoot),
        if_neg (Bool.eq_false_iff.mp hAside)]
      exact hFolder
    · have hNewFolder : (StoragePath.mk (target.segments ++ front.concat last)).folder =
          ⟨target.segments ++ front⟩ := by simp [StoragePath.folder, ← List.append_assoc]
      have hOldFolder : (StoragePath.mk (source.segments ++ front.concat last)).folder =
          ⟨source.segments ++ front⟩ := by simp [StoragePath.folder, ← List.append_assoc]
      have hNotRoot : (StoragePath.mk (source.segments ++ front.concat last)).isRoot = false := by
        simp [StoragePath.isRoot]
      have hAside := StoragePath.not_folder_startsWith_of_not hAway
      have hFound := h.inFolder hOld hNotRoot
      rw [hOldFolder] at hAside hFound
      rw [hNewFolder, get?, Entries.get?_move_target h.ordered, if_neg (Bool.eq_false_iff.mp hAside)]
      exact hFound
  · have hAside := StoragePath.not_folder_startsWith_of_not hSource
    rw [get?,
      Entries.get?_move_of_not_startsWith (StoragePath.not_folder_startsWith_of_not hTarget),
      if_neg (Bool.eq_false_iff.mp hAside)]
    exact h.inFolder hOld hqRoot

/-- A file takes the place of another one, or a free place, in the same folder, and nothing else
changes. -/
theorem rename_file (h : t.WellFormed) (hFile : t.get? source = some (.file contents))
    (hRoot : target.isRoot = false) (hFolder : t.get? target.folder = some .folder)
    (hTarget : t.get? target ≠ some .folder) (hne : source ≠ target)
    (hDepth : source.depth = target.depth) :
    ∃ t', t.rename source target = .ok t' ∧ ∀ q, t'.get? q =
      if q = target then some (.file contents) else if q = source then none else t.get? q := by
  have hApart := StoragePath.not_startsWith_of_ne hne.symm hDepth.symm
  have hSourceApart := StoragePath.not_startsWith_of_ne hne hDepth
  have hNoFolder : t.get? source ≠ some .folder := by simp [hFile]
  have hRenamed : t.rename source target = .ok ⟨t.entries.move source target⟩ := by
    rw [rename, hFile, StoragePath.isRoot_congr hDepth, hRoot, hApart, requireParent_eq hRoot,
      requireFolder_eq_ok_iff.mpr hFolder]
    rfl
  refine ⟨_, hRenamed, fun q => ?_⟩
  cases hBelow : q.startsWith target with
  | true =>
      have hqSource : q ≠ source := fun hSame => by
        rw [← hSame, hBelow] at hSourceApart
        cases hSourceApart
      obtain ⟨segments⟩ := q
      obtain ⟨rest, rfl⟩ := StoragePath.startsWith_iff.mp hBelow
      rw [get?, Entries.get?_move_target h.ordered]
      cases rest with
      | nil =>
          simp only [List.append_nil, hSourceApart, Bool.false_eq_true, if_false, if_true]
          exact hFile
      | cons s rest =>
          -- Neither of the two is a folder, so that nothing is below them.
          have hOther {r : StoragePath} : (⟨r.segments ++ s :: rest⟩ : StoragePath) ≠ r := by
            intro hSame
            exact absurd (congrArg StoragePath.segments hSame) (by simp)
          have hUnder {r : StoragePath} : StoragePath.startsWith ⟨r.segments ++ s :: rest⟩ r = true :=
            StoragePath.startsWith_iff.mpr (List.prefix_append _ _)
          have hNone : t.entries.get? ⟨source.segments ++ s :: rest⟩ = none :=
            h.get?_below hNoFolder hUnder hOther
          rw [if_neg hOther, if_neg hqSource, h.get?_below hTarget hUnder hOther, hNone, ite_self]
  | false =>
      have hqTarget : q ≠ target := fun hSame => by
        rw [hSame, StoragePath.startsWith_self] at hBelow
        cases hBelow
      rw [if_neg hqTarget, get?, Entries.get?_move_of_not_startsWith hBelow]
      by_cases hSame : q = source
      · rw [if_pos hSame, if_pos (hSame ▸ StoragePath.startsWith_self)]
      · rw [if_neg hSame]
        split
        · rename_i hUnder
          exact (h.get?_below hNoFolder hUnder hSame).symm
        · rfl

end Cabinet.Tree
