import Cabinet.Proofs.Storage.Listing
import Cabinet.Proofs.Storage.Operations
import Cabinet.Proofs.Storage.Requests

/-! Moves of entries. What is at or below the target of a move is what was at or below its source, nothing is
left there, and all else stays. Only a move up to where its own source lies destroys what it moves; items are
never moved there, since all that is above an entry are folders, and no folder is replaced. What renaming an
item can come to is said once, whether it fails or not. -/

namespace Cabinet

variable {s : Storage} {i j : Item} {w w' : World} {t t' t₁ : Tree} {p q source target : StoragePath}
  {name : String} {rest : List String}

namespace StoragePath

/-- Where the entry at a path comes from in a move; from nowhere if the move leaves nothing there. -/
def origin? (source target p : StoragePath) : Option StoragePath :=
  if p.startsWith target then p.rebase? target source
  else if p.startsWith source then none
  else some p

theorem origin?_down : origin? source target (target.down rest) = some (source.down rest) := by
  rw [origin?, if_pos startsWith_down]
  exact rebase?_eq_some_iff_down.mpr ⟨rest, rfl, rfl⟩

theorem origin?_of_not_startsWith (h : p.startsWith target = false) :
    origin? source target p = if p.startsWith source then none else some p := by
  rw [origin?, h, if_neg Bool.false_ne_true]

/-- What lies below one of two paths that are not above each other does not lie below the other one. -/
theorem not_down_startsWith (hp : p.startsWith q = false) (hq : q.startsWith p = false) :
    (p.down rest).startsWith q = false := by
  refine Bool.eq_false_iff.mpr fun hBelow => ?_
  rcases startsWith_or_startsWith startsWith_down hBelow with hAbove | hAbove
  · cases hp.symm.trans hAbove
  · cases hq.symm.trans hAbove

end StoragePath

/-! ### Moves of a backend -/

namespace Tree

/-- In a move aside every entry comes from where it was, or stays. -/
theorem get?_rename (h : t.WellFormed) (hRenamed : t.rename source target = .ok t')
    (hAside : source.startsWith target = false) (p : StoragePath) :
    t'.get? p = (StoragePath.origin? source target p).bind t.get? := by
  obtain ⟨hInto, -, -, -, rfl⟩ := rename_eq_ok hRenamed
  cases hTarget : p.startsWith target with
  | true =>
      obtain ⟨rest, rfl⟩ := StoragePath.startsWith_iff_down.mp hTarget
      have hKept : (source.down rest).startsWith target = false :=
        StoragePath.not_down_startsWith hAside hInto
      rw [StoragePath.origin?_down]
      exact (Entries.get?_move_target h.ordered).trans (if_neg (Bool.eq_false_iff.mp hKept))
  | false =>
      rw [StoragePath.origin?_of_not_startsWith hTarget, get?,
        Entries.get?_move_of_not_startsWith hTarget]
      split <;> rfl

/-- A move up to a path that its source lies below drops all that is there, the source with it. -/
theorem get?_rename_up (h : t.WellFormed) (hRenamed : t.rename source target = .ok t')
    (hUp : source.startsWith target = true) (p : StoragePath) :
    t'.get? p = if p.startsWith target then none else t.get? p := by
  obtain ⟨-, -, -, -, rfl⟩ := rename_eq_ok hRenamed
  cases hTarget : p.startsWith target with
  | true =>
      obtain ⟨rest, rfl⟩ := StoragePath.startsWith_iff_down.mp hTarget
      have hLost : (source.down rest).startsWith target = true :=
        StoragePath.startsWith_trans StoragePath.startsWith_down hUp
      exact (Entries.get?_move_target h.ordered).trans (if_pos hLost)
  | false =>
      have hAway : ¬p.startsWith source = true := fun hBelow =>
        Bool.eq_false_iff.mp hTarget (StoragePath.startsWith_trans hBelow hUp)
      exact (Entries.get?_move_of_not_startsWith hTarget).trans (if_neg hAway)

end Tree

theorem Storage.Holds.openRead_eq_ok_iff {r : Reader} (h : s.Holds w t) :
    s.backend.openRead p w = .ok r ↔ ∃ contents, t.file? p = some contents ∧ r = .memory contents := by
  have hRead : s.backend.openRead p w = (t.read p).map .memory := Storage.Holds.openRead (i := ⟨s, p⟩) h
  rw [hRead, Tree.read, Tree.file?]
  rcases t.get? p with _ | _ | _ <;> simp [Except.map, eq_comm]

/-- A move that succeeds moves each entry at or below its source to the same place below its target, with
its contents, takes away what was there before, and leaves everything else alone; so long as its source does
not lie below its target. Else all that is at or below the target is gone, and what was to be moved as well. -/
theorem Backend.rename_subtree (h : s.Holds w t) (hT : t.WellFormed)
    (hRun : s.backend.rename source target w = (.ok (), w')) :
    ∃ t', s.Holds w' t' ∧
      (source.startsWith target = false →
        (∀ p, t'.get? p = (StoragePath.origin? source target p).bind t.get?) ∧
          ∀ rest r, s.backend.openRead (source.down rest) w = .ok r →
            s.backend.openRead (target.down rest) w' = .ok r) ∧
      (source.startsWith target = true →
        ∀ p, t'.get? p = if p.startsWith target then none else t.get? p) := by
  obtain ⟨w₁, hMoved, hAfter⟩ := h.rename source target
  obtain ⟨hAnswer, rfl⟩ := Prod.mk.inj (hMoved.symm.trans hRun)
  cases hRenamed : t.rename source target with
  | error e =>
      rw [hRenamed] at hAnswer
      cases hAnswer
  | ok t' =>
      rw [hRenamed] at hAfter
      refine ⟨t', hAfter, fun hAside => ?_, Tree.get?_rename_up hT hRenamed⟩
      have hFound := Tree.get?_rename hT hRenamed hAside
      refine ⟨hFound, fun rest r hRead => ?_⟩
      obtain ⟨contents, hFile, rfl⟩ := h.openRead_eq_ok_iff.mp hRead
      have hSame : t'.get? (target.down rest) = t.get? (source.down rest) := by
        rw [hFound, StoragePath.origin?_down, Option.bind_some]
      exact hAfter.openRead_eq_ok_iff.mpr ⟨contents, (Tree.file?_congr hSame).trans hFile, rfl⟩

/-- A folder with a file is moved over another folder, whose file is gone then. -/
theorem Backend.rename_subtree_replaced :
    let s : Storage := ⟨0, "main", ⟨.memory 0, .plain⟩, .standard, .byName, .basic⟩
    let t := (((Tree.empty.put ⟨["a"]⟩ .folder).put ⟨["a", "f"]⟩ (.file [1])).put ⟨["b"]⟩ .folder).put
      ⟨["b", "g"]⟩ (.file [2])
    let w : World := ⟨.empty, [t], [⟨true, none⟩]⟩
    let w' := (s.backend.rename ⟨["a"]⟩ ⟨["b"]⟩ w).2
    s.Holds w t ∧ t.WellFormed ∧ s.backend.rename ⟨["a"]⟩ ⟨["b"]⟩ w = (.ok (), w') ∧
      ∃ t', s.Holds w' t' ∧ t'.get? ⟨["b", "f"]⟩ = some (.file [1]) ∧ t'.get? ⟨["b", "g"]⟩ = none ∧
        t'.get? ⟨["a"]⟩ = none ∧ s.backend.openRead ⟨["b", "f"]⟩ w' = .ok (.memory [1]) := by
  intro s t w w'
  have hHolds : s.Holds w t := ⟨0, rfl, rfl⟩
  have hFirst : ((Tree.empty.put ⟨["a"]⟩ .folder).put ⟨["a", "f"]⟩ (.file [1])).WellFormed :=
    (Tree.wellFormed_empty.put (fun _ => by decide) (Or.inl (by decide))).put (fun _ => by decide)
      (Or.inl (by decide))
  have hFormed : t.WellFormed :=
    (hFirst.put (fun _ => by decide) (Or.inl (by decide))).put (fun _ => by decide) (Or.inl (by decide))
  have hRun : s.backend.rename ⟨["a"]⟩ ⟨["b"]⟩ w = (.ok (), w') := rfl
  obtain ⟨t', hAfter, hAside, -⟩ := rename_subtree hHolds hFormed hRun
  obtain ⟨hFound, hRead⟩ := hAside (by decide)
  refine ⟨hHolds, hFormed, hRun, t', hAfter, ?_, ?_, ?_, hRead ["f"] _ rfl⟩
  · exact (hFound _).trans (by decide)
  · exact (hFound _).trans (by decide)
  · exact (hFound _).trans (by decide)

/-- A folder that is moved to where its own folder is gets lost, and its file with it. -/
theorem Backend.not_rename_subtree_up :
    let s : Storage := ⟨0, "main", ⟨.memory 0, .plain⟩, .standard, .byName, .basic⟩
    let t := ((Tree.empty.put ⟨["a"]⟩ .folder).put ⟨["a", "b"]⟩ .folder).put ⟨["a", "b", "f"]⟩ (.file [1])
    let w : World := ⟨.empty, [t], [⟨true, none⟩]⟩
    let w' := (s.backend.rename ⟨["a", "b"]⟩ ⟨["a"]⟩ w).2
    s.Holds w t ∧ t.WellFormed ∧ s.backend.rename ⟨["a", "b"]⟩ ⟨["a"]⟩ w = (.ok (), w') ∧
      ¬∃ t', s.Holds w' t' ∧
        ∀ p, t'.get? p = (StoragePath.origin? ⟨["a", "b"]⟩ ⟨["a"]⟩ p).bind t.get? := by
  intro s t w w'
  have hFirst : ((Tree.empty.put ⟨["a"]⟩ .folder).put ⟨["a", "b"]⟩ .folder).WellFormed :=
    (Tree.wellFormed_empty.put (fun _ => by decide) (Or.inl (by decide))).put (fun _ => by decide)
      (Or.inl (by decide))
  have hFormed : t.WellFormed := hFirst.put (fun _ => by decide) (Or.inl (by decide))
  have hLeft : s.Holds w' .empty := ⟨0, rfl, by decide⟩
  refine ⟨⟨0, rfl, rfl⟩, hFormed, rfl, ?_⟩
  rintro ⟨t', hAfter, hFound⟩
  have hFile := hFound ⟨["a", "f"]⟩
  rw [hAfter.unique hLeft] at hFile
  exact absurd hFile (by decide)

/-! ### Moves of items -/

/-- What is at or below a path has moved to another one, where no folder was. Above that there are folders,
which may be new; all else stays. -/
structure Tree.Moved (source target : StoragePath) (t t' : Tree) : Prop where
  arrived (rest : List String) : t'.get? (target.down rest) = t.get? (source.down rest)
  left (rest : List String) : t'.get? (source.down rest) = none
  replaced : t.get? target ≠ some .folder
  above {q : StoragePath} (h : q ∈ target.ancestors) : t'.get? q = some .folder
  elsewhere {q : StoragePath} (hTarget : q.startsWith target = false) (hSource : q.startsWith source = false) :
    t'.get? q = t.get? q ∨ q ∈ target.ancestors ∧ t.get? q = none

namespace Tree

/-- New folders on the way to a target are not at or below what is moved there. -/
theorem AddsFolders.get?_down (h : t.AddsFolders target t₁) (hInto : target.startsWith source = false)
    (rest : List String) : t₁.get? (source.down rest) = t.get? (source.down rest) := by
  rcases h (source.down rest) with hKept | ⟨hBelow, -⟩
  · exact hKept
  · cases hInto.symm.trans (StoragePath.startsWith_trans hBelow StoragePath.startsWith_down)

/-- Once the folders above a target have been made, an entry that is there is moved without any loss. -/
theorem AddsFolders.moved (h : t.AddsFolders target t₁) (hT : t.WellFormed) (h₁ : t₁.WellFormed)
    (hRenamed : t₁.rename source target = .ok t') (hThere : t.get? source ≠ none)
    (hFree : t.get? target ≠ some .folder) (hne : source ≠ target) : t.Moved source target t' := by
  obtain ⟨hInto, -⟩ := rename_eq_ok hRenamed
  obtain ⟨n, hSource⟩ := Option.ne_none_iff_exists'.mp hThere
  -- Were the target above the source, there would be a folder.
  have hAside : source.startsWith target = false := Bool.eq_false_iff.mpr fun hBelow =>
    hFree (hT.above hSource hBelow hne)
  have hFound := get?_rename h₁ hRenamed hAside
  have hArrived (rest : List String) : t'.get? (target.down rest) = t.get? (source.down rest) := by
    rw [hFound, StoragePath.origin?_down, Option.bind_some, h.get?_down hInto]
  refine ⟨hArrived, fun rest => ?_, hFree, fun {q} hAbove => ?_, fun {q} hTarget hSource => ?_⟩
  · have hApart : (source.down rest).startsWith target = false :=
      StoragePath.not_down_startsWith hAside hInto
    rw [hFound, StoragePath.origin?_of_not_startsWith hApart, if_pos StoragePath.startsWith_down,
      Option.bind_none]
  · obtain ⟨hBelow, hOther⟩ := StoragePath.mem_ancestors_iff.mp hAbove
    have hHere : t'.get? target = some n := by
      have hTop := hArrived []
      rwa [StoragePath.down_nil, StoragePath.down_nil, hSource] at hTop
    exact (h₁.rename hRenamed).above hHere hBelow hOther.symm
  · have hStays : t'.get? q = t₁.get? q := by
      rw [hFound, StoragePath.origin?_of_not_startsWith hTarget, if_neg (Bool.eq_false_iff.mp hSource),
        Option.bind_some]
    rcases h q with hKept | ⟨hBelow, hNone, -⟩
    · exact Or.inl (hStays.trans hKept)
    · refine Or.inr ⟨StoragePath.mem_ancestors_iff.mpr ⟨hBelow, ?_⟩, hNone⟩
      rintro rfl
      cases hTarget.symm.trans StoragePath.startsWith_self

/-- Above an entry there is a folder, so that a path without one is not the root. -/
theorem WellFormed.not_isRoot_of_free (hT : t.WellFormed) (hThere : t.get? p ≠ none)
    (hFree : t.get? q ≠ some .folder) (hOther : q ≠ p) : q.isRoot = false := by
  refine Bool.eq_false_iff.mpr fun hRoot => ?_
  obtain ⟨n, hn⟩ := Option.ne_none_iff_exists'.mp hThere
  have hBelow : p.startsWith q = true :=
    StoragePath.startsWith_iff.mpr (StoragePath.isRoot_iff.mp hRoot ▸ List.nil_prefix)
  exact hFree (hT.above hn hBelow hOther.symm)

end Tree

namespace Item

/-- An item is on its way to where its name leads: it is there, and neither a folder at the target nor a file
above it stands in the way. -/
structure SetsOut (i : Item) (name : String) (t : Tree) (j : Item) : Prop where
  leads : i.sibling name = .ok j
  there : t.get? i.path ≠ none
  other : j.path ≠ i.path
  free : t.get? j.path ≠ some .folder
  clear {q : StoragePath} (h : q ∈ j.path.ancestors) : t.file? q = none

/-- The ways in which renaming an item ends, each with the answer and the world that is left. Once the item has
set out, the folders above the target are made, and the rest is up to the move. -/
inductive RenameEnds (i : Item) (name : String) (w : World) (t : Tree) : Except FileError Item × World → Prop where
  | refused (e : FileError) : RenameEnds i name w t (.error e, w)
  | itself {j : Item} (hName : i.sibling name = .ok j) (hThere : t.get? i.path ≠ none) (hSame : j.path = i.path) :
      RenameEnds i name w t (.ok j, w)
  | stuck {j : Item} {e : IoError} {w' : World} (h : i.SetsOut name t j)
      (hError : (j.prepared t).rename i.path j.path = .error e) (hFiles : w.SameFiles w')
      (hAfter : i.storage.Holds w' (j.prepared t)) : RenameEnds i name w t (.error (.io i.path e), w')
  | moved {j : Item} {t' : Tree} {w' : World} (h : i.SetsOut name t j)
      (hRenamed : (j.prepared t).rename i.path j.path = .ok t') (hAfter : i.storage.Holds w' t') :
      RenameEnds i name w t (.ok j, w')

theorem rename_ends (h : i.storage.Holds w t) (hT : t.WellFormed) (name : String) :
    RenameEnds i name w t (i.rename name w) := by
  refine Action.bind_cases rfl (fun e _ => .refused e) fun _ _ => ?_
  refine Action.bind_cases rfl (fun e _ => .refused e) fun m hEntry => ?_
  have hThere : t.get? i.path ≠ none := by
    obtain ⟨-, -, hMeta⟩ := requireEntry_eq_ok_iff.mp hEntry
    obtain ⟨n, hn, -⟩ := Option.map_eq_some_iff.mp (Except.ok.inj ((h.entry i.path).symm.trans hMeta))
    simp [hn]
  refine Action.bind_cases rfl (fun e _ => .refused e) fun j hName => ?_
  split
  · rename_i hSame
    exact .itself hName hThere hSame
  rename_i hOther
  cases i.storage.hides j.path with
  | true => exact .refused _
  | false =>
  refine Action.bind_cases rfl (fun e _ => .refused e) fun found hMeta => ?_
  obtain rfl := Except.ok.inj ((h.entry j.path).symm.trans hMeta)
  cases hFolder : (t.metadata j.path).any EntryMeta.isFolder with
  | true => exact .refused _
  | false =>
  have hFree : t.get? j.path ≠ some .folder := fun hFound =>
    Bool.eq_false_iff.mp hFolder (Tree.metadata_isFolder_iff.mpr hFound)
  have hRoot := hT.not_isRoot_of_free hThere hFree hOther
  rcases Storage.prepareParent_cases h hT hRoot with ⟨⟨e, hBlocked⟩, -⟩ | ⟨⟨w₁, hPrepared, hFiles, hHolds⟩, hClear⟩
  · exact Action.bind_cases hBlocked (fun e _ => .refused e) nofun
  have hOut : i.SetsOut name t j := ⟨hName, hThere, hOther, hFree, fun hq => hClear _ hq⟩
  have hHere : i.storage.Holds w₁ (j.prepared t) := hHolds
  refine Action.bind_cases hPrepared nofun fun _ _ => ?_
  cases hRenamed : (j.prepared t).rename i.path j.path with
  | error e =>
      refine Action.bind_cases (Action.mapError_error _ (hHere.rename_error hRenamed)) (fun _ hError => ?_) nofun
      obtain rfl := Except.error.inj hError
      exact .stuck hOut hRenamed hFiles hHere
  | ok t' =>
      obtain ⟨w₂, hMove, hAfter⟩ := hHere.rename i.path j.path
      rw [hRenamed] at hMove hAfter
      refine Action.bind_cases (Action.mapError_ok _ hMove) nofun fun _ _ => ?_
      exact .moved hOut hRenamed ((hAfter.invalidate i.path).invalidate j.path)

/-- An item that is renamed is where its name leads, or has been moved there once folders were made above. -/
theorem rename_ok (h : i.storage.Holds w t) (hT : t.WellFormed) (hRun : i.rename name w = (.ok j, w')) :
    i.sibling name = .ok j ∧ t.get? i.path ≠ none ∧ (j.path = i.path ∨ t.get? j.path ≠ some .folder ∧
      ∃ t₁ t', t.AddsFolders j.path t₁ ∧ t₁.WellFormed ∧ t₁.rename i.path j.path = .ok t' ∧
        i.storage.Holds w' t') := by
  have hEnds := rename_ends h hT name
  rw [hRun] at hEnds
  cases hEnds with
  | itself hName hThere hSame => exact ⟨hName, hThere, Or.inl hSame⟩
  | moved hOut hRenamed hAfter =>
      have hAdds := (Tree.AddsFolders.refl j.path t).createFolders StoragePath.startsWith_folder_self
      exact ⟨hOut.leads, hOut.there, Or.inr ⟨hOut.free, j.prepared t, _, hAdds, hT.createFolders _, hRenamed, hAfter⟩⟩


/-- In every state that comes about of a storage which shows no hidden entries, an item that is renamed to
another path is moved there with all that is below it, and nothing else is lost but a file that is replaced. -/
theorem rename_moves (hReached : i.storage.Reached w) (hShown : i.storage.options.showHidden = false)
    (hRun : i.rename name w = (.ok j, w')) (hOther : j.path ≠ i.path) :
    i.sibling name = .ok j ∧ ∃ t t', i.storage.Holds w t ∧ i.storage.Holds w' t' ∧
      t.get? i.path ≠ none ∧ t.Moved i.path j.path t' := by
  obtain ⟨t, hHolds, hClean⟩ := hReached.tidy hShown
  have hT := hClean.toWellFormed
  obtain ⟨hName, hThere, hSame | ⟨hFree, t₁, t', hAdds, hFormed, hRenamed, hAfter⟩⟩ := rename_ok hHolds hT hRun
  · exact absurd hSame hOther
  · exact ⟨hName, t, t', hHolds, hAfter, hThere, hAdds.moved hT hFormed hRenamed hThere hFree hOther.symm⟩

/-- A folder with a file is moved out of its own folder, below a new one. -/
theorem rename_moves_out :
    let s : Storage := ⟨0, "main", ⟨.memory 0, .plain⟩, .standard, .byName, .basic⟩
    let w₀ := (World.empty.addTree.2.addStorage (fun _ => s) true).2
    let w := ((Request.create ⟨s, .root⟩ "d/g/f" (.bytes [1, 2])).perform w₀).2
    let i : Item := ⟨s, ⟨["d", "g"]⟩⟩
    s.Reached w ∧ s.options.showHidden = false ∧
      ∃ j w', i.rename "../n/m" w = (.ok j, w') ∧ j.path = ⟨["n", "m"]⟩ ∧ j.path ≠ i.path ∧
        ∃ t', s.Holds w' t' ∧ t'.get? ⟨["n"]⟩ = some .folder ∧ t'.get? ⟨["d", "g", "f"]⟩ = none ∧
          t'.get? ⟨["n", "m", "f"]⟩ = some (.file [1, 2]) := by
  intro s w₀ w i
  have hFresh : s.Reached w₀ := .fresh rfl rfl
  have hReached : s.Reached w := hFresh.request _ rfl
  obtain ⟨j, w', hRun⟩ : ∃ j w', i.rename "../n/m" w = (.ok j, w') :=
    Action.exists_eq_ok (by decide +kernel +zetaReduce)
  have hPath : j.path = ⟨["n", "m"]⟩ := by
    have hAnswer : (i.rename "../n/m" w).1.toOption.map path = some ⟨["n", "m"]⟩ := by
      decide +kernel +zetaReduce
    rw [hRun] at hAnswer
    exact Option.some.inj hAnswer
  have hOther : j.path ≠ i.path := hPath ▸ by decide
  obtain ⟨-, t, t', hHolds, hAfter, -, hMoved⟩ := rename_moves hReached rfl hRun hOther
  have hBefore : s.Holds w (((Tree.empty.put ⟨["d"]⟩ .folder).put ⟨["d", "g"]⟩ .folder).put
      ⟨["d", "g", "f"]⟩ (.file [1, 2])) := ⟨0, rfl, by decide +kernel +zetaReduce⟩
  obtain rfl := hHolds.unique hBefore
  rw [hPath] at hMoved
  exact ⟨hReached, rfl, j, w', hRun, hPath, hOther, t', hAfter, hMoved.above (by decide),
    hMoved.left ["f"], (hMoved.arrived ["f"]).trans (by decide)⟩

end Item

end Cabinet
