import Cabinet.Proofs.Storage.Entries
import Cabinet.Storage.Directory

/-! Names on a disk. File calls give no entry an empty name. A file name that leads to an entry is no
longer than file names may be, and every name that is not empty makes it longer. -/

namespace Cabinet

namespace Entries

variable {α : Type} {es moved : Entries α} {e : StoragePath × α} {source target : StoragePath}

theorem mem_graft (h : e ∈ graft source target moved es) :
    e ∈ es ∨ ∃ f ∈ moved, f.1.rebase? source target = some e.1 := by
  induction moved generalizing es with
  | nil => exact Or.inl h
  | cons f moved ih =>
      rcases ih h with hBefore | ⟨g, hg, hPlace⟩
      · dsimp only at hBefore
        cases hPlace : f.1.rebase? source target with
        | none =>
            rw [hPlace] at hBefore
            exact Or.inl hBefore
        | some p =>
            rw [hPlace] at hBefore
            refine (mem_put hBefore).symm.imp_right fun hNew => ?_
            exact ⟨f, List.mem_cons_self, by rw [hPlace, hNew]⟩
      · exact Or.inr ⟨g, List.mem_cons_of_mem _ hg, hPlace⟩

theorem mem_move (h : e ∈ es.move source target) :
    e ∈ es ∨ ∃ f ∈ es, f.1.rebase? source target = some e.1 := by
  rcases mem_graft h with hKept | ⟨f, hf, hPlace⟩
  · exact Or.inl (List.mem_of_mem_filter (List.mem_of_mem_filter hKept))
  · exact Or.inr ⟨f, List.mem_of_mem_filter (List.mem_of_mem_filter hf), hPlace⟩

end Entries

namespace Disk

variable {d d' : Disk} {p here : StoragePath} {n : DiskNode} {names : List String} {last : Bool}
  {number : Nat}

/-! ### Places -/

theorem stroll_named (h : d.stroll last here names = .ok (.arrived p)) (hHere : "" ∉ here.segments) :
    "" ∉ p.segments := by
  induction names generalizing here with
  | nil =>
      obtain rfl := Walk.arrived.inj (Except.ok.inj h)
      exact hHere
  | cons name rest ih =>
      rw [stroll] at h
      split at h
      · cases h
      · split at h
        · exact ih h hHere
        · rename_i hName
          have hChild : "" ∉ (here.child name).segments := by
            intro hMem
            rcases List.mem_append.mp hMem with hMem | hMem
            · exact hHere hMem
            · simp [← List.mem_singleton.mp hMem] at hName
          split at h
          · exact ih h fun hMem => hHere (List.mem_of_mem_dropLast hMem)
          · split at h
            · cases h
            · split at h
              · split at h
                · obtain rfl := Walk.arrived.inj (Except.ok.inj h)
                  exact hChild
                · cases h
              · exact ih h hChild
              · split at h
                · obtain rfl := Walk.arrived.inj (Except.ok.inj h)
                  exact hChild
                · cases h
      · cases h

theorem find_named {links : Nat} (h : d.find last links names = .ok p) : "" ∉ p.segments := by
  induction links generalizing names with
  | zero => cases h
  | succ links ih =>
      rw [find] at h
      cases hWalk : d.stroll last .root names with
      | error e =>
          rw [hWalk] at h
          cases h
      | ok walk =>
          rw [hWalk] at h
          cases walk with
          | arrived place =>
              obtain rfl := Except.ok.inj h
              exact stroll_named hWalk List.not_mem_nil
          | redirected names => exact ih h

theorem locate_eq_ok (h : d.locate last names = .ok p) :
    "" ∉ p.segments ∧ (native names).utf8ByteSize ≤ pathLimit := by
  rw [locate] at h
  split_ifs at h with hZero hLong
  cases hFound : d.find last (linkLimit + 1) names with
  | error e =>
      rw [hFound] at h
      cases h
  | ok place =>
      rw [hFound] at h
      obtain rfl := Except.ok.inj h
      exact ⟨find_named hFound, Nat.le_of_not_lt hLong⟩

/-! ### File calls -/

/-- No entry has an empty name. -/
def Named (d : Disk) : Prop := ∀ e ∈ d.entries, "" ∉ e.1.segments

instance : DecidablePred Named := fun d =>
  inferInstanceAs (Decidable (∀ e ∈ d.entries, "" ∉ e.1.segments))

namespace Named

theorem put (h : d.Named) (hp : "" ∉ p.segments) (n : DiskNode) : (d.put p n).Named := fun _ he =>
  (Entries.mem_put he).elim (fun hNew => hNew ▸ hp) (h _)

theorem createFolder (h : d.Named) (hMade : d.createFolder names = .ok d') : d'.Named := by
  rw [Disk.createFolder] at hMade
  split at hMade
  · cases hMade
  · rename_i p hPlace
    split at hMade
    · cases hMade
    · exact Except.ok.inj hMade ▸ h.put (locate_eq_ok hPlace).1 _

theorem createUpward (h : d.Named) (names : List String) : (d.createUpward names).2.Named := by
  induction names generalizing d with
  | nil => exact h
  | cons name above ih =>
      rw [Disk.createUpward]
      dsimp only
      split
      · exact h.createFolder ‹_›
      · split
        · have hAbove := ih h
          split
          · rename_i hRun
            rw [hRun] at hAbove
            split
            · exact hAbove.createFolder ‹_›
            · split
              · exact hAbove
              · exact hAbove
          · rename_i hRun
            rwa [hRun] at hAbove
        · split
          · exact h
          · exact h

theorem createFile (h : d.Named) (hMade : d.createFile names = .ok (number, d')) : d'.Named := by
  rw [Disk.createFile] at hMade
  split at hMade
  · cases hMade
  · rename_i p hPlace
    split at hMade
    · obtain ⟨-, rfl⟩ := Prod.mk.inj (Except.ok.inj hMade)
      exact h
    · cases hMade
    · obtain ⟨-, rfl⟩ := Prod.mk.inj (Except.ok.inj hMade)
      exact h.put (locate_eq_ok hPlace).1 _

theorem removeFile (h : d.Named) (hRemoved : d.removeFile names = .ok d') : d'.Named := by
  rw [Disk.removeFile] at hRemoved
  split at hRemoved
  · cases hRemoved
  · split at hRemoved
    · cases hRemoved
    · obtain rfl := Except.ok.inj hRemoved
      exact fun e he => h e (List.mem_of_mem_filter he)
    · cases hRemoved

theorem removeFolder (h : d.Named) (hRemoved : d.removeFolder names = .ok d') : d'.Named := by
  rw [Disk.removeFolder] at hRemoved
  split at hRemoved
  · cases hRemoved
  · split at hRemoved
    · cases hRemoved
    · obtain rfl := Except.ok.inj hRemoved
      exact fun e he => h e (List.mem_of_mem_filter he)
    · cases hRemoved

theorem moveEntry {source target : StoragePath} (h : d.Named) (hTarget : "" ∉ target.segments)
    (hMoved : d.moveEntry source target = .ok d') : d'.Named := by
  rw [Disk.moveEntry] at hMoved
  split at hMoved
  · cases hMoved
  · split_ifs at hMoved
    · exact Except.ok.inj hMoved ▸ h
    · split at hMoved
      · cases hMoved
      · obtain rfl := Except.ok.inj hMoved
        intro e he hMem
        rcases Entries.mem_move he with hKept | ⟨f, hf, hPlace⟩
        · exact h e hKept hMem
        · obtain ⟨rest, hRest, hPlace⟩ := StoragePath.rebase?_eq_some_iff.mp hPlace
          rw [← hPlace] at hMem
          rcases List.mem_append.mp hMem with hMem | hMem
          · exact hTarget hMem
          · exact h f hf (hRest ▸ List.mem_append_right _ hMem)

theorem rename {source target : List String} (h : d.Named) (hRenamed : d.rename source target = .ok d') :
    d'.Named := by
  rw [Disk.rename] at hRenamed
  split at hRenamed
  · cases hRenamed
  · cases hRenamed
  · rename_i p q hSource hTarget
    cases hMoved : d.moveEntry p q with
    | error e =>
        rw [hMoved] at hRenamed
        cases hRenamed
    | ok d₁ =>
        rw [hMoved] at hRenamed
        obtain rfl := Except.ok.inj hRenamed
        exact h.moveEntry (locate_eq_ok hTarget).1 hMoved

theorem createFolders (h : d.Named) (names : List String) : (d.createFolders names).2.Named :=
  h.createUpward _

theorem writeAt (h : d.Named) (number offset : Nat) (bytes : Bytes) :
    (d.writeAt number offset bytes).Named := h

end Named

/-! ### File names -/

theorem native_append (names : List String) (name : String) :
    native (names ++ [name]) = StoragePath.join (native names) name := List.foldl_concat ..

/-- A name makes a file name longer. -/
theorem native_lt (names : List String) {name : String} (h : name ≠ "") :
    (native names).utf8ByteSize < (native (names ++ [name])).utf8ByteSize := by
  have hName : 0 < name.utf8ByteSize :=
    Nat.pos_of_ne_zero fun hNone => h (String.utf8ByteSize_eq_zero_iff.mp hNone)
  rw [native_append, StoragePath.join]
  split
  · rw [String.utf8ByteSize_append]
    omega
  · rw [String.utf8ByteSize_append, String.utf8ByteSize_append]
    omega

end Disk

/-! ### Directories -/

namespace Directory

variable {d d' : Disk} {root : List String} {p source target : StoragePath} {number : Nat}

theorem named_createFolders (h : d.Named) (root : List String) (p : StoragePath) :
    (createFolders d root p).2.Named := by
  rw [createFolders]
  split
  · exact h
  · exact h.createFolders _

theorem named_removeFile (h : d.Named) (hRemoved : removeFile d root p = .ok d') : d'.Named := by
  rw [removeFile] at hRemoved
  split at hRemoved
  · cases hRemoved
  · exact h.removeFile hRemoved

theorem named_removeFolder (h : d.Named) (hRemoved : removeFolder d root p = .ok d') : d'.Named := by
  rw [removeFolder] at hRemoved
  split at hRemoved
  · cases hRemoved
  · exact h.removeFolder hRemoved

theorem named_rename (h : d.Named) (hRenamed : rename d root source target = .ok d') : d'.Named := by
  rw [rename] at hRenamed
  split at hRenamed
  · cases hRenamed
  · split at hRenamed
    · cases hRenamed
    · exact h.rename hRenamed

theorem named_create (h : d.Named) (hMade : create d root p = .ok (number, d')) : d'.Named := by
  rw [create] at hMade
  split at hMade
  · cases hMade
  · exact h.createFile hMade

/-- What is there has a file name that is not too long. -/
theorem native_le_of_metadata {m : EntryMeta} (h : metadata d root p = .ok (some m)) :
    (Disk.native (namesOf root p)).utf8ByteSize ≤ Disk.pathLimit := by
  rw [metadata] at h
  split at h
  · cases h
  · cases h
  · cases hPlace : d.locate true (namesOf root p) with
    | error e =>
        rw [Disk.entry, hPlace] at h
        dsimp only at h
        split at h
        · cases h
        · cases h
    | ok q => exact (Disk.locate_eq_ok hPlace).2

end Directory

end Cabinet
