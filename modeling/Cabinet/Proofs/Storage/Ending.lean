import Cabinet.Proofs.Storage.Repetition

/-! That copies end. A copy of a tree grows the tree itself when it is made there through another storage,
which is not told from a storage with a tree of its own. It ends even so, unless it comes to lie further
down in the folder that is copied; but where it comes to lie in the folder at all, it may copy again what
has just been copied, and go deeper than the folder did. -/

namespace Cabinet

variable {w : World} {t : Tree} {bound : Nat}

/-! ### Where copies are made -/

namespace Item

open Cabinet.Action

variable {i folder : Item} {levels : Nat}

/-- The copy comes to lie within the folder that is copied, which another storage of the tree does not
tell. -/
structure MeetsItself (i folder : Item) : Prop where
  one : i.storage.backend = folder.storage.backend
  another : folder.storage.same i.storage = false
  below : (i.path.under folder.path).startsWith i.path = true
  aside : i.path.under folder.path ≠ i.path

/-- A folder is not copied into itself by one storage. -/
theorem completes_refused (hSame : folder.storage.same i.storage = true)
    (hBelow : (i.path.under folder.path).startsWith i.path = true)
    (hne : i.path.under folder.path ≠ i.path) (hLevels : 0 < levels) :
    Completes (copyDown levels i folder w) := by
  obtain ⟨levels, rfl⟩ := Nat.exists_eq_succ_of_ne_zero hLevels.ne'
  apply copyDown_ends fun _ he => he
  · intros
    trivial
  · intro m children copy w₁ hEntry hKind hAside
    rw [hSame, StoragePath.startsWith_of_under hBelow hne] at hAside
    cases hAside

/-- A copy that does not meet itself needs no more levels than there are at and below the folder. -/
theorem completes_aside (hBeside : i.storage.Beside folder.storage) (hPlain : i.path.Plain)
    (hFolder : folder.path.Plain) (hAside : ¬i.MeetsItself folder) (hA : i.storage.Holds w t)
    (hT : t.Shallow i.path bound) (hPositive : 0 < levels) (hLevels : bound < levels + i.path.depth) :
    Completes (copyDown levels i folder w) := by
  by_cases hInto : i.storage.backend = folder.storage.backend ∧
      (i.path.under folder.path).startsWith i.path = true ∧ i.path.under folder.path ≠ i.path
  · obtain ⟨hOne, hBelow, hne⟩ := hInto
    cases hSame : folder.storage.same i.storage with
    | true => exact completes_refused hSame hBelow hne hPositive
    | false => exact absurd ⟨hOne, hSame, hBelow, hne⟩ hAside
  · refine completes_shallow hBeside hPlain hFolder (fun hOne hBelow => ?_) hA hT hPositive hLevels
    by_contra hne
    exact hInto ⟨hOne, hBelow, hne⟩

/-- A copy that comes to lie right in the folder ends as well, but it may go down along the whole tree. -/
theorem completes_near (hBeside : i.storage.Beside folder.storage) (hPlain : i.path.Plain)
    (hFolder : folder.path.Plain)
    (hNear : i.MeetsItself folder → (i.path.under folder.path).depth ≤ i.path.depth + 1)
    (hA : i.storage.Holds w t) (hT : t.WellFormed) (hNamed : t.Named)
    (hLevels : t.entries.length < levels) : Completes (copyDown levels i folder w) := by
  by_cases hMeets : i.MeetsItself folder
  · -- The copy has one name more than the folder.
    obtain ⟨rest, hRest⟩ := StoragePath.startsWith_iff_down.mp hMeets.below
    have hDepth := hNear hMeets
    rw [hRest, StoragePath.depth_down] at hDepth
    obtain ⟨e, rfl⟩ : ∃ e, rest = [e] := by
      match rest with
      | [] => exact absurd (hRest.trans StoragePath.down_nil) hMeets.aside
      | [e] => exact ⟨e, rfl⟩
      | _ :: _ :: _ =>
          rw [List.length_cons, List.length_cons] at hDepth
          omega
    rw [← StoragePath.child_eq_down] at hRest
    obtain ⟨H, K, hWithin, hEntries⟩ := hT.exists_within hNamed i.path e
    have hPlace : (i.path.again e 0).under folder.path = i.path.again e 1 := by
      rw [← StoragePath.child_again, StoragePath.again_zero, hRest]
    have hEnds := ends_along rfl hMeets.one (hRest ▸ hPlain.under hFolder) hPlace (Nat.zero_le K)
      (by omega : K + H < levels + 0) hA hWithin
    rw [StoragePath.again_zero] at hEnds
    exact completes_of_ends hEnds
  · have hShallow : t.Shallow i.path t.entries.length := ⟨hT, hNamed, fun _ h => (hT.depth_lt h).le⟩
    exact completes_aside hBeside hPlain hFolder hMeets hA hShallow (by omega) (by omega)

/-- Copies end. One from a directory does so wherever it is made. One from a tree in memory does, with no
more levels than the tree has entries, unless it comes to lie further down in the folder that is copied,
through another storage of the tree; and if it does not come to lie in the folder at all, it goes no
deeper than the folder did. -/
theorem copyTo_ends :
    (∀ root, i.storage.backend.place = .directory root → w.disk.Named → Completes (i.copyTo folder w)) ∧
      ∀ t, i.storage.Holds w t → t.WellFormed → t.Named → i.storage.Beside folder.storage →
        i.path.Plain → folder.path.Plain →
        (i.MeetsItself folder → (i.path.under folder.path).depth ≤ i.path.depth + 1) →
        Completes (i.copyTo folder w) ∧
          (∀ levels, t.entries.length < levels → copyDown levels i folder w = i.copyTo folder w) ∧
          (¬i.MeetsItself folder → ∀ levels, 0 < levels →
            (∀ q n, q.startsWith i.path = true → t.get? q = some n → q.depth < levels + i.path.depth) →
            copyDown levels i folder w = i.copyTo folder w) := by
  refine ⟨fun root hPlace hNamed => ?_, fun t hA hT hNamed hBeside hPlain hFolder hNear => ?_⟩
  · rw [copyTo_apply, Backend.levels, hPlace]
    exact completes_directory hPlace hNamed (Nat.lt_succ_self _)
  · have hCompletes {levels : Nat} (hLevels : t.entries.length < levels) :=
      completes_near hBeside hPlain hFolder hNear hA hT hNamed hLevels
    have hEnough : t.entries.length < i.storage.backend.levels w := hA.levels ▸ Nat.lt_succ_self _
    rw [copyTo_apply]
    refine ⟨hCompletes hEnough, fun levels hLevels => ?_, fun hAside levels hPositive hDepth => ?_⟩
    · exact copyDown_eq_copyDown (hCompletes hLevels) (hCompletes hEnough)
    · have hShallow : t.Shallow i.path (levels + i.path.depth - 1) :=
        ⟨hT, hNamed, fun hBelow hFound => Nat.le_sub_one_of_lt (hDepth _ _ hBelow hFound)⟩
      have hLevels := completes_aside hBeside hPlain hFolder hAside hA hShallow hPositive (by omega)
      exact copyDown_eq_copyDown hLevels (hCompletes hEnough)

/-- A folder is copied into itself through another storage, and out of a directory. -/
theorem copyTo_ends_handle :
    let first : Storage := ⟨0, "first", ⟨.memory 0, .plain⟩, .standard, .byName, .basic⟩
    let second : Storage := ⟨1, "second", ⟨.memory 0, .plain⟩, .standard, .byName, .basic⟩
    let files : Storage := ⟨2, "files", ⟨.directory ["root"], .plain⟩, .standard, .byName, .basic⟩
    let t := (Tree.empty.put ⟨["t"]⟩ .folder).put ⟨["t", "a"]⟩ (.file [1])
    let disk := Disk.empty.put ⟨["root"]⟩ (.folder false)
    let w : World := ⟨disk, [t], [⟨true, none⟩, ⟨true, none⟩, ⟨true, none⟩]⟩
    let i : Item := ⟨first, ⟨["t"]⟩⟩
    let itself : Item := ⟨second, ⟨["t"]⟩⟩
    let top : Item := ⟨second, .root⟩
    disk.Named ∧ Completes (copyTo ⟨files, .root⟩ top w) ∧
      first.Holds w t ∧ t.WellFormed ∧ t.Named ∧ first.Beside second ∧ i.path.Plain ∧
      i.MeetsItself itself ∧
      (∃ j w', copyDown 4 i itself w = (.ok j, w') ∧ i.copyTo itself w = (.ok j, w')) ∧
      ¬i.MeetsItself top ∧ copyDown 2 i top w = i.copyTo top w := by
  intro first second files t disk w i itself top
  have hNamedDisk : disk.Named := by decide
  have hHolds : first.Holds w t := ⟨0, rfl, rfl⟩
  have hFormed : t.WellFormed := Tree.wellFormed_of_entries (by decide +kernel +zetaReduce) (by decide)
  have hNamed : t.Named := Tree.named_of_entries (by decide)
  have hBeside : first.Beside second := Or.inl rfl
  have hPlain : i.path.Plain := by decide
  have hMeets : i.MeetsItself itself := ⟨rfl, rfl, by decide, by decide⟩
  have hAside : ¬i.MeetsItself top := fun hMeets => absurd hMeets.aside (by decide)
  have hFiles : Completes (copyTo ⟨files, .root⟩ top w) := copyTo_ends.1 ["root"] rfl hNamedDisk
  have hNear : i.MeetsItself itself → (i.path.under itself.path).depth ≤ i.path.depth + 1 :=
    fun _ => by decide
  obtain ⟨-, hEnough, -⟩ := copyTo_ends.2 t hHolds hFormed hNamed hBeside hPlain (by decide) hNear
  obtain ⟨-, -, hDeep⟩ := copyTo_ends.2 t hHolds hFormed hNamed hBeside hPlain (by decide) fun hMeets =>
    absurd hMeets hAside
  obtain ⟨j, w', hRun⟩ : ∃ j w', copyDown 4 i itself w = (.ok j, w') :=
    exists_eq_ok (by decide +kernel +zetaReduce)
  have hEntries : ∀ e ∈ t.entries, e.1.depth < 2 + i.path.depth := by decide
  refine ⟨hNamedDisk, hFiles, hHolds, hFormed, hNamed, hBeside, hPlain, hMeets, ?_, hAside, ?_⟩
  · exact ⟨j, w', hRun, (hEnough 4 (by decide)).symm.trans hRun⟩
  · exact hDeep hAside 2 (by decide) fun q n _ hFound => hEntries _ (Entries.mem_of_get? hFound)

/-- The folder /t is copied to /t/t through another storage. The copy of /t/a comes to lie in /t/t, which
is copied after it, and so comes to be copied again and again: the copy is cut off below /t/t/a, deeper
than anything was at the beginning. -/
theorem not_copyTo_ends_deeper :
    let first : Storage := ⟨0, "first", ⟨.memory 0, .plain⟩, .standard, .byName, .basic⟩
    let second : Storage := ⟨1, "second", ⟨.memory 0, .plain⟩, .standard, .byName, .basic⟩
    let t := (((Tree.empty.put ⟨["t"]⟩ .folder).put ⟨["t", "t"]⟩ .folder).put ⟨["t", "t", "t"]⟩ .folder).put
      ⟨["t", "a"]⟩ .folder |>.put ⟨["t", "a", "b"]⟩ (.file [1])
    let w : World := ⟨.empty, [t], [⟨true, none⟩, ⟨true, none⟩]⟩
    first.Holds w t ∧ t.WellFormed ∧ t.Named ∧ (∀ q n, t.get? q = some n → q.depth ≤ 3) ∧
      ¬Completes (copyDown 3 ⟨first, ⟨["t"]⟩⟩ ⟨second, ⟨["t"]⟩⟩ w) := by
  intro first second t w
  have hHolds : first.Holds w t := ⟨0, rfl, rfl⟩
  have hFormed : t.WellFormed := Tree.wellFormed_of_entries (by decide +kernel +zetaReduce) (by decide)
  have hEntries : ∀ e ∈ t.entries, e.1.depth ≤ 3 := by decide
  have hListed : list ⟨first, ⟨["t"]⟩⟩ .all w = .ok [⟨first, ⟨["t", "a"]⟩⟩, ⟨first, ⟨["t", "t"]⟩⟩] :=
    (list_eq_ok_iff (i := ⟨first, ⟨["t"]⟩⟩) hHolds hFormed).mpr ⟨rfl, rfl⟩
  have hMade : createFolder ⟨second, ⟨["t"]⟩⟩ "t" w = (.ok ⟨second, ⟨["t", "t"]⟩⟩, w) := rfl
  have hEntry : requireEntry ⟨first, ⟨["t"]⟩⟩ w = .ok Node.folder.metadata := by
    decide +kernel +zetaReduce
  -- The first child is copied to /t/t/a, which is listed when the second one is copied.
  obtain ⟨j, w₁, hFirst⟩ : ∃ j w₁,
      copyDown 2 ⟨first, ⟨["t", "a"]⟩⟩ ⟨second, ⟨["t", "t"]⟩⟩ w = (.ok j, w₁) :=
    exists_eq_ok (by decide +kernel +zetaReduce)
  let t₁ := (t.put ⟨["t", "t", "a"]⟩ .folder).put ⟨["t", "t", "a", "b"]⟩ (.file [1])
  have hTree : (copyDown 2 ⟨first, ⟨["t", "a"]⟩⟩ ⟨second, ⟨["t", "t"]⟩⟩ w).2.trees[0]? = some t₁ := by
    decide +kernel +zetaReduce
  have hFormed₁ : t₁.WellFormed := Tree.wellFormed_of_entries (by decide +kernel +zetaReduce) (by decide)
  obtain rfl : (copyDown 2 ⟨first, ⟨["t", "a"]⟩⟩ ⟨second, ⟨["t", "t"]⟩⟩ w).2 = w₁ :=
    congrArg Prod.snd hFirst
  have hHolds₁ : first.Holds _ t₁ := ⟨0, rfl, hTree⟩
  have hFolder₁ : asFolder ⟨first, ⟨["t", "t"]⟩⟩ _ = .ok ⟨first, ⟨["t", "t"]⟩⟩ :=
    (asFolder_eq_ok_iff hHolds₁).mpr ⟨rfl, rfl, by decide +kernel +zetaReduce, rfl⟩
  have hListed₁ : list ⟨first, ⟨["t", "t"]⟩⟩ .all _ =
      .ok [⟨first, ⟨["t", "t", "a"]⟩⟩, ⟨first, ⟨["t", "t", "t"]⟩⟩] :=
    (list_eq_ok_iff (i := ⟨first, ⟨["t", "t"]⟩⟩) hHolds₁ hFormed₁).mpr ⟨hFolder₁, rfl⟩
  obtain ⟨j, w₂, hMade₁⟩ : ∃ j w₂, createFolder ⟨second, ⟨["t", "t"]⟩⟩ "t" _ = (.ok j, w₂) :=
    exists_eq_ok (w := (copyDown 2 ⟨first, ⟨["t", "a"]⟩⟩ ⟨second, ⟨["t", "t"]⟩⟩ w).2)
      (by decide +kernel +zetaReduce)
  obtain ⟨-, rfl, -⟩ := createFolder_copy_ok (i := ⟨first, ⟨["t", "t"]⟩⟩) (j := j)
    (hHolds₁.of_backend (r := second) rfl) hFormed₁ (by decide) hMade₁
  obtain rfl := congrArg Prod.snd hMade₁
  have hEntry₁ : requireEntry ⟨first, ⟨["t", "t"]⟩⟩ _ = .ok Node.folder.metadata :=
    requireEntry_eq_ok_iff.mpr ⟨by decide +kernel +zetaReduce, rfl, hHolds₁.entry _⟩
  refine ⟨hHolds, hFormed, Tree.named_of_entries (by decide),
    fun q n hFound => hEntries _ (Entries.mem_of_get? hFound), fun h => ?_⟩
  rw [copyDown_of_folder hEntry rfl rfl hListed hMade] at h
  have hChildren := h.first
  rw [copyEach_cons] at hChildren
  have hLater := hChildren.first.of_ok (x := ⟨⟩) (bind_ok hFirst)
  rw [copyEach_cons] at hLater
  have hSecond := hLater.first.first
  rw [copyDown_of_folder hEntry₁ rfl rfl hListed₁ hMade₁] at hSecond
  have hGrandchildren := hSecond.first
  rw [copyEach_cons] at hGrandchildren
  exact absurd (completes_of_ends hGrandchildren.first.first) (by decide +kernel +zetaReduce)

end Item

end Cabinet
