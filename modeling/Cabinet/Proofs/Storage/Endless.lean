import Cabinet.Proofs.Storage.Ending

/-! Copies that do not end. When a folder is copied further down into itself, through another storage of
the tree, what is copied and where it comes to be follow each other down: whenever a folder is listed,
its copy's own copy has been begun in it. However many levels there are, it takes one more. -/

namespace Cabinet

variable {A B : Storage} {p q : StoragePath} {t t' : Tree} {n : Node} {w : World} {k : Nat}

/-! ### The way down -/

namespace StoragePath

/-- The names that take turns below /t when it is copied into /t/x. -/
def turn (k : Nat) : String := if k % 2 = 0 then "x" else "t"

/-- The path that is reached by a number of turns. -/
def onWay : Nat → StoragePath
  | 0 => ⟨["t"]⟩
  | k + 1 => (onWay k).child (turn k)

theorem isSegment_turn (k : Nat) : IsSegment (turn k) := by
  rw [turn]
  split <;> decide

theorem plain_onWay (k : Nat) : (onWay k).Plain := by
  induction k with
  | zero => decide
  | succ k ih => exact ih.child (isSegment_turn k)

theorem isHidden_onWay (k : Nat) : (onWay k).isHidden = false := by
  induction k with
  | zero => decide
  | succ k ih =>
      have hTurn : isHidden ⟨[turn k]⟩ = false := by
        rw [turn]
        split <;> decide
      rw [onWay, child_eq_down, isHidden_down, ih, hTurn, Bool.or_false]

theorem turn_add_two (k : Nat) : turn (k + 2) = turn k := by rw [turn, turn, Nat.add_mod_right]

/-- Each folder comes to be two turns further down. -/
theorem under_onWay (k : Nat) : (onWay k).under (onWay (k + 1)) = onWay (k + 2) := by
  cases k with
  | zero => rfl
  | succ k => rw [onWay, under_child, ← turn_add_two k, ← onWay]

end StoragePath

open StoragePath (onWay turn)

/-- A tree of nothing but the folders down to the one that is reached by a number of turns. -/
structure Tree.IsWay (k : Nat) (t : Tree) : Prop extends t.WellFormed where
  get?_eq_some_iff {q : StoragePath} {n : Node} :
    t.get? q = some n ↔ n = .folder ∧ (onWay k).startsWith q = true

namespace Tree.IsWay

theorem file?_eq_none (h : t.IsWay k) (q : StoragePath) : t.file? q = none := by
  cases hFound : t.get? q with
  | none => exact file?_of_get?_ne_file (Or.inl hFound)
  | some n =>
      obtain ⟨rfl, -⟩ := h.get?_eq_some_iff.mp hFound
      exact file?_of_get?_ne_file (Or.inr hFound)

/-- One more folder at the end makes a way that is longer by one turn. -/
theorem gains (h : t.IsWay k) (hGains : t.Gains (onWay (k + 1)) .folder t') : t'.IsWay (k + 1) where
  toWellFormed := hGains.wellFormed
  get?_eq_some_iff {q n} := by
    by_cases hq : q = onWay (k + 1)
    · subst hq
      rw [hGains.here, Option.some.injEq]
      exact ⟨fun hFolder => ⟨hFolder.symm, StoragePath.startsWith_self⟩, fun hFolder => hFolder.1.symm⟩
    · have hWay : (onWay (k + 1)).startsWith q = true ↔ (onWay k).startsWith q = true := by
        refine ⟨fun hBelow => ?_, StoragePath.startsWith_trans StoragePath.startsWith_child⟩
        have hFolder := StoragePath.startsWith_folder hBelow (Ne.symm hq)
        rwa [onWay, StoragePath.folder_child] at hFolder
      rw [hWay, ← h.get?_eq_some_iff]
      rcases hGains.elsewhere q hq with hKept | ⟨hBelow, hNone, -⟩ | ⟨-, hFile, hGone⟩
      · rw [hKept]
      · cases hNone.symm.trans (h.get?_eq_some_iff.mpr ⟨rfl, hWay.mp hBelow⟩)
      · rw [hGone]
        exact iff_of_false nofun fun hFound => hFile ((h.get?_eq_some_iff.mp hFound).1 ▸ hFound)

end Tree.IsWay

namespace Item

open Cabinet.Action

/-- What is listed on the way is the folder that comes next. -/
theorem listed_onWay (hT : t.IsWay (k + 1)) (hShown : A.hides (onWay (k + 1)) = false) :
    ∃ rest, listed ⟨A, onWay k⟩ t = ⟨A, onWay (k + 1)⟩ :: rest := by
  have hThere : t.get? (onWay (k + 1)) ≠ none := by
    rw [hT.get?_eq_some_iff.mpr ⟨rfl, StoragePath.startsWith_self⟩]
    nofun
  have hNext : (⟨A, onWay (k + 1)⟩ : Item) ∈ listed ⟨A, onWay k⟩ t :=
    (mem_listed_iff hT.toWellFormed).mpr ⟨turn k, rfl, hThere, hShown⟩
  cases hListed : listed ⟨A, onWay k⟩ t with
  | nil =>
      rw [hListed] at hNext
      cases hNext
  | cons child rest =>
      obtain ⟨x, rfl, hChild, -⟩ := (mem_listed_iff hT.toWellFormed).mp (hListed ▸ List.mem_cons_self)
      obtain ⟨n, hFound⟩ := Option.ne_none_iff_exists'.mp hChild
      obtain ⟨-, hWay⟩ := hT.get?_eq_some_iff.mp hFound
      have hSame : (onWay k).child x = onWay (k + 1) := by
        by_contra hne
        have hDepth : ((onWay k).child x).depth = (onWay (k + 1)).depth := by
          rw [onWay, StoragePath.child_eq_down, StoragePath.child_eq_down, StoragePath.depth_down,
            StoragePath.depth_down]
          rfl
        cases (StoragePath.not_startsWith_of_ne (Ne.symm hne) hDepth.symm).symm.trans hWay
      exact ⟨rest, by rw [hSame]⟩

/-- However many levels there are, a copy along the way is cut off. -/
theorem not_completes_onWay (hOne : A.backend = B.backend) (hOther : B.same A = false)
    (hWritable : B.checkWritable = .ok ()) (levels : Nat) (hA : A.Holds w t) (hT : t.IsWay (k + 1))
    (hOpen : A.isOpen w = true) (hOpenToo : B.isOpen w = true) :
    ¬Completes (copyDown levels ⟨A, onWay k⟩ ⟨B, onWay (k + 1)⟩ w) := by
  induction levels generalizing k w t with
  | zero => exact fun h => h _ rfl
  | succ levels ih =>
      have hShown (S : Storage) (k : Nat) : S.hides (onWay k) = false := by
        rw [Storage.hides, StoragePath.isHidden_onWay, Bool.and_false]
      have hB : (⟨B, onWay (k + 1)⟩ : Item).storage.Holds w t := hA.of_backend hOne.symm
      have hFound : t.get? (onWay k) = some .folder :=
        hT.get?_eq_some_iff.mpr ⟨rfl, StoragePath.startsWith_child⟩
      have hEntry : requireEntry ⟨A, onWay k⟩ w = .ok Node.folder.metadata := by
        refine requireEntry_eq_ok_iff.mpr ⟨hOpen, hShown A k, (hA.entry _).trans ?_⟩
        rw [Tree.metadata, hFound, Option.map_some]
      have hListed : list ⟨A, onWay k⟩ .all w = .ok (listed ⟨A, onWay k⟩ t) := by
        apply (list_eq_ok_iff hA hT.toWellFormed).mpr
        exact ⟨(asFolder_eq_ok_iff hA).mpr ⟨rfl, hFound, hOpen, hShown A k⟩, rfl⟩
      have hName := (StoragePath.plain_onWay k).resolve_name (onWay (k + 1))
      rw [StoragePath.under_onWay] at hName
      obtain ⟨w₁, hMade⟩ := createFolder_clear hB hT.toWellFormed hOpenToo hWritable hName (hShown B _)
        fun q _ => hT.file?_eq_none q
      obtain ⟨t₁, -, -, hAfter, hGains⟩ :=
        createFolder_copy_ok (i := ⟨A, onWay k⟩) hB hT.toWellFormed (StoragePath.plain_onWay k) hMade
      rw [StoragePath.under_onWay] at hGains
      have hElsewhere := keeps_createFolder_elsewhere ⟨B, onWay (k + 1)⟩ (onWay k).name w (.refl _ w)
      rw [hMade] at hElsewhere
      obtain ⟨rest, hNext⟩ := listed_onWay hT (hShown A _)
      rw [hNext] at hListed
      have hInto : (B.same A && (onWay (k + 1)).startsWith (onWay k)) = false := by
        rw [hOther, Bool.false_and]
      intro h
      rw [copyDown_of_folder hEntry rfl hInto hListed hMade] at h
      have hChildren := h.first
      rw [copyEach_cons] at hChildren
      apply ih (hAfter.of_backend hOne) (hT.gains hGains) ((hElsewhere.isOpen A).trans hOpen)
        ((hElsewhere.isOpen B).trans hOpenToo)
      exact completes_of_ends hChildren.first.first

/-- The folder /t is copied to /t/x, which is a folder in it, through another storage. No number of levels
is enough. -/
theorem not_completes_below :
    let first : Storage := ⟨0, "first", ⟨.memory 0, .plain⟩, .standard, .byName, .basic⟩
    let second : Storage := ⟨1, "second", ⟨.memory 0, .plain⟩, .standard, .byName, .basic⟩
    let t := (Tree.empty.put ⟨["t"]⟩ .folder).put ⟨["t", "x"]⟩ .folder
    let w : World := ⟨.empty, [t], [⟨true, none⟩, ⟨true, none⟩]⟩
    first.Holds w t ∧ t.WellFormed ∧ t.Named ∧
      ∀ levels, ¬Completes (copyDown levels ⟨first, ⟨["t"]⟩⟩ ⟨second, ⟨["t", "x"]⟩⟩ w) := by
  intro first second t w
  have hHolds : first.Holds w t := ⟨0, rfl, rfl⟩
  have hFormed : t.WellFormed := Tree.wellFormed_of_entries (by decide +kernel +zetaReduce) (by decide)
  have hWay : t.IsWay 1 := by
    refine ⟨hFormed, fun {q n} => ⟨fun hFound => ?_, fun ⟨hFolder, hWay⟩ => ?_⟩⟩
    · have hEntries : ∀ e ∈ t.entries, e.2 = .folder ∧ (onWay 1).startsWith e.1 = true := by decide
      exact hEntries _ (Entries.mem_of_get? hFound)
    · subst hFolder
      have hThere : t.get? (onWay 1) = some .folder := by decide
      by_cases hq : onWay 1 = q
      · exact hq ▸ hThere
      · exact hFormed.above hThere hWay hq
  have hOne : first.backend = second.backend := rfl
  have hOther : second.same first = false := rfl
  exact ⟨hHolds, hFormed, Tree.named_of_entries (by decide), fun levels =>
    not_completes_onWay hOne hOther rfl levels hHolds hWay rfl rfl⟩

end Item

end Cabinet
