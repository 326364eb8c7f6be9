import Cabinet.Proofs.Storage.Depth
import Mathlib.Data.List.TakeWhile
import Mathlib.Order.Lattice.Nat

/-! Copies along a name. A copy of a folder that comes to lie right in it, through another storage of the
tree, has a name that the folder's way goes on by. As long as this name is repeated on the way down, each
folder is copied to the next one, with what has been copied there before; the last one has none of the
name in it when it is listed. Thus the copy ends, and it needs no more levels than there are entries. -/

namespace Cabinet

variable {A B : Storage} {s c p q : StoragePath} {e x : String} {front rest : List String} {t t' : Tree}
  {n m : Node} {w w' : World} {bound H K L : Nat}

/-! ### Repeated names -/

namespace StoragePath

/-- How often a name is repeated at the beginning. -/
def lead (e : String) (rest : List String) : Nat := (rest.takeWhile (· == e)).length

/-- How many segments there are from the first other name on. -/
def tail (e : String) (rest : List String) : Nat := (rest.dropWhile (· == e)).length

theorem lead_add_tail (e : String) (rest : List String) : lead e rest + tail e rest = rest.length := by
  rw [lead, tail, ← List.length_append, List.takeWhile_append_dropWhile]

@[simp] theorem lead_cons_self : lead e (e :: rest) = lead e rest + 1 := by simp [lead]

@[simp] theorem tail_cons_self : tail e (e :: rest) = tail e rest := by simp [tail]

@[simp] theorem lead_replicate {k : Nat} : lead e (List.replicate k e) = k := by simp [lead]

@[simp] theorem tail_replicate {k : Nat} : tail e (List.replicate k e) = 0 := by simp [tail]

theorem lead_mono (h : front <+: rest) : lead e front ≤ lead e rest := by
  obtain ⟨back, rfl⟩ := h
  rw [lead, lead, List.takeWhile_append]
  split
  · rename_i hAll
    rw [List.length_append]
    omega
  · exact Nat.le_refl _

theorem tail_mono (h : front <+: rest) : tail e front ≤ tail e rest := by
  obtain ⟨back, rfl⟩ := h
  rw [tail, tail, List.dropWhile_append]
  split
  · rename_i hNone
    rw [List.isEmpty_iff.mp hNone]
    exact Nat.zero_le _
  · rw [List.length_append]
    exact Nat.le_add_right _ _

/-- Behind another name nothing counts as a repetition. -/
theorem lead_append (rest : List String) (h : tail e rest ≠ 0 ∨ x ≠ e) :
    lead e (rest ++ [x]) = lead e rest := by
  rw [lead, lead, List.takeWhile_append]
  split
  · rename_i hAll
    have hSplit := lead_add_tail e rest
    rw [lead, hAll] at hSplit
    have hOther : x ≠ e := h.resolve_left fun hTail => hTail (by omega)
    have hNone : [x].takeWhile (· == e) = [] := by simp [hOther]
    rw [hNone, List.append_nil, hAll]
  · rfl

theorem tail_append (rest : List String) (h : tail e rest ≠ 0 ∨ x ≠ e) :
    tail e (rest ++ [x]) = tail e rest + 1 := by
  have hBefore := lead_add_tail e rest
  have hAfter := lead_add_tail e (rest ++ [x])
  rw [lead_append rest h, List.length_append, List.length_singleton] at hAfter
  omega

theorem replicate_prefix {k : Nat} (h : k ≤ lead e rest) : List.replicate k e <+: rest := by
  have hAll : rest.takeWhile (· == e) = List.replicate (lead e rest) e :=
    List.eq_replicate_of_mem fun x hx => beq_iff_eq.mp (List.all_eq_true.mp List.all_takeWhile x hx)
  have hRepeated : List.replicate k e <+: List.replicate (lead e rest) e :=
    ⟨List.replicate (lead e rest - k) e, by rw [List.replicate_append_replicate, Nat.add_sub_cancel' h]⟩
  exact (hAll ▸ hRepeated).trans (List.takeWhile_prefix _)

/-- The beginnings from the first other name on. -/
theorem behind_prefix (e : String) (rest : List String) (k : Nat) :
    rest.takeWhile (· == e) ++ (rest.dropWhile (· == e)).take k <+: rest :=
  ⟨(rest.dropWhile (· == e)).drop k, by
    rw [List.append_assoc, List.take_append_drop, List.takeWhile_append_dropWhile]⟩

/-- The path that is reached when a name is repeated on the way down. -/
def again (s : StoragePath) (e : String) (k : Nat) : StoragePath := s.down (List.replicate k e)

variable {k : Nat}

@[simp] theorem again_zero : s.again e 0 = s := down_nil

theorem child_again : (s.again e k).child e = s.again e (k + 1) := by
  rw [again, child_down, ← List.replicate_succ', ← again]

theorem down_again : (s.child e).down (List.replicate k e) = s.again e (k + 1) := down_child

end StoragePath

open StoragePath (lead tail)

/-! ### The copy along a name -/

/-- A tree in which a name is repeated at most a number of times on the way down from a path, and what
comes then is no deeper than a height. -/
structure Tree.Within (s : StoragePath) (e : String) (H K : Nat) (t : Tree) : Prop
    extends t.WellFormed where
  named : t.Named
  lead_le {rest : List String} {n : Node} (h : t.get? (s.down rest) = some n) : lead e rest ≤ K
  tail_le {rest : List String} {n : Node} (h : t.get? (s.down rest) = some n) : tail e rest ≤ H

namespace Tree.Within

theorem mono (h : t.Within s e H K) (hMore : K ≤ L) : t.Within s e H L where
  toWellFormed := h.toWellFormed
  named := h.named
  lead_le hFound := (h.lead_le hFound).trans hMore
  tail_le := h.tail_le

/-- A copy of an entry repeats the name once more than the entry does. -/
theorem gains (h : t.Within s e H K) (hPlain : (s.child e).Plain) (hMore : K ≤ L)
    (hLead : lead e rest < L) (hThere : t.get? (s.down rest) = some m)
    (hGains : t.Gains ((s.child e).down rest) n t') :
    t'.Within s e H L := by
  have hWay {front : List String} {k : Node} (hFound : t'.get? (s.down front) = some k) :
      t.get? (s.down front) = some k ∨ front <+: e :: rest := by
    rw [StoragePath.down_child] at hGains
    exact (hGains.startsWith_of_get? hFound).imp_right StoragePath.down_startsWith_down.mp
  refine ⟨hGains.wellFormed, hGains.named h.named (hPlain.down (h.named _ _ hThere)), ?_, ?_⟩
  · intro front k hFound
    rcases hWay hFound with hBefore | hPrefix
    · exact (h.lead_le hBefore).trans hMore
    · have hNew := StoragePath.lead_mono (e := e) hPrefix
      rw [StoragePath.lead_cons_self] at hNew
      exact hNew.trans hLead
  · intro front k hFound
    rcases hWay hFound with hBefore | hPrefix
    · exact h.tail_le hBefore
    · have hNew := StoragePath.tail_mono (e := e) hPrefix
      rw [StoragePath.tail_cons_self] at hNew
      exact hNew.trans (h.tail_le hThere)

theorem gains_again {k : Nat} (h : t.Within s e H K) (hPlain : (s.child e).Plain) (hMore : K ≤ L)
    (hFits : k < L) (hThere : t.get? (s.again e k) = some m)
    (hGains : t.Gains (s.again e (k + 1)) n t') :
    t'.Within s e H L := by
  rw [← StoragePath.down_again] at hGains
  exact h.gains hPlain hMore (StoragePath.lead_replicate.trans_lt hFits) hThere hGains

theorem lt_of_child {k : Nat} (h : t.Within s e H K) (hThere : t.get? ((s.again e k).child e) = some n) :
    k < K := by
  rw [StoragePath.child_again] at hThere
  have hLead := h.lead_le hThere
  rwa [StoragePath.lead_replicate] at hLead

/-- There is something behind another name. -/
theorem pos_of_child {k : Nat} (h : t.Within s e H K) (hName : x ≠ e)
    (hThere : t.get? ((s.again e k).child x) = some n) : 0 < H := by
  rw [StoragePath.again, StoragePath.child_down] at hThere
  have hTail := h.tail_le hThere
  rwa [StoragePath.tail_append _ (Or.inr hName), StoragePath.tail_replicate] at hTail

end Tree.Within

namespace Item

open Cabinet.Action

variable {folder copy : Item} {k levels : Nat}

/-- Behind another name the copy is made aside of what is still to be copied. -/
theorem descent_behind (hOne : A.backend = B.backend) (hPlain : (s.child e).Plain) :
    TreeDescent FileError.IsOrdinary A B s (s.child e) (Tree.Within s e H K) fun levels rest =>
      0 < levels ∧ tail e rest ≠ 0 ∧ lead e rest < K ∧ H < levels + tail e rest where
  beside := Or.inl hOne
  ordinary he := he
  cut hG := absurd hG.1 (Nat.lt_irrefl 0)
  wellFormed h := h.toWellFormed
  named h := h.named
  gains _ hG h hThere hGains := h.gains hPlain (Nat.le_refl K) hG.2.2.1 hThere hGains
  child {levels rest x t n} hG h hThere := by
    obtain ⟨-, hTail, hLead, hLevels⟩ := hG
    have hHeight := h.tail_le hThere
    rw [StoragePath.tail_append rest (Or.inl hTail)] at hHeight
    rw [StoragePath.tail_append rest (Or.inl hTail), StoragePath.lead_append rest (Or.inl hTail)]
    omega

theorem ends_behind (hOne : A.backend = B.backend) (hPlain : (s.child e).Plain) (hName : x ≠ e)
    (hFits : k < K) (hLevels : H ≤ levels) (hPositive : 0 < levels) (hA : A.Holds w t)
    (hT : t.Within s e H K) :
    Ends FileError.IsOrdinary (fun _ => A.HoldsSuch (Tree.Within s e H K))
      (copyDown levels ⟨A, (s.again e k).child x⟩ ⟨B, s.again e (k + 1)⟩ w) := by
  have hTail := StoragePath.tail_append (List.replicate k e) (Or.inr hName)
  have hLead := StoragePath.lead_append (List.replicate k e) (Or.inr hName)
  rw [StoragePath.tail_replicate] at hTail
  rw [StoragePath.lead_replicate] at hLead
  rw [StoragePath.again, StoragePath.child_down]
  apply TreeDescent.ends (descent_behind hOne hPlain) _ hA hT
  · rw [← StoragePath.child_down, StoragePath.under_child, ← StoragePath.down_again, StoragePath.child_down]
  · rw [hTail, hLead]
    omega

/-- The copies of the children of a folder that the name is repeated to. Until the turn of the child of
that name comes, the name is not repeated more often than at the beginning. -/
theorem ends_each (levels : Nat) (hOne : A.backend = B.backend) (hPlain : (s.child e).Plain)
    (hListed : t'.Within s e H K) (hk : k ≤ K) (hLevels : K + H < levels + 1 + k)
    (hNext : ∀ w t, A.Holds w t → t.Within s e H K → k < K →
      Ends FileError.IsOrdinary (fun _ => A.HoldsSuch (Tree.Within s e H (K + 1)))
        (copyDown levels ⟨A, s.again e (k + 1)⟩ ⟨B, s.again e (k + 1)⟩ w))
    (hA : A.Holds w t) (hT : t.Within s e H (K + 1)) (hStill : k < K → t.Within s e H K) :
    Ends FileError.IsOrdinary (fun _ => A.HoldsSuch (Tree.Within s e H (K + 1)))
      (copyEach levels ⟨B, s.again e (k + 1)⟩ (listed ⟨A, s.again e k⟩ t') w) := by
  have hNames {child : Item} (hMem : child ∈ listed ⟨A, s.again e k⟩ t') :
      ∃ x n, child = ⟨A, (s.again e k).child x⟩ ∧ t'.get? ((s.again e k).child x) = some n := by
    obtain ⟨x, rfl, hThere, -⟩ := (mem_listed_iff hListed.toWellFormed).mp hMem
    obtain ⟨n, hFound⟩ := Option.ne_none_iff_exists'.mp hThere
    exact ⟨x, n, rfl, hFound⟩
  have hAgain (hMem : (⟨A, (s.again e k).child e⟩ : Item) ∈ listed ⟨A, s.again e k⟩ t') : k < K := by
    obtain ⟨x, n, hSame, hThere⟩ := hNames hMem
    rw [← (Item.mk.inj hSame).2] at hThere
    exact hListed.lt_of_child hThere
  have hLoop := Ends.forM (E := FileError.IsOrdinary) (l := listed ⟨A, s.again e k⟩ t')
    (f := fun child => discard (copyDown levels child ⟨B, s.again e (k + 1)⟩))
    (P := fun remaining => A.HoldsSuch fun t => t.Within s e H (K + 1) ∧
      ((⟨A, (s.again e k).child e⟩ : Item) ∈ remaining → t.Within s e H K))
    (w := w) ⟨t, hA, hT, fun hMem => hStill (hAgain hMem)⟩ ?_
  · apply hLoop.imp
    rintro _ _ ⟨t₁, hHolds, hDone, -⟩
    exact ⟨t₁, hHolds, hDone⟩
  · intro child remaining hSuffix w₁ hNow
    obtain ⟨t₁, hHolds, hMore, hBefore⟩ := hNow
    obtain ⟨x, n, rfl, hThere⟩ := hNames (hSuffix.subset List.mem_cons_self)
    apply Ends.discard
    by_cases hName : x = e
    · subst hName
      have hNodup := hSuffix.sublist.nodup (nodup_listed hListed.toWellFormed)
      have hEnds := hNext w₁ t₁ hHolds (hBefore List.mem_cons_self) (hListed.lt_of_child hThere)
      rw [← StoragePath.child_again] at hEnds ⊢
      apply hEnds.imp
      rintro _ _ ⟨t₂, hHolds, hMore⟩
      exact ⟨t₂, hHolds, hMore, fun hMem => absurd hMem (List.nodup_cons.mp hNodup).1⟩
    · have hPositive := hListed.pos_of_child hName hThere
      have hRoom : H ≤ levels := by omega
      by_cases hMem : (⟨A, (s.again e k).child e⟩ : Item) ∈ remaining
      · have hHere := hBefore (List.mem_cons_of_mem _ hMem)
        have hFits := hAgain (hSuffix.subset (List.mem_cons_of_mem _ hMem))
        have hEnds := ends_behind hOne hPlain hName hFits hRoom (hPositive.trans_le hRoom) hHolds hHere
        apply hEnds.imp
        rintro _ _ ⟨t₂, hHolds, hStill⟩
        exact ⟨t₂, hHolds, hStill.mono (Nat.le_succ K), fun _ => hStill⟩
      · have hFits := Nat.lt_succ_of_le hk
        have hEnds := ends_behind hOne hPlain hName hFits hRoom (hPositive.trans_le hRoom) hHolds hMore
        apply hEnds.imp
        rintro _ _ ⟨t₂, hHolds, hMore⟩
        exact ⟨t₂, hHolds, hMore, fun hLater => absurd hLater hMem⟩

/-- A copy along a name ends, and the name is repeated once more at most. -/
theorem ends_along (hStorage : folder.storage = B) (hOne : A.backend = B.backend)
    (hPlain : (s.child e).Plain) (hPlace : (s.again e k).under folder.path = s.again e (k + 1)) (hk : k ≤ K)
    (hLevels : K + H < levels + k) (hA : A.Holds w t) (hT : t.Within s e H K) :
    Ends FileError.IsOrdinary (fun _ => A.HoldsSuch (Tree.Within s e H (K + 1)))
      (copyDown levels ⟨A, s.again e k⟩ folder w) := by
  induction levels generalizing k folder w t with
  | zero => omega
  | succ levels ih =>
      subst hStorage
      have hB := hA.of_backend hOne.symm
      apply copyDown_ends fun _ he => he
      · intro m j w' hEntry hFile hRun
        obtain ⟨-, n, hFound, -⟩ := entry_of_requireEntry hA hEntry
        obtain ⟨contents, t', -, -, -, hAfter, hGains⟩ :=
          create_copy_ok hA hB hT.toWellFormed (fun _ => hOne) (hT.named _ _ hFound) hEntry hFile hRun
        rw [hPlace] at hGains
        exact ⟨t', hAfter.of_backend hOne,
          hT.gains_again hPlain (Nat.le_succ K) (Nat.lt_succ_of_le hk) hFound hGains⟩
      · intro m children copy w₁ hEntry hKind _ hListed hMade
        obtain ⟨-, n, hFound, -⟩ := entry_of_requireEntry hA hEntry
        obtain ⟨t₁, rfl, -, hAfter, hGains⟩ := createFolder_copy_ok (i := ⟨A, s.again e k⟩) hB hT.toWellFormed
          (hT.named _ _ hFound) hMade
        obtain ⟨-, rfl⟩ := (list_eq_ok_iff hA hT.toWellFormed).mp hListed
        rw [hPlace] at hGains
        have hMore := hT.gains_again hPlain (Nat.le_succ K) (Nat.lt_succ_of_le hk) hFound hGains
        have hStill (hFits : k < K) := hT.gains_again hPlain (Nat.le_refl K) hFits hFound hGains
        have hNext (w t) (hA : A.Holds w t) (hT : t.Within s e H K) (hFits : k < K) :
            Ends FileError.IsOrdinary (fun _ => A.HoldsSuch (Tree.Within s e H (K + 1)))
              (copyDown levels ⟨A, s.again e (k + 1)⟩ ⟨folder.storage, s.again e (k + 1)⟩ w) := by
          refine ih rfl ?_ hFits (by omega) hA hT
          rw [← StoragePath.child_again, StoragePath.under_child, StoragePath.child_again,
            StoragePath.child_again]
        have hEach := ends_each levels hOne hPlain hT hk hLevels hNext (hAfter.of_backend hOne) hMore hStill
        rw [← hPlace] at hEach
        exact hEach

end Item

/-! ### As many levels as entries -/

namespace Tree

theorem WellFormed.exists_greatest (hT : t.WellFormed) (hThere : t.get? s = some n)
    {f : List String → Nat} (hf : ∀ rest, f rest ≤ rest.length) : ∃ rest m, t.get? (s.down rest) = some m ∧
      ∀ back k, t.get? (s.down back) = some k → f back ≤ f rest := by
  have hBounded : BddAbove {l | ∃ rest m, t.get? (s.down rest) = some m ∧ f rest = l} := by
    refine ⟨t.entries.length, ?_⟩
    rintro l ⟨rest, m, hFound, rfl⟩
    have hDepth := hT.depth_lt hFound
    rw [StoragePath.depth_down] at hDepth
    have hLength := hf rest
    omega
  have hSome : {l | ∃ rest m, t.get? (s.down rest) = some m ∧ f rest = l}.Nonempty :=
    ⟨_, [], n, StoragePath.down_nil.symm ▸ hThere, rfl⟩
  obtain ⟨rest, m, hFound, hGreatest⟩ := Nat.sSup_mem hSome hBounded
  refine ⟨rest, m, hFound, fun back k hBack => ?_⟩
  rw [hGreatest]
  exact le_csSup hBounded ⟨back, k, hBack, rfl⟩

/-- The repetitions of a name and what comes behind another one are different entries. -/
theorem WellFormed.lead_add_tail_lt (hT : t.WellFormed) (hFront : t.get? (s.down front) = some n)
    (hBack : t.get? (s.down rest) = some m) : lead e front + tail e rest < t.entries.length := by
  have hNodup : ((List.range (lead e front + 1)).map (fun k => s.down (List.replicate k e)) ++
      (List.range (rest.dropWhile (· == e)).length).map fun k =>
        s.down (rest.takeWhile (· == e) ++ (rest.dropWhile (· == e)).take (k + 1))).Nodup := by
    refine List.nodup_append.mpr ⟨?_, nodup_takes _ _ _, ?_⟩
    · apply List.nodup_range.map
      intro k l hSame
      simpa using congrArg List.length (StoragePath.down_inj.mp hSame)
    · intro p hp q hq hSame
      obtain ⟨k, -, rfl⟩ := List.mem_map.mp hp
      obtain ⟨l, hl, rfl⟩ := List.mem_map.mp hq
      have hl := List.mem_range.mp hl
      have hTail := congrArg (tail e) (StoragePath.down_inj.mp hSame)
      rw [StoragePath.tail_replicate] at hTail
      have hLead := StoragePath.lead_mono (e := e) (StoragePath.behind_prefix e rest (l + 1))
      have hSum := StoragePath.lead_add_tail e
        (rest.takeWhile (· == e) ++ (rest.dropWhile (· == e)).take (l + 1))
      rw [List.length_append, List.length_take, ← lead] at hSum
      omega
  have hLength := length_le_entries (t := t) hNodup fun p hp => ?_
  · rw [List.length_append, List.length_map, List.length_map, List.length_range,
      List.length_range] at hLength
    rw [tail]
    omega
  · rcases List.mem_append.mp hp with hp | hp
    · obtain ⟨k, hk, rfl⟩ := List.mem_map.mp hp
      have hPrefix := StoragePath.replicate_prefix (Nat.le_of_lt_succ (List.mem_range.mp hk))
      exact hT.exists_above hFront (StoragePath.down_startsWith_down.mpr hPrefix)
    · obtain ⟨k, -, rfl⟩ := List.mem_map.mp hp
      exact hT.exists_above hBack (StoragePath.down_startsWith_down.mpr (StoragePath.behind_prefix _ _ _))

theorem WellFormed.exists_within (hT : t.WellFormed) (hNamed : t.Named) (s : StoragePath) (e : String) :
    ∃ H K, t.Within s e H K ∧ K + H ≤ t.entries.length := by
  cases hThere : t.get? s with
  | none =>
      have hNone {rest : List String} {n : Node} (hFound : t.get? (s.down rest) = some n) : False := by
        obtain ⟨m, hAbove⟩ := hT.exists_above hFound StoragePath.startsWith_down
        cases hThere.symm.trans hAbove
      exact ⟨0, 0, ⟨hT, hNamed, fun hFound => (hNone hFound).elim, fun hFound => (hNone hFound).elim⟩,
        Nat.zero_le _⟩
  | some n =>
      obtain ⟨front, _, hFront, hMost⟩ := hT.exists_greatest hThere (f := lead e) fun rest =>
        (Nat.le_add_right _ _).trans_eq (StoragePath.lead_add_tail e rest)
      obtain ⟨rest, _, hBack, hDeepest⟩ := hT.exists_greatest hThere (f := tail e) fun rest =>
        (Nat.le_add_left _ _).trans_eq (StoragePath.lead_add_tail e rest)
      exact ⟨tail e rest, lead e front, ⟨hT, hNamed, hMost _ _, hDeepest _ _⟩,
        Nat.le_of_lt (hT.lead_add_tail_lt hFront hBack)⟩

end Tree

end Cabinet
