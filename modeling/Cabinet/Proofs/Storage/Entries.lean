import Cabinet.Proofs.Storage.PathOrder
import Cabinet.Storage.Entries

/-! Entries as a finite map from paths. What is found after an operation is told by what was found
before it. Entries in path order stay in order; no path is among them twice, and so a subtree that is
moved is found as it was. A scan from a path finds just what is at or below it. -/

namespace Cabinet.Entries

variable {α : Type} {es moved : Entries α} {p q source target : StoragePath} {a : α}

/-! ### Looking up -/

theorem mem_of_get? (h : es.get? p = some a) : (p, a) ∈ es := by
  induction es with
  | nil => exact absurd h (by simp [get?])
  | cons e rest ih =>
      rw [get?] at h
      split at h
      · rename_i hKey
        obtain rfl := Option.some.inj h
        exact hKey ▸ List.mem_cons_self
      · exact List.mem_cons_of_mem _ (ih h)

theorem get?_eq_none_iff : es.get? p = none ↔ ∀ e ∈ es, e.1 ≠ p := by
  induction es with
  | nil => simp [get?]
  | cons e rest ih => by_cases hKey : e.1 = p <;> simp [get?, hKey, ih]

theorem get?_put (p : StoragePath) (a : α) (es : Entries α) (q : StoragePath) :
    (es.put p a).get? q = if q = p then some a else es.get? q := by
  induction es with
  | nil => simp only [put, get?, eq_comm]
  | cons e rest ih =>
      by_cases hq : q = p
      · subst hq
        rw [put, if_pos rfl]
        split_ifs with hKey hBefore
        · rw [get?, if_pos rfl]
        · rw [get?, if_pos rfl]
        · rw [get?, if_neg hKey, ih, if_pos rfl]
      · rw [put, if_neg hq]
        split_ifs with hKey hBefore
        · rw [get?, if_neg (Ne.symm hq), get?, if_neg fun h => hq (h.symm.trans hKey)]
        · rw [get?, if_neg (Ne.symm hq)]
        · rw [get?, get?, ih, if_neg hq]

theorem get?_filter (keep : StoragePath → Bool) (es : Entries α) (q : StoragePath) :
    get? q (es.filter fun e => keep e.1) = if keep q then es.get? q else none := by
  induction es with
  | nil => simp [get?]
  | cons e rest ih =>
      rw [List.filter_cons]
      by_cases hKey : e.1 = q
      · subst hKey
        cases hKeep : keep e.1 with
        | true => simp only [get?, if_true]
        | false => rw [if_neg Bool.false_ne_true, ih, hKeep]; rfl
      · cases hKeep : keep e.1 with
        | true => simp only [get?, if_neg hKey, ih, if_true]
        | false => rw [if_neg Bool.false_ne_true, ih, get?, if_neg hKey]

theorem get?_erase : (es.erase p).get? q = if q = p then none else es.get? q := by
  rw [erase, get?_filter fun r => decide (r ≠ p)]
  by_cases hq : q = p <;> simp [hq]

theorem get?_outside : (es.outside p).get? q = if q.startsWith p then none else es.get? q := by
  rw [outside, get?_filter fun r => !r.startsWith p]
  cases q.startsWith p <;> rfl

theorem get?_within : (es.within p).get? q = if q.startsWith p then es.get? q else none :=
  get?_filter (fun r => r.startsWith p) es q

/-! ### Order -/

/-- Entries in path order, each path once. -/
def Ordered (es : Entries α) : Prop := es.Pairwise fun e f => e.1.before f.1 = true

theorem Ordered.filter (h : es.Ordered) (keep : StoragePath × α → Bool) :
    Ordered (es.filter keep) :=
  List.Pairwise.filter keep h

theorem Ordered.get?_eq_some_iff_mem (h : es.Ordered) : es.get? p = some a ↔ (p, a) ∈ es := by
  refine ⟨mem_of_get?, fun hMem => ?_⟩
  induction es with
  | nil => exact absurd hMem List.not_mem_nil
  | cons e rest ih =>
      obtain ⟨hFirst, hRest⟩ := List.pairwise_cons.mp h
      rcases List.mem_cons.mp hMem with rfl | hMem
      · rw [get?, if_pos rfl]
      · rw [get?, if_neg (StoragePath.ne_of_before (hFirst _ hMem)), ih hRest hMem]

theorem mem_put {e : StoragePath × α} (h : e ∈ es.put p a) : e = (p, a) ∨ e ∈ es := by
  induction es with
  | nil => exact Or.inl (List.mem_singleton.mp h)
  | cons f rest ih =>
      rw [put] at h
      split_ifs at h
      · exact (List.mem_cons.mp h).imp_right (List.mem_cons_of_mem _)
      · exact List.mem_cons.mp h
      · rcases List.mem_cons.mp h with rfl | h
        · exact Or.inr List.mem_cons_self
        · exact (ih h).imp_right (List.mem_cons_of_mem _)

theorem Ordered.put (h : es.Ordered) (p : StoragePath) (a : α) : Ordered (es.put p a) := by
  induction es with
  | nil => exact List.pairwise_singleton _ _
  | cons e rest ih =>
      obtain ⟨hFirst, hRest⟩ := List.pairwise_cons.mp h
      rw [Entries.put]
      split_ifs with hKey hBefore
      · exact List.pairwise_cons.mpr ⟨hKey ▸ hFirst, hRest⟩
      · refine List.pairwise_cons.mpr ⟨fun f hf => ?_, h⟩
        rcases List.mem_cons.mp hf with rfl | hf
        · exact hBefore
        · exact StoragePath.before_trans hBefore (hFirst f hf)
      · refine List.pairwise_cons.mpr ⟨fun f hf => ?_, ih hRest⟩
        rcases mem_put hf with rfl | hf
        · exact StoragePath.before_of_not_before (Ne.symm hKey) (Bool.eq_false_iff.mpr hBefore)
        · exact hFirst f hf

/-! ### Scanning -/

section Cut

variable {β : Type} {holds : β → Bool} {b : β} {l : List β}

/-- What holds only where it held before fails from its first failure on. -/
theorem eq_false_of_pairwise (h : (b :: l).Pairwise fun c d => holds d = true → holds c = true)
    (hFails : holds b = false) : ∀ c ∈ b :: l, holds c = false := by
  refine List.forall_mem_cons.mpr ⟨hFails, fun c hc => Bool.eq_false_iff.mpr fun hHolds => ?_⟩
  exact Bool.eq_false_iff.mp hFails ((List.pairwise_cons.mp h).1 c hc hHolds)

theorem takeWhile_eq_filter (h : l.Pairwise fun c d => holds d = true → holds c = true) :
    l.takeWhile holds = l.filter holds := by
  induction l with
  | nil => rfl
  | cons b l ih =>
      cases hHolds : holds b with
      | true =>
          rw [List.takeWhile_cons_of_pos hHolds, List.filter_cons_of_pos hHolds, ih (List.pairwise_cons.mp h).2]
      | false =>
          have hNone := eq_false_of_pairwise h hHolds
          rw [List.takeWhile_cons_of_neg (Bool.eq_false_iff.mp hHolds),
            List.filter_eq_nil_iff.mpr fun c hc => Bool.eq_false_iff.mp (hNone c hc)]

theorem dropWhile_eq_filter (h : l.Pairwise fun c d => holds d = true → holds c = true) :
    l.dropWhile holds = l.filter fun c => !holds c := by
  induction l with
  | nil => rfl
  | cons b l ih =>
      cases hHolds : holds b with
      | true =>
          rw [List.dropWhile_cons_of_pos hHolds, ih (List.pairwise_cons.mp h).2,
            List.filter_cons_of_neg (by rw [hHolds]; exact Bool.false_ne_true)]
      | false =>
          have hNone := eq_false_of_pairwise h hHolds
          rw [List.dropWhile_cons_of_neg (Bool.eq_false_iff.mp hHolds),
            List.filter_eq_self.mpr fun c hc => by rw [hNone c hc, Bool.not_false]]

end Cut

/-- A scan of entries in path order stops right behind the last one that is below the path. -/
theorem Ordered.scan (h : es.Ordered) (p : StoragePath) : es.scan p = es.within p := by
  have hFrom : (es.dropWhile fun e => e.1.before p) = es.filter fun e => !e.1.before p :=
    dropWhile_eq_filter (h.imp fun hBefore hLater => StoragePath.before_trans hBefore hLater)
  have hBlock : (es.filter fun e => !e.1.before p).Pairwise fun e f =>
      f.1.startsWith p = true → e.1.startsWith p = true := by
    refine (h.filter _).imp_of_mem fun {e f} he _ hBefore => ?_
    have hOn : e.1.before p = false := by simpa using (List.mem_filter.mp he).2
    exact StoragePath.startsWith_of_isLE_of_isLE (StoragePath.isLE_compare_iff.mpr hOn)
      (StoragePath.isLE_compare_iff.mpr (StoragePath.not_before_of_before hBefore))
  rw [Entries.scan, hFrom, takeWhile_eq_filter hBlock, List.filter_filter, within]
  refine List.filter_congr fun e _ => ?_
  cases hBelow : e.1.startsWith p with
  | true => rw [StoragePath.isLE_compare_iff.mp (StoragePath.isLE_of_startsWith hBelow)]; rfl
  | false => rw [Bool.false_and]

theorem Ordered.scannedNames (h : es.Ordered) (p : StoragePath) : es.scannedNames p = es.names p := by
  rw [Entries.scannedNames, h.scan, names]

/-! ### Moving -/

theorem Ordered.graft (h : es.Ordered) (source target : StoragePath) (moved : Entries α) :
    Ordered (graft source target moved es) := by
  induction moved generalizing es with
  | nil => exact h
  | cons e rest ih =>
      rw [Entries.graft, List.foldl_cons]
      split
      · exact ih (h.put _ _)
      · exact ih h

theorem Ordered.move (h : es.Ordered) (source target : StoragePath) :
    Ordered (es.move source target) :=
  ((h.filter _).filter _).graft source target _

/-- Behind a beginning that is exchanged, entries are found as they were. -/
theorem get?_graft {rest : List String} (hOrdered : moved.Ordered)
    (hMoved : ∀ e ∈ moved, e.1.startsWith source = true) :
    (graft source target moved es).get? ⟨target.segments ++ rest⟩ =
      (moved.get? ⟨source.segments ++ rest⟩).or (es.get? ⟨target.segments ++ rest⟩) := by
  induction moved generalizing es with
  | nil => rfl
  | cons e moved ih =>
      obtain ⟨hFirst, hOthers⟩ := List.pairwise_cons.mp hOrdered
      obtain ⟨hHere, hMoved⟩ := List.forall_mem_cons.mp hMoved
      obtain ⟨tail, hTail⟩ := StoragePath.startsWith_iff.mp hHere
      have hRebased : e.1.rebase? source target = some ⟨target.segments ++ tail⟩ :=
        StoragePath.rebase?_eq_some_iff.mpr ⟨tail, hTail.symm, rfl⟩
      rw [graft, List.foldl_cons]
      simp only [hRebased]
      rw [← graft, ih hOthers hMoved, get?_put, get?]
      by_cases hSame : rest = tail
      · subst hSame
        have hKey : e.1 = ⟨source.segments ++ rest⟩ := congrArg StoragePath.mk hTail.symm
        have hFresh : get? ⟨source.segments ++ rest⟩ moved = none :=
          get?_eq_none_iff.mpr fun f hf =>
            hKey ▸ (StoragePath.ne_of_before (hFirst f hf)).symm
        rw [if_pos rfl, if_pos hKey, hFresh, Option.none_or, Option.some_or]
      · have hKey : e.1 ≠ ⟨source.segments ++ rest⟩ := fun h =>
          hSame (List.append_cancel_left (hTail.trans (congrArg StoragePath.segments h))).symm
        have hOther : (⟨target.segments ++ rest⟩ : StoragePath) ≠ ⟨target.segments ++ tail⟩ :=
          fun h => hSame (List.append_cancel_left (congrArg StoragePath.segments h))
        rw [if_neg hOther, if_neg hKey]

/-- Elsewhere nothing changes. -/
theorem get?_graft_of_not_startsWith (hq : q.startsWith target = false) :
    (graft source target moved es).get? q = es.get? q := by
  induction moved generalizing es with
  | nil => rfl
  | cons e moved ih =>
      rw [graft, List.foldl_cons]
      split
      · rename_i r hRebased
        obtain ⟨tail, -, rfl⟩ := StoragePath.rebase?_eq_some_iff.mp hRebased
        rw [← graft, ih, get?_put, if_neg]
        rintro rfl
        rw [StoragePath.startsWith_iff.mpr (List.prefix_append _ _)] at hq
        cases hq
      · exact ih

/-- Below the target of a move stands what stood below its source, unless it was below the target. -/
theorem get?_move_target {rest : List String} (h : es.Ordered) :
    (es.move source target).get? ⟨target.segments ++ rest⟩ =
      if StoragePath.startsWith ⟨source.segments ++ rest⟩ target then none
      else es.get? ⟨source.segments ++ rest⟩ := by
  have hTarget : StoragePath.startsWith ⟨target.segments ++ rest⟩ target = true :=
    StoragePath.startsWith_iff.mpr (List.prefix_append _ _)
  have hSource : StoragePath.startsWith ⟨source.segments ++ rest⟩ source = true :=
    StoragePath.startsWith_iff.mpr (List.prefix_append _ _)
  have hGone : ((es.outside target).outside source).get? ⟨target.segments ++ rest⟩ = none := by
    rw [get?_outside, get?_outside, if_pos hTarget, ite_self]
  have hMoved : ((es.outside target).within source).Ordered := (h.filter _).filter _
  rw [move, get?_graft hMoved fun e he => (List.mem_filter.mp he).2, hGone, Option.or_none,
    get?_within, if_pos hSource, get?_outside]

/-- Elsewhere everything stays but for what was below the source. -/
theorem get?_move_of_not_startsWith (hq : q.startsWith target = false) :
    (es.move source target).get? q = if q.startsWith source then none else es.get? q := by
  rw [move, get?_graft_of_not_startsWith hq, get?_outside, get?_outside, hq,
    if_neg Bool.false_ne_true]

end Cabinet.Entries
