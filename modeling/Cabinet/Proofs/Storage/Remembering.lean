import Cabinet.Proofs.Storage.Confined
import Cabinet.Proofs.Storage.Requests

/-! What storages remember. A request makes a storage forget, and remember nothing new; nothing that is
done to another storage changes what it remembers; and it neither opens nor closes any. -/

namespace Cabinet

variable {s r : Storage} {w w' : World} {p q : StoragePath} {m m' : Members}

/-! ### Caches -/

namespace Cache

theorem get?_eq (p : StoragePath) (c : Cache) : c.get? p = Entries.get? p c := by
  induction c with
  | nil => rfl
  | cons e rest ih => rw [get?, Entries.get?, ih]

theorem get?_invalidate (c : Cache) :
    (c.invalidate q).get? p = if p.startsWith q || q.startsWith p then none else c.get? p := by
  have hKept := Entries.get?_filter (fun r => !r.startsWith q && !q.startsWith r) c p
  rw [get?_eq, get?_eq]
  refine hKept.trans ?_
  cases p.startsWith q <;> cases q.startsWith p <;> rfl

theorem get?_put (c : Cache) : (c.put q m).get? p = if p = q then some m else c.get? p := by
  rw [put, get?]
  by_cases hSame : p = q
  · rw [if_pos hSame.symm, if_pos hSame]
  · have hKept := Entries.get?_filter (fun r => decide (r ≠ q)) c p
    rw [if_neg (Ne.symm hSame), if_neg hSame, get?_eq, get?_eq]
    exact hKept.trans (if_pos (decide_eq_true hSame))

end Cache

/-! ### Sessions -/

/-- A storage without a session of its own is open and has no cache. -/
theorem World.session_of_le {i : Nat} (h : w.sessions.length ≤ i) : w.session i = ⟨true, none⟩ := by
  rw [session, List.getD_eq_getElem?_getD, List.getElem?_eq_none h]
  rfl

theorem World.setSession_session (i : Nat) : w.setSession i (w.session i) = w := by
  rcases Nat.lt_or_ge i w.sessions.length with hBound | hBeyond
  · rw [setSession, session, List.getD_eq_getElem?_getD, List.getElem?_eq_getElem hBound, Option.getD_some,
      List.set_getElem_self]
  · rw [setSession, List.set_eq_of_length_le hBeyond]

theorem World.session_setSession (w : World) (i j : Nat) (x : Session) :
    (w.setSession i x).session j = if i = j ∧ i < w.sessions.length then x else w.session j := by
  rw [session, setSession, List.getD_eq_getElem?_getD, List.getElem?_set, session,
    List.getD_eq_getElem?_getD]
  by_cases hNumber : i = j
  · subst hNumber
    by_cases hBound : i < w.sessions.length
    · simp [hBound]
    · simp [hBound]
  · simp [hNumber]

namespace Storage

theorem session_onCache (f : Cache → Cache) : (r.onCache f w).session s.number =
    if r.number = s.number then { w.session s.number with cache := (w.session s.number).cache.map f }
    else w.session s.number := by
  rw [onCache, World.session_setSession]
  by_cases hNumber : r.number = s.number
  · rw [← hNumber, if_pos rfl]
    by_cases hBound : r.number < w.sessions.length
    · rw [if_pos ⟨rfl, hBound⟩]
    · rw [if_neg fun h => hBound h.2, World.session_of_le (Nat.le_of_not_lt hBound)]
      rfl
  · rw [if_neg hNumber, if_neg fun h => hNumber h.1]

theorem cached?_congr (h : w'.session s.number = w.session s.number) (p : StoragePath) :
    s.cached? p w' = s.cached? p w := by
  rw [cached?, h, cached?]

/-- Invalidation forgets all that is above, at or below a path, and nothing else. -/
theorem cached?_invalidate : s.cached? p (s.invalidate q w) =
    if p.startsWith q || q.startsWith p then none else s.cached? p w := by
  rw [cached?, invalidate, session_onCache, if_pos rfl, cached?]
  cases (w.session s.number).cache with
  | none => simp
  | some c => exact Cache.get?_invalidate c

theorem cached?_of_invalidate (h : s.cached? p (r.invalidate q w) = some m) : s.cached? p w = some m := by
  by_cases hNumber : r.number = s.number
  · have hSame : r.invalidate q w = s.invalidate q w := by
      rw [invalidate, invalidate, onCache, onCache, hNumber]
    rw [hSame, cached?_invalidate] at h
    split at h
    · cases h
    · exact h
  · have hApart : (r.invalidate q w).session s.number = w.session s.number :=
      (session_onCache _).trans (if_neg hNumber)
    rwa [cached?_congr hApart] at h

/-- What is remembered is what was asked for last, or was remembered before. -/
theorem cached?_of_remember (h : s.cached? p (s.remember q m w) = some m') :
    p = q ∧ m' = m ∨ s.cached? p w = some m' := by
  rw [cached?, remember, session_onCache, if_pos rfl] at h
  rw [cached?]
  cases hCache : (w.session s.number).cache with
  | none =>
      rw [hCache] at h
      cases h
  | some c =>
      rw [hCache] at h
      have hFound : (c.put q m).get? p = some m' := h
      rw [Cache.get?_put] at hFound
      split at hFound
      · rename_i hSame
        exact Or.inl ⟨hSame, (Option.some.inj hFound).symm⟩
      · exact Or.inr hFound

/-! ### Closing and opening -/

theorem close_of_isOpen (h : s.isOpen w = true) :
    s.close w = w.setSession s.number ⟨false, (w.session s.number).cache.map fun _ => []⟩ := if_pos h

theorem close_of_closed (h : s.isOpen w = false) : s.close w = w := if_neg (Bool.eq_false_iff.mp h)

theorem cached?_close (hOpen : s.isOpen w = true) (p : StoragePath) : s.cached? p (s.close w) = none := by
  rw [close_of_isOpen hOpen, cached?, World.session_setSession]
  split
  · cases (w.session s.number).cache <;> rfl
  · rename_i hBeyond
    rw [World.session_of_le (Nat.le_of_not_lt fun hBound => hBeyond ⟨rfl, hBound⟩)]
    rfl

theorem session_reopen (s : Storage) (w : World) :
    (s.reopen w).session s.number = { w.session s.number with isOpen := true } := by
  rw [reopen, World.session_setSession]
  split
  · rfl
  · rename_i hBeyond
    rw [World.session_of_le (Nat.le_of_not_lt fun hBound => hBeyond ⟨rfl, hBound⟩)]

theorem cached?_reopen (p : StoragePath) : s.cached? p (s.reopen w) = s.cached? p w := by
  rw [cached?, session_reopen, cached?]

theorem isOpen_reopen (s : Storage) (w : World) : s.isOpen (s.reopen w) = true := by
  rw [isOpen, session_reopen]

/-! ### What requests leave alone -/

/-- A request makes nothing be remembered. -/
theorem leaves_cached (r s : Storage) (w₀ : World) :
    r.Leaves fun w => ∀ p m, s.cached? p w = some m → s.cached? p w₀ = some m where
  setTree _ h _ := h
  setDisk _ h _ := h
  invalidate h _ p m hKnown := h p m (cached?_of_invalidate hKnown)

theorem leaves_isOpen (r s : Storage) (b : Bool) : r.Leaves fun w => s.isOpen w = b where
  setTree _ h _ := h
  setDisk _ h _ := h
  invalidate h _ := (World.SameBut.isOpen_onCache _ r s).trans h

/-- What another storage remembers, and whether it is open, is its own. -/
theorem leaves_session (hNumber : r.number ≠ s.number) (x : Session) :
    r.Leaves fun w => w.session s.number = x where
  setTree _ h _ := h
  setDisk _ h _ := h
  invalidate h _ := ((session_onCache _).trans (if_neg hNumber)).trans h

theorem leaves_holds {t : Tree} (hPlace : r.backend.place ≠ s.backend.place) :
    r.Leaves fun w => s.Holds w t where
  setTree {w n} hHere h t' := by
    obtain ⟨m, hBackend, hTree⟩ := h
    have hOther : n ≠ m := fun hSame => hPlace (by rw [hHere, hBackend, hSame])
    exact ⟨m, hBackend, (List.getElem?_set_ne hOther).trans hTree⟩
  setDisk _ h _ := h.congr rfl
  invalidate h p := h.congr rfl

end Storage

/-- What is changed by a request is in one storage. -/
theorem Request.keeps_of_leaves {P : World → Prop} (r : Request) (hP : r.storage.Leaves P) :
    Action.Keeps P r.perform := by
  cases r with
  | write i source => exact (hP.write source).discard
  | create folder name source => exact (hP.create name source).discard
  | createFolder folder name => exact (hP.createFolder name).discard
  | delete i => exact hP.delete
  | rename i name => exact (hP.rename name).discard
  | copyTo i folder => exact (Action.Keeps.get.bind fun _ _ _ => hP.copyDown _ i).discard

end Cabinet
