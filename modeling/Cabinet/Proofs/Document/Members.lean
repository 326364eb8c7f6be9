import Cabinet.Document.Members
import Mathlib.Data.List.Nodup

/-! The members of an object as a finite map. As long as no key is listed twice, looking a key up
is the same as listing it, and changing the value under a key changes one entry of the list. -/

namespace Cabinet.Members

/-- What is found under a key is listed with it. -/
theorem mem_of_get? {key : String} {ms : Members} {d : Document}
    (h : get? key ms = some d) : (key, d) ∈ ms := by
  induction ms with
  | nil => simp [get?] at h
  | cons m ms ih =>
      obtain ⟨k, e⟩ := m
      by_cases hk : k = key
      · subst k
        have he : e = d := by simpa [get?] using h
        simp [he]
      · exact List.mem_cons_of_mem _ (ih (by simpa [get?, hk] using h))

theorem get?_isSome_iff {key : String} {ms : Members} :
    (get? key ms).isSome ↔ key ∈ keys ms := by
  induction ms with
  | nil => simp [get?, keys]
  | cons m ms ih =>
      obtain ⟨k, e⟩ := m
      by_cases hk : k = key
      · simp [get?, keys, hk]
      · have hne : key ≠ k := fun h => hk h.symm
        rw [get?, if_neg hk, ih]
        simp [keys, hne]

/-- Without repeated keys every listed member is found under its key. -/
theorem get?_eq_some_iff_mem {key : String} {ms : Members} {d : Document}
    (hKeys : (keys ms).Nodup) : get? key ms = some d ↔ (key, d) ∈ ms := by
  refine ⟨mem_of_get?, fun h => ?_⟩
  induction ms with
  | nil => simp at h
  | cons m ms ih =>
      obtain ⟨k, e⟩ := m
      obtain ⟨hFresh, hRest⟩ := List.nodup_cons.mp hKeys
      rcases List.mem_cons.mp h with hHead | hTail
      · cases hHead
        simp [get?]
      · have hne : k ≠ key := by
          rintro rfl
          exact hFresh (List.mem_map.mpr ⟨_, hTail, rfl⟩)
        simpa [get?, hne] using ih hRest hTail

/-- A change of the values alone, which may depend on the key. -/
theorem get?_map (f : String → Document → Document) (key : String) (ms : Members) :
    get? key (ms.map fun m => (m.1, f m.1 m.2)) = (get? key ms).map (f key) := by
  induction ms with
  | nil => rfl
  | cons m ms ih =>
      obtain ⟨k, e⟩ := m
      by_cases hk : k = key
      · simp [get?, hk]
      · simpa [get?, hk] using ih

theorem keys_map (f : String → Document → Document) (ms : Members) :
    keys (ms.map fun m => (m.1, f m.1 m.2)) = keys ms := by
  simp [keys, Function.comp_def]

/-- A change under a key depends only on what it does to the value that is found there. -/
theorem modify_congr {key : String} {ms : Members} {f g : Document → Document}
    (h : ∀ d, get? key ms = some d → f d = g d) : modify key f ms = modify key g ms := by
  induction ms with
  | nil => rfl
  | cons m ms ih =>
      obtain ⟨k, e⟩ := m
      by_cases hk : k = key
      · have hSame := h e (by simp [get?, hk])
        simp [modify, hk, hSame]
      · have hRest := ih fun d hd => h d (by simpa [get?, hk] using hd)
        simp [modify, hk, hRest]

/-- A key that is not listed has no value to change. -/
theorem modify_of_not_mem {key : String} {ms : Members} (f : Document → Document)
    (h : key ∉ keys ms) : modify key f ms = ms := by
  induction ms with
  | nil => rfl
  | cons m ms ih =>
      obtain ⟨k, e⟩ := m
      obtain ⟨hne, hRest⟩ := not_or.mp (mt List.mem_cons.mpr h)
      have hk : k ≠ key := fun hk => hne hk.symm
      simpa [modify, hk] using ih hRest

/-- Without repeated keys the first entry under a key is the only one. -/
theorem modify_eq_map {ms : Members} (key : String) (f : Document → Document)
    (hKeys : (keys ms).Nodup) :
    modify key f ms = ms.map fun m => (m.1, if m.1 = key then f m.2 else m.2) := by
  induction ms with
  | nil => rfl
  | cons m ms ih =>
      obtain ⟨k, e⟩ := m
      obtain ⟨hFresh, hRest⟩ := List.nodup_cons.mp hKeys
      have ih := ih hRest
      by_cases hk : k = key
      · subst k
        rw [modify_of_not_mem f hFresh] at ih
        simp [modify, ← ih]
      · simp [modify, hk, ih]

/-- Putting a value keeps the listed keys in order and adds a new one behind them. -/
theorem keys_put (key : String) (d : Document) (ms : Members) :
    keys (put key d ms) = if key ∈ keys ms then keys ms else keys ms ++ [key] := by
  induction ms with
  | nil => simp [put, keys]
  | cons m ms ih =>
      obtain ⟨k, e⟩ := m
      by_cases hk : k = key
      · simp [put, keys, hk]
      · have hne : key ≠ k := fun h => hk h.symm
        simp only [keys] at ih ⊢
        simp only [put, hk, if_false, List.map_cons, ih, List.mem_cons, hne, false_or]
        by_cases hMem : key ∈ List.map Prod.fst ms
        · simp only [hMem, if_true]
        · simp only [hMem, if_false, List.cons_append]

/-- A new key goes behind the others. -/
theorem put_of_not_mem {key : String} {ms : Members} (d : Document) (h : key ∉ keys ms) :
    put key d ms = ms ++ [(key, d)] := by
  induction ms with
  | nil => rfl
  | cons m ms ih =>
      obtain ⟨k, e⟩ := m
      obtain ⟨hne, hRest⟩ := not_or.mp (mt List.mem_cons.mpr h)
      have hk : k ≠ key := fun hk => hne hk.symm
      simp [put, hk, ih hRest]

/-- Entries under new keys go behind the others one by one. -/
theorem extend_eq_append {ms entries : Members} (h : (keys (ms ++ entries)).Nodup) :
    extend ms entries = ms ++ entries := by
  induction entries generalizing ms with
  | nil => exact (List.append_nil ms).symm
  | cons m entries ih =>
      have hText : ms ++ m :: entries = (ms ++ [m]) ++ entries := by simp
      have hFresh : m.1 ∉ keys ms := by
        intro hMem
        rw [keys, List.map_append, List.map_cons] at h
        exact List.disjoint_of_nodup_append h hMem (List.mem_cons_self ..)
      have hHead : extend ms (m :: entries) = extend (put m.1 m.2 ms) entries := rfl
      rw [hHead, put_of_not_mem m.2 hFresh, hText]
      exact ih (hText ▸ h)

/-- Entries that list no key twice are the members that they make. -/
theorem ofList_eq_self {ms : Members} (h : (keys ms).Nodup) : ofList ms = ms :=
  extend_eq_append h

theorem nodup_keys_put {ms : Members} (key : String) (d : Document) (hKeys : (keys ms).Nodup) :
    (keys (put key d ms)).Nodup := by
  rw [keys_put]
  split
  · exact hKeys
  · rename_i hFresh
    exact List.nodup_append.mpr ⟨hKeys, List.nodup_singleton key, by
      intro a ha b hb hab
      rw [List.mem_singleton.mp hb] at hab
      exact hFresh (hab ▸ ha)⟩

/-- A put stores the value under its key, and every other entry was there before. -/
theorem mem_put {key : String} {d : Document} {ms : Members} {m : String × Document}
    (h : m ∈ put key d ms) : m = (key, d) ∨ m ∈ ms := by
  induction ms with
  | nil => exact Or.inl (by simpa [put] using h)
  | cons n ms ih =>
      obtain ⟨k, e⟩ := n
      by_cases hk : k = key
      · simp only [put, hk, if_true, List.mem_cons] at h
        exact h.imp_right (List.mem_cons_of_mem _)
      · simp only [put, hk, if_false, List.mem_cons] at h
        rcases h with h | h
        · exact Or.inr (h ▸ List.mem_cons_self ..)
        · exact (ih h).imp_right (List.mem_cons_of_mem _)

/-- What has been put under a key is found there. -/
theorem get?_put (key : String) (d : Document) (ms : Members) : get? key (put key d ms) = some d := by
  induction ms with
  | nil => simp [put, get?]
  | cons m ms ih =>
      obtain ⟨k, e⟩ := m
      by_cases hk : k = key
      · simp [put, get?, hk]
      · simpa [put, get?, hk] using ih

/-- A put leaves what is found under other keys. -/
theorem get?_put_of_ne {key k : String} (h : k ≠ key) (d : Document) (ms : Members) :
    get? k (put key d ms) = get? k ms := by
  induction ms with
  | nil => simp [put, get?, h.symm]
  | cons m ms ih =>
      obtain ⟨l, e⟩ := m
      by_cases hl : l = key
      · simp [put, get?, hl, h.symm]
      · simp [put, get?, hl, ih]

/-- Of two values that are put under one key the second one stays. -/
theorem put_put (key : String) (d e : Document) (ms : Members) :
    put key e (put key d ms) = put key e ms := by
  induction ms with
  | nil => simp [put]
  | cons m ms ih =>
      obtain ⟨k, c⟩ := m
      by_cases hk : k = key
      · simp [put, hk]
      · simp [put, hk, ih]

/-- A change under a key is found there. -/
theorem get?_modify (key : String) (f : Document → Document) (ms : Members) :
    get? key (modify key f ms) = (get? key ms).map f := by
  induction ms with
  | nil => rfl
  | cons m ms ih =>
      obtain ⟨k, e⟩ := m
      by_cases hk : k = key
      · simp [modify, get?, hk]
      · simpa [modify, get?, hk] using ih

/-- A change leaves what is found under other keys. -/
theorem get?_modify_of_ne {key k : String} (h : k ≠ key) (f : Document → Document) (ms : Members) :
    get? k (modify key f ms) = get? k ms := by
  induction ms with
  | nil => rfl
  | cons m ms ih =>
      obtain ⟨l, e⟩ := m
      by_cases hl : l = key
      · simp [modify, get?, hl, h.symm]
      · simp [modify, get?, hl, ih]

theorem keys_modify (key : String) (f : Document → Document) (ms : Members) :
    keys (modify key f ms) = keys ms := by
  induction ms with
  | nil => rfl
  | cons m ms ih =>
      obtain ⟨k, e⟩ := m
      simp only [keys] at ih
      by_cases hk : k = key
      · simp [modify, keys, hk]
      · simp [modify, keys, hk, ih]

/-- The keys that are left after a removal keep their order. -/
theorem keys_remove (key : String) (ms : Members) : keys (remove key ms) = (keys ms).erase key := by
  induction ms with
  | nil => rfl
  | cons m ms ih =>
      obtain ⟨k, e⟩ := m
      simp only [keys] at ih
      by_cases hk : k = key
      · simp [remove, keys, hk]
      · simp [remove, keys, hk, ih, List.erase_cons_tail]

/-- A key that has been removed is gone, if it was listed once. -/
theorem get?_remove {key : String} {ms : Members} (hKeys : (keys ms).Nodup) :
    get? key (remove key ms) = none := by
  rw [← Option.not_isSome_iff_eq_none, get?_isSome_iff, keys_remove]
  exact hKeys.not_mem_erase

/-- A removal leaves what is found under other keys. -/
theorem get?_remove_of_ne {key k : String} (h : k ≠ key) (ms : Members) :
    get? k (remove key ms) = get? k ms := by
  induction ms with
  | nil => rfl
  | cons m ms ih =>
      obtain ⟨l, e⟩ := m
      by_cases hl : l = key
      · simp [remove, get?, hl, h.symm]
      · simp [remove, get?, hl, ih]

/-- Members are the same if they list the same keys in the same order, once each, and the same is found
under each key. -/
theorem ext_get? {ms ns : Members} (hNodup : (keys ms).Nodup) (hKeys : keys ms = keys ns)
    (hValues : ∀ key, get? key ms = get? key ns) : ms = ns := by
  induction ms generalizing ns with
  | nil => exact (List.map_eq_nil_iff.mp hKeys.symm).symm
  | cons m ms ih =>
      obtain ⟨⟨k, e⟩, ns, rfl, rfl, hRest⟩ := List.map_eq_cons_iff.mp hKeys.symm
      obtain ⟨l, d⟩ := m
      obtain ⟨hFresh, hNodup⟩ := List.nodup_cons.mp hNodup
      have hHead : d = e := by simpa [get?] using hValues l
      refine hHead ▸ congrArg (_ :: ·) (ih hNodup hRest.symm fun key => ?_)
      by_cases hKey : l = key
      · subst l
        have hGone : get? key ns = none := by
          rwa [← Option.not_isSome_iff_eq_none, get?_isSome_iff, keys, hRest]
        rw [hGone, ← Option.not_isSome_iff_eq_none, get?_isSome_iff]
        exact hFresh
      · simpa [get?, hKey] using hValues key

end Cabinet.Members
