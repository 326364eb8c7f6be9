import Cabinet.Proofs.Document.Members

/-! Objects that are merged. The members of the second one replace those of the first in their places, or go
behind them in their order. What is merged is again without repeated keys, so that it is told by its
keys and by what is found under each: merging is associative, and an object that brings nothing new
changes nothing. -/

namespace Cabinet.Members

variable {a b c ms entries : Members}

theorem nodup_keys_extend (entries : Members) (hKeys : (keys ms).Nodup) :
    (keys (extend ms entries)).Nodup := by
  induction entries generalizing ms with
  | nil => exact hKeys
  | cons m entries ih => exact ih (nodup_keys_put m.1 m.2 hKeys)

/-- What the second object brings counts, and only without it what the first one has. -/
theorem get?_extend (hEntries : (keys entries).Nodup) (key : String) (ms : Members) :
    get? key (extend ms entries) = (get? key entries).or (get? key ms) := by
  induction entries generalizing ms with
  | nil => rfl
  | cons m entries ih =>
      obtain ⟨k, d⟩ := m
      obtain ⟨hFresh, hRest⟩ := List.nodup_cons.mp hEntries
      have hFirst : extend ms ((k, d) :: entries) = extend (put k d ms) entries := rfl
      rw [hFirst, ih hRest]
      by_cases hKey : k = key
      · subst k
        have hOnce : get? key entries = none := by
          rwa [← Option.not_isSome_iff_eq_none, get?_isSome_iff]
        simp [get?, hOnce, get?_put]
      · rw [get?_put_of_ne (Ne.symm hKey), get?, if_neg hKey]

/-- Keys keep their places, and new ones go behind them in the order of the second object. -/
theorem keys_extend (hEntries : (keys entries).Nodup) (ms : Members) :
    keys (extend ms entries) = keys ms ++ (keys entries).filter (· ∉ keys ms) := by
  induction entries generalizing ms with
  | nil => exact (List.append_nil _).symm
  | cons m entries ih =>
      obtain ⟨k, d⟩ := m
      obtain ⟨hFresh, hRest⟩ := List.nodup_cons.mp hEntries
      have hFirst : extend ms ((k, d) :: entries) = extend (put k d ms) entries := rfl
      have hKeys : keys ((k, d) :: entries) = k :: keys entries := rfl
      rw [hFirst, hKeys, ih hRest, keys_put]
      by_cases hThere : k ∈ keys ms
      · rw [if_pos hThere, List.filter_cons_of_neg (by simpa using hThere)]
      · have hOthers : (keys entries).filter (· ∉ keys ms ++ [k]) =
            (keys entries).filter (· ∉ keys ms) := by
          refine List.filter_congr fun l hl => ?_
          have hne : l ≠ k := fun h => hFresh (h ▸ hl)
          simp [hne]
        rw [if_neg hThere, List.filter_cons_of_pos (by simpa using hThere), hOthers]
        simp

theorem nil_extend (h : (keys a).Nodup) : extend [] a = a :=
  ofList_eq_self h

/-- An object has nothing new for itself. -/
theorem extend_self (h : (keys a).Nodup) : extend a a = a := by
  refine ext_get? (nodup_keys_extend a h) ?_ fun key => ?_
  · rw [keys_extend h, List.filter_eq_nil_iff.mpr (by simp), List.append_nil]
  · rw [get?_extend h, Option.or_self]

theorem extend_assoc (ha : (keys a).Nodup) (hb : (keys b).Nodup) (hc : (keys c).Nodup) :
    extend (extend a b) c = extend a (extend b c) := by
  have hLater := nodup_keys_extend c hb
  refine ext_get? (nodup_keys_extend c (nodup_keys_extend b ha)) ?_ fun key => ?_
  · have hNew : (keys c).filter (· ∉ keys a ++ (keys b).filter (· ∉ keys a)) =
        (keys c).filter fun k => k ∉ keys a && k ∉ keys b := by
      refine List.filter_congr fun k _ => ?_
      by_cases hk : k ∈ keys a <;> simp [hk]
    rw [keys_extend hc, keys_extend hb, keys_extend hLater, keys_extend hc, List.filter_append,
      List.filter_filter, hNew, List.append_assoc]
  · rw [get?_extend hc, get?_extend hb, get?_extend hLater, get?_extend hc, Option.or_assoc]

end Cabinet.Members
