import Cabinet.Proofs.Path.Mutation

/-! Failed changes. Every place is checked before the first write, and an update writes to all the
places found or to none. So a change that fails leaves the document as it was, and what decides if
it fails is said by the document before it: nothing was found, or a place found does not take the
change. Whatever the outcome, objects keep every key once. -/

namespace Cabinet

variable {d d' value : Document} {e : DocumentError}

theorem Update.AllOrNothing.uniqueKeys {u : Update} {made : Document} {condition : Prop} {n : Nat}
    (h : u.AllOrNothing d condition n made) (hd : d.UniqueKeys) (hMade : made.UniqueKeys) :
    u.2.UniqueKeys := by
  by_cases hc : condition
  · rw [h.made hc]
    exact hMade
  · obtain ⟨e, he⟩ := h.refused hc
    rw [he]
    exact hd

namespace Path

variable {parent : Path} {last : Segment}

/-- The root takes any value. -/
theorem not_failed_set_root (d value : Document) : ¬(set [] d value).Failed := by
  rintro ⟨e, he⟩
  cases he

theorem eq_of_set_eq_error (hd : d.UniqueKeys) (p : Path) (h : p.set d value = (.error e, d')) :
    d' = d := by
  rcases List.eq_nil_or_concat' p with rfl | ⟨parent, last, rfl⟩
  · exact absurd ⟨e, by rw [h]⟩ (not_failed_set_root d value)
  · cases hLast : last.isDefinite with
    | true => exact (set_allOrNothing_of_isDefinite hd hLast value).eq_of_error h
    | false => exact (set_allOrNothing_of_not_isDefinite hd hLast value).eq_of_error h

/-- A child is refused when no parent is found or one of them does not take it. -/
theorem failed_set_iff_of_isDefinite (hd : d.UniqueKeys) (hLast : last.isDefinite)
    (value : Document) : (set (parent ++ [last]) d value).Failed ↔
      parent.locate d = [] ∨ ∃ m ∈ parent.matchesIn d, ¬m.2.Takes last := by
  rw [(set_allOrNothing_of_isDefinite hd hLast value).failed_iff]
  simp only [not_and_or, not_not, not_forall, exists_prop]

theorem failed_set_iff_of_not_isDefinite (hd : d.UniqueKeys) (hLast : last.isDefinite = false)
    (value : Document) :
    (set (parent ++ [last]) d value).Failed ↔ locate (parent ++ [last]) d = [] := by
  rw [(set_allOrNothing_of_not_isDefinite hd hLast value).failed_iff, not_not]

theorem failed_put_iff (hd : d.UniqueKeys) (p : Path) (key : String) (value : Document) :
    (p.put d key value).Failed ↔
      p.locate d = [] ∨ ∃ m ∈ p.matchesIn d, ¬∃ ms, m.2 = .object ms := by
  rw [(put_allOrNothing hd p key value).failed_iff]
  simp only [not_and_or, not_not, not_forall, exists_prop]

theorem failed_add_iff (hd : d.UniqueKeys) (p : Path) (value : Document) :
    (p.add d value).Failed ↔
      p.locate d = [] ∨ ∃ m ∈ p.matchesIn d, ¬∃ es, m.2 = .array es := by
  rw [(add_allOrNothing hd p value).failed_iff]
  simp only [not_and_or, not_not, not_forall, exists_prop]

/-- After a check that passes, every write of the run succeeds. -/
theorem writeChildren_of_checkChildren (hd : d.UniqueKeys) (value : Document)
    (hCheck : checkChildren last d (deepestFirst (parent.locate d)) = .ok ()) :
    ∃ d', writeChildren last value 0 (deepestFirst (parent.locate d)) d =
      (.ok (parent.locate d).length, d') :=
  ⟨_, writeChildren_locate hd value ((checkChildren_locate_eq_ok_iff hd).mp hCheck)⟩

/-- A document that keeps every key once does so after a value like it has been written. -/
theorem uniqueKeys_set (hd : d.UniqueKeys) (hValue : value.UniqueKeys) (p : Path) :
    (p.set d value).2.UniqueKeys := by
  rcases List.eq_nil_or_concat' p with rfl | ⟨parent, last, rfl⟩
  · exact hValue
  · cases hLast : last.isDefinite with
    | true =>
        exact (set_allOrNothing_of_isDefinite hd hLast value).uniqueKeys hd
          (hd.rebuild fun _ he => he.writeIn hValue last)
    | false =>
        exact (set_allOrNothing_of_not_isDefinite hd hLast value).uniqueKeys hd
          (hd.rebuild fun _ _ => hValue)

theorem uniqueKeys_put (hd : d.UniqueKeys) (hValue : value.UniqueKeys) (p : Path)
    (key : String) : (p.put d key value).2.UniqueKeys :=
  (put_allOrNothing hd p key value).uniqueKeys hd
    (hd.rebuild fun _ he => he.putChild hValue (.key key))

theorem uniqueKeys_add (hd : d.UniqueKeys) (hValue : value.UniqueKeys) (p : Path) :
    (p.add d value).2.UniqueKeys :=
  (add_allOrNothing hd p value).uniqueKeys hd (hd.rebuild fun _ he => he.push hValue)

theorem uniqueKeys_transform (hd : d.UniqueKeys) (p : Path) {f : Document → Document}
    (hf : ∀ e, e.UniqueKeys → (f e).UniqueKeys) : (p.transform d fun _ => f).2.UniqueKeys := by
  rw [transform, changeAll_locate hd]
  exact hd.rebuild hf

/-- A change of a document that fails leaves it as it was, and fails only for what was found before
anything is written: no place at all, or a place that does not take the change. The run of writes
never fails where the check has passed. -/
theorem mutation_atomic (hd : d.UniqueKeys) (p : Path) (value : Document) (key : String) :
    (∀ e d', p.set d value = (.error e, d') ∨ p.put d key value = (.error e, d') ∨
      p.add d value = (.error e, d') → d' = d) ∧
    (∀ (parent : Path) (last : Segment), p = parent ++ [last] → last.isDefinite →
      ((p.set d value).Failed ↔
        parent.locate d = [] ∨ ∃ m ∈ parent.matchesIn d, ¬m.2.Takes last)) ∧
    (∀ (parent : Path) (last : Segment), p = parent ++ [last] → last.isDefinite = false →
      ((p.set d value).Failed ↔ p.locate d = [])) ∧
    (p = [] → ¬(p.set d value).Failed) ∧
    ((p.put d key value).Failed ↔
      p.locate d = [] ∨ ∃ m ∈ p.matchesIn d, ¬∃ ms, m.2 = .object ms) ∧
    ((p.add d value).Failed ↔
      p.locate d = [] ∨ ∃ m ∈ p.matchesIn d, ¬∃ es, m.2 = .array es) ∧
    (∀ (parent : Path) (last : Segment), p = parent ++ [last] →
      checkChildren last d (deepestFirst (parent.locate d)) = .ok () →
      ∃ d', writeChildren last value 0 (deepestFirst (parent.locate d)) d =
        (.ok (parent.locate d).length, d')) := by
  refine ⟨?_, ?_, ?_, ?_, failed_put_iff hd p key value, failed_add_iff hd p value, ?_⟩
  · rintro e d' (hSet | hPut | hAdd)
    · exact eq_of_set_eq_error hd p hSet
    · exact (put_allOrNothing hd p key value).eq_of_error hPut
    · exact (add_allOrNothing hd p value).eq_of_error hAdd
  · rintro parent last rfl hLast
    exact failed_set_iff_of_isDefinite hd hLast value
  · rintro parent last rfl hLast
    exact failed_set_iff_of_not_isDefinite hd hLast value
  · rintro rfl
    exact not_failed_set_root d value
  · rintro parent last - hCheck
    exact writeChildren_of_checkChildren hd value hCheck

/-- Of two matches, one below the other, the deeper one takes no child, and nothing is changed. -/
theorem mutation_atomic_nested :
    let v := Document.boolean true
    let d := Document.object [("o", .object [("o", .null)])]
    let all : Path := [.descendant (.field "o")]
    let none : Path := [.descendant (.field "x")]
    d.UniqueKeys ∧
    (∃ e, set (all ++ [.field "k"]) d v = (.error e, d)) ∧
    (none.set d v).Failed ∧ ¬(set [] d v).Failed ∧ (all.put d "k" v).Failed ∧
    (all.add d v).Failed ∧
    ∃ d', writeChildren (.field "k") v 0 (deepestFirst (locate [.field "o"] d)) d =
      (.ok 1, d') := by
  intro v d all none
  have hd : d.UniqueKeys := by decide
  have hNull : ([.key "o", .key "o"], Document.null) ∈ all.matchesIn d :=
    List.mem_cons_of_mem _ (List.mem_cons_self ..)
  have hNone : none.locate d = [] := rfl
  have hSet : (set (all ++ [.field "k"]) d v).Failed := by
    refine ((mutation_atomic hd _ v "k").2.1 all _ rfl rfl).mpr (Or.inr ⟨_, hNull, ?_⟩)
    intro h
    cases h
  have hCheck : checkChildren (.field "k") d (deepestFirst (locate [.field "o"] d)) = .ok () := by
    rw [deepestFirst_of_pairwise (by decide)]
    rfl
  refine ⟨hd, ?_, ?_, ?_, ?_, ?_, ?_⟩
  · obtain ⟨e, he⟩ := hSet
    have hSame := (mutation_atomic hd _ v "k").1 e _ (Or.inl (Prod.ext he rfl))
    exact ⟨e, Prod.ext he hSame⟩
  · exact ((mutation_atomic hd none v "k").2.2.1 [] _ rfl rfl).mpr hNone
  · exact (mutation_atomic hd [] v "k").2.2.2.1 rfl
  · refine (mutation_atomic hd all v "k").2.2.2.2.1.mpr (Or.inr ⟨_, hNull, ?_⟩)
    rintro ⟨ms, hms⟩
    cases hms
  · refine (mutation_atomic hd all v "k").2.2.2.2.2.1.mpr (Or.inr ⟨_, hNull, ?_⟩)
    rintro ⟨es, hes⟩
    cases hes
  · exact (mutation_atomic hd [.field "o", .field "k"] v "k").2.2.2.2.2.2 [.field "o"] _ rfl hCheck

end Path

end Cabinet
