import Cabinet.Properties.Basic
import Cabinet.Proofs.Document.Elements
import Cabinet.Proofs.Document.Members

/-! Storing one value under a key. Each part of the key changes one place of one container, and what
stands there afterwards is the value, or comes of storing it under the rest of the key. A place that
is new starts from an empty container. -/

namespace Cabinet.Properties

variable {value : Document} {d d' : Document} {rest : Key} {name : String} {n : Nat} {p : Part}

theorem map_eq_ok {ε α β : Type} {x : Except ε α} {f : α → β} {b : β} :
    x.map f = .ok b ↔ ∃ a, x = .ok a ∧ f a = b := by
  cases x with
  | error e => simp [Except.map]
  | ok a => simp [Except.map]

theorem mapError_eq_ok {ε ε' α : Type} {x : Except ε α} {f : ε → ε'} {a : α} :
    x.mapError f = .ok a ↔ x = .ok a := by
  cases x with
  | error e => simp [Except.mapError]
  | ok a => simp [Except.mapError]

/-- What is placed lies not too far behind the end. -/
theorem place_eq_ok {es es' : List Document} (h : place n value es = .ok es') :
    n ≤ es.length + maximalGap ∧ es' = Elements.set n value es := by
  unfold place Elements.trySet at h
  split at h
  · exact absurd h (by simp [Except.mapError])
  · rename_i hGap
    exact ⟨by omega, (Except.ok.inj h).symm⟩

/-- The element that a longer key goes on from: the one at the position, or a container where there is
none yet or only a null. -/
def elementAt (n : Nat) (next : Part) (es : List Document) : Document :=
  match es[n]? with
  | none => containerFor next
  | some d => if d.isNull then containerFor next else d

theorem elementAt_cases (n : Nat) (next : Part) (es : List Document) :
    elementAt n next es = containerFor next ∨
      es[n]? = some (elementAt n next es) ∧ elementAt n next es ≠ .null := by
  unfold elementAt
  split
  · exact Or.inl rfl
  · rename_i d hd
    split
    · exact Or.inl rfl
    · rename_i hNull
      refine Or.inr ⟨hd, ?_⟩
      rintro rfl
      exact hNull rfl

theorem element_eq_ok {next : Part} {es es' : List Document} {child : Document}
    (h : element n next es = .ok (es', child)) :
    (∀ c, es'.set n c = Elements.set n c es) ∧ n ≤ es.length + maximalGap ∧
      child = elementAt n next es := by
  have hMade (h : (place n (containerFor next) es).map (fun es => (es, containerFor next)) =
      .ok (es', child)) : (∀ c, es'.set n c = Elements.set n c es) ∧ n ≤ es.length + maximalGap ∧
        child = containerFor next := by
    obtain ⟨made, hPlaced, hPair⟩ := map_eq_ok.mp h
    obtain ⟨hGap, rfl⟩ := place_eq_ok hPlaced
    cases hPair
    exact ⟨fun c => Elements.set_set n _ c es, hGap, rfl⟩
  unfold element at h
  dsimp only at h
  split at h
  · rename_i hNone
    simpa only [elementAt, hNone] using hMade h
  · rename_i d hd
    split at h
    · rename_i hNull
      simpa only [elementAt, hd, if_pos hNull] using hMade h
    · rename_i hNull
      cases h
      have hn : n < es.length := (List.getElem?_eq_some_iff.mp hd).1
      refine ⟨fun c => ?_, by omega, by simp only [elementAt, hd, if_neg hNull]⟩
      rw [Elements.set, if_pos hn]

/-- What storing below a field does: something is put into an object under the name. -/
theorem exists_put (h : insert value (.field name :: rest) d = .ok d') :
    ∃ ms c, d = .object ms ∧ d' = .object (Members.put name c ms) ∧
      (rest = [] ∧ c = value ∨ ∃ next tail, rest = next :: tail ∧
        insert value rest ((Members.get? name ms).getD (containerFor next)) = .ok c) := by
  cases d with
  | object ms =>
      cases rest with
      | nil => exact ⟨ms, value, rfl, (Except.ok.inj h).symm, Or.inl ⟨rfl, rfl⟩⟩
      | cons next tail =>
          obtain ⟨c, hChild, rfl⟩ := map_eq_ok.mp h
          exact ⟨ms, c, rfl, rfl, Or.inr ⟨next, tail, rfl, hChild⟩⟩
  | _ => cases rest <;> exact absurd h (by simp [insert])

/-- What storing below an index does: something is written into an array at the position, which lies
not too far behind its end. -/
theorem exists_set (h : insert value (.index n :: rest) d = .ok d') :
    ∃ es c, d = .array es ∧ d' = .array (Elements.set n c es) ∧ n ≤ es.length + maximalGap ∧
      (rest = [] ∧ c = value ∨ ∃ next tail, rest = next :: tail ∧
        insert value rest (elementAt n next es) = .ok c) := by
  cases d with
  | array es =>
      cases rest with
      | nil =>
          obtain ⟨es', hPlaced, rfl⟩ := map_eq_ok.mp h
          obtain ⟨hGap, rfl⟩ := place_eq_ok hPlaced
          exact ⟨es, value, rfl, rfl, hGap, Or.inl ⟨rfl, rfl⟩⟩
      | cons next tail =>
          rw [insert] at h
          split at h
          · exact absurd h (by simp)
          · rename_i es' child hElement
            obtain ⟨hSet, hGap, rfl⟩ := element_eq_ok hElement
            obtain ⟨c, hStored, rfl⟩ := map_eq_ok.mp h
            exact ⟨es, c, rfl, by rw [hSet], hGap, Or.inr ⟨next, tail, rfl, hStored⟩⟩
  | _ => cases rest <;> exact absurd h (by simp [insert])

/-- An object stays one, whatever is stored in it. -/
theorem exists_insert_object {key : Key} {ms : Members}
    (h : insert value key (.object ms) = .ok d') : ∃ ms', d' = .object ms' := by
  cases key with
  | nil => exact ⟨ms, (Except.ok.inj h).symm⟩
  | cons p rest =>
      cases p with
      | field name =>
          obtain ⟨ms, c, -, rfl, -⟩ := exists_put h
          exact ⟨_, rfl⟩
      | index n =>
          obtain ⟨es, c, hArray, -⟩ := exists_set h
          exact absurd hArray (by simp)

theorem isNull_insert (h : insert value (p :: rest) d = .ok d') : d'.isNull = false := by
  cases p with
  | field name =>
      obtain ⟨ms, c, -, rfl, -⟩ := exists_put h
      rfl
  | index n =>
      obtain ⟨es, c, -, rfl, -⟩ := exists_set h
      rfl

/-! ### What storing preserves -/

/-- A property of documents that is kept while something is stored, `before`, and one that holds as
soon as something has been stored, `after`; for keys with fine parts. -/
structure Stores (Fine : Part → Prop) (before after : Document → Prop) : Prop where
  weaken {d : Document} (h : after d) : before d
  fresh (p : Part) : before (containerFor p)
  member {ms : Members} {name : String} {c : Document} (h : before (.object ms))
    (hc : (name, c) ∈ ms) : before c
  element {es : List Document} {c : Document} (h : before (.array es)) (hc : c ∈ es)
    (hNull : c ≠ .null) : before c
  put {ms : Members} {name : String} {c : Document} (h : before (.object ms))
    (hName : Fine (.field name)) (hc : after c) : after (.object (Members.put name c ms))
  set {es : List Document} {c : Document} (n : Nat) (h : before (.array es)) (hc : after c) :
    after (.array (Elements.set n c es))

/-- What has been stored is in place all the way up. -/
theorem Stores.after_insert {Fine : Part → Prop} {before after : Document → Prop} {key : Key}
    (hStores : Stores Fine before after) (hNonempty : key ≠ []) (hKey : ∀ p ∈ key, Fine p)
    (hValue : after value) (hd : before d) (h : insert value key d = .ok d') : after d' := by
  induction key generalizing d d' with
  | nil => exact absurd rfl hNonempty
  | cons p rest ih =>
      obtain ⟨hFirst, hRest⟩ := List.forall_mem_cons.mp hKey
      cases p with
      | field name =>
          obtain ⟨ms, c, rfl, rfl, ⟨-, rfl⟩ | ⟨next, tail, rfl, hStored⟩⟩ := exists_put h
          · exact hStores.put hd hFirst hValue
          · have hChild : before ((Members.get? name ms).getD (containerFor next)) := by
              cases hGet : Members.get? name ms with
              | none => exact hStores.fresh next
              | some c => exact hStores.member hd (Members.mem_of_get? hGet)
            exact hStores.put hd hFirst (ih (List.cons_ne_nil _ _) hRest hChild hStored)
      | index n =>
          obtain ⟨es, c, rfl, rfl, -, ⟨-, rfl⟩ | ⟨next, tail, rfl, hStored⟩⟩ := exists_set h
          · exact hStores.set n hd hValue
          · have hChild : before (elementAt n next es) := by
              rcases elementAt_cases n next es with hFresh | ⟨hThere, hNull⟩
              · exact hFresh ▸ hStores.fresh next
              · exact hStores.element hd (List.mem_of_getElem? hThere) hNull
            exact hStores.set n hd (ih (List.cons_ne_nil _ _) hRest hChild hStored)

/-! ### New places -/

/-- A place that a container does not have yet: `p` leads to it, and `fill` is the container with a
child there. The child is stored as a whole, or bit by bit from an empty container. -/
structure Slot (p : Part) (before : Document) (fill : Document → Document) : Prop where
  leaf (v : Document) : insert v [p] before = .ok (fill v)
  fresh (v : Document) (next : Part) (rest : Key) : insert v (p :: next :: rest) before =
    (insert v (next :: rest) (containerFor next)).map fill
  again (v : Document) (next : Part) (rest : Key) {c : Document} (hNull : c.isNull = false) :
    insert v (p :: next :: rest) (fill c) = (insert v (next :: rest) c).map fill

/-- A name that is not there yet. -/
theorem slot_field {ms : Members} (hFresh : name ∉ Members.keys ms) :
    Slot (.field name) (.object ms) fun c => .object (ms ++ [(name, c)]) := by
  have hPut (c : Document) : ms ++ [(name, c)] = Members.put name c ms :=
    (Members.put_of_not_mem c hFresh).symm
  have hNone : Members.get? name ms = none := by
    rwa [← Option.not_isSome_iff_eq_none, Members.get?_isSome_iff]
  refine ⟨fun v => ?_, fun v next rest => ?_, fun v next rest c _ => ?_⟩
  · rw [insert, hPut]
  · simp only [insert, hNone, Option.getD_none, hPut]
  · simp only [insert, hPut, Members.get?_put, Option.getD_some, Members.put_put]

theorem place_length (v : Document) (es : List Document) :
    place es.length v es = .ok (es ++ [v]) := by
  simp [place, Elements.trySet, Elements.set_length, Except.mapError]

/-- The position behind the last element. -/
theorem slot_index (es : List Document) :
    Slot (.index es.length) (.array es) fun c => .array (es ++ [c]) := by
  refine ⟨fun v => ?_, fun v next rest => ?_, fun v next rest c hNull => ?_⟩
  · rw [insert, place_length]
    rfl
  · have hMade : element es.length next es =
        .ok (es ++ [containerFor next], containerFor next) := by
      simp [element, place_length, Except.map]
    simp only [insert, hMade, List.set_append_right _ _ (Nat.le_refl es.length), Nat.sub_self,
      List.set_cons_zero]
  · have hThere : element es.length next (es ++ [c]) = .ok (es ++ [c], c) := by
      simp [element, hNull]
    simp only [insert, hThere, List.set_append_right _ _ (Nat.le_refl es.length), Nat.sub_self,
      List.set_cons_zero]

end Cabinet.Properties
