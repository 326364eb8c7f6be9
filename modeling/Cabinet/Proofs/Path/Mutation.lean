import Cabinet.Proofs.Path.Child
import Cabinet.Proofs.Path.Order
import Cabinet.Proofs.Path.Selection

/-! Changes made one place after the other, and the one change that they amount to. The places are
found before anything is written. As deeper places come first, a change never reaches a place that
is still to come except by its children, so that all of them are met where they were found, and a
document that took a child when it was asked still takes it when it is written to. -/

namespace Cabinet

/-- Places of a document that are still to be changed after the changes at `S`. They were there to
begin with, none of them stands in front of one below it, and nothing has been changed at any of
them or above. -/
structure Pending (d : Document) (S : Location → Bool) (ls : List Location) : Prop where
  resolves : ∀ l ∈ ls, (d.at? l).isSome
  ordered : ls.Pairwise fun a b => ¬a <+: b
  clear : ∀ l ∈ ls, ∀ k, k <+: l → S k = false

namespace Pending

variable {d : Document} {S : Location → Bool} {l : Location} {ls : List Location}

/-- All the places found are pending when nothing has been changed. -/
theorem deepestFirst {ls : List Location} (hNodup : ls.Nodup)
    (hResolves : ∀ l ∈ ls, (d.at? l).isSome) : Pending d (fun _ => false) (deepestFirst ls) where
  resolves l hl := hResolves l ((perm_deepestFirst ls).mem_iff.mp hl)
  ordered := not_isPrefix_deepestFirst hNodup
  clear _ _ _ _ := rfl

/-- A change at the first place leaves the others pending. -/
theorem tail (h : Pending d S (l :: ls)) : Pending d (fun k => S k || decide (k = l)) ls where
  resolves k hk := h.resolves k (List.mem_cons_of_mem _ hk)
  ordered := (List.pairwise_cons.mp h.ordered).2
  clear k hk a ha := by
    have hNew : a ≠ l := by
      rintro rfl
      exact (List.pairwise_cons.mp h.ordered).1 k hk ha
    simp [h.clear k (List.mem_cons_of_mem _ hk) a ha, hNew]

/-- The first place is met where it was found, with its children rebuilt, and to change it there is
to rebuild with one more place to change. -/
theorem step (h : Pending d S (l :: ls)) (hd : d.UniqueKeys) (g : Document → Document) :
    ∃ e f, d.at? l = some e ∧ (d.rebuild g S).at? l = some (e.mapChildren f) ∧
      (d.rebuild g S).replaceAt l (g (e.mapChildren f)) =
        d.rebuild g fun k => S k || decide (k = l) := by
  have hSome := h.resolves l (List.mem_cons_self ..)
  have hClear := h.clear l (List.mem_cons_self ..)
  obtain ⟨e, he⟩ := Option.isSome_iff_exists.mp hSome
  have hMet := Document.at?_rebuild (g := g) he hClear
  refine ⟨e, _, he, hMet, ?_⟩
  rw [Document.replaceAt_eq_modifyAt hMet]
  exact Document.modifyAt_rebuild hd hSome hClear

end Pending

/-- The places changed first and those changed after them. -/
theorem changed_cons (S : Location → Bool) (l : Location) (ls : List Location) :
    (fun k => (S k || decide (k = l)) || decide (k ∈ ls)) =
      fun k => S k || decide (k ∈ l :: ls) := by
  funext k
  simp [Bool.or_assoc]

variable {d : Document} {S : Location → Bool} {ls : List Location}

/-- A run of changes at pending places rebuilds the document, and counts every place once. -/
theorem changeAll_rebuild (h : Pending d S ls) (hd : d.UniqueKeys) (g : Document → Document)
    (count : Nat) : changeAll (fun _ => g) count ls (d.rebuild g S) =
      (count + ls.length, d.rebuild g fun k => S k || decide (k ∈ ls)) := by
  induction ls generalizing S count with
  | nil => simp [changeAll]
  | cons l ls ih =>
      -- the document found at `l` has its children rebuilt, but is not changed itself yet
      obtain ⟨e, f, -, hMet, hChanged⟩ := h.step hd g
      rw [changeAll, hMet]
      simp only [hChanged]
      rw [ih h.tail, changed_cons, List.length_cons, Nat.add_right_comm, Nat.add_assoc]

/-- A run of child writes at pending places rebuilds the document. None of them fails if every place
took the child before the run. -/
theorem writeChildren_rebuild (h : Pending d S ls) (hd : d.UniqueKeys) (s : Segment)
    (value : Document) (hTakes : ∀ l ∈ ls, ∀ e, d.at? l = some e → e.Takes s) (count : Nat) :
    writeChildren s value count ls (d.rebuild (·.writeIn s value) S) =
      (.ok (count + ls.length), d.rebuild (·.writeIn s value) fun k => S k || decide (k ∈ ls)) := by
  induction ls generalizing S count with
  | nil => simp [writeChildren]
  | cons l ls ih =>
      obtain ⟨e, f, he, hMet, hChanged⟩ := h.step hd (·.writeIn s value)
      have hSlot := Segment.slot?_isSome_iff.mpr (hTakes l (List.mem_cons_self ..) e he)
      obtain ⟨t, ht⟩ := Option.isSome_iff_exists.mp hSlot
      -- rebuilding the children has not changed what the document takes
      have hMetSlot : s.slot? (e.mapChildren f) = some t := by rw [Segment.slot?_mapChildren, ht]
      have hWrite : (e.mapChildren f).writeIn s value = (e.mapChildren f).putChild t value := by
        rw [Document.writeIn, hMetSlot]
      rw [hWrite] at hChanged
      rw [writeChildren, hMet]
      simp only [Segment.writeChild_of_slot? hMetSlot, hChanged]
      rw [ih h.tail (fun k hk => hTakes k (List.mem_cons_of_mem _ hk)), changed_cons,
        List.length_cons, Nat.add_right_comm, Nat.add_assoc]

/-- The check passes when every place takes the child. -/
theorem checkChildren_eq_ok_iff {s : Segment} : checkChildren s d ls = .ok () ↔
    ∀ l ∈ ls, ∀ e, d.at? l = some e → e.Takes s := by
  induction ls with
  | nil => simp [checkChildren]
  | cons l ls ih =>
      rw [List.forall_mem_cons, checkChildren]
      cases hl : d.at? l with
      | none => simpa using ih
      | some e =>
          dsimp only
          cases hCheck : s.checkChild e l with
          | error fault =>
              have hRefused : ¬e.Takes s := by
                rw [← Segment.checkChild_eq_ok_iff, hCheck]
                exact fun h => nomatch h
              simp [hRefused]
          | ok =>
              have hTakes : e.Takes s := Segment.checkChild_eq_ok_iff.mp hCheck
              simpa [hTakes] using ih

/-- An update that is made when a condition holds, and otherwise fails and leaves the document as it
was. -/
structure Update.AllOrNothing (u : Update) (d : Document) (condition : Prop) (n : Nat)
    (d' : Document) : Prop where
  made : condition → u = (.ok n, d')
  refused : ¬condition → ∃ e, u = (.error e, d)

/-- An update that ends in an error. -/
def Update.Failed (u : Update) : Prop :=
  ∃ e, u.1 = .error e

namespace Update.AllOrNothing

variable {u : Update} {d d' made : Document} {condition : Prop} {n k : Nat}

/-- What a successful update has done. -/
theorem eq_of_ok (h : u.AllOrNothing d condition n made) (hu : u = (.ok k, d')) :
    k = n ∧ d' = made := by
  by_cases hc : condition
  · have hMade := h.made hc
    rw [hu] at hMade
    cases hMade
    exact ⟨rfl, rfl⟩
  · obtain ⟨e, he⟩ := h.refused hc
    rw [hu] at he
    cases he

/-- A successful update met its condition. -/
theorem condition_of_ok (h : u.AllOrNothing d condition n made) (hu : u = (.ok k, d')) :
    condition := by
  by_contra hc
  obtain ⟨e, he⟩ := h.refused hc
  rw [hu] at he
  cases he

theorem eq_of_error (h : u.AllOrNothing d condition n made) {e : DocumentError}
    (hu : u = (.error e, d')) : d' = d := by
  by_cases hc : condition
  · have hMade := h.made hc
    rw [hu] at hMade
    cases hMade
  · obtain ⟨e', he⟩ := h.refused hc
    rw [hu] at he
    cases he
    rfl

theorem failed_iff (h : u.AllOrNothing d condition n made) : u.Failed ↔ ¬condition := by
  constructor
  · rintro ⟨e, he⟩ hc
    rw [h.made hc] at he
    cases he
  · intro hc
    obtain ⟨e, he⟩ := h.refused hc
    exact ⟨e, by rw [he]⟩

end Update.AllOrNothing

namespace Path

variable {p parent : Path} {last : Segment} {value : Document}

theorem resolves_of_mem_locate (hd : d.UniqueKeys) (p : Path) :
    ∀ l ∈ p.locate d, (d.at? l).isSome := by
  intro l hl
  obtain ⟨m, hm, rfl⟩ := List.mem_map.mp hl
  rw [located_matchesIn hd p m hm]
  rfl

theorem pending_locate (hd : d.UniqueKeys) (p : Path) :
    Pending d (fun _ => false) (deepestFirst (p.locate d)) :=
  .deepestFirst (nodup_locate p d) (resolves_of_mem_locate hd p)

/-- Changing all that a path selects, one place after the other, is rebuilding the document. -/
theorem changeAll_locate (hd : d.UniqueKeys) (p : Path) (g : Document → Document) :
    changeAll (fun _ => g) 0 (deepestFirst (p.locate d)) d =
      ((p.locate d).length, d.rebuild g fun l => decide (l ∈ p.locate d)) := by
  have hRun := changeAll_rebuild (pending_locate hd p) hd g 0
  rw [Document.rebuild_none hd, Nat.zero_add, (perm_deepestFirst _).length_eq] at hRun
  simpa only [Bool.false_or, (perm_deepestFirst _).mem_iff] using hRun

/-- What holds of every match holds of what stands at every location found. -/
theorem forall_matchesIn_iff (hd : d.UniqueKeys) (p : Path) (test : Document → Prop) :
    (∀ m ∈ p.matchesIn d, test m.2) ↔ ∀ l ∈ p.locate d, ∀ e, d.at? l = some e → test e := by
  constructor
  · intro h l hl e he
    obtain ⟨m, hm, rfl⟩ := List.mem_map.mp hl
    obtain rfl : m.2 = e := Option.some.inj ((located_matchesIn hd p m hm).symm.trans he)
    exact h m hm
  · intro h m hm
    exact h m.1 (List.mem_map_of_mem hm) m.2 (located_matchesIn hd p m hm)

/-- The check of all that a path selects passes exactly when all of it takes the child. -/
theorem checkChildren_locate_eq_ok_iff (hd : d.UniqueKeys) :
    checkChildren last d (deepestFirst (parent.locate d)) = .ok () ↔
      ∀ m ∈ parent.matchesIn d, m.2.Takes last := by
  rw [checkChildren_eq_ok_iff, forall_matchesIn_iff hd parent (·.Takes last)]
  simp only [(perm_deepestFirst _).mem_iff]

/-- Writing a child to all that a path selects, if all of it takes one, is rebuilding the
document. -/
theorem writeChildren_locate (hd : d.UniqueKeys) (value : Document)
    (hTakes : ∀ m ∈ parent.matchesIn d, m.2.Takes last) :
    writeChildren last value 0 (deepestFirst (parent.locate d)) d =
      (.ok (parent.locate d).length,
        d.rebuild (·.writeIn last value) fun l => decide (l ∈ parent.locate d)) := by
  have hAll := (forall_matchesIn_iff hd parent (·.Takes last)).mp hTakes
  have hRun := writeChildren_rebuild (pending_locate hd parent) hd last value
    (fun l hl => hAll l ((perm_deepestFirst _).mem_iff.mp hl)) 0
  rw [Document.rebuild_none hd, Nat.zero_add, (perm_deepestFirst _).length_eq] at hRun
  simpa only [Bool.false_or, (perm_deepestFirst _).mem_iff] using hRun

theorem splitLast?_concat (parent : Path) (last : Segment) :
    splitLast? (parent ++ [last]) = some (parent, last) := by
  simp [splitLast?]

/-- Nothing has been changed where no place was found. -/
theorem orNotFound_allOrNothing (hd : d.UniqueKeys) (p : Path) (ls : List Location)
    (g : Document → Document) :
    (p.orNotFound (ls.length, d.rebuild g fun l => decide (l ∈ ls))).AllOrNothing d (ls ≠ [])
      ls.length (d.rebuild g fun l => decide (l ∈ ls)) := by
  cases ls with
  | nil =>
      refine ⟨fun h => absurd rfl h, fun _ => ⟨.pathNotFound p.text, ?_⟩⟩
      simp only [List.not_mem_nil, decide_false, Document.rebuild_none hd]
      rfl
  | cons l ls => exact ⟨fun _ => rfl, fun h => absurd (List.cons_ne_nil l ls) h⟩

/-- A path that ends in a field or an index writes this child to all that its parent selects. It
needs a place to write to, and every place must take the child. -/
theorem set_allOrNothing_of_isDefinite (hd : d.UniqueKeys) (hLast : last.isDefinite)
    (value : Document) :
    (set (parent ++ [last]) d value).AllOrNothing d
      (parent.locate d ≠ [] ∧ ∀ m ∈ parent.matchesIn d, m.2.Takes last) (parent.locate d).length
      (d.rebuild (·.writeIn last value) fun l => decide (l ∈ parent.locate d)) := by
  have hFinish := orNotFound_allOrNothing hd (parent ++ [last]) (parent.locate d)
    (·.writeIn last value)
  rw [set, splitLast?_concat]
  simp only [hLast, if_true]
  -- the count that is looked at after the writes is zero exactly when there were none to make
  by_cases hTakes : ∀ m ∈ parent.matchesIn d, m.2.Takes last
  · simp only [(checkChildren_locate_eq_ok_iff hd).mpr hTakes, writeChildren_locate hd value hTakes]
    exact ⟨fun h => hFinish.made h.1, fun h => hFinish.refused fun hFound => h ⟨hFound, hTakes⟩⟩
  · refine ⟨fun h => absurd h.2 hTakes, fun _ => ?_⟩
    cases hCheck : checkChildren last d (deepestFirst (parent.locate d)) with
    | error e => exact ⟨e, rfl⟩
    | ok => exact absurd ((checkChildren_locate_eq_ok_iff hd).mp hCheck) hTakes

/-- Any other path replaces all that it selects, of which there must be some. -/
theorem set_allOrNothing_of_not_isDefinite (hd : d.UniqueKeys) (hLast : last.isDefinite = false)
    (value : Document) :
    (set (parent ++ [last]) d value).AllOrNothing d (locate (parent ++ [last]) d ≠ [])
      (locate (parent ++ [last]) d).length
      (d.rebuild (fun _ => value) fun l => decide (l ∈ locate (parent ++ [last]) d)) := by
  rw [set, splitLast?_concat]
  simp only [hLast, Bool.false_eq_true, if_false, changeAll_locate hd]
  exact orNotFound_allOrNothing hd _ _ _

/-- Containers are changed when some are selected and all of them pass the test. -/
theorem changeContainers_allOrNothing (hd : d.UniqueKeys) (p : Path) (expected : String)
    (accepts : Document → Bool) (f : Document → Document) :
    (p.changeContainers d expected accepts f).AllOrNothing d
      (p.locate d ≠ [] ∧ ∀ m ∈ p.matchesIn d, accepts m.2) (p.locate d).length
      (d.rebuild f fun l => decide (l ∈ p.locate d)) := by
  have hEmpty : (p.matchesIn d).isEmpty ↔ p.locate d = [] := by
    rw [locate, List.map_eq_nil_iff, List.isEmpty_iff]
  have hRun := changeAll_locate hd p f
  rw [changeContainers]
  by_cases hFound : p.locate d = []
  · refine ⟨fun h => absurd hFound h.1, fun _ => ?_⟩
    rw [if_pos (hEmpty.mpr hFound)]
    exact ⟨_, rfl⟩
  · rw [if_neg (mt hEmpty.mp hFound)]
    cases hFind : (p.matchesIn d).find? fun m => !accepts m.2 with
    | none =>
        have hAccepts : ∀ m ∈ p.matchesIn d, accepts m.2 := by simpa using hFind
        refine ⟨fun _ => ?_, fun h => absurd ⟨hFound, hAccepts⟩ h⟩
        rw [locate] at hRun
        simp only [hRun]
        rfl
    | some m =>
        refine ⟨fun h => ?_, fun _ => ⟨_, rfl⟩⟩
        have hRefused := List.find?_some hFind
        simp [h.2 m (List.mem_of_find?_eq_some hFind)] at hRefused

/-- Members are put when some places are selected and an object stands at each. -/
theorem put_allOrNothing (hd : d.UniqueKeys) (p : Path) (key : String) (value : Document) :
    (p.put d key value).AllOrNothing d
      (p.locate d ≠ [] ∧ ∀ m ∈ p.matchesIn d, ∃ ms, m.2 = .object ms) (p.locate d).length
      (d.rebuild (·.putChild (.key key) value) fun l => decide (l ∈ p.locate d)) := by
  have hPut : p.put d key value =
      p.changeContainers d "an object" (·.is .object) (·.putChild (.key key) value) := by
    rw [put]
    congr 1
    funext e
    cases e <;> rfl
  have hRun := changeContainers_allOrNothing hd p "an object" (·.is .object)
    (·.putChild (.key key) value)
  simp only [Document.is_object_iff] at hRun
  rw [hPut]
  exact hRun

/-- Elements are appended when some places are selected and an array stands at each. -/
theorem add_allOrNothing (hd : d.UniqueKeys) (p : Path) (value : Document) :
    (p.add d value).AllOrNothing d
      (p.locate d ≠ [] ∧ ∀ m ∈ p.matchesIn d, ∃ es, m.2 = .array es) (p.locate d).length
      (d.rebuild (·.push value) fun l => decide (l ∈ p.locate d)) := by
  have hRun := changeContainers_allOrNothing hd p "an array" (·.is .array) (·.push value)
  simp only [Document.is_array_iff] at hRun
  exact hRun

/-- The changes of a document are rebuilds over the locations that a path selects in it before
anything is written, and count these locations. A path that ends in a field or an index takes the
locations of its parent and writes the child there. -/
theorem mutation_eq_rebuild (hd : d.UniqueKeys) (p : Path) (value : Document) (key : String)
    (f : Document → Document) :
    p.transform d (fun _ => f) =
      ((p.locate d).length, d.rebuild f fun l => decide (l ∈ p.locate d)) ∧
    (∀ (parent : Path) (last : Segment), p = parent ++ [last] → last.isDefinite = false →
      ∀ n d', p.set d value = (.ok n, d') →
        n = (p.locate d).length ∧
          d' = d.rebuild (fun _ => value) fun l => decide (l ∈ p.locate d)) ∧
    (∀ (parent : Path) (last : Segment), p = parent ++ [last] → last.isDefinite →
      ∀ n d', p.set d value = (.ok n, d') →
        n = (parent.locate d).length ∧
          d' = d.rebuild (·.writeIn last value) fun l => decide (l ∈ parent.locate d)) ∧
    (∀ n d', p.put d key value = (.ok n, d') →
      n = (p.locate d).length ∧
        d' = d.rebuild (·.putChild (.key key) value) fun l => decide (l ∈ p.locate d)) ∧
    (∀ n d', p.add d value = (.ok n, d') →
      n = (p.locate d).length ∧
        d' = d.rebuild (·.push value) fun l => decide (l ∈ p.locate d)) := by
  refine ⟨changeAll_locate hd p f, ?_, ?_, ?_, ?_⟩
  · rintro parent last rfl hLast n d' h
    exact (set_allOrNothing_of_not_isDefinite hd hLast value).eq_of_ok h
  · rintro parent last rfl hLast n d' h
    exact (set_allOrNothing_of_isDefinite hd hLast value).eq_of_ok h
  · intro n d' h
    exact (put_allOrNothing hd p key value).eq_of_ok h
  · intro n d' h
    exact (add_allOrNothing hd p value).eq_of_ok h

/-- Matches inside one another, each changed once by every kind of change, and the documents that are left. -/
theorem mutation_eq_rebuild_nested :
    let v := Document.boolean true
    let both (list map : Document) := Document.object [("list", list), ("map", map)]
    let list := Document.array [.array [.array []]]
    let map := Document.object [("o", .object [("o", .object [])])]
    let d := both list map
    let lists : Path := [.field "list", .descendant .wildcard]
    let maps : Path := [.field "map", .descendant .wildcard]
    let overwritten := both (.array [v]) map
    let firstWritten := both (.array [.array [v]]) map
    let entered := both list (.object [("o", .object [("o", .object [("k", v)]), ("k", v)])])
    let appended := both (.array [.array [.array [v], v]]) map
    d.UniqueKeys ∧
    (lists.transform d (fun _ => (·.push v)) = (2, appended) ∧
      d.rebuild (·.push v) (fun l => decide (l ∈ lists.locate d)) = appended) ∧
    (lists.set d v = (.ok 2, overwritten) ∧
      d.rebuild (fun _ => v) (fun l => decide (l ∈ lists.locate d)) = overwritten) ∧
    (set (lists ++ [.index 0]) d v = (.ok 2, firstWritten) ∧
      d.rebuild (·.writeIn (.index 0) v) (fun l => decide (l ∈ lists.locate d)) = firstWritten) ∧
    (maps.put d "k" v = (.ok 2, entered) ∧
      d.rebuild (·.putChild (.key "k") v) (fun l => decide (l ∈ maps.locate d)) = entered) ∧
    (lists.add d v = (.ok 2, appended) ∧
      d.rebuild (·.push v) (fun l => decide (l ∈ lists.locate d)) = appended) := by
  intro v both list map d lists maps overwritten firstWritten entered appended
  have hd : d.UniqueKeys := by decide
  have hLists : deepestFirst (lists.locate d) =
      [[.key "list", .index 0, .index 0], [.key "list", .index 0]] :=
    deepestFirst_of_pairwise (by decide)
  have hMaps : deepestFirst (maps.locate d) =
      [[.key "map", .key "o", .key "o"], [.key "map", .key "o"]] :=
    deepestFirst_of_pairwise (by decide)
  have hSet : lists.set d v = (.ok 2, overwritten) := by
    show lists.orNotFound (changeAll _ 0 (deepestFirst (lists.locate d)) d) = _
    rw [hLists]
    rfl
  have hWrite : set (lists ++ [.index 0]) d v = (.ok 2, firstWritten) := by
    rw [set, splitLast?_concat]
    simp only [Segment.isDefinite, if_true, hLists]
    rfl
  have hPut : maps.put d "k" v = (.ok 2, entered) := by
    show (Except.ok (changeAll _ 0 (deepestFirst (maps.locate d)) d).1,
      (changeAll _ 0 (deepestFirst (maps.locate d)) d).2) = _
    rw [hMaps]
    rfl
  have hAdd : lists.add d v = (.ok 2, appended) := by
    show (Except.ok (changeAll _ 0 (deepestFirst (lists.locate d)) d).1,
      (changeAll _ 0 (deepestFirst (lists.locate d)) d).2) = _
    rw [hLists]
    rfl
  obtain ⟨hTransform, hOpen, -, -, hAppend⟩ := mutation_eq_rebuild hd lists v "k" (·.push v)
  obtain ⟨-, -, hLast, -, -⟩ := mutation_eq_rebuild hd (lists ++ [.index 0]) v "k" id
  obtain ⟨-, -, -, hEnter, -⟩ := mutation_eq_rebuild hd maps v "k" id
  obtain ⟨hCount, hAppended⟩ := hAppend 2 _ hAdd
  exact ⟨hd, ⟨by rw [hTransform, ← hCount, ← hAppended], hAppended.symm⟩,
    ⟨hSet, (hOpen [.field "list"] _ rfl rfl 2 _ hSet).2.symm⟩,
    ⟨hWrite, (hLast lists _ rfl rfl 2 _ hWrite).2.symm⟩, ⟨hPut, (hEnter 2 _ hPut).2.symm⟩,
    ⟨hAdd, hAppended.symm⟩⟩

end Path

end Cabinet
