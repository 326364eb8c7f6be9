import Cabinet.Proofs.Path.Mutation
import Cabinet.Proofs.Text.Integer

/-! Reading back what has been written. A path of fields and indexes takes one step a segment, and
which step that is depends on the kinds of the documents on the way and the lengths of arrays, which
a write below them leaves alone. Where a child is written, reading and writing mean the same child,
but for one spelling: a name with a minus sign may be written as position zero, and selects no
element. -/

namespace Cabinet

/-- The position that an index means for writing lies in the array or right behind it. -/
theorem Elements.place?_eq_some_iff {i : Int} {length n : Nat} : place? i length = some n ↔
    n ≤ length ∧ (i = n ∨ (n < length ∧ i = (n : Int) - length)) := by
  unfold place?
  split
  · rw [Option.some.injEq]
    omega
  · rw [resolve?_eq_some_iff]
    omega

/-- A name that is written as a position is read as the same position, unless it has a minus
sign. -/
theorem position?_of_writePosition? {name : String} {i : Int} (h : writePosition? name = some i) :
    position? name = if name.toList.head? = some '-' then none else some i.toNat := by
  obtain ⟨hRead, hLow⟩ := Segment.writePosition?_eq_some_iff.mp h
  obtain ⟨⟨hNonempty, hDigits, -⟩, hValue, -, hHigh⟩ :=
    (Width.read_eq_ok_iff (Prod.ext (splitSign_fst name.toList) rfl)).mp
      (Width.read?_eq_some_iff.mp hRead)
  have hWord : ∀ n, Width.word64.read name.toList = .ok n ↔ _ := fun n =>
    Width.read_eq_ok_iff (Prod.ext (splitSign_fst name.toList) rfl)
  rw [position?]
  split
  · rename_i hMinus
    rw [Option.map_eq_none_iff, ← Option.not_isSome_iff_eq_none, Option.isSome_iff_exists]
    rintro ⟨n, hn⟩
    have hUnsigned := ((hWord n).mp (Width.read?_eq_some_iff.mp hn)).1.2.2
    exact hUnsigned ⟨decide_eq_true hMinus, Width.word64_low⟩
  · rename_i hPlain
    have hSame : Width.word64.read? name.toList = some i :=
      Width.read?_eq_some_iff.mpr ((hWord i).mpr
        ⟨⟨hNonempty, hDigits, fun hMinus => hPlain (of_decide_eq_true hMinus.1)⟩, hValue, hLow,
          Int.le_trans hHigh Width.int64_high_le_word64_high⟩)
    rw [hSame]
    rfl

namespace Segment

variable {s : Segment} {d e value : Document} {t : Step}

/-- A step depends on the kind of the document and the number of its elements. -/
theorem step?_modifyChild (s : Segment) (f : Document → Document) (d : Document) (t : Step) :
    s.step? (d.modifyChild f t) = s.step? d := by
  cases s <;> cases d <;> cases t <;> simp [step?, Document.modifyChild]

/-- A child that has been put is found at its step. -/
theorem child?_putChild (h : s.slot? d = some t) (value : Document) :
    (d.putChild t value).child? t = some value := by
  have hElement {i : Int} {es : List Document} {n : Nat}
      (hn : Elements.place? i es.length = some n) :
      ((Document.array es).putChild (.index n) value).child? (.index n) = some value := by
    obtain ⟨hLe, -⟩ := Elements.place?_eq_some_iff.mp hn
    rw [Document.putChild, Document.child?]
    split
    · rename_i hLt
      rw [List.getElem?_set_self hLt]
    · rename_i hLast
      obtain rfl : n = es.length := by omega
      exact List.getElem?_concat_length
  cases s with
  | field name =>
      cases d <;> simp only [slot?, reduceCtorEq, Option.bind_eq_some_iff, Option.map_eq_some_iff,
        Option.some.injEq] at h
      · obtain ⟨i, -, n, hn, rfl⟩ := h
        exact hElement hn
      · subst t
        exact Members.get?_put name value _
  | index i =>
      cases d <;> simp only [slot?, reduceCtorEq, Option.map_eq_some_iff] at h
      obtain ⟨n, hn, rfl⟩ := h
      exact hElement hn
  | _ => cases d <;> simp [slot?] at h

/-- The name of a member is written as a position of an array though it has a minus sign. -/
def Signed (s : Segment) (d : Document) : Prop :=
  ∃ name es, s = .field name ∧ d = .array es ∧ name.toList.head? = some '-'

/-- Once a child has been put, the segment that it was written by means the step to it, or no step
when a minus sign was overlooked. -/
theorem step?_putChild (h : s.slot? d = some t) (value : Document) :
    (¬s.Signed d → s.step? (d.putChild t value) = some t) ∧
      (s.Signed d → s.step? (d.putChild t value) = none) := by
  cases s with
  | field name =>
      cases d <;> simp only [slot?, reduceCtorEq, Option.bind_eq_some_iff, Option.map_eq_some_iff,
        Option.some.injEq] at h
      · rename_i es
        obtain ⟨i, hName, n, hn, rfl⟩ := h
        have hSigned : Signed (.field name) (.array es) ↔ name.toList.head? = some '-' := by
          simp [Signed]
        have hPosition := position?_of_writePosition? hName
        obtain ⟨-, hLow⟩ := writePosition?_eq_some_iff.mp hName
        rw [hSigned, Document.putChild, step?, hPosition]
        constructor
        · intro hPlain
          rw [if_neg hPlain]
          obtain ⟨-, hi⟩ := Elements.place?_eq_some_iff.mp hn
          have hSame : i.toNat = n := by omega
          rw [hSame]
          rfl
        · intro hMinus
          rw [if_pos hMinus]
          rfl
      · subst t
        refine ⟨fun _ => rfl, ?_⟩
        rintro ⟨_, _, -, hArray, -⟩
        cases hArray
  | index i =>
      cases d <;> simp only [slot?, reduceCtorEq, Option.map_eq_some_iff] at h
      rename_i es
      obtain ⟨n, hn, rfl⟩ := h
      have hPlain : ¬Signed (.index i) (.array es) := by
        rintro ⟨_, _, hField, -⟩
        cases hField
      refine ⟨fun _ => ?_, fun hSigned => absurd hSigned hPlain⟩
      obtain ⟨hLe, hi⟩ := Elements.place?_eq_some_iff.mp hn
      rw [Document.putChild, step?, Elements.resolve?_eq_some_iff.mpr]
      · rfl
      · split
        · rw [List.length_set]
          omega
        · rw [List.length_append, List.length_singleton]
          omega
  | _ => cases d <;> simp [slot?] at h

end Segment

namespace Path

variable {p parent : Path} {last : Segment} {d d' e value : Document} {l : Location}

/-- Where a path of fields and indexes leads, taking one step for each segment. -/
def walk? : Path → Document → Option Match
  | [], d => some ([], d)
  | s :: p, d =>
    (s.step? d).bind fun t => (d.child? t).bind fun c => (walk? p c).map fun m => (t :: m.1, m.2)

theorem foldl_advance_nil (p : Path) : p.foldl advance [] = [] := by
  induction p with
  | nil => rfl
  | cons s p ih => exact ih

/-- A path of fields and indexes selects one place at most, which is where it leads. -/
theorem foldl_advance_of_isDefinite (hp : p.isDefinite) (k : Location) (d : Document) :
    p.foldl advance [(k, d)] = ((p.walk? d).map fun m => (k ++ m.1, m.2)).toList := by
  induction p generalizing k d with
  | nil => simp [walk?]
  | cons s p ih =>
      obtain ⟨hs, hp⟩ := Bool.and_eq_true_iff.mp hp
      rw [List.foldl_cons, advance, List.flatMap_singleton, Segment.select_of_isDefinite hs, walk?]
      cases s.step? d with
      | none => exact foldl_advance_nil p
      | some t =>
          cases hc : d.child? t with
          | none => simpa [hc, firstMatches] using foldl_advance_nil p
          | some c => simpa [hc, firstMatches, Function.comp_def] using ih hp (k ++ [t]) c

theorem matchesIn_of_isDefinite (hp : p.isDefinite) (d : Document) :
    p.matchesIn d = (p.walk? d).toList := by
  rw [matchesIn, foldl_advance_of_isDefinite hp]
  simp

/-- After a change at the place that a path leads to, it still leads there. -/
theorem walk?_modifyAt (hWalk : p.walk? d = some (l, e)) (g : Document → Document) :
    p.walk? (Document.modifyAt g l d) = some (l, g e) := by
  induction p generalizing d l with
  | nil =>
      cases hWalk
      rfl
  | cons s p ih =>
      simp only [walk?, Option.bind_eq_some_iff, Option.map_eq_some_iff] at hWalk
      obtain ⟨t, ht, c, hc, ⟨k, v⟩, hBelow, hEq⟩ := hWalk
      cases hEq
      rw [walk?, Document.modifyAt, Segment.step?_modifyChild, ht, Option.bind_some,
        Document.child?_modifyChild, hc, Option.map_some, Option.bind_some, ih hBelow]
      rfl

/-- The last segment of a path takes one more step from where the others lead. -/
theorem query_concat (hLast : last.isDefinite) (hMatches : parent.matchesIn d = [(l, e)]) :
    query (parent ++ [last]) d = ((last.step? e).bind e.child?).toList := by
  have hRun := foldl_advance_of_isDefinite (p := [last]) (by simpa [isDefinite] using hLast) l e
  rw [query, matchesIn, List.foldl_append, ← matchesIn, hMatches, hRun]
  cases hStep : last.step? e with
  | none => simp [walk?, hStep]
  | some t => cases hc : e.child? t <;> simp [walk?, hStep, hc]

/-- A write through a path of fields and indexes finds one parent that takes the child, and puts the
child into it. The path to the parent still leads there. -/
theorem exists_of_set_eq_ok (hd : d.UniqueKeys) (hParent : parent.isDefinite)
    (hLast : last.isDefinite) {n : Nat} (h : set (parent ++ [last]) d value = (.ok n, d')) :
    n = 1 ∧ ∃ l e t, parent.matchesIn d = [(l, e)] ∧ last.slot? e = some t ∧
      parent.matchesIn d' = [(l, e.putChild t value)] := by
  have hSet : (set (parent ++ [last]) d value).AllOrNothing d _ _ _ :=
    set_allOrNothing_of_isDefinite hd hLast value
  obtain ⟨hFound, hTakes⟩ := hSet.condition_of_ok h
  obtain ⟨hCount, hMade⟩ := hSet.eq_of_ok h
  have hMatches := matchesIn_of_isDefinite hParent d
  cases hWalk : walk? parent d with
  | none => simp [locate, hMatches, hWalk] at hFound
  | some m =>
      obtain ⟨l, e⟩ := m
      simp only [hWalk, Option.toList_some] at hMatches
      have hMem : (l, e) ∈ parent.matchesIn d := by simp [hMatches]
      have hLocate : parent.locate d = [l] := by rw [locate, hMatches]; rfl
      obtain ⟨t, ht⟩ := Option.isSome_iff_exists.mp
        (Segment.slot?_isSome_iff.mpr (hTakes (l, e) hMem))
      have hSome : (d.at? l).isSome := by rw [located_matchesIn hd parent _ hMem]; rfl
      -- rebuilding with one place to change is the change at this place
      have hOne := Document.modifyAt_rebuild (g := (·.writeIn last value)) (S := fun _ => false) hd
        hSome fun _ _ => rfl
      simp only [Document.rebuild_none hd, Bool.false_or] at hOne
      simp only [hLocate, List.mem_singleton, ← hOne] at hMade
      have hWrite : e.writeIn last value = e.putChild t value := by rw [Document.writeIn, ht]
      refine ⟨by rw [hCount, hLocate]; rfl, l, e, t, hMatches, ht, ?_⟩
      rw [matchesIn_of_isDefinite hParent, hMade, walk?_modifyAt hWalk, hWrite]
      rfl

/-- The last segment is the name of a member with a minus sign, and an array stands where it is to
be written. -/
def EndsInSign (p : Path) (d : Document) : Prop :=
  ∃ (parent : Path) (last : Segment) (e : Document),
    p = parent ++ [last] ∧ parent.query d = [e] ∧ last.Signed e

/-- What has been written through a path of fields and indexes is all that the path selects
afterwards, be it a new member, a new element or in the place of an old one. Only when the path ends
in a name with a minus sign, which an array has taken for a position, it selects nothing. -/
theorem query_set (hd : d.UniqueKeys) (hp : p.isDefinite) {n : Nat}
    (h : p.set d value = (.ok n, d')) :
    n = 1 ∧ (¬p.EndsInSign d → p.query d' = [value]) ∧ (p.EndsInSign d → p.query d' = []) := by
  rcases List.eq_nil_or_concat' p with rfl | ⟨parent, last, rfl⟩
  · cases h
    refine ⟨rfl, fun _ => rfl, fun ⟨parent, last, _, hEmpty, _⟩ => ?_⟩
    exact absurd hEmpty.symm (List.append_ne_nil_of_right_ne_nil parent (List.cons_ne_nil last []))
  · obtain ⟨hParent, hLast⟩ : isDefinite parent ∧ last.isDefinite := by
      simpa [isDefinite] using hp
    obtain ⟨hCount, l, e, t, hBefore, ht, hAfter⟩ := exists_of_set_eq_ok hd hParent hLast h
    have hSign : EndsInSign (parent ++ [last]) d ↔ last.Signed e := by
      constructor
      · rintro ⟨q, s, v, hPath, hQuery, hSigned⟩
        obtain ⟨rfl, hSame⟩ := List.append_inj' hPath rfl
        cases hSame
        rw [query, hBefore] at hQuery
        cases hQuery
        exact hSigned
      · intro hSigned
        exact ⟨parent, last, e, rfl, by rw [query, hBefore]; rfl, hSigned⟩
    obtain ⟨hPlain, hMinus⟩ := Segment.step?_putChild ht value
    rw [hSign, query_concat hLast hAfter]
    refine ⟨hCount, fun hNot => ?_, fun hSigned => ?_⟩
    · rw [hPlain hNot, Option.bind_some, Segment.child?_putChild ht]
      rfl
    · rw [hMinus hSigned]
      rfl

/-- An element behind the last one of the last list, written and read back through indexes from
either end. -/
theorem query_set_appended :
    let v := Document.boolean true
    let d := Document.object [("k", .array [.null, .array [.null]])]
    let d' := Document.object [("k", .array [.null, .array [.null, v]])]
    let p : Path := [.field "k", .index (-1), .field "1"]
    d.UniqueKeys ∧ p.isDefinite ∧ p.set d v = (.ok 1, d') ∧ ¬p.EndsInSign d ∧
      p.query d' = [v] := by
  intro v d d' p
  have hd : d.UniqueKeys := by decide
  have hParents : deepestFirst (locate [.field "k", .index (-1)] d) = [[.key "k", .index 1]] :=
    deepestFirst_of_pairwise (by decide)
  have hSet : set ([.field "k", .index (-1)] ++ [.field "1"]) d v = (.ok 1, d') := by
    rw [set, splitLast?_concat]
    simp only [Segment.isDefinite, if_true, hParents]
    rfl
  have hPlain : ¬p.EndsInSign d := by
    rintro ⟨parent, last, e, hPath, -, name, es, rfl, -, hMinus⟩
    have hLast := congrArg List.getLast? hPath
    simp only [List.getLast?_concat] at hLast
    cases hLast
    exact absurd hMinus (by decide)
  exact ⟨hd, rfl, hSet, hPlain, (query_set hd rfl hSet).2.1 hPlain⟩

/-- A name that reads as minus zero is written as the first position, and does not read back. -/
theorem not_query_set_minus_zero :
    ¬∀ (p : Path) (d value d' : Document) (n : Nat), d.UniqueKeys → p.isDefinite →
      p.set d value = (.ok n, d') → n = 1 ∧ p.query d' = [value] := by
  intro h
  have hParents : deepestFirst (locate [] (.array [.null])) = [[]] :=
    deepestFirst_of_pairwise (by decide)
  have hSet : set ([] ++ [.field "-0"]) (.array [.null]) (.boolean true) =
      (.ok 1, .array [.boolean true]) := by
    rw [set, splitLast?_concat]
    simp only [Segment.isDefinite, if_true, hParents]
    rfl
  have hQuery : query [.field "-0"] (.array [.boolean true]) = [] := rfl
  have hRead := (h [.field "-0"] (.array [.null]) (.boolean true) _ 1 (by decide) rfl hSet).2
  rw [hQuery] at hRead
  cases hRead

end Path

end Cabinet
