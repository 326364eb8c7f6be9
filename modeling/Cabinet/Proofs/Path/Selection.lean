import Cabinet.Path.Query
import Cabinet.Proofs.Document.Elements
import Cabinet.Proofs.Document.Tree

/-! What a path selects, said without running it: a location is selected when it can be cut into
blocks, one for each segment in order. The evaluator works on a frontier of places from which
repeated ones are dropped after every segment, and a descendant segment visits the whole document
below each of them. Neither loses a location, and neither finds one that has no such cut. -/

namespace Cabinet

/-- The steps that one segment may take out of a document. -/
inductive Segment.Block : Segment → Document → Location → Prop where
  | member {name : String} {ms : Members} (hName : name ∈ Members.keys ms) :
      Block (.field name) (.object ms) [.key name]
  | position {name : String} {es : List Document} {n : Nat}
      (hName : position? name = some n) (hn : n < es.length) :
      Block (.field name) (.array es) [.index n]
  | fromStart {i : Int} {es : List Document} (hi : 0 ≤ i) (hn : i.toNat < es.length) :
      Block (.index i) (.array es) [.index i.toNat]
  | fromEnd {i : Int} {es : List Document} (hi : i < 0) (hn : i.natAbs ≤ es.length) :
      Block (.index i) (.array es) [.index (es.length - i.natAbs)]
  | child {d : Document} {s : Step} (hs : (d.child? s).isSome) : Block .wildcard d [s]
  | deep {inner : Segment} {d e : Document} {l b : Location}
      (hl : d.at? l = some e) (hb : Block inner e b) : Block (.descendant inner) d (l ++ b)

/-- A location out of a document, cut into one block for each segment of a path. -/
inductive Path.Cuts : Path → Document → Location → Prop where
  | done (d : Document) : Cuts [] d []
  | block {s : Segment} {p : Path} {d e : Document} {b l : Location}
      (hb : s.Block d b) (he : d.at? b = some e) (hl : Cuts p e l) : Cuts (s :: p) d (b ++ l)

/-- A segment takes a step at least. -/
theorem Segment.Block.ne_nil {s : Segment} {d : Document} {b : Location} (h : s.Block d b) :
    b ≠ [] := by
  induction h with
  | deep _ _ ih => exact List.append_ne_nil_of_right_ne_nil _ ih
  | _ => exact List.cons_ne_nil _ _

/-- Visiting a document and everything below it, with arrays and objects treated alike. -/
theorem descend_eq (f : Document → List Match) (d : Document) :
    descend f d = f d ++ d.children.flatMap fun c =>
      (descend f c.2).map fun m => (c.1 :: m.1, m.2) := by
  have hElements (es : List Document) (n : Nat) : descendElements f n es =
      (es.zipIdx n).flatMap fun e => (descend f e.1).map fun m => (.index e.2 :: m.1, m.2) := by
    induction es generalizing n with
    | nil => rfl
    | cons e es ih => rw [descendElements, ih, List.zipIdx_cons, List.flatMap_cons]
  have hMembers (ms : Members) : descendMembers f ms =
      ms.flatMap fun m => (descend f m.2).map fun n => (.key m.1 :: n.1, n.2) := by
    induction ms with
    | nil => rfl
    | cons m ms ih => rw [descendMembers, ih, List.flatMap_cons]
  cases d with
  | array es => rw [descend, hElements, Document.children, List.flatMap_map]
  | object ms => rw [descend, hMembers, Document.children, List.flatMap_map]
  | _ => simp [descend, Document.children]

/-- Descending finds what is found at some place of the document, and misses no place. -/
theorem mem_descend_iff {f : Document → List Match} {d : Document} (hd : d.UniqueKeys)
    {l : Location} {v : Document} :
    (l, v) ∈ descend f d ↔ ∃ k e b, d.at? k = some e ∧ (b, v) ∈ f e ∧ l = k ++ b := by
  induction d using Document.induction_children generalizing l with
  | step d ih =>
      rw [descend_eq, List.mem_append, List.mem_flatMap]
      constructor
      · rintro (hHere | ⟨c, hc, hBelow⟩)
        · exact ⟨[], d, l, rfl, hHere, rfl⟩
        · obtain ⟨m, hm, hEq⟩ := List.mem_map.mp hBelow
          obtain ⟨rfl, rfl⟩ := Prod.mk.inj hEq
          obtain ⟨k, e, b, hk, hb, hl⟩ := (ih c hc (hd.of_mem_children hc)).mp hm
          have hStep := (Document.mem_children_iff hd).mp hc
          exact ⟨c.1 :: k, e, b, by rw [Document.at?_cons, hStep]; exact hk, hb, by simp [hl]⟩
      · rintro ⟨k, e, b, hk, hb, rfl⟩
        cases k with
        | nil =>
            cases hk
            exact Or.inl hb
        | cons s k =>
            obtain ⟨c, hStep, hk⟩ := Document.at?_cons_eq_some.mp hk
            have hc := Document.mem_children_of_child? hStep
            refine Or.inr ⟨(s, c), hc, List.mem_map.mpr ⟨(k ++ b, v), ?_, rfl⟩⟩
            exact (ih (s, c) hc (hd.of_mem_children hc)).mpr ⟨k, e, b, hk, hb, rfl⟩

/-- The element at a position, if there is one, as the only match. -/
def positionMatch (es : List Document) (position : Option Nat) : List Match :=
  (position.bind fun n => es[n]?.map fun e => ([.index n], e)).toList

theorem mem_positionMatch_iff {es : List Document} {position : Option Nat} {b : Location}
    {v : Document} : (b, v) ∈ positionMatch es position ↔
      ∃ n, position = some n ∧ b = [.index n] ∧ es[n]? = some v := by
  simp only [positionMatch, Option.mem_toList, Option.bind_eq_some_iff,
    Option.map_eq_some_iff, Prod.mk.injEq]
  constructor
  · rintro ⟨n, hn, e, he, rfl, rfl⟩
    exact ⟨n, hn, rfl, he⟩
  · rintro ⟨n, hn, rfl, he⟩
    exact ⟨n, hn, v, he, rfl, rfl⟩

namespace Segment

variable {s : Segment} {d v : Document} {b : Location}

theorem select_field_array (name : String) (es : List Document) :
    select (.field name) (.array es) = positionMatch es (position? name) := by
  rw [select]
  cases position? name with
  | none => rfl
  | some n => cases hn : es[n]? <;> simp [positionMatch, hn]

theorem select_index_array (i : Int) (es : List Document) :
    select (.index i) (.array es) = positionMatch es (Elements.resolve? i es.length) := by
  rw [select]
  cases Elements.resolve? i es.length with
  | none => rfl
  | some n => cases hn : es[n]? <;> simp [positionMatch, hn]

/-- The step to the child that a field or an index selects, if there is one at all. -/
def step? : Segment → Document → Option Step
  | field name, .object _ => some (.key name)
  | field name, .array _ => (position? name).map .index
  | index i, .array es => (Elements.resolve? i es.length).map .index
  | _, _ => none

/-- A field or an index selects the child at its step. -/
theorem select_of_isDefinite (hs : s.isDefinite) (d : Document) :
    s.select d = ((s.step? d).bind fun t => (d.child? t).map fun c => ([t], c)).toList := by
  cases s with
  | field name =>
      cases d with
      | object ms =>
          rw [select]
          cases hGet : Members.get? name ms <;> simp [step?, Document.child?, hGet]
      | array es =>
          rw [select_field_array, positionMatch, step?, Option.bind_map]
          rfl
      | _ => rfl
  | index i =>
      cases d with
      | array es =>
          rw [select_index_array, positionMatch, step?, Option.bind_map]
          rfl
      | _ => rfl
  | wildcard => cases hs
  | descendant inner => cases hs

theorem mem_select_field_iff {name : String} :
    (b, v) ∈ select (.field name) d ↔ Block (.field name) d b ∧ d.at? b = some v := by
  cases d with
  | object ms =>
      constructor
      · intro h
        cases hGet : Members.get? name ms with
        | none => simp [select, hGet] at h
        | some e =>
            obtain ⟨rfl, rfl⟩ : b = [.key name] ∧ v = e := by simpa [select, hGet] using h
            exact ⟨.member (Members.get?_isSome_iff.mp (by rw [hGet]; rfl)), by
              simp [Document.child?, hGet]⟩
      · rintro ⟨hBlock, hv⟩
        cases hBlock
        have hGet : Members.get? name ms = some v := by simpa [Document.child?] using hv
        simp [select, hGet]
  | array es =>
      rw [select_field_array, mem_positionMatch_iff]
      constructor
      · rintro ⟨n, hName, rfl, hn⟩
        exact ⟨.position hName (List.getElem?_eq_some_iff.mp hn).1, by
          simp [Document.child?, hn]⟩
      · rintro ⟨hBlock, hv⟩
        cases hBlock with
        | position hName _ => exact ⟨_, hName, rfl, by simpa [Document.child?] using hv⟩
  | _ =>
      refine iff_of_false (by simp [select]) ?_
      rintro ⟨hBlock, -⟩
      cases hBlock

theorem mem_select_index_iff {i : Int} :
    (b, v) ∈ select (.index i) d ↔ Block (.index i) d b ∧ d.at? b = some v := by
  cases d with
  | array es =>
      rw [select_index_array, mem_positionMatch_iff]
      constructor
      · rintro ⟨n, hi, rfl, hn⟩
        refine ⟨?_, by simp [Document.child?, hn]⟩
        obtain ⟨hLt, hi | hi⟩ := Elements.resolve?_eq_some_iff.mp hi
        · obtain rfl : n = i.toNat := by omega
          exact .fromStart (by omega) hLt
        · obtain rfl : n = es.length - i.natAbs := by omega
          exact .fromEnd (by omega) (by omega)
      · rintro ⟨hBlock, hv⟩
        cases hBlock with
        | fromStart hi hn =>
            exact ⟨_, Elements.resolve?_eq_some_iff.mpr ⟨hn, Or.inl (by omega)⟩, rfl, by
              simpa [Document.child?] using hv⟩
        | fromEnd hi hn =>
            exact ⟨_, Elements.resolve?_eq_some_iff.mpr ⟨by omega, Or.inr (by omega)⟩, rfl, by
              simpa [Document.child?] using hv⟩
  | _ =>
      refine iff_of_false (by simp [select]) ?_
      rintro ⟨hBlock, -⟩
      cases hBlock

theorem mem_select_wildcard_iff (hd : d.UniqueKeys) :
    (b, v) ∈ select .wildcard d ↔ Block .wildcard d b ∧ d.at? b = some v := by
  have hSelect : (b, v) ∈ select .wildcard d ↔ ∃ s, (s, v) ∈ d.children ∧ b = [s] := by
    simp [select, eq_comm]
  rw [hSelect]
  constructor
  · rintro ⟨s, hs, rfl⟩
    have hStep := (Document.mem_children_iff hd).mp hs
    exact ⟨.child (by rw [hStep]; rfl), by simp [hStep]⟩
  · rintro ⟨hBlock, hv⟩
    cases hBlock with
    | @child _ s _ =>
        exact ⟨s, (Document.mem_children_iff hd).mpr (by simpa using hv), rfl⟩

/-- A segment selects exactly its blocks, each with the value it leads to. -/
theorem mem_select_iff (hd : d.UniqueKeys) :
    (b, v) ∈ s.select d ↔ s.Block d b ∧ d.at? b = some v := by
  induction s generalizing d b with
  | field name => exact mem_select_field_iff
  | index i => exact mem_select_index_iff
  | wildcard => exact mem_select_wildcard_iff hd
  | descendant inner ih =>
      rw [select, mem_descend_iff hd]
      constructor
      · rintro ⟨k, e, c, hk, hc, rfl⟩
        obtain ⟨hBlock, hv⟩ := (ih (hd.at hk)).mp hc
        exact ⟨.deep hk hBlock, by rw [Document.at?_append, hk]; exact hv⟩
      · rintro ⟨hBlock, hv⟩
        cases hBlock with
        | deep hk hBlock =>
            rw [Document.at?_append, hk] at hv
            exact ⟨_, _, _, hk, (ih (hd.at hk)).mpr ⟨hBlock, hv⟩, rfl⟩

end Segment

/-- Every match of a list stands in the document where it says. -/
def Located (d : Document) (ms : List Match) : Prop :=
  ∀ m ∈ ms, d.at? m.1 = some m.2

theorem mem_of_mem_firstMatches {seen : List Location} {ms : List Match} {m : Match}
    (h : m ∈ firstMatches seen ms) : m ∈ ms ∧ m.1 ∉ seen := by
  induction ms generalizing seen with
  | nil => simp [firstMatches] at h
  | cons n ms ih =>
      rw [firstMatches] at h
      split at h
      · obtain ⟨hMem, hSeen⟩ := ih h
        exact ⟨List.mem_cons_of_mem _ hMem, hSeen⟩
      · rename_i hNew
        rcases List.mem_cons.mp h with rfl | h
        · exact ⟨List.mem_cons_self .., by simpa using hNew⟩
        · obtain ⟨hMem, hSeen⟩ := ih h
          exact ⟨List.mem_cons_of_mem _ hMem, fun hm => hSeen (List.mem_cons_of_mem _ hm)⟩

/-- The place of a match that is dropped has been kept with an earlier one. -/
theorem exists_mem_firstMatches {seen : List Location} {ms : List Match} {m : Match}
    (h : m ∈ ms) (hSeen : m.1 ∉ seen) : ∃ v, (m.1, v) ∈ firstMatches seen ms := by
  induction ms generalizing seen with
  | nil => simp at h
  | cons n ms ih =>
      rw [firstMatches]
      split
      · rename_i hOld
        rcases List.mem_cons.mp h with rfl | h
        · exact absurd (by simpa using hOld) hSeen
        · exact ih h hSeen
      · by_cases hSame : m.1 = n.1
        · exact ⟨n.2, by rw [hSame]; exact List.mem_cons_self ..⟩
        · rcases List.mem_cons.mp h with rfl | h
          · exact absurd rfl hSame
          · have hOther : m.1 ∉ n.1 :: seen := by simp [hSame, hSeen]
            obtain ⟨v, hv⟩ := ih h hOther
            exact ⟨v, List.mem_cons_of_mem _ hv⟩

/-- Dropping repeated places loses no match when all matches stand in one document. -/
theorem mem_firstMatches_iff {d : Document} {ms : List Match} (hMatches : Located d ms)
    {m : Match} : m ∈ firstMatches [] ms ↔ m ∈ ms := by
  refine ⟨fun h => (mem_of_mem_firstMatches h).1, fun h => ?_⟩
  obtain ⟨v, hv⟩ := exists_mem_firstMatches h (List.not_mem_nil (a := m.1))
  have hSame : some v = some m.2 :=
    (hMatches _ (mem_of_mem_firstMatches hv).1).symm.trans (hMatches m h)
  rwa [Option.some.inj hSame] at hv

theorem nodup_firstMatches (seen : List Location) (ms : List Match) :
    ((firstMatches seen ms).map Prod.fst).Nodup := by
  induction ms generalizing seen with
  | nil => simp [firstMatches]
  | cons m ms ih =>
      rw [firstMatches]
      split
      · exact ih seen
      · refine List.nodup_cons.mpr ⟨fun hm => ?_, ih _⟩
        obtain ⟨n, hn, hSame⟩ := List.mem_map.mp hm
        exact (mem_of_mem_firstMatches hn).2 (hSame ▸ List.mem_cons_self ..)

namespace Path

variable {d : Document} {reached : List Match}

/-- What one segment selects from the places reached, with their locations in front. -/
def extend (reached : List Match) (s : Segment) : List Match :=
  reached.flatMap fun m => (s.select m.2).map fun n => (m.1 ++ n.1, n.2)

theorem mem_extend_iff {s : Segment} (hd : d.UniqueKeys) (hReached : Located d reached)
    {l : Location} {v : Document} :
    (l, v) ∈ extend reached s ↔
      ∃ m ∈ reached, ∃ b, s.Block m.2 b ∧ m.2.at? b = some v ∧ l = m.1 ++ b := by
  simp only [extend, List.mem_flatMap, List.mem_map, Prod.mk.injEq, Prod.exists]
  constructor
  · rintro ⟨k, e, hm, b, w, hb, rfl, rfl⟩
    obtain ⟨hBlock, hAt⟩ := (Segment.mem_select_iff (hd.at (hReached _ hm))).mp hb
    exact ⟨k, e, hm, b, hBlock, hAt, rfl⟩
  · rintro ⟨k, e, hm, b, hBlock, hAt, rfl⟩
    exact ⟨k, e, hm, b, v, (Segment.mem_select_iff (hd.at (hReached _ hm))).mpr ⟨hBlock, hAt⟩,
      rfl, rfl⟩

theorem located_extend {s : Segment} (hd : d.UniqueKeys) (hReached : Located d reached) :
    Located d (extend reached s) := by
  rintro ⟨l, v⟩ h
  obtain ⟨m, hm, b, -, hAt, rfl⟩ := (mem_extend_iff hd hReached).mp h
  rw [Document.at?_append, hReached m hm]
  exact hAt

theorem mem_advance_iff {s : Segment} (hd : d.UniqueKeys) (hReached : Located d reached)
    {m : Match} : m ∈ advance reached s ↔ m ∈ extend reached s :=
  mem_firstMatches_iff (located_extend hd hReached)

theorem located_advance {s : Segment} (hd : d.UniqueKeys) (hReached : Located d reached) :
    Located d (advance reached s) :=
  fun m hm => located_extend hd hReached m ((mem_advance_iff hd hReached).mp hm)

/-- A run of segments goes on from the places reached by one block for each segment. -/
theorem mem_foldl_advance_iff (hd : d.UniqueKeys) (hReached : Located d reached) (p : Path)
    {l : Location} {v : Document} :
    (l, v) ∈ p.foldl advance reached ↔
      ∃ m ∈ reached, ∃ k, p.Cuts m.2 k ∧ m.2.at? k = some v ∧ l = m.1 ++ k := by
  induction p generalizing reached with
  | nil =>
      constructor
      · intro h
        exact ⟨(l, v), h, [], .done v, rfl, by simp⟩
      · rintro ⟨m, hm, k, hCuts, hv, rfl⟩
        cases hCuts
        cases hv
        simpa using hm
  | cons s p ih =>
      rw [List.foldl_cons, ih (located_advance hd hReached)]
      constructor
      · rintro ⟨⟨b, e⟩, hm, k, hCuts, hv, rfl⟩
        obtain ⟨n, hn, c, hBlock, he, rfl⟩ :=
          (mem_extend_iff hd hReached).mp ((mem_advance_iff hd hReached).mp hm)
        exact ⟨n, hn, c ++ k, .block hBlock he hCuts, by rw [Document.at?_append, he]; exact hv,
          by simp⟩
      · rintro ⟨m, hm, k, hCuts, hv, rfl⟩
        cases hCuts with
        | @block _ _ _ e b k hBlock he hCuts =>
            rw [Document.at?_append, he] at hv
            refine ⟨(m.1 ++ b, e), (mem_advance_iff hd hReached).mpr ?_, k, hCuts, hv, by simp⟩
            exact (mem_extend_iff hd hReached).mpr ⟨m, hm, b, hBlock, he, rfl⟩

/-- The matches of a path are the locations that resolve and can be cut, with what stands there. -/
theorem mem_matchesIn_iff (hd : d.UniqueKeys) {p : Path} {l : Location} {v : Document} :
    (l, v) ∈ p.matchesIn d ↔ d.at? l = some v ∧ p.Cuts d l := by
  rw [matchesIn, mem_foldl_advance_iff hd (by simp [Located])]
  simp [and_comm]

/-- Every place is reached once, however many ways lead to it. -/
theorem nodup_locate (p : Path) (d : Document) : (p.locate d).Nodup := by
  have hRun (reached : List Match) (h : (reached.map Prod.fst).Nodup) :
      ((p.foldl advance reached).map Prod.fst).Nodup := by
    induction p generalizing reached with
    | nil => exact h
    | cons s p ih => exact ih _ (nodup_firstMatches _ _)
  exact hRun _ (by simp)

/-- Every match of a path stands in the document where it says. -/
theorem located_matchesIn (hd : d.UniqueKeys) (p : Path) : Located d (p.matchesIn d) :=
  fun _ hm => ((mem_matchesIn_iff hd).mp hm).1

/-- A location is selected if and only if it resolves and its steps can be cut into consecutive
blocks, one for each segment in order. -/
theorem mem_locate_iff (hd : d.UniqueKeys) (p : Path) (l : Location) :
    l ∈ p.locate d ↔ (d.at? l).isSome ∧ p.Cuts d l := by
  rw [locate, List.mem_map]
  constructor
  · rintro ⟨⟨k, v⟩, hm, rfl⟩
    obtain ⟨hv, hCuts⟩ := (mem_matchesIn_iff hd).mp hm
    exact ⟨by rw [hv]; rfl, hCuts⟩
  · rintro ⟨hSome, hCuts⟩
    obtain ⟨v, hv⟩ := Option.isSome_iff_exists.mp hSome
    exact ⟨(l, v), (mem_matchesIn_iff hd).mpr ⟨hv, hCuts⟩, rfl⟩

/-- A place that stacked descents reach in two ways is selected, and its location can be cut. -/
theorem mem_locate_iff_stacked :
    let d := Document.object [("a", .object [("b", .object [("x", .null)])])]
    let p : Path := [.descendant .wildcard, .descendant (.field "x")]
    let l : Location := [.key "a", .key "b", .key "x"]
    d.UniqueKeys ∧ (d.at? l).isSome ∧ p.Cuts d l ∧ l ∈ p.locate d := by
  intro d p l
  have hd : d.UniqueKeys := by decide
  have hMem : l ∈ p.locate d := List.mem_cons_self ..
  obtain ⟨hSome, hCuts⟩ := (mem_locate_iff hd p l).mp hMem
  exact ⟨hd, hSome, hCuts, hMem⟩

end Path

end Cabinet
