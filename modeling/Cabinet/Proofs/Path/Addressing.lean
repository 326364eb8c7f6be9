import Cabinet.Proofs.Path.Reading
import Cabinet.Proofs.Path.Selection

/-! Locations as addresses. A path gives each location once. The location leads back to the value,
its text reads as a path again, and that path selects the one place it came from. Only a position
past `2 ^ 63` has no index of its own, which is why arrays are taken to be shorter. -/

namespace Cabinet

/-- An array is short enough for all its positions to be written as indexes. -/
def Document.hasShortArray : Document → Bool
  | array es => decide (es.length < Nat.pow 2 63)
  | _ => true

/-- Every array in the document is shorter than `2 ^ 63`. -/
def Document.ShortArrays (d : Document) : Prop :=
  d.all hasShortArray

instance (d : Document) : Decidable d.ShortArrays :=
  inferInstanceAs (Decidable (d.all Document.hasShortArray = true))

/-- No position on the way is past the positions that have an index. -/
def Location.Indexable (l : Location) : Prop :=
  ∀ n, .index n ∈ l → n < Nat.pow 2 63

theorem Document.ShortArrays.indexable {d v : Document} {l : Location} (hShort : d.ShortArrays)
    (hl : d.at? l = some v) : l.Indexable := by
  induction l generalizing d with
  | nil => simp [Location.Indexable]
  | cons s l ih =>
      obtain ⟨c, hc, hl⟩ := at?_cons_eq_some.mp hl
      intro n hn
      rcases List.mem_cons.mp hn with rfl | hn
      · cases d <;> simp only [child?, reduceCtorEq] at hc
        have hLength := (all_iff.mp hShort).1
        have hLt := (List.getElem?_eq_some_iff.mp hc).1
        simp only [hasShortArray, decide_eq_true_eq] at hLength
        omega
      · exact ih (all_of_at? (l := [s]) hShort (by simpa using hc)) hl n hn

theorem Step.segment_index {n : Nat} (h : n < Nat.pow 2 63) :
    (Step.index n).segment = .index n := by
  have hModulus : Nat.pow 2 64 = 18446744073709551616 := rfl
  have hBound : n < 9223372036854775808 := h
  rw [segment, hModulus, Int.bmod_eq_of_le (by omega) (by omega)]

theorem Location.isDefinite_path (l : Location) : l.path.isDefinite := by
  rw [Path.isDefinite, path, List.all_map, List.all_eq_true]
  intro s _
  cases s <;> rfl

/-- The text of a step derives the segment that selects the step. -/
theorem Step.bracketed_render {s : Step} (h : ∀ n, s = .index n → n < Nat.pow 2 63) :
    Path.Grammar.Bracketed s.render s.segment := by
  cases s with
  | key name => exact Path.Grammar.bracketed_quoteName name
  | index n =>
      have hText : (index n).render = bracket (Decimal.natural n) := rfl
      rw [hText, segment_index (h n rfl)]
      exact .index (.positive (spells_natural n) (h n rfl))

/-- A step is written in brackets. -/
theorem Step.exists_render (s : Step) : ∃ cs, s.render = bracket cs := by
  cases s <;> exact ⟨_, rfl⟩

theorem Location.getLast?_render {l : Location} {c : Char}
    (h : c ∈ (l.flatMap Step.render).getLast?) : c = ']' := by
  rcases List.eq_nil_or_concat l with rfl | ⟨l, s, rfl⟩
  · simp at h
  · obtain ⟨cs, hText⟩ := s.exists_render
    rw [List.concat_eq_append, List.flatMap_append, List.flatMap_singleton, hText, bracket,
      ← List.append_assoc, List.getLast?_concat] at h
    exact (Option.some.inj h).symm

/-- The text of a location is read as the path that selects it. -/
theorem Location.parse_text {l : Location} (h : l.Indexable) : Path.parse l.text = .ok l.path := by
  have hRests : Path.Grammar.Rests (l.flatMap Step.render) l.path :=
    Path.Grammar.rests_flatMap fun s hs => .bracket (Step.bracketed_render fun n hn => h n (hn ▸ hs))
  refine Path.parse_root (fun c hc => ?_) hRests
  rw [getLast?_render hc]
  decide

/-- The segment made from a step takes just this step. -/
theorem Path.advance_segment {k : Location} {d c : Document} {s : Step} (hs : d.child? s = some c)
    (h : ∀ n, s = .index n → n < Nat.pow 2 63) : advance [(k, d)] s.segment = [(k ++ [s], c)] := by
  have hSelect : s.segment.select d = [([s], c)] := by
    cases s with
    | key name =>
        cases d <;> simp only [Document.child?, reduceCtorEq] at hs
        simp [Step.segment, Segment.select, hs]
    | index n =>
        cases d <;> simp only [Document.child?, reduceCtorEq] at hs
        have hn := (List.getElem?_eq_some_iff.mp hs).1
        rw [Step.segment_index (h n rfl), Segment.select_index_array, Elements.resolve?_natCast hn]
        simp [positionMatch, hs]
  simp [advance, hSelect, firstMatches]

/-- The path made from a location selects this location alone. -/
theorem Path.matchesIn_path {d v : Document} {l : Location} (hl : d.at? l = some v)
    (h : l.Indexable) : l.path.matchesIn d = [(l, v)] := by
  have hRun (k : Location) : l.path.foldl advance [(k, d)] = [(k ++ l, v)] := by
    induction l generalizing k d with
    | nil =>
        cases hl
        simp [Location.path]
    | cons s l ih =>
        obtain ⟨c, hc, hl⟩ := Document.at?_cons_eq_some.mp hl
        have hRest := ih hl (fun n hn => h n (List.mem_cons_of_mem _ hn)) (k ++ [s])
        rw [Location.path, List.map_cons, List.foldl_cons,
          advance_segment hc fun n hn => h n (hn ▸ List.mem_cons_self ..)]
        simpa [Location.path] using hRest
  exact hRun []

/-- The matches of a path are addresses: no location comes twice, and each one leads to its value,
is definite, is read back from its text, and as a path of its own selects the same match alone. -/
theorem Path.matchesIn_readdressable {d : Document} (hd : d.UniqueKeys) (hShort : d.ShortArrays)
    (p : Path) :
    (p.locate d).Nodup ∧
    ∀ (l : Location) (v : Document), (l, v) ∈ p.matchesIn d →
      d.at? l = some v ∧ l.path.isDefinite ∧ parse l.text = .ok l.path ∧
        l.path.matchesIn d = [(l, v)] := by
  refine ⟨nodup_locate p d, fun l v h => ?_⟩
  have hv := ((mem_matchesIn_iff hd).mp h).1
  have hIndexable := hShort.indexable hv
  exact ⟨hv, l.isDefinite_path, Location.parse_text hIndexable, matchesIn_path hv hIndexable⟩

/-- A place below a key with a quote in it, reached through two descents, is found by its text. -/
theorem Path.matchesIn_readdressable_quoted :
    let d := Document.object [("it's", .array [.null, .object [("a.b", .null)]])]
    let l : Location := [.key "it's", .index 1, .key "a.b"]
    d.UniqueKeys ∧ d.ShortArrays ∧ (l, .null) ∈ matchesIn [.descendant .wildcard,
      .descendant (.field "a.b")] d ∧ d.at? l = some .null ∧ l.path.isDefinite ∧
        parse l.text = .ok l.path ∧ l.path.matchesIn d = [(l, .null)] := by
  intro d l
  have hd : d.UniqueKeys := by decide
  have hShort : d.ShortArrays := by decide
  have hMatch : (l, .null) ∈ matchesIn [.descendant .wildcard, .descendant (.field "a.b")] d :=
    List.mem_cons_self ..
  exact ⟨hd, hShort, hMatch, (matchesIn_readdressable hd hShort _).2 l .null hMatch⟩

end Cabinet
