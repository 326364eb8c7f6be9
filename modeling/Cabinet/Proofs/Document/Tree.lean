import Cabinet.Document.Place
import Cabinet.Proofs.Document.Members

/-! Documents as trees. The children of a document are the edges of the tree, so that one induction
serves arrays and objects alike; a location is a path of edges. Objects that list a key twice hide
what stands under the second one, and `UniqueKeys` keeps them out. -/

namespace Cabinet.Document

/-- Induction over a document. What is to be shown may be taken for granted for all children. -/
theorem induction_children {motive : Document → Prop}
    (step : ∀ d : Document, (∀ c ∈ d.children, motive c.2) → motive d) (d : Document) :
    motive d :=
  @Document.rec motive (fun es => ∀ e ∈ es, motive e) (fun ms => ∀ m ∈ ms, motive m.2)
    (fun m => motive m.2)
    (step _ (by simp [children])) (fun _ => step _ (by simp [children]))
    (fun _ => step _ (by simp [children])) (fun _ => step _ (by simp [children]))
    (fun es ih => step _ fun c hc => by
      obtain ⟨e, he, rfl⟩ := List.mem_map.mp hc
      exact ih e.1 (List.fst_mem_of_mem_zipIdx he))
    (fun ms ih => step _ fun c hc => by
      obtain ⟨m, hm, rfl⟩ := List.mem_map.mp hc
      exact ih m hm)
    (by simp) (fun _ _ hHead hTail => List.forall_mem_cons.mpr ⟨hHead, hTail⟩)
    (by simp) (fun _ _ hHead hTail => List.forall_mem_cons.mpr ⟨hHead, hTail⟩)
    (fun _ _ h => h) d

/-- The children of an array are its elements, each under its position. -/
theorem mem_children_array {es : List Document} {c : Step × Document} :
    c ∈ (array es).children ↔ ∃ n, c.1 = .index n ∧ es[n]? = some c.2 := by
  obtain ⟨s, e⟩ := c
  simp only [children, List.mem_map, Prod.exists, List.mem_zipIdx_iff_getElem?, Prod.mk.injEq]
  constructor
  · rintro ⟨e, n, hn, rfl, rfl⟩
    exact ⟨n, rfl, hn⟩
  · rintro ⟨n, rfl, hn⟩
    exact ⟨e, n, hn, rfl, rfl⟩

/-- The children of an object are its members, each under its key. -/
theorem mem_children_object {ms : Members} {c : Step × Document} :
    c ∈ (object ms).children ↔ ∃ k, c.1 = .key k ∧ (k, c.2) ∈ ms := by
  obtain ⟨s, e⟩ := c
  simp only [children, List.mem_map, Prod.exists, Prod.mk.injEq]
  constructor
  · rintro ⟨k, e, hm, rfl, rfl⟩
    exact ⟨k, rfl, hm⟩
  · rintro ⟨k, rfl, hm⟩
    exact ⟨k, e, hm, rfl, rfl⟩

mutual

/-- Does a test hold of a document and of everything below it? -/
def all (test : Document → Bool) : Document → Bool
  | array es => test (array es) && allElements test es
  | object ms => test (object ms) && allMembers test ms
  | d => test d

def allElements (test : Document → Bool) : List Document → Bool
  | [] => true
  | d :: ds => d.all test && allElements test ds

def allMembers (test : Document → Bool) : List (String × Document) → Bool
  | [] => true
  | (_, d) :: ms => d.all test && allMembers test ms

end

theorem allElements_iff {test : Document → Bool} {es : List Document} :
    allElements test es ↔ ∀ e ∈ es, e.all test := by
  induction es with
  | nil => simp [allElements]
  | cons e es ih => simp [allElements, ih]

theorem allMembers_iff {test : Document → Bool} {ms : Members} :
    allMembers test ms ↔ ∀ m ∈ ms, m.2.all test := by
  induction ms with
  | nil => simp [allMembers]
  | cons m ms ih => simp [allMembers, ih]

/-- A test holds everywhere when it holds here and everywhere in the children. -/
theorem all_iff {test : Document → Bool} {d : Document} :
    d.all test ↔ test d ∧ ∀ c ∈ d.children, c.2.all test := by
  cases d with
  | array es =>
      rw [all, Bool.and_eq_true, allElements_iff]
      refine and_congr_right fun _ => ⟨fun h c hc => ?_, fun h e he => ?_⟩
      · obtain ⟨n, -, hn⟩ := mem_children_array.mp hc
        exact h c.2 (List.mem_of_getElem? hn)
      · obtain ⟨n, hn⟩ := List.mem_iff_getElem?.mp he
        exact h (.index n, e) (mem_children_array.mpr ⟨n, rfl, hn⟩)
  | object ms =>
      rw [all, Bool.and_eq_true, allMembers_iff]
      refine and_congr_right fun _ => ⟨fun h c hc => ?_, fun h m hm => ?_⟩
      · obtain ⟨k, -, hk⟩ := mem_children_object.mp hc
        exact h _ hk
      · exact h (.key m.1, m.2) (mem_children_object.mpr ⟨m.1, rfl, hm⟩)
  | _ => simp [all, children]

/-- An object lists every key once. Other documents have no keys. -/
def hasUniqueKeys : Document → Bool
  | object ms => decide (Members.keys ms).Nodup
  | _ => true

/-- Every object in the document lists every key once. -/
def UniqueKeys (d : Document) : Prop :=
  d.all hasUniqueKeys

instance (d : Document) : Decidable d.UniqueKeys :=
  inferInstanceAs (Decidable (d.all hasUniqueKeys = true))

theorem uniqueKeys_array_iff {es : List Document} :
    (array es).UniqueKeys ↔ ∀ e ∈ es, e.UniqueKeys := by
  simp only [UniqueKeys, all, hasUniqueKeys, Bool.true_and, allElements_iff]

theorem uniqueKeys_object_iff {ms : Members} :
    (object ms).UniqueKeys ↔ (Members.keys ms).Nodup ∧ ∀ m ∈ ms, m.2.UniqueKeys := by
  simp only [UniqueKeys, all, hasUniqueKeys, Bool.and_eq_true, decide_eq_true_eq, allMembers_iff]

theorem UniqueKeys.nodup_keys {ms : Members} (h : (object ms).UniqueKeys) :
    (Members.keys ms).Nodup :=
  (uniqueKeys_object_iff.mp h).1

theorem UniqueKeys.of_mem_children {d : Document} {c : Step × Document} (h : d.UniqueKeys)
    (hc : c ∈ d.children) : c.2.UniqueKeys :=
  (all_iff.mp h).2 c hc

/-- A step leads to one of the children. -/
theorem mem_children_of_child? {d e : Document} {s : Step} (h : d.child? s = some e) :
    (s, e) ∈ d.children := by
  cases d <;> cases s <;> simp only [child?, reduceCtorEq] at h
  · exact mem_children_array.mpr ⟨_, rfl, h⟩
  · exact mem_children_object.mpr ⟨_, rfl, Members.mem_of_get? h⟩

/-- Where keys are unique, no child is out of reach of the step that leads to it. -/
theorem mem_children_iff {d e : Document} {s : Step} (hd : d.UniqueKeys) :
    (s, e) ∈ d.children ↔ d.child? s = some e := by
  refine ⟨fun h => ?_, mem_children_of_child?⟩
  cases d with
  | array es =>
      obtain ⟨n, rfl, hn⟩ := mem_children_array.mp h
      exact hn
  | object ms =>
      obtain ⟨k, rfl, hk⟩ := mem_children_object.mp h
      exact (Members.get?_eq_some_iff_mem hd.nodup_keys).mpr hk
  | _ => simp [children] at h

theorem UniqueKeys.child {d e : Document} {s : Step} (hd : d.UniqueKeys)
    (h : d.child? s = some e) : e.UniqueKeys :=
  hd.of_mem_children (mem_children_of_child? h)

@[simp] theorem at?_nil (d : Document) : d.at? [] = some d := rfl

@[simp] theorem at?_cons (d : Document) (s : Step) (l : Location) :
    d.at? (s :: l) = (d.child? s).bind fun c => c.at? l := by
  rw [at?]
  cases d.child? s <;> rfl

theorem at?_cons_eq_some {d e : Document} {s : Step} {l : Location} :
    d.at? (s :: l) = some e ↔ ∃ c, d.child? s = some c ∧ c.at? l = some e := by
  rw [at?_cons, Option.bind_eq_some_iff]

/-- A location that is put together leads through the place where its first part ends. -/
theorem at?_append (d : Document) (l k : Location) :
    d.at? (l ++ k) = (d.at? l).bind fun e => e.at? k := by
  induction l generalizing d with
  | nil => rfl
  | cons s l ih =>
      rw [List.cons_append, at?_cons, at?_cons]
      cases d.child? s with
      | none => rfl
      | some c => exact ih c

theorem all_of_at? {test : Document → Bool} {d e : Document} {l : Location} (h : d.all test)
    (hl : d.at? l = some e) : e.all test := by
  induction l generalizing d with
  | nil => cases hl; exact h
  | cons s l ih =>
      obtain ⟨c, hc, hl⟩ := at?_cons_eq_some.mp hl
      exact ih ((all_iff.mp h).2 _ (mem_children_of_child? hc)) hl

theorem UniqueKeys.at {d e : Document} {l : Location} (hd : d.UniqueKeys)
    (hl : d.at? l = some e) : e.UniqueKeys :=
  all_of_at? hd hl

end Cabinet.Document
