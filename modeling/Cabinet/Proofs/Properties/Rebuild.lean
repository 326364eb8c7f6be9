import Cabinet.Proofs.Properties.Leaves
import Cabinet.Proofs.Properties.Store

/-! Rebuilding a document from its leaves. Stored one after the other, they give the document with all
scalars replaced by their texts: a leaf either goes on with the child that was reached last or begins
the next one. Containers without leaves are lost on the way, so there must be none. -/

namespace Cabinet

namespace Document

mutual

/-- The document with every scalar replaced by its text. -/
def untyped : Document → Document
  | array es => array (untypedElements es)
  | object ms => object (untypedMembers ms)
  | d => string d.plainText

def untypedElements : List Document → List Document
  | [] => []
  | d :: ds => d.untyped :: untypedElements ds

def untypedMembers : List (String × Document) → List (String × Document)
  | [] => []
  | (k, d) :: ms => (k, d.untyped) :: untypedMembers ms

end

theorem untypedElements_eq (es : List Document) : untypedElements es = es.map untyped := by
  induction es with
  | nil => rfl
  | cons e es ih => rw [untypedElements, ih, List.map_cons]

theorem untypedMembers_eq (ms : Members) :
    untypedMembers ms = ms.map fun m => (m.1, m.2.untyped) := by
  induction ms with
  | nil => rfl
  | cons m ms ih => rw [untypedMembers, ih, List.map_cons]

/-- A container holds something. -/
def hasContent : Document → Bool
  | array es => !es.isEmpty
  | object ms => !ms.isEmpty
  | _ => true

/-- No container in the document is empty. -/
def Filled (d : Document) : Prop :=
  d.all hasContent

instance (d : Document) : Decidable d.Filled :=
  inferInstanceAs (Decidable (d.all hasContent = true))

theorem filled_array_iff {es : List Document} :
    (array es).Filled ↔ es ≠ [] ∧ ∀ e ∈ es, e.Filled := by
  simp only [Filled, all, hasContent, Bool.and_eq_true, Bool.not_eq_true', List.isEmpty_eq_false_iff,
    allElements_iff]

theorem filled_object_iff {ms : Members} :
    (object ms).Filled ↔ ms ≠ [] ∧ ∀ m ∈ ms, m.2.Filled := by
  simp only [Filled, all, hasContent, Bool.and_eq_true, Bool.not_eq_true', List.isEmpty_eq_false_iff,
    allMembers_iff]

/-- Is a document a text or a container? -/
def isTextual : Document → Bool
  | string _ => true
  | array _ => true
  | object _ => true
  | _ => false

/-- All leaves of the document are strings. -/
def Textual (d : Document) : Prop :=
  d.all isTextual

instance (d : Document) : Decidable d.Textual :=
  inferInstanceAs (Decidable (d.all isTextual = true))

/-- A document of strings has no types to lose. -/
theorem untyped_eq_self {d : Document} (h : d.Textual) : d.untyped = d := by
  induction d using induction_kinds with
  | string s => rfl
  | array es ih =>
      have hElements : ∀ e ∈ es, e.Textual := allElements_iff.mp h
      have hSame : es.map untyped = es.map id :=
        List.map_congr_left fun e he => ih e he (hElements e he)
      rw [untyped, untypedElements_eq, hSame, List.map_id]
  | object ms ih =>
      have hMembers : ∀ m ∈ ms, m.2.Textual := allMembers_iff.mp h
      have hSame : ms.map (fun m => (m.1, m.2.untyped)) = ms.map id :=
        List.map_congr_left fun m hm => Prod.ext rfl (ih m hm (hMembers m hm))
      rw [untyped, untypedMembers_eq, hSame, List.map_id]
  | _ => exact absurd h Bool.false_ne_true

end Document

namespace Properties

open Document

/-! ### Runs -/

/-- Store leaves one after the other. -/
def storeAll : List Leaf → Document → Except Conflict Document
  | [], d => .ok d
  | e :: es, d =>
    match insert (.string e.2) e.1 d with
    | .error c => .error c
    | .ok d => storeAll es d

variable {es fs : List Leaf} {d d' : Document} {p : Part} {before : Document}
  {fill : Document → Document}

theorem storeAll_append (h : storeAll es d = .ok d') : storeAll (es ++ fs) d = storeAll fs d' := by
  induction es generalizing d with
  | nil =>
      obtain rfl := Except.ok.inj h
      rfl
  | cons e es ih =>
      rw [storeAll] at h
      rw [List.cons_append, storeAll]
      cases hInsert : insert (.string e.2) e.1 d with
      | error c => simp [hInsert] at h
      | ok made =>
          rw [hInsert] at h
          exact ih h

/-- What is stored below a child that is there already changes the child alone. -/
theorem storeAll_again (hSlot : Slot p before fill) {c : Document} (hNull : c.isNull = false)
    (hKeys : ∀ e ∈ es, e.1 ≠ []) :
    storeAll (below p es) (fill c) = (storeAll es c).map fill := by
  induction es generalizing c with
  | nil => rfl
  | cons e es ih =>
      obtain ⟨key, text⟩ := e
      obtain ⟨hKey, hRest⟩ := List.forall_mem_cons.mp hKeys
      obtain ⟨next, rest, rfl⟩ := List.exists_cons_of_ne_nil hKey
      have hBelow : below p ((next :: rest, text) :: es) = (p :: next :: rest, text) :: below p es :=
        rfl
      rw [hBelow, storeAll, storeAll, hSlot.again _ _ _ hNull]
      cases hInsert : insert (.string text) (next :: rest) c with
      | error conflict => rfl
      | ok made => exact ih (isNull_insert hInsert) hRest

/-- The first leaf of a child makes the container that the child is built in. -/
theorem storeAll_fresh (hSlot : Slot p before fill) {start : Document} (hNonempty : es ≠ [])
    (hKeys : ∀ e ∈ es, ∃ next rest, e.1 = next :: rest ∧ containerFor next = start) :
    storeAll (below p es) before = (storeAll es start).map fill := by
  cases es with
  | nil => exact absurd rfl hNonempty
  | cons e es =>
      obtain ⟨key, text⟩ := e
      obtain ⟨⟨next, rest, rfl, rfl⟩, hRest⟩ := List.forall_mem_cons.mp hKeys
      have hBelow : below p ((next :: rest, text) :: es) = (p :: next :: rest, text) :: below p es :=
        rfl
      rw [hBelow, storeAll, storeAll, hSlot.fresh]
      cases hInsert : insert (.string text) (next :: rest) (containerFor next) with
      | error conflict => rfl
      | ok made =>
          refine storeAll_again hSlot (isNull_insert hInsert) fun e he => ?_
          obtain ⟨next, rest, hKey, -⟩ := hRest e he
          rw [hKey]
          exact List.cons_ne_nil _ _

/-! ### Documents -/

/-- Is a document rebuilt from its leaves in every new place? -/
def Rebuilds (d : Document) : Prop :=
  ∀ p before fill, Slot p before fill → storeAll (below p (leaves d)) before = .ok (fill d.untyped)

theorem rebuilds_scalar (h : isContainer d = false) : Rebuilds d := by
  intro p before fill hSlot
  have hText : d.untyped = .string d.plainText := by
    cases d with
    | array es => exact absurd h.symm Bool.false_ne_true
    | object ms => exact absurd h.symm Bool.false_ne_true
    | _ => rfl
  have hBelow : below p [([], d.plainText)] = [([p], d.plainText)] := rfl
  rw [leaves_scalar h, hBelow, storeAll, hSlot.leaf, hText]
  rfl

theorem storeAll_elements {xs : List Document} (h : ∀ x ∈ xs, Rebuilds x) (done : List Document) :
    storeAll (leavesElements done.length xs) (.array done) =
      .ok (.array (done ++ untypedElements xs)) := by
  induction xs generalizing done with
  | nil => rw [untypedElements, List.append_nil]; rfl
  | cons x xs ih =>
      obtain ⟨hHead, hTail⟩ := List.forall_mem_cons.mp h
      have hNext := ih hTail (done ++ [x.untyped])
      rw [List.length_append, List.length_singleton, List.append_assoc] at hNext
      rw [leavesElements, storeAll_append (hHead _ _ _ (slot_index done)), hNext]
      rfl

theorem storeAll_members {ms : Members} (h : ∀ m ∈ ms, Rebuilds m.2) (done : Members)
    (hKeys : (Members.keys (done ++ ms)).Nodup) :
    storeAll (leavesMembers ms) (.object done) = .ok (.object (done ++ untypedMembers ms)) := by
  induction ms generalizing done with
  | nil => rw [untypedMembers, List.append_nil]; rfl
  | cons m ms ih =>
      obtain ⟨name, x⟩ := m
      obtain ⟨hHead, hTail⟩ := List.forall_mem_cons.mp h
      have hSplit : Members.keys (done ++ (name, x) :: ms) =
          Members.keys done ++ name :: Members.keys ms := List.map_append
      have hFresh : name ∉ Members.keys done := fun hMem =>
        List.disjoint_of_nodup_append (hSplit ▸ hKeys) hMem (List.mem_cons_self ..)
      have hShift : Members.keys (done ++ [(name, x.untyped)] ++ ms) =
          Members.keys (done ++ (name, x) :: ms) := by
        simp [Members.keys]
      have hNext := ih hTail (done ++ [(name, x.untyped)]) (hShift ▸ hKeys)
      rw [List.append_assoc] at hNext
      rw [leavesMembers, storeAll_append (hHead _ _ _ (slot_field hFresh)), hNext]
      rfl

/-- There is a leaf wherever no container is empty. -/
theorem leaves_ne_nil (h : d.Filled) : leaves d ≠ [] := by
  induction d using induction_kinds with
  | array xs ih =>
      obtain ⟨hNonempty, hFilled⟩ := filled_array_iff.mp h
      obtain ⟨x, xs, rfl⟩ := List.exists_cons_of_ne_nil hNonempty
      have hFirst := ih x (List.mem_cons_self ..) (hFilled x (List.mem_cons_self ..))
      simp [leaves, leavesElements, below, hFirst]
  | object ms ih =>
      obtain ⟨hNonempty, hFilled⟩ := filled_object_iff.mp h
      obtain ⟨m, ms, rfl⟩ := List.exists_cons_of_ne_nil hNonempty
      have hFirst := ih m (List.mem_cons_self ..) (hFilled m (List.mem_cons_self ..))
      simp [leaves, leavesMembers, below, hFirst]
  | _ => simp [leaves]

/-- The keys of an array's leaves begin with an index. -/
theorem exists_index_of_mem {n : Nat} {xs : List Document} {e : Leaf}
    (h : e ∈ leavesElements n xs) : ∃ i rest, e.1 = .index i :: rest := by
  rw [leavesElements_eq] at h
  obtain ⟨x, -, hx⟩ := List.mem_flatMap.mp h
  obtain ⟨e, -, rfl⟩ := List.mem_map.mp hx
  exact ⟨_, _, rfl⟩

/-- The keys of an object's leaves begin with a field. -/
theorem exists_field_of_mem {ms : Members} {e : Leaf} (h : e ∈ leavesMembers ms) :
    ∃ name rest, e.1 = .field name :: rest := by
  rw [leavesMembers_eq] at h
  obtain ⟨m, -, hm⟩ := List.mem_flatMap.mp h
  obtain ⟨e, -, rfl⟩ := List.mem_map.mp hm
  exact ⟨_, _, rfl⟩

/-- A container is rebuilt in a new place if it is rebuilt from an empty one of its kind, which its
first leaf makes there. -/
theorem rebuilds_container (start : Document) (hFilled : d.Filled)
    (hStart : ∀ e ∈ leaves d, ∃ next rest, e.1 = next :: rest ∧ containerFor next = start)
    (hAll : storeAll (leaves d) start = .ok d.untyped) : Rebuilds d := by
  intro p before fill hSlot
  rw [storeAll_fresh hSlot (leaves_ne_nil hFilled) hStart, hAll]
  rfl

/-- A document without empty containers is rebuilt from its leaves. -/
theorem rebuilds (hKeys : d.UniqueKeys) (hFilled : d.Filled) : Rebuilds d := by
  induction d using induction_kinds with
  | array xs ih =>
      have hUnique := uniqueKeys_array_iff.mp hKeys
      obtain ⟨-, hRest⟩ := filled_array_iff.mp hFilled
      refine rebuilds_container (.array []) hFilled (fun e he => ?_) ?_
      · obtain ⟨i, rest, hKey⟩ := exists_index_of_mem he
        exact ⟨_, _, hKey, rfl⟩
      · exact storeAll_elements (fun x hx => ih x hx (hUnique x hx) (hRest x hx)) []
  | object ms ih =>
      obtain ⟨hNodup, hUnique⟩ := uniqueKeys_object_iff.mp hKeys
      obtain ⟨-, hRest⟩ := filled_object_iff.mp hFilled
      refine rebuilds_container (.object []) hFilled (fun e he => ?_) ?_
      · obtain ⟨name, rest, hKey⟩ := exists_field_of_mem he
        exact ⟨_, _, hKey, rfl⟩
      · exact storeAll_members (fun m hm => ih m hm (hUnique m hm) (hRest m hm)) [] hNodup
  | null => exact rebuilds_scalar rfl
  | boolean b => exact rebuilds_scalar rfl
  | number n => exact rebuilds_scalar rfl
  | string s => exact rebuilds_scalar rfl

/-- An object, which itself may be empty, is rebuilt from the empty one. -/
theorem storeAll_object {ms : Members} (hKeys : (object ms).UniqueKeys)
    (hFilled : ∀ m ∈ ms, m.2.Filled) :
    storeAll (leaves (.object ms)) (.object []) = .ok (object ms).untyped := by
  obtain ⟨hNodup, hUnique⟩ := uniqueKeys_object_iff.mp hKeys
  exact storeAll_members (fun m hm => rebuilds (hUnique m hm) (hFilled m hm)) [] hNodup

/-- The leaves of an object of strings, stored one after the other in the order in which they are
written, give the object back. Neither a position nor what is there already stands in the way of any. -/
theorem storeAll_leaves {ms : Members} (hKeys : (object ms).UniqueKeys)
    (hFilled : ∀ m ∈ ms, m.2.Filled) (hText : (object ms).Textual) :
    storeAll (leaves (.object ms)) (.object []) = .ok (.object ms) ∧
      ((object ms).NamedKeys →
        write [] (.object ms) = .ok ((leaves (.object ms)).flatMap (leafEntry []))) := by
  refine ⟨?_, fun hNamed => writesLeaves hNamed []⟩
  rw [storeAll_object hKeys hFilled, untyped_eq_self hText]

/-- Arrays and objects in each other, positions with more than one digit, and names that look like
structure. -/
theorem storeAll_leaves_nested :
    let es : List Document := .array [.string "x", .object [("[0]", .string "")]] ::
      List.replicate 10 (.string "y")
    let ms : Members := [("b", .array es), ("a.b", .object [("1", .string "z")]), ("a", .string "b")]
    (object ms).UniqueKeys ∧ (∀ m ∈ ms, m.2.Filled) ∧ (object ms).Textual ∧
      storeAll (leaves (.object ms)) (.object []) = .ok (.object ms) ∧ (object ms).NamedKeys ∧
      write [] (.object ms) = .ok ((leaves (.object ms)).flatMap (leafEntry [])) := by
  intro es ms
  have hKeys : (object ms).UniqueKeys := by decide
  have hFilled : ∀ m ∈ ms, m.2.Filled := by
    simp only [ms, List.forall_mem_cons]
    exact ⟨by decide, by decide, by decide, fun m hm => nomatch hm⟩
  have hText : (object ms).Textual := by decide
  have hNamed : (object ms).NamedKeys := by decide
  obtain ⟨hStored, hWritten⟩ := storeAll_leaves hKeys hFilled hText
  exact ⟨hKeys, hFilled, hText, hStored, hNamed, hWritten hNamed⟩

end Properties

end Cabinet
