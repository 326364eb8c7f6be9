import Cabinet.Properties.Basic
import Cabinet.Proofs.Document.Nesting
import Cabinet.Proofs.Properties.Writing
import Cabinet.Proofs.Text.Number

/-! The leaves of a document, each under its key. The text that is written for a document is one line
for each leaf, and a document whose keys all have names can be written. -/

namespace Cabinet

namespace Document

/-- What is left of a scalar in a text without types. -/
def plainText : Document → String
  | null => ""
  | string s => s
  | d => d.text

/-- An object has names for all its members. -/
def hasNamedKeys : Document → Bool
  | object ms => ms.all fun m => m.1 != ""
  | _ => true

/-- No key in the document is empty. -/
def NamedKeys (d : Document) : Prop :=
  d.all hasNamedKeys

instance (d : Document) : Decidable d.NamedKeys :=
  inferInstanceAs (Decidable (d.all hasNamedKeys = true))

theorem namedKeys_array_iff {es : List Document} :
    (array es).NamedKeys ↔ ∀ e ∈ es, e.NamedKeys := by
  simp only [NamedKeys, all, hasNamedKeys, Bool.true_and, allElements_iff]

theorem namedKeys_object_iff {ms : Members} :
    (object ms).NamedKeys ↔ (∀ m ∈ ms, m.1 ≠ "") ∧ ∀ m ∈ ms, m.2.NamedKeys := by
  simp only [NamedKeys, all, hasNamedKeys, Bool.and_eq_true, List.all_eq_true, bne_iff_ne,
    allMembers_iff]

end Document

namespace Properties

/-- A leaf: the key that leads to it and its text. -/
abbrev Leaf := Key × String

/-- Leaves of a child, seen from above. -/
def below (p : Part) (leaves : List Leaf) : List Leaf :=
  leaves.map fun e => (p :: e.1, e.2)

mutual

/-- The leaves of a document, in order. -/
def leaves : Document → List Leaf
  | .array es => leavesElements 0 es
  | .object ms => leavesMembers ms
  | d => [([], d.plainText)]

def leavesElements (n : Nat) : List Document → List Leaf
  | [] => []
  | d :: ds => below (.index n) (leaves d) ++ leavesElements (n + 1) ds

def leavesMembers : List (String × Document) → List Leaf
  | [] => []
  | (name, d) :: ms => below (.field name) (leaves d) ++ leavesMembers ms

end

/-- The step that a part takes. -/
def Part.ofStep : Step → Part
  | .key name => .field name
  | .index n => .index n

theorem leavesElements_eq (n : Nat) (es : List Document) : leavesElements n es =
    (es.zipIdx n).flatMap fun e => below (.index e.2) (leaves e.1) := by
  induction es generalizing n with
  | nil => rfl
  | cons d es ih => rw [leavesElements, ih, List.zipIdx_cons, List.flatMap_cons]

theorem leavesMembers_eq (ms : Members) : leavesMembers ms =
    ms.flatMap fun m => below (.field m.1) (leaves m.2) := by
  induction ms with
  | nil => rfl
  | cons m ms ih => rw [leavesMembers, ih, List.flatMap_cons]

/-- Is a document a container? -/
def isContainer : Document → Bool
  | .array _ => true
  | .object _ => true
  | _ => false

theorem leaves_scalar {d : Document} (h : isContainer d = false) :
    leaves d = [([], d.plainText)] := by
  cases d with
  | array es => exact absurd h.symm Bool.false_ne_true
  | object ms => exact absurd h.symm Bool.false_ne_true
  | _ => rfl

/-- The leaves of a container are those of its children. -/
theorem leaves_container {d : Document} (h : isContainer d) : leaves d =
    d.children.flatMap fun c => below (.ofStep c.1) (leaves c.2) := by
  cases d with
  | array es =>
      rw [leaves, leavesElements_eq, Document.children, List.flatMap_map]
      rfl
  | object ms =>
      rw [leaves, leavesMembers_eq, Document.children, List.flatMap_map]
      rfl
  | _ => exact absurd h Bool.false_ne_true

/-! ### Writing -/

/-- The text of one leaf below a key. -/
def leafEntry (pre : List Char) (leaf : Leaf) : List Char :=
  entry (pre ++ spell (!pre.isEmpty) leaf.1) (escapeValue leaf.2.toList)

theorem escapeValue_numeral {cs : List Char} (h : IsNumeral cs) : escapeValue cs = cs := by
  refine escapeValue_eq_self fun c hc => ?_
  refine ⟨?_, ?_, ?_, ?_, ?_⟩ <;> (rintro rfl; exact absurd (h _ hc) (by decide))

theorem leafEntry_of_ne_nil {pre : List Char} (hPre : pre ≠ []) (e : Leaf) :
    leafEntry pre e = entry (pre ++ spell true e.1) (escapeValue e.2.toList) := by
  have hDotted : (!pre.isEmpty) = true := by simpa using hPre
  rw [leafEntry, hDotted]

theorem leafEntry_element (pre : List Char) (n : Nat) (e : Leaf) :
    leafEntry (elementKey pre n) e = leafEntry pre (.index n :: e.1, e.2) := by
  rw [leafEntry_of_ne_nil (by simp [elementKey])]
  simp [leafEntry, elementKey, spell]

theorem leafEntry_member (pre : List Char) {name : String} (hName : name ≠ "") (e : Leaf) :
    leafEntry (memberKey pre name) e = leafEntry pre (.field name :: e.1, e.2) := by
  have hKey : escapeKey name.toList ≠ [] := escapeKey_ne_nil (by simpa using hName)
  cases pre with
  | nil =>
      rw [leafEntry_of_ne_nil (by simpa [memberKey] using hKey)]
      simp [leafEntry, memberKey, spell]
  | cons c pre =>
      rw [leafEntry_of_ne_nil (by simp [memberKey])]
      simp [leafEntry, memberKey, spell]

/-- Written below a longer key or seen from above, the lines are the same. -/
theorem flatMap_leafEntry_below {pre key : List Char} {p : Part}
    (h : ∀ e, leafEntry key e = leafEntry pre (p :: e.1, e.2)) (es : List Leaf) :
    es.flatMap (leafEntry key) = (below p es).flatMap (leafEntry pre) := by
  rw [below, List.flatMap_map]
  exact List.flatMap_congr fun e _ => h e

/-- Is a document written as the lines of its leaves, below every key? -/
def WritesLeaves (d : Document) : Prop :=
  ∀ pre, write pre d = .ok ((leaves d).flatMap (leafEntry pre))

/-- A scalar is written as one line. The texts of truth values and numbers need no backslashes. -/
theorem writesLeaves_scalar {d : Document} (h : isContainer d = false) : WritesLeaves d := by
  intro pre
  have hLine : leafEntry pre ([], d.plainText) = entry pre (escapeValue d.plainText.toList) := by
    rw [leafEntry, spell, List.append_nil]
  rw [leaves_scalar h, List.flatMap_singleton, hLine]
  cases d with
  | null => rfl
  | string s => rfl
  | boolean b => cases b <;> rfl
  | number n =>
      have hText : (Document.number n).plainText.toList = n.text := String.toList_ofList
      rw [write, hText, escapeValue_numeral n.isNumeral_text]
  | _ => exact absurd h.symm Bool.false_ne_true

theorem writeElements_eq_ok {es : List Document} (h : ∀ e ∈ es, WritesLeaves e) (pre : List Char)
    (n : Nat) : writeElements pre n es = .ok ((leavesElements n es).flatMap (leafEntry pre)) := by
  induction es generalizing n with
  | nil => rfl
  | cons e es ih =>
      obtain ⟨hHead, hTail⟩ := List.forall_mem_cons.mp h
      rw [writeElements, hHead (elementKey pre n), leavesElements, List.flatMap_append,
        flatMap_leafEntry_below (leafEntry_element pre n), ih hTail]
      rfl

theorem writeMembers_eq_ok {ms : Members} (hNames : ∀ m ∈ ms, m.1 ≠ "")
    (h : ∀ m ∈ ms, WritesLeaves m.2) (pre : List Char) :
    writeMembers pre ms = .ok ((leavesMembers ms).flatMap (leafEntry pre)) := by
  induction ms with
  | nil => rfl
  | cons m ms ih =>
      obtain ⟨name, d⟩ := m
      obtain ⟨hName, hNames⟩ := List.forall_mem_cons.mp hNames
      obtain ⟨hHead, hTail⟩ := List.forall_mem_cons.mp h
      have hSome : ¬name.isEmpty = true := by simpa using hName
      rw [writeMembers, if_neg hSome, hHead (memberKey pre name), leavesMembers, List.flatMap_append,
        flatMap_leafEntry_below (leafEntry_member pre hName), ih hNames hTail]
      rfl

/-- A document can be written if all its keys have names. -/
theorem writesLeaves {d : Document} (h : d.NamedKeys) : WritesLeaves d := by
  induction d using Document.induction_kinds with
  | array es ih =>
      have hElements := Document.namedKeys_array_iff.mp h
      intro pre
      rw [write, leaves]
      exact writeElements_eq_ok (fun e he => ih e he (hElements e he)) pre 0
  | object ms ih =>
      obtain ⟨hNames, hMembers⟩ := Document.namedKeys_object_iff.mp h
      intro pre
      rw [write, leaves]
      exact writeMembers_eq_ok hNames (fun m hm => ih m hm (hMembers m hm)) pre
  | null => exact writesLeaves_scalar rfl
  | boolean b => exact writesLeaves_scalar rfl
  | number n => exact writesLeaves_scalar rfl
  | string s => exact writesLeaves_scalar rfl

end Properties

end Cabinet
