import Cabinet.Proofs.Document.Tree

/-! How deep the containers of a document lie in each other, and documents without floating-point
numbers. -/

namespace Cabinet.Document

/-- Induction over a document, with a case for each kind. What is to be shown may be taken for
granted for the elements of an array and the values of an object. -/
theorem induction_kinds {motive : Document → Prop} (null : motive .null)
    (boolean : ∀ b, motive (.boolean b)) (number : ∀ n, motive (.number n))
    (string : ∀ s, motive (.string s))
    (array : ∀ es, (∀ e ∈ es, motive e) → motive (.array es))
    (object : ∀ ms, (∀ m ∈ ms, motive m.2) → motive (.object ms)) (d : Document) : motive d := by
  induction d using induction_children with
  | step d ih =>
      cases d with
      | null => exact null
      | boolean b => exact boolean b
      | number n => exact number n
      | string s => exact string s
      | array es =>
          refine array es fun e he => ?_
          obtain ⟨n, hn⟩ := List.mem_iff_getElem?.mp he
          exact ih (.index n, e) (mem_children_array.mpr ⟨n, rfl, hn⟩)
      | object ms =>
          exact object ms fun m hm => ih (.key m.1, m.2) (mem_children_object.mpr ⟨m.1, rfl, hm⟩)

mutual

/-- How many containers lie in each other, the document itself counted. -/
def depth : Document → Nat
  | array es => depthElements es + 1
  | object ms => depthMembers ms + 1
  | _ => 0

def depthElements : List Document → Nat
  | [] => 0
  | d :: ds => max d.depth (depthElements ds)

def depthMembers : List (String × Document) → Nat
  | [] => 0
  | (_, d) :: ms => max d.depth (depthMembers ms)

end

theorem depthElements_le_iff {es : List Document} {n : Nat} :
    depthElements es ≤ n ↔ ∀ e ∈ es, e.depth ≤ n := by
  induction es with
  | nil => simp [depthElements]
  | cons e es ih => rw [depthElements, Nat.max_le, ih, List.forall_mem_cons]

theorem depthMembers_le_iff {ms : Members} {n : Nat} :
    depthMembers ms ≤ n ↔ ∀ m ∈ ms, m.2.depth ≤ n := by
  induction ms with
  | nil => simp [depthMembers]
  | cons m ms ih => rw [depthMembers, Nat.max_le, ih, List.forall_mem_cons]

/-- Is a document anything but a floating-point number? -/
def isExact : Document → Bool
  | number (.float _) => false
  | _ => true

/-- No number in the document is a floating-point number. -/
def Exact (d : Document) : Prop :=
  d.all isExact

instance (d : Document) : Decidable d.Exact :=
  inferInstanceAs (Decidable (d.all isExact = true))

theorem exact_array_iff {es : List Document} : (array es).Exact ↔ ∀ e ∈ es, e.Exact := by
  simp only [Exact, all, isExact, Bool.true_and, allElements_iff]

theorem exact_object_iff {ms : Members} : (object ms).Exact ↔ ∀ m ∈ ms, m.2.Exact := by
  simp only [Exact, all, isExact, Bool.true_and, allMembers_iff]

theorem not_exact_float (x : Float) : ¬(number (.float x)).Exact := by
  simp [Exact, all, isExact]

end Cabinet.Document
