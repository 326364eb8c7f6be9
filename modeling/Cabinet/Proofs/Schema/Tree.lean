import Cabinet.Schema.Check
import Mathlib.Tactic.Common

/-! Schemas as trees: one induction for all of them, and the checks of the parts of a schema. -/

namespace Cabinet

/-- Induction over a schema, with a case for each kind. What is to be shown may be taken for granted
for the schemas of the attributes, for that of the elements, and for all that are combined. -/
theorem Schema.induction_parts {motive : Schema → Prop} (anything : motive .anything)
    (nothing : motive .nothing) (kind : ∀ k, motive (.kind k)) (string : ∀ r, motive (.string r))
    (integer : ∀ r, motive (.integer r)) (number : ∀ r, motive (.number r))
    (object : ∀ attributes allowUnknown, (∀ a ∈ attributes, motive a.2.2) →
      motive (.object attributes allowUnknown))
    (array : ∀ element least most, (∀ s ∈ element, motive s) → motive (.array element least most))
    (any : ∀ alternatives, (∀ s ∈ alternatives, motive s) → motive (.any alternatives))
    (all : ∀ parts, (∀ s ∈ parts, motive s) → motive (.all parts)) (s : Schema) : motive s :=
  @Schema.rec motive (fun attributes => ∀ a ∈ attributes, motive a.2.2)
    (fun element => ∀ s ∈ element, motive s) (fun schemas => ∀ s ∈ schemas, motive s)
    (fun a => motive a.2.2) (fun a => motive a.2)
    anything nothing kind string integer number object array any all
    (List.forall_mem_nil _) (fun _ _ hHead hTail => List.forall_mem_cons.mpr ⟨hHead, hTail⟩)
    (fun _ h => absurd h (Option.not_mem_none _)) (fun _ h _ hs => Option.mem_some.mp hs ▸ h)
    (List.forall_mem_nil _) (fun _ _ hHead hTail => List.forall_mem_cons.mpr ⟨hHead, hTail⟩)
    (fun _ _ h => h) (fun _ _ h => h) s

theorem attributeChecks_eq (attributes : Attributes) :
    attributeChecks attributes = attributes.map fun a => (a.1, a.2.1, a.2.2.check) := by
  induction attributes with
  | nil => rfl
  | cons a attributes ih => rw [attributeChecks, ih, List.map_cons]

theorem elementCheck_eq (element : Option Schema) :
    elementCheck element = element.map Schema.check := by
  cases element <;> rfl

theorem eachCheck_eq (schemas : List Schema) : eachCheck schemas = schemas.map Schema.check := by
  induction schemas with
  | nil => rfl
  | cons s schemas ih => rw [eachCheck, ih, List.map_cons]

/-- What holds of the check of every part holds of all checks that a combination is made from. -/
theorem forall_mem_eachCheck {motive : Check → Prop} {schemas : List Schema}
    (h : ∀ s ∈ schemas, motive s.check) : ∀ check ∈ eachCheck schemas, motive check := by
  rw [eachCheck_eq]
  exact List.forall_mem_map.mpr h

theorem forall_mem_elementCheck {motive : Check → Prop} {element : Option Schema}
    (h : ∀ s ∈ element, motive s.check) : ∀ check ∈ elementCheck element, motive check := by
  intro check hCheck
  rw [elementCheck_eq] at hCheck
  obtain ⟨s, hs, rfl⟩ := Option.map_eq_some_iff.mp hCheck
  exact h s hs

theorem forall_mem_attributeChecks {motive : Check → Prop} {attributes : Attributes}
    (h : ∀ a ∈ attributes, motive a.2.2.check) :
    ∀ a ∈ attributeChecks attributes, motive a.2.2 := by
  rw [attributeChecks_eq]
  exact List.forall_mem_map.mpr h

end Cabinet
