import Cabinet.Schema.Basic
import Mathlib.Data.List.Induction
import Mathlib.Data.List.Nodup
import Mathlib.Tactic.Common

/-! Declaring attributes one after the other. The attributes that come out of it are the last
declarations of the names, each name once. -/

namespace Cabinet

namespace Attributes

/-- The last declaration of a name. -/
def latest? (name : String) : Attributes → Option (Bool × Schema)
  | [] => none
  | a :: rest => (latest? name rest).or (if a.1 = name then some a.2 else none)

/-- The attributes that a list of declarations makes. -/
def ofList (declarations : Attributes) : Attributes :=
  declarations.foldl (fun made a => made.declare a.1 a.2.1 a.2.2) []

def names (attributes : Attributes) : List String :=
  attributes.map Prod.fst

variable {name : String} {attributes more : Attributes}

theorem latest?_append : latest? name (attributes ++ more) =
    (latest? name more).or (latest? name attributes) := by
  induction attributes with
  | nil => simp [latest?]
  | cons a attributes ih => rw [List.cons_append, latest?, latest?, ih, Option.or_assoc]

theorem latest?_swap (front back : Attributes) {a b : String × Bool × Schema} (hNames : a.1 ≠ b.1)
    (name : String) : latest? name (front ++ b :: a :: back) =
      latest? name (front ++ a :: b :: back) := by
  rw [latest?_append, latest?_append]
  simp only [latest?, Option.or_assoc]
  by_cases ha : a.1 = name
  · have hb : b.1 ≠ name := fun hb => hNames (ha.trans hb.symm)
    simp [ha, hb]
  · simp [ha]

/-- Another schema for one declaration matters where this declaration is the last one. -/
theorem latest?_replace (front back : Attributes) (name : String) (required : Bool) (s t : Schema)
    (k : String) :
    latest? k (front ++ (name, required, t) :: back) =
        latest? k (front ++ (name, required, s) :: back) ∨
      latest? k (front ++ (name, required, t) :: back) = some (required, t) ∧
        latest? k (front ++ (name, required, s) :: back) = some (required, s) := by
  simp only [latest?_append, latest?]
  cases latest? k back with
  | some a => exact Or.inl (by simp)
  | none =>
      by_cases hName : name = k
      · exact Or.inr (by simp [hName])
      · exact Or.inl (by simp [hName])

theorem mem_of_latest? {a : Bool × Schema} (h : latest? name attributes = some a) :
    (name, a) ∈ attributes := by
  induction attributes with
  | nil => simp [latest?] at h
  | cons b attributes ih =>
      rw [latest?, Option.or_eq_some_iff] at h
      rcases h with hLater | ⟨-, hHere⟩
      · exact List.mem_cons_of_mem _ (ih hLater)
      · split at hHere
        · rename_i hName
          cases hHere
          exact hName ▸ List.mem_cons_self ..
        · cases hHere

/-- A name has a last declaration when it is declared at all. -/
theorem latest?_eq_none_iff : latest? name attributes = none ↔ name ∉ names attributes := by
  induction attributes with
  | nil => simp [latest?, names]
  | cons a attributes ih =>
      rw [latest?, Option.or_eq_none_iff, ih]
      simp only [names, List.map_cons, List.mem_cons, not_or]
      split <;> simp_all [eq_comm]

/-- A change of the schemas alone. -/
theorem latest?_map (f : Schema → Schema) (name : String) (attributes : Attributes) :
    latest? name (attributes.map fun a => (a.1, a.2.1, f a.2.2)) =
      (latest? name attributes).map fun a => (a.1, f a.2) := by
  induction attributes with
  | nil => rfl
  | cons a attributes ih =>
      rw [List.map_cons, latest?, latest?, ih, Option.map_or]
      split <;> rfl

/-- Where no name comes twice, every attribute is the last declaration of its name. -/
theorem latest?_eq_some_iff_mem {a : Bool × Schema} (h : (names attributes).Nodup) :
    latest? name attributes = some a ↔ (name, a) ∈ attributes := by
  refine ⟨mem_of_latest?, fun hMem => ?_⟩
  induction attributes with
  | nil => cases hMem
  | cons b attributes ih =>
      obtain ⟨hFresh, hRest⟩ := List.nodup_cons.mp h
      rw [latest?, Option.or_eq_some_iff, latest?_eq_none_iff]
      rcases List.mem_cons.mp hMem with rfl | hLater
      · exact Or.inr ⟨hFresh, if_pos rfl⟩
      · exact Or.inl (ih hRest hLater)

theorem mem_names_declare {required : Bool} {schema : Schema} {other : String} :
    other ∈ names (declare name required schema attributes) ↔
      other = name ∨ other ∈ names attributes := by
  induction attributes with
  | nil => simp [declare, names]
  | cons a attributes ih =>
      by_cases hName : a.1 = name
      · simp [declare, names, hName]
      · simp only [names] at ih ⊢
        simp only [declare, hName, if_false, List.map_cons, List.mem_cons, ih]
        tauto

theorem nodup_names_declare (required : Bool) (schema : Schema) (h : (names attributes).Nodup) :
    (names (declare name required schema attributes)).Nodup := by
  induction attributes with
  | nil => simp [declare, names]
  | cons a attributes ih =>
      obtain ⟨hFresh, hRest⟩ := List.nodup_cons.mp h
      by_cases hName : a.1 = name
      · simpa [declare, names, hName] using h
      · have hStill : a.1 ∉ names (declare name required schema attributes) := by
          rw [mem_names_declare, not_or]
          exact ⟨hName, hFresh⟩
        simp only [declare, hName, if_false]
        exact List.nodup_cons.mpr ⟨hStill, ih hRest⟩

/-- A declaration counts for its name from then on, and for no other name. -/
theorem latest?_declare (required : Bool) (schema : Schema) (other : String)
    (h : (names attributes).Nodup) : latest? other (declare name required schema attributes) =
      if name = other then some (required, schema) else latest? other attributes := by
  induction attributes with
  | nil => simp [declare, latest?]
  | cons a attributes ih =>
      obtain ⟨hFresh, hRest⟩ := List.nodup_cons.mp h
      by_cases hName : a.1 = name
      · rw [declare, if_pos hName, latest?, latest?, hName]
        split
        · rename_i hOther
          rw [latest?_eq_none_iff.mpr (hOther ▸ hName ▸ hFresh), Option.none_or]
        · rfl
      · rw [declare, if_neg hName, latest?, latest?, ih hRest]
        split
        · rw [Option.some_or]
        · rfl

theorem nodup_names_ofList (declarations : Attributes) : (names (ofList declarations)).Nodup :=
  List.foldlRecOn declarations _ (motive := fun made => (names made).Nodup) List.nodup_nil
    fun _ hMade a _ => nodup_names_declare a.2.1 a.2.2 hMade

/-- What has been made counts as the declarations do. -/
theorem latest?_ofList (name : String) (declarations : Attributes) :
    latest? name (ofList declarations) = latest? name declarations := by
  induction declarations using List.reverseRecOn with
  | nil => rfl
  | append_singleton declarations a ih =>
      have hMade : ofList (declarations ++ [a]) = (ofList declarations).declare a.1 a.2.1 a.2.2 := by
        rw [ofList, List.foldl_append]
        rfl
      rw [hMade, latest?_declare _ _ _ (nodup_names_ofList declarations), ih, latest?_append]
      simp only [latest?, Option.none_or]
      split <;> rfl

/-- The attributes that are made are the last declarations of the names. -/
theorem mem_ofList_iff {declarations : Attributes} {a : String × Bool × Schema} :
    a ∈ ofList declarations ↔ latest? a.1 declarations = some a.2 := by
  rw [← latest?_ofList, latest?_eq_some_iff_mem (nodup_names_ofList declarations)]

end Attributes

end Cabinet
