import Cabinet.Schema.Check

/-! What a check says does not depend on where it is made. Its verdict and its complaints are those
of a run from the root; around it only the location in front of the complaints differs. What it has
found is recorded behind the complaints that were there, and it refuses a document exactly when it
finds something. -/

namespace Cabinet

/-- The complaint as it is seen from above, with another location in front of its own. -/
def ValidationError.below (l : Location) (e : ValidationError) : ValidationError :=
  { e with location := l ++ e.location }

namespace Context

/-- Record what has been found from the current location on. -/
def record (found : List ValidationError) (c : Context) : Context :=
  { c with errors := c.errors ++ found.map (·.below c.location) }

theorem record_nil (c : Context) : c.record [] = c := by
  simp [record]

theorem record_append (found more : List ValidationError) (c : Context) :
    c.record (found ++ more) = (c.record found).record more := by
  simp [record]

theorem errors_record_root (found : List ValidationError) : (record found root).errors = found := by
  simp [record, root, ValidationError.below]

theorem complain_eq_record (text : String) (c : Context) :
    c.complain text = c.record [⟨[], text⟩] := by
  simp [complain, record, ValidationError.below]

/-- What is found one step down is found below that step. -/
theorem pop_record_push (s : Step) (found : List ValidationError) (c : Context) :
    ((c.push s).record found).pop = c.record (found.map (·.below [s])) := by
  simp [push, record, pop, ValidationError.below, Function.comp_def]

end Context

/-! ### Runs -/

/-- A run that finds the same wherever it begins, and accepts when it finds nothing. -/
def IsLocal (run : Context → Bool × Context) : Prop :=
  ∃ found, ∀ c, run c = (found.isEmpty, c.record found)

/-- A part of a run that finds the same wherever the run has come to, and leaves the verdict as it is
when it finds nothing. -/
def IsLocalPart (part : Bool × Context → Bool × Context) : Prop :=
  ∃ found, ∀ ok c, part (ok, c) = (ok && found.isEmpty, c.record found)

def Check.IsLocal (check : Check) : Prop :=
  ∀ d, Cabinet.IsLocal (check d)

theorem isLocal_accept : IsLocal fun c => (true, c) := by
  refine ⟨[], fun c => ?_⟩
  rw [Context.record_nil, List.isEmpty_nil]

theorem isLocal_refuse (text : String) : IsLocal fun c => (false, c.complain text) := by
  refine ⟨[⟨[], text⟩], fun c => ?_⟩
  simp only [Context.complain_eq_record, List.isEmpty_cons]

theorem IsLocalPart.isLocal {part : Bool × Context → Bool × Context} (h : IsLocalPart part) :
    IsLocal fun c => part (true, c) := by
  obtain ⟨found, hFound⟩ := h
  exact ⟨found, hFound true⟩

/-! ### Parts of a run -/

namespace IsLocalPart

variable {part next : Bool × Context → Bool × Context}

theorem same : IsLocalPart fun state => state := by
  refine ⟨[], fun ok c => ?_⟩
  rw [Context.record_nil, List.isEmpty_nil, Bool.and_true]

theorem comp (h : IsLocalPart part) (hNext : IsLocalPart next) :
    IsLocalPart fun state => next (part state) := by
  obtain ⟨found, hFound⟩ := h
  obtain ⟨more, hMore⟩ := hNext
  refine ⟨found ++ more, fun ok c => ?_⟩
  have hEmpty : (found ++ more).isEmpty = (found.isEmpty && more.isEmpty) := by
    cases found <;> rfl
  simp only [hFound, hMore, hEmpty, Bool.and_assoc, Context.record_append]

/-- A loop whose turns are local. -/
theorem foldl {α : Type} {turn : Bool × Context → α → Bool × Context} {items : List α}
    (h : ∀ a ∈ items, IsLocalPart (turn · a)) : IsLocalPart (items.foldl turn ·) := by
  induction items with
  | nil => exact same
  | cons a items ih =>
      obtain ⟨hHead, hTail⟩ := List.forall_mem_cons.mp h
      exact hHead.comp (ih hTail)

theorem require (condition : Bool) (text : String) :
    IsLocalPart (Context.require condition text) := by
  cases condition with
  | true => exact same
  | false =>
      refine ⟨[⟨[], text⟩], fun ok c => ?_⟩
      rw [List.isEmpty_cons, Bool.and_false, ← Context.complain_eq_record]
      rfl

/-- A check one step down, as a part of the run around it. -/
theorem below {check : Check} (h : check.IsLocal) (s : Step) (d : Document) :
    IsLocalPart (check.below s d) := by
  obtain ⟨found, hFound⟩ := h d
  refine ⟨found.map (·.below [s]), fun ok c => ?_⟩
  rw [Check.below, hFound, Context.pop_record_push, List.isEmpty_map]

end IsLocalPart

/-! ### Scalars -/

theorem Kind.isLocal_check (k : Kind) : k.check.IsLocal := by
  intro d
  unfold Kind.check
  split
  · exact isLocal_accept
  · exact isLocal_refuse _

theorem StringRule.isLocal_check (r : StringRule) : r.check.IsLocal := by
  intro d
  unfold StringRule.check
  split
  · exact isLocal_refuse _
  · exact ((((IsLocalPart.require _ _).comp (.require _ _)).comp (.require _ _)).comp
      (.require _ _)).isLocal

theorem IntegerRule.isLocal_check (r : IntegerRule) : r.check.IsLocal := by
  intro d
  unfold IntegerRule.check
  split
  · exact isLocal_refuse _
  · split
    · exact isLocal_accept
    · exact isLocal_refuse _

theorem NumberRule.isLocal_check (r : NumberRule) : r.check.IsLocal := by
  intro d
  unfold NumberRule.check
  split
  · exact isLocal_refuse _
  · exact (((IsLocalPart.require _ _).comp (.require _ _)).comp (.require _ _)).isLocal

/-! ### Containers -/

section Containers

variable {attributes : List (String × Bool × Check)} {checks : List Check}

theorem isLocalPart_requireAll (attributes : List (String × Bool × Check)) (ms : Members) :
    IsLocalPart (requireAll attributes ms) :=
  .foldl fun _ _ => .require _ _

theorem isLocal_memberCheck (h : ∀ a ∈ attributes, a.2.2.IsLocal) (allowUnknown : Bool)
    (name : String) : (memberCheck attributes allowUnknown name).IsLocal := by
  unfold memberCheck
  split
  · rename_i a hFound
    exact h a (List.mem_of_find?_eq_some hFound)
  · intro d
    cases allowUnknown with
    | true => exact isLocal_accept
    | false => exact isLocal_refuse _

theorem isLocal_checkObject (h : ∀ a ∈ attributes, a.2.2.IsLocal) (allowUnknown : Bool) :
    (checkObject attributes allowUnknown).IsLocal := by
  intro d
  unfold checkObject
  split
  · exact isLocal_refuse _
  · rename_i ms _
    have hMembers : IsLocalPart (ms.foldl (fun state m =>
        (memberCheck attributes allowUnknown m.1).below (.key m.1) m.2 state) ·) :=
      .foldl fun m _ => .below (isLocal_memberCheck h allowUnknown m.1) (.key m.1) m.2
    exact ((isLocalPart_requireAll attributes ms).comp hMembers).isLocal

theorem isLocal_checkArray {element : Option Check} (h : ∀ check ∈ element, check.IsLocal)
    (least most : Option Nat) : (checkArray element least most).IsLocal := by
  intro d
  unfold checkArray
  split
  · exact isLocal_refuse _
  · rename_i es _
    have hBounds := (IsLocalPart.require (passes least fun n => n ≤ es.length)
      s!"array has fewer than {least.getD 0} elements").comp
      (.require (passes most fun n => es.length ≤ n)
        s!"array has more than {most.getD 0} elements")
    cases element with
    | none => exact hBounds.isLocal
    | some check =>
        have hElements : IsLocalPart (es.zipIdx.foldl (fun state e =>
            check.below (.index e.2) e.1 state) ·) :=
          .foldl fun e _ => .below (h check rfl) (.index e.2) e.1
        exact (hBounds.comp hElements).isLocal

/-! ### Combinations -/

/-- The verdict is the same everywhere. -/
theorem Check.IsLocal.verdict_eq {check : Check} (h : check.IsLocal) (d : Document)
    (c others : Context) : (check d c).1 = (check d others).1 := by
  obtain ⟨found, hFound⟩ := h d
  rw [hFound, hFound]

/-- Of alternatives, nothing is recorded but that none of them accepts. -/
theorem checkAny_eq (expected : String) (checks : List Check) (d : Document) (c : Context) :
    checkAny expected checks d c = (true, c) ∨
      checkAny expected checks d c = (false, c.complain ("expected " ++ expected)) := by
  unfold checkAny
  split
  · exact .inl rfl
  · exact .inr rfl

theorem isLocal_checkAny (h : ∀ check ∈ checks, check.IsLocal) (expected : String) :
    (checkAny expected checks).IsLocal := by
  intro d
  have hVerdict (c : Context) : (checks.any fun check => (check d c.fork).1) =
      checks.any fun check => (check d .root).1 := by
    rw [Bool.eq_iff_iff, List.any_eq_true, List.any_eq_true]
    refine exists_congr fun check => and_congr_right fun hCheck => ?_
    rw [(h check hCheck).verdict_eq d c.fork .root]
  unfold checkAny
  simp only [hVerdict]
  split
  · exact isLocal_accept
  · exact isLocal_refuse _

theorem isLocal_checkAll (h : ∀ check ∈ checks, check.IsLocal) : (checkAll checks).IsLocal := by
  intro d
  induction checks with
  | nil => exact isLocal_accept
  | cons check checks ih =>
      obtain ⟨hHead, hTail⟩ := List.forall_mem_cons.mp h
      obtain ⟨found, hFound⟩ := hHead d
      obtain ⟨more, hMore⟩ := ih hTail
      cases found with
      | nil =>
          refine ⟨more, fun c => ?_⟩
          rw [checkAll, hFound, Context.record_nil]
          exact hMore c
      | cons e found =>
          refine ⟨e :: found, fun c => ?_⟩
          rw [checkAll, hFound]
          rfl

end Containers

/-! ### Schemas -/

mutual

/-- The check of a schema is local, whatever it is combined from. -/
theorem Schema.isLocal_check : ∀ s : Schema, s.check.IsLocal
  | .anything => fun _ => isLocal_accept
  | .nothing => fun _ => isLocal_refuse _
  | .kind k => k.isLocal_check
  | .string rule => rule.isLocal_check
  | .integer rule => rule.isLocal_check
  | .number rule => rule.isLocal_check
  | .object attributes allowUnknown =>
      isLocal_checkObject (isLocal_attributeChecks attributes) allowUnknown
  | .array element least most => isLocal_checkArray (isLocal_elementCheck element) least most
  | .any alternatives => isLocal_checkAny (isLocal_eachCheck alternatives) _
  | .all parts => isLocal_checkAll (isLocal_eachCheck parts)

theorem isLocal_attributeChecks : ∀ attributes : List (String × Bool × Schema),
    ∀ a ∈ attributeChecks attributes, a.2.2.IsLocal
  | [] => List.forall_mem_nil _
  | (_, _, s) :: rest =>
      List.forall_mem_cons.mpr ⟨s.isLocal_check, isLocal_attributeChecks rest⟩

theorem isLocal_elementCheck : ∀ element : Option Schema,
    ∀ check ∈ elementCheck element, check.IsLocal
  | none => fun _ hCheck => absurd hCheck (Option.not_mem_none _)
  | some s => fun _ hCheck => Option.mem_some.mp hCheck ▸ s.isLocal_check

theorem isLocal_eachCheck : ∀ schemas : List Schema, ∀ check ∈ eachCheck schemas, check.IsLocal
  | [] => List.forall_mem_nil _
  | s :: rest => List.forall_mem_cons.mpr ⟨s.isLocal_check, isLocal_eachCheck rest⟩

end

/-- Of the context of a check, only the location counts, and only in front of the complaints. The
verdict is that of a check from the root, the complaints are those of a check from the root behind the
ones that were there, and the context is left where it was. A document is accepted exactly when
nothing is found. Alternatives add nothing or, at the current location, one complaint. -/
theorem Schema.check_eq_check_root (s : Schema) (d : Document) (c : Context) :
    s.check d c =
      ((s.check d .root).1,
        ⟨c.location, c.errors ++ (s.check d .root).2.errors.map (·.below c.location)⟩) ∧
    ((s.check d .root).1 = true ↔ (s.check d .root).2.errors = []) ∧
    (s.errors d = [] ↔ (s.check d c).1 = true) ∧
    ∀ alternatives : List Schema,
      (any alternatives).check d c = (true, c) ∨
        (any alternatives).check d c =
          (false, c.complain ("expected " ++ (any alternatives).describe)) := by
  obtain ⟨found, hFound⟩ := s.isLocal_check d
  have hErrors : (s.check d .root).2.errors = found := by
    rw [hFound, Context.errors_record_root]
  have hVerdict (c : Context) : (s.check d c).1 = true ↔ found = [] := by
    rw [hFound, List.isEmpty_iff]
  refine ⟨?_, ?_, ?_, fun alternatives => ?_⟩
  · rw [hErrors, hFound, hFound]
    rfl
  · rw [hErrors, hVerdict]
  · rw [errors, hErrors, hVerdict]
  · rw [check, describe]
    exact checkAny_eq _ (eachCheck alternatives) d c

end Cabinet
