import Cabinet.Proofs.Document.Members
import Cabinet.Proofs.Pattern.Anchoring
import Cabinet.Proofs.Schema.Declarations
import Cabinet.Proofs.Schema.Tree
import Cabinet.Proofs.Text.Integer

/-! What schemas mean. `Accepts` has one rule for each kind of schema and speaks neither of contexts
nor of any order; of several declarations of a name the last one counts. A check accepts a document
exactly when the rules do. -/

namespace Cabinet

/-- What counts as one of a kind: an integer where it fits, and no number that is not finite. -/
inductive Document.CoercesTo : Document → Kind → Prop where
  | null : CoercesTo null .null
  | boolean (b : Bool) : CoercesTo (boolean b) .boolean
  | integer {n : Integer} (hLow : -2147483648 ≤ n.val) (hHigh : n.val ≤ 2147483647) :
      CoercesTo (number (.integer n)) .integer
  | long {n : Integer} (hHigh : n.val ≤ 9223372036854775807) : CoercesTo (number (.integer n)) .long
  | exact (n : Integer) : CoercesTo (number (.integer n)) .number
  | finite {x : Float} (hFinite : x.isFinite) : CoercesTo (number (.float x)) .number
  | string (s : String) : CoercesTo (string s) .string
  | array (es : List Document) : CoercesTo (array es) .array
  | object (ms : Members) : CoercesTo (object ms) .object

theorem Number.within?_eq_some_iff {w : Width} {n : Number} {i : Int} :
    n.within? w = some i ↔ ∃ m, n = integer m ∧ m.val = i ∧ w.low ≤ i ∧ i ≤ w.high := by
  cases n with
  | float x => simp [within?]
  | integer m =>
      simp only [within?, Option.ite_none_right_eq_some, Width.contains_iff, Option.some.injEq,
        integer.injEq, exists_eq_left']
      constructor
      · rintro ⟨hWithin, rfl⟩
        exact ⟨rfl, hWithin⟩
      · rintro ⟨rfl, hWithin⟩
        exact ⟨hWithin, rfl⟩

theorem Document.number?_eq_some_iff {d : Document} {n : Number} :
    d.number? = some n ↔ d = number n := by
  cases d <;> simp [number?]

theorem Document.is_iff_coercesTo {d : Document} {k : Kind} : d.is k ↔ d.CoercesTo k := by
  constructor
  · intro h
    cases k with
    | null => cases d <;> cases h; exact .null
    | boolean => cases d <;> cases h; exact .boolean _
    | string => cases d <;> cases h; exact .string _
    | array => cases d <;> cases h; exact .array _
    | object => cases d <;> cases h; exact .object _
    | integer =>
        obtain ⟨i, hi⟩ := Option.isSome_iff_exists.mp h
        obtain ⟨n, hn, hWithin⟩ := Option.bind_eq_some_iff.mp hi
        obtain ⟨m, rfl, rfl, hLow, hHigh⟩ := Number.within?_eq_some_iff.mp hWithin
        rw [number?_eq_some_iff.mp hn]
        exact .integer hLow hHigh
    | long =>
        obtain ⟨i, hi⟩ := Option.isSome_iff_exists.mp h
        obtain ⟨n, hn, hWithin⟩ := Option.bind_eq_some_iff.mp hi
        obtain ⟨m, rfl, rfl, -, hHigh⟩ := Number.within?_eq_some_iff.mp hWithin
        rw [number?_eq_some_iff.mp hn]
        exact .long hHigh
    | number =>
        obtain ⟨n, hn, hFinite⟩ := (Option.any_eq_true _ _).mp h
        rw [number?_eq_some_iff.mp hn]
        cases n with
        | integer m => exact .exact m
        | float x => exact .finite hFinite
  · intro h
    cases h with
    | integer hLow hHigh =>
        exact Option.isSome_iff_exists.mpr
          ⟨_, Number.within?_eq_some_iff.mpr ⟨_, rfl, rfl, hLow, hHigh⟩⟩
    | @long n hHigh =>
        exact Option.isSome_iff_exists.mpr
          ⟨_, Number.within?_eq_some_iff.mpr ⟨_, rfl, rfl, n.low_le, hHigh⟩⟩
    | finite hFinite => exact hFinite
    | _ => rfl

namespace Schema

mutual

/-- The schema as it is built: the attributes of every object are declared one after the other. -/
def built : Schema → Schema
  | object attributes allowUnknown =>
    object (Attributes.ofList (builtAttributes attributes)) allowUnknown
  | array element least most => array (builtElement element) least most
  | any alternatives => any (builtEach alternatives)
  | all parts => all (builtEach parts)
  | s => s

def builtAttributes : List (String × Bool × Schema) → List (String × Bool × Schema)
  | [] => []
  | (name, required, s) :: rest => (name, required, s.built) :: builtAttributes rest

def builtElement : Option Schema → Option Schema
  | none => none
  | some s => some s.built

def builtEach : List Schema → List Schema
  | [] => []
  | s :: rest => s.built :: builtEach rest

end

theorem builtAttributes_eq (attributes : Attributes) :
    builtAttributes attributes = attributes.map fun a => (a.1, a.2.1, a.2.2.built) := by
  induction attributes with
  | nil => rfl
  | cons a attributes ih => rw [builtAttributes, ih, List.map_cons]

theorem builtElement_eq (element : Option Schema) : builtElement element = element.map built := by
  cases element <;> rfl

theorem builtEach_eq (schemas : List Schema) : builtEach schemas = schemas.map built := by
  induction schemas with
  | nil => rfl
  | cons s schemas ih => rw [builtEach, ih, List.map_cons]

/-- The documents that a schema stands for. Nothing is required of a document but what the rule of its
schema says. -/
inductive Accepts : Schema → Document → Prop where
  | anything (d : Document) : Accepts anything d
  | kind {k : Kind} {d : Document} (hKind : d.CoercesTo k) : Accepts (kind k) d
  | string {r : StringRule} {d : Document} {s : String} (hString : d.string? = some s)
      (hLeast : ∀ n ∈ r.least, n ≤ s.length) (hMost : ∀ n ∈ r.most, s.length ≤ n)
      (hPattern : ∀ p ∈ r.pattern, p.accepts s) (hAllowed : ∀ values ∈ r.allowed, s ∈ values) :
      Accepts (string r) d
  | integer {r : IntegerRule} {d : Document} {n : Int} (hInteger : d.int64? = some n)
      (hTest : r.accepts n) : Accepts (integer r) d
  | number {r : NumberRule} {d : Document} {x : Float} (hNumber : d.float? = some x)
      (hLeast : ∀ n ∈ r.least, ¬x < n) (hMost : ∀ n ∈ r.most, ¬x > n)
      (hTest : ∀ t ∈ r.test, t.2 x) : Accepts (number r) d
  | object {attributes : Attributes} {allowUnknown : Bool} {d : Document} {ms : Members}
      (hObject : d.object? = some ms)
      (hRequired : ∀ name s, attributes.latest? name = some (true, s) → name ∈ Members.keys ms)
      (hKnown : ∀ m ∈ ms, ∀ required s, attributes.latest? m.1 = some (required, s) →
        Accepts s m.2)
      (hUnknown : ∀ m ∈ ms, attributes.latest? m.1 = none → allowUnknown) :
      Accepts (object attributes allowUnknown) d
  | array {element : Option Schema} {least most : Option Nat} {d : Document} {es : List Document}
      (hArray : d.array? = some es) (hLeast : ∀ n ∈ least, n ≤ es.length)
      (hMost : ∀ n ∈ most, es.length ≤ n) (hElements : ∀ s ∈ element, ∀ e ∈ es, Accepts s e) :
      Accepts (array element least most) d
  | any {alternatives : List Schema} {d : Document} {s : Schema} (hs : s ∈ alternatives)
      (hAccepts : Accepts s d) : Accepts (any alternatives) d
  | all {parts : List Schema} {d : Document} (hAccepts : ∀ s ∈ parts, Accepts s d) :
      Accepts (all parts) d

/-- Where the text of a pattern is a regular expression by itself, the strings of a schema are, within its bounds,
those that the expression matches in full. -/
theorem accepts_string_iff_matches {rule : StringRule} {d : Document} {p : Pattern} {source : String} {r : Regex}
    (hRead : Pattern.regex? source.toList = some r) (hParsed : Pattern.parse? source = some p)
    (hPattern : rule.pattern = some p) :
    Accepts (string rule) d ↔ ∃ s, d.string? = some s ∧ (∀ n ∈ rule.least, n ≤ s.length) ∧
      (∀ n ∈ rule.most, s.length ≤ n) ∧ r.Matches s.toList.toArray 0 s.length ∧
      ∀ values ∈ rule.allowed, s ∈ values := by
  have hWhole (s : String) : (∀ p ∈ rule.pattern, p.accepts s) ↔ r.Matches s.toList.toArray 0 s.length := by
    rw [hPattern]
    simp only [Option.mem_some_iff, forall_eq']
    exact Pattern.accepts_iff hRead hParsed
  constructor
  · intro h
    cases h with
    | string hString hLeast hMost hAll hAllowed =>
        exact ⟨_, hString, hLeast, hMost, (hWhole _).mp hAll, hAllowed⟩
  · rintro ⟨s, hString, hLeast, hMost, hMatches, hAllowed⟩
    exact .string hString hLeast hMost ((hWhole s).mpr hMatches) hAllowed

end Schema

/-! ### Verdicts of a run -/

section Verdicts

variable {state : Bool × Context} {d : Document} {p : Prop}

theorem require_accepts_iff {condition : Bool} {text : String} :
    (Context.require condition text state).1 = true ↔ state.1 = true ∧ condition = true := by
  cases condition <;> simp [Context.require]

theorem below_accepts_iff {check : Check} (h : ∀ c, (check d c).1 = true ↔ p) (s : Step) :
    (check.below s d state).1 = true ↔ state.1 = true ∧ p := by
  rw [Check.below, Bool.and_eq_true, h]

/-- A loop leaves the verdict standing when each of its turns does. -/
theorem foldl_accepts_iff {α : Type} {turn : Bool × Context → α → Bool × Context} {items : List α}
    {p : α → Prop} (h : ∀ a ∈ items, ∀ state, (turn state a).1 = true ↔ state.1 = true ∧ p a) :
    (items.foldl turn state).1 = true ↔ state.1 = true ∧ ∀ a ∈ items, p a := by
  induction items generalizing state with
  | nil => simp
  | cons a items ih =>
      obtain ⟨hHead, hTail⟩ := List.forall_mem_cons.mp h
      rw [List.foldl_cons, ih hTail, hHead, List.forall_mem_cons, and_assoc]

theorem refuseKind_fst (expected : String) (d : Document) (c : Context) :
    (refuseKind expected d c).1 = false := rfl

/-- An optional bound holds when it is not there. -/
theorem passes_iff {α : Type} {bound : Option α} {test : α → Bool} :
    passes bound test = true ↔ ∀ a ∈ bound, test a := by
  cases bound <;> simp [passes]

end Verdicts

/-! ### Checks -/

open Schema (Accepts)

/-- A check says yes to the documents of a schema and to no others, in every context. -/
def Check.Judges (check : Check) (s : Schema) : Prop :=
  ∀ d c, (check d c).1 = true ↔ s.Accepts d

theorem Kind.judges_check (k : Kind) : k.check.Judges (.kind k) := by
  intro d c
  have hRule : Accepts (.kind k) d ↔ d.CoercesTo k :=
    ⟨fun h => by cases h with | kind hKind => exact hKind, .kind⟩
  rw [hRule, ← Document.is_iff_coercesTo, Kind.check]
  cases d.is k <;> simp [refuseKind_fst]

theorem StringRule.judges_check (r : StringRule) : r.check.Judges (.string r) := by
  intro d c
  rw [StringRule.check]
  cases hString : d.string? with
  | none =>
      refine iff_of_false (by simp [refuseKind_fst]) fun h => ?_
      cases h with
      | string hSome => simp [hString] at hSome
  | some s =>
      simp only [require_accepts_iff, passes_iff, true_and, decide_eq_true_eq, and_assoc,
        List.contains_iff_mem]
      constructor
      · rintro ⟨hLeast, hMost, hPattern, hAllowed⟩
        exact .string hString hLeast hMost hPattern hAllowed
      · intro h
        cases h with
        | string hSome hLeast hMost hPattern hAllowed =>
            cases hString.symm.trans hSome
            exact ⟨hLeast, hMost, hPattern, hAllowed⟩

theorem IntegerRule.judges_check (r : IntegerRule) : r.check.Judges (.integer r) := by
  intro d c
  rw [IntegerRule.check]
  cases hInteger : d.int64? with
  | none =>
      refine iff_of_false (by simp [refuseKind_fst]) fun h => ?_
      cases h with
      | integer hSome => simp [hInteger] at hSome
  | some n =>
      have hRule : Accepts (.integer r) d ↔ r.accepts n := by
        refine ⟨fun h => ?_, .integer hInteger⟩
        cases h with
        | integer hSome hTest =>
            cases hInteger.symm.trans hSome
            exact hTest
      rw [hRule]
      by_cases hTest : r.accepts n <;> simp [hTest]

theorem NumberRule.judges_check (r : NumberRule) : r.check.Judges (.number r) := by
  intro d c
  rw [NumberRule.check]
  cases hNumber : d.float? with
  | none =>
      refine iff_of_false (by simp [refuseKind_fst]) fun h => ?_
      cases h with
      | number hSome => simp [hNumber] at hSome
  | some x =>
      simp only [require_accepts_iff, passes_iff, true_and, Bool.not_eq_true', decide_eq_false_iff_not,
        and_assoc]
      constructor
      · rintro ⟨hLeast, hMost, hTest⟩
        exact .number hNumber hLeast hMost hTest
      · intro h
        cases h with
        | number hSome hLeast hMost hTest =>
            cases hNumber.symm.trans hSome
            exact ⟨hLeast, hMost, hTest⟩

/-- Of alternatives one has to say yes. Each is asked in a context of its own. -/
theorem judges_checkAny {schemas : List Schema} (h : ∀ s ∈ schemas, s.built.check.Judges s)
    (expected : String) :
    (checkAny expected (eachCheck (Schema.builtEach schemas))).Judges (.any schemas) := by
  intro d c
  have hAny : ((eachCheck (Schema.builtEach schemas)).any fun check => (check d c.fork).1) = true ↔
      ∃ s ∈ schemas, s.Accepts d := by
    rw [eachCheck_eq, Schema.builtEach_eq, List.any_map, List.any_map, List.any_eq_true]
    exact exists_congr fun s => and_congr_right fun hs => h s hs d c.fork
  have hRule : Accepts (.any schemas) d ↔ ∃ s ∈ schemas, s.Accepts d :=
    ⟨fun h => by cases h with | any hs hAccepts => exact ⟨_, hs, hAccepts⟩,
      fun ⟨_, hs, hAccepts⟩ => .any hs hAccepts⟩
  rw [hRule, ← hAny, checkAny]
  split <;> simp_all

/-- Of all parts each has to say yes, though the first refusal ends the run. -/
theorem judges_checkAll {schemas : List Schema} (h : ∀ s ∈ schemas, s.built.check.Judges s) :
    (checkAll (eachCheck (Schema.builtEach schemas))).Judges (.all schemas) := by
  intro d c
  have hRule : Accepts (.all schemas) d ↔ ∀ s ∈ schemas, s.Accepts d :=
    ⟨fun h => by cases h with | all hAccepts => exact hAccepts, .all⟩
  rw [hRule, eachCheck_eq, Schema.builtEach_eq, List.map_map]
  clear hRule
  induction schemas generalizing c with
  | nil => simp [checkAll]
  | cons s schemas ih =>
      obtain ⟨hHead, hTail⟩ := List.forall_mem_cons.mp h
      have hVerdict := hHead d c
      rw [List.forall_mem_cons, ← hVerdict, List.map_cons, checkAll, Function.comp_apply]
      generalize s.built.check d c = state
      obtain ⟨ok, after⟩ := state
      cases ok with
      | true => simp [ih hTail after]
      | false => simp

/-- Every element is held against the schema of the elements. -/
theorem judges_checkArray {element : Option Schema} (h : ∀ s ∈ element, s.built.check.Judges s)
    (least most : Option Nat) : (checkArray (elementCheck (Schema.builtElement element)) least
      most).Judges (.array element least most) := by
  intro d c
  rw [checkArray]
  cases hArray : d.array? with
  | none =>
      refine iff_of_false (by simp [refuseKind_fst]) fun h => ?_
      cases h with
      | array hSome => simp [hArray] at hSome
  | some es =>
      have hRule : Accepts (.array element least most) d ↔ (∀ n ∈ least, n ≤ es.length) ∧
          (∀ n ∈ most, es.length ≤ n) ∧ ∀ s ∈ element, ∀ e ∈ es, s.Accepts e := by
        refine ⟨fun h => ?_, fun ⟨hLeast, hMost, hElements⟩ => .array hArray hLeast hMost hElements⟩
        cases h with
        | array hSome hLeast hMost hElements =>
            cases hArray.symm.trans hSome
            exact ⟨hLeast, hMost, hElements⟩
      rw [hRule, elementCheck_eq, Schema.builtElement_eq]
      cases element with
      | none => simp [require_accepts_iff, passes_iff]
      | some s =>
          have hElements : ∀ e ∈ es.zipIdx, ∀ state, (s.built.check.below (.index e.2) e.1 state).1 =
              true ↔ state.1 = true ∧ s.Accepts e.1 :=
            fun e _ state => below_accepts_iff (h s rfl e.1) _
          have hAll : (∀ e ∈ es.zipIdx, s.Accepts e.1) ↔ ∀ e ∈ es, s.Accepts e := by
            rw [← List.forall_mem_map (f := Prod.fst) (P := s.Accepts), List.zipIdx_map_fst]
          simp only [Option.map_some, foldl_accepts_iff hElements, hAll, require_accepts_iff,
            passes_iff, true_and, decide_eq_true_eq, and_assoc, Option.mem_some, forall_eq']

/-! ### Objects -/

section Objects

variable {attributes : Attributes} {name : String} {required : Bool}

/-- The checks of the attributes that are built from declarations. -/
def builtChecks (attributes : Attributes) : List (String × Bool × Check) :=
  attributeChecks (Attributes.ofList (Schema.builtAttributes attributes))

/-- They are the checks of the last declarations. -/
theorem mem_builtChecks_iff {check : Check} : (name, required, check) ∈ builtChecks attributes ↔
    ∃ s : Schema, attributes.latest? name = some (required, s) ∧ s.built.check = check := by
  rw [builtChecks, attributeChecks_eq, Schema.builtAttributes_eq, List.mem_map]
  constructor
  · rintro ⟨a, ha, hCheck⟩
    rw [Attributes.mem_ofList_iff, Attributes.latest?_map, Option.map_eq_some_iff] at ha
    obtain ⟨⟨required, s⟩, hLatest, hBuilt⟩ := ha
    obtain ⟨k, b⟩ := a
    cases hBuilt
    cases hCheck
    exact ⟨s, hLatest, rfl⟩
  · rintro ⟨s, hLatest, rfl⟩
    refine ⟨(name, required, s.built), ?_, rfl⟩
    rw [Attributes.mem_ofList_iff, Attributes.latest?_map, hLatest]
    rfl

theorem requireAll_accepts_iff {ms : Members} {state : Bool × Context} :
    (requireAll (builtChecks attributes) ms state).1 = true ↔ state.1 = true ∧
      ∀ name s, attributes.latest? name = some (true, s) → name ∈ Members.keys ms := by
  have hTurns : ∀ a ∈ builtChecks attributes, ∀ state : Bool × Context,
      (Context.require (!a.2.1 || Members.contains a.1 ms)
        ("missing required attribute '" ++ a.1 ++ "'") state).1 = true ↔
      state.1 = true ∧ (!a.2.1 || Members.contains a.1 ms) = true :=
    fun _ _ _ => require_accepts_iff
  rw [requireAll, foldl_accepts_iff hTurns]
  refine and_congr_right fun _ => ⟨fun h name s hLatest => ?_, fun h a ha => ?_⟩
  · have hHere := h _ (mem_builtChecks_iff.mpr ⟨s, hLatest, rfl⟩)
    exact Members.get?_isSome_iff.mp (by simpa [Members.contains] using hHere)
  · obtain ⟨name, required, check⟩ := a
    obtain ⟨s, hLatest, -⟩ := mem_builtChecks_iff.mp ha
    cases required with
    | false => rfl
    | true => simpa [Members.contains] using Members.get?_isSome_iff.mpr (h name s hLatest)

/-- A member is held against the last declaration of its name, if there is one. -/
theorem memberCheck_accepts_iff (h : ∀ a ∈ attributes, a.2.2.built.check.Judges a.2.2)
    (allowUnknown : Bool) (d : Document) (c : Context) :
    (memberCheck (builtChecks attributes) allowUnknown name d c).1 = true ↔
      (∀ required s, attributes.latest? name = some (required, s) → s.Accepts d) ∧
        (attributes.latest? name = none → allowUnknown) := by
  rw [memberCheck]
  cases hFound : (builtChecks attributes).find? fun a => a.1 = name with
  | some a =>
      obtain ⟨k, required, check⟩ := a
      obtain rfl : k = name := by simpa using List.find?_some hFound
      obtain ⟨s, hLatest, rfl⟩ := mem_builtChecks_iff.mp (List.mem_of_find?_eq_some hFound)
      have hVerdict := h _ (Attributes.mem_of_latest? hLatest) d c
      simpa [hLatest] using hVerdict
  | none =>
      have hLatest : attributes.latest? name = none := by
        rw [List.find?_eq_none] at hFound
        cases hDeclared : attributes.latest? name with
        | none => rfl
        | some a =>
            have hMade := mem_builtChecks_iff.mpr ⟨a.2, hDeclared, rfl⟩
            exact absurd (decide_eq_true rfl) (hFound _ hMade)
      rw [hLatest]
      cases allowUnknown <;> simp

theorem judges_checkObject (h : ∀ a ∈ attributes, a.2.2.built.check.Judges a.2.2)
    (allowUnknown : Bool) :
    (checkObject (builtChecks attributes) allowUnknown).Judges (.object attributes allowUnknown) := by
  intro d c
  rw [checkObject]
  cases hObject : d.object? with
  | none =>
      refine iff_of_false (by simp [refuseKind_fst]) fun h => ?_
      cases h with
      | object hSome => simp [hObject] at hSome
  | some ms =>
      have hMembers : ∀ m ∈ ms, ∀ state, ((memberCheck (builtChecks attributes) allowUnknown
          m.1).below (.key m.1) m.2 state).1 = true ↔ state.1 = true ∧
            (∀ required s, attributes.latest? m.1 = some (required, s) → s.Accepts m.2) ∧
              (attributes.latest? m.1 = none → allowUnknown) :=
        fun m _ state => below_accepts_iff (memberCheck_accepts_iff h allowUnknown m.2) _
      simp only [foldl_accepts_iff hMembers, requireAll_accepts_iff, true_and]
      constructor
      · rintro ⟨hRequired, hEach⟩
        exact .object hObject hRequired (fun m hm => (hEach m hm).1) fun m hm => (hEach m hm).2
      · intro h
        cases h with
        | object hSome hRequired hKnown hUnknown =>
            cases hObject.symm.trans hSome
            exact ⟨hRequired, fun m hm => ⟨hKnown m hm, hUnknown m hm⟩⟩

end Objects

theorem Schema.judges_check (s : Schema) : s.built.check.Judges s := by
  induction s using Schema.induction_parts with
  | anything => exact fun d c => iff_of_true rfl (.anything d)
  | nothing => exact fun d c => iff_of_false Bool.false_ne_true fun h => nomatch h
  | kind k => exact k.judges_check
  | string r => exact r.judges_check
  | integer r => exact r.judges_check
  | number r => exact r.judges_check
  | object attributes allowUnknown ih => exact judges_checkObject ih allowUnknown
  | array element least most ih => exact judges_checkArray ih least most
  | any alternatives ih => exact judges_checkAny ih _
  | all parts ih => exact judges_checkAll ih

end Cabinet
