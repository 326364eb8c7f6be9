import Cabinet.Proofs.Path.Addressing
import Cabinet.Proofs.Schema.Tree

/-! Where complaints stand. A check goes down into a document and comes back, and its context goes
along: the location always leads to the value that is being checked. So every complaint stands at a
place of the document, and the text of its location selects this place alone. -/

namespace Cabinet

/-- A context that has come to a value of a document. All complaints so far stand at places of the
document. -/
structure Context.Follows (root : Document) (l : Location) (d : Document) (c : Context) : Prop where
  leads : root.at? l = some d
  location : c.location = l
  resolve : ∀ e ∈ c.errors, (root.at? e.location).isSome

section

variable {root d e : Document} {l : Location} {s : Step} {c : Context}

namespace Context.Follows

theorem start (root : Document) : Context.root.Follows root [] root :=
  ⟨rfl, rfl, List.forall_mem_nil _⟩

theorem complain (h : c.Follows root l d) (text : String) : (c.complain text).Follows root l d := by
  refine ⟨h.leads, h.location, fun e he => ?_⟩
  rcases List.mem_append.mp he with hOld | hNew
  · exact h.resolve e hOld
  · rw [List.mem_singleton.mp hNew, h.location, h.leads]
    rfl

theorem push (h : c.Follows root l d) (hStep : d.child? s = some e) :
    (c.push s).Follows root (l ++ [s]) e := by
  refine ⟨?_, congrArg (· ++ [s]) h.location, h.resolve⟩
  rw [Document.at?_append, h.leads]
  simpa using hStep

theorem pop (h : c.Follows root (l ++ [s]) e) (hLeads : root.at? l = some d) :
    c.pop.Follows root l d := by
  refine ⟨hLeads, ?_, h.resolve⟩
  rw [Context.pop, h.location, List.dropLast_concat]

theorem require {state : Bool × Context} (h : state.2.Follows root l d) (condition : Bool)
    (text : String) : (Context.require condition text state).2.Follows root l d := by
  cases condition with
  | true => exact h
  | false => exact h.complain text

theorem refuseKind (h : c.Follows root l d) (expected : String) :
    (refuseKind expected d c).2.Follows root l d :=
  h.complain _

/-- A loop whose turns come back to where they began. -/
theorem foldl {α : Type} {turn : Bool × Context → α → Bool × Context} {items : List α}
    {state : Bool × Context} (h : state.2.Follows root l d)
    (hTurn : ∀ state : Bool × Context, state.2.Follows root l d → ∀ a ∈ items,
      (turn state a).2.Follows root l d) : (items.foldl turn state).2.Follows root l d :=
  List.foldlRecOn items turn (motive := fun state => state.2.Follows root l d) h hTurn

end Context.Follows

/-- A check that comes back to where it began, with complaints of places of the document only. -/
def Check.Follows (check : Check) : Prop :=
  ∀ {root : Document} {l : Location} {d : Document} {c : Context}, root.UniqueKeys →
    c.Follows root l d → (check d c).2.Follows root l d

theorem Context.Follows.below {check : Check} {state : Bool × Context}
    (h : state.2.Follows root l d) (hKeys : root.UniqueKeys) (hCheck : check.Follows)
    (hStep : d.child? s = some e) : (check.below s e state).2.Follows root l d :=
  (hCheck hKeys (h.push hStep)).pop h.leads

end

/-! ### Scalars -/

theorem Kind.follows_check (k : Kind) : k.check.Follows := by
  intro root l d c _ h
  unfold Kind.check
  split
  · exact h
  · exact h.refuseKind _

theorem StringRule.follows_check (r : StringRule) : r.check.Follows := by
  intro root l d c _ h
  unfold StringRule.check
  split
  · exact h.refuseKind _
  · have hAccept : (true, c).2.Follows root l d := h
    exact (((hAccept.require _ _).require _ _).require _ _).require _ _

theorem IntegerRule.follows_check (r : IntegerRule) : r.check.Follows := by
  intro root l d c _ h
  unfold IntegerRule.check
  split
  · exact h.refuseKind _
  · split
    · exact h
    · exact h.complain _

theorem NumberRule.follows_check (r : NumberRule) : r.check.Follows := by
  intro root l d c _ h
  unfold NumberRule.check
  split
  · exact h.refuseKind _
  · have hAccept : (true, c).2.Follows root l d := h
    exact ((hAccept.require _ _).require _ _).require _ _

/-! ### Containers -/

section Containers

variable {attributes : List (String × Bool × Check)} {checks : List Check}

theorem follows_memberCheck (h : ∀ a ∈ attributes, a.2.2.Follows) (allowUnknown : Bool)
    (name : String) : (memberCheck attributes allowUnknown name).Follows := by
  unfold memberCheck
  split
  · rename_i a hFound
    exact h a (List.mem_of_find?_eq_some hFound)
  · intro root l d c _ hc
    cases allowUnknown with
    | true => exact hc
    | false => exact hc.complain _

/-- The members of an object are checked one after the other, each one step down. A key that is listed
twice would lead to the first of its values only. -/
theorem follows_checkObject (h : ∀ a ∈ attributes, a.2.2.Follows) (allowUnknown : Bool) :
    (checkObject attributes allowUnknown).Follows := by
  intro root l d c hKeys hc
  unfold checkObject
  split
  · exact hc.refuseKind _
  · rename_i ms hObject
    obtain rfl : d = .object ms := by
      cases d <;> simp_all [Document.object?]
    have hAccept : (true, c).2.Follows root l (.object ms) := hc
    have hRequired : (requireAll attributes ms (true, c)).2.Follows root l (.object ms) :=
      hAccept.foldl fun _ hState _ _ => hState.require _ _
    refine hRequired.foldl fun state hState m hm => ?_
    have hStep : (Document.object ms).child? (.key m.1) = some m.2 :=
      (Document.mem_children_iff (hKeys.at hc.leads)).mp
        (Document.mem_children_object.mpr ⟨m.1, rfl, hm⟩)
    exact hState.below hKeys (follows_memberCheck h allowUnknown m.1) hStep

theorem follows_checkArray {element : Option Check} (h : ∀ check ∈ element, check.Follows)
    (least most : Option Nat) : (checkArray element least most).Follows := by
  intro root l d c hKeys hc
  unfold checkArray
  split
  · exact hc.refuseKind _
  · rename_i es hArray
    obtain rfl : d = .array es := by
      cases d <;> simp_all [Document.array?]
    have hAccept : (true, c).2.Follows root l (.array es) := hc
    have hBounds := (hAccept.require (passes least fun n => n ≤ es.length)
      s!"array has fewer than {least.getD 0} elements").require
        (passes most fun n => es.length ≤ n) s!"array has more than {most.getD 0} elements"
    cases element with
    | none => exact hBounds
    | some check =>
        refine hBounds.foldl fun state hState m hm => ?_
        have hStep : (Document.array es).child? (.index m.2) = some m.1 :=
          List.mem_zipIdx_iff_getElem?.mp hm
        exact hState.below hKeys (h check rfl) hStep

/-- What the alternatives complain of is forgotten, wherever it stands. -/
theorem follows_checkAny (expected : String) : (checkAny expected checks).Follows := by
  intro root l d c _ hc
  unfold checkAny
  split
  · exact hc
  · exact hc.complain _

theorem follows_checkAll (h : ∀ check ∈ checks, check.Follows) : (checkAll checks).Follows := by
  intro root l d c hKeys hc
  induction checks generalizing c with
  | nil => exact hc
  | cons check checks ih =>
      obtain ⟨hHead, hTail⟩ := List.forall_mem_cons.mp h
      have hAfter := hHead hKeys hc
      unfold checkAll
      generalize check d c = state at hAfter ⊢
      obtain ⟨ok, after⟩ := state
      cases ok with
      | true => exact ih hTail hAfter
      | false => exact hAfter

end Containers

/-! ### Schemas -/

theorem Schema.follows_check (s : Schema) : s.check.Follows := by
  induction s using Schema.induction_parts with
  | anything => exact fun _ h => h
  | nothing => exact fun _ h => h.complain _
  | kind k => exact k.follows_check
  | string r => exact r.follows_check
  | integer r => exact r.follows_check
  | number r => exact r.follows_check
  | object attributes allowUnknown ih =>
      exact follows_checkObject (forall_mem_attributeChecks ih) allowUnknown
  | array element least most ih =>
      exact follows_checkArray (forall_mem_elementCheck ih) least most
  | any alternatives ih => exact follows_checkAny _
  | all parts ih => exact follows_checkAll (forall_mem_eachCheck ih)

/-- Every complaint of a check stands at a place of the document. The text of its location is read as
a path, whatever the keys on the way are, and this path selects the one place, with the value that is
found at the location. -/
theorem Schema.errors_located {d : Document} (hKeys : d.UniqueKeys) (hShort : d.ShortArrays)
    (s : Schema) : ∀ e ∈ s.errors d, ∃ (v : Document) (p : Path), d.at? e.location = some v ∧
      Path.parse e.location.text = .ok p ∧ p.matchesIn d = [(e.location, v)] := by
  intro e he
  have hFollows := s.follows_check hKeys (Context.Follows.start d)
  obtain ⟨v, hv⟩ := Option.isSome_iff_exists.mp (hFollows.resolve e he)
  have hIndexable := hShort.indexable hv
  exact ⟨v, e.location.path, hv, Location.parse_text hIndexable, Path.matchesIn_path hv hIndexable⟩

/-- A complaint below a key with a quote in it, which a combination and its alternatives leave
standing. -/
theorem Schema.errors_located_quoted :
    let s : Schema := .object [("it's", true, .array (some (.all [.any [.kind .object, .nothing],
      .object [("a.b", true, .kind .string)] false])) (some 1) none)] false
    let d := Document.object [("it's", .array [.object [("a.b", .boolean true)]])]
    let e : ValidationError :=
      ⟨[.key "it's", .index 0, .key "a.b"], "expected string, found boolean"⟩
    d.UniqueKeys ∧ d.ShortArrays ∧ e ∈ s.errors d ∧ ∃ (v : Document) (p : Path),
      d.at? e.location = some v ∧ Path.parse e.location.text = .ok p ∧
        p.matchesIn d = [(e.location, v)] := by
  intro s d e
  have hKeys : d.UniqueKeys := by decide
  have hShort : d.ShortArrays := by decide
  have hError : e ∈ s.errors d := by decide
  exact ⟨hKeys, hShort, hError, errors_located hKeys hShort s e hError⟩

end Cabinet
