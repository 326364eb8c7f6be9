import Cabinet.Proofs.Schema.Meaning

/-! The order of things does not count in a verdict. The members of an object may be listed in any
order, declarations of different names may come in any order, and so may the schemas that are
combined. What is complained of, and in which order, may change with it. -/

namespace Cabinet

/-- The same document, but for the order of members at any depth. -/
inductive Document.Reordered : Document → Document → Prop where
  | refl (d : Document) : Reordered d d
  | trans {d e f : Document} (h : Reordered d e) (hNext : Reordered e f) : Reordered d f
  | members {ms ns : Members} (h : ms.Perm ns) : Reordered (object ms) (object ns)
  | inMember (front back : Members) (name : String) {d e : Document} (h : Reordered d e) :
      Reordered (object (front ++ (name, d) :: back)) (object (front ++ (name, e) :: back))
  | inElement (front back : List Document) {d e : Document} (h : Reordered d e) :
      Reordered (array (front ++ d :: back)) (array (front ++ e :: back))

/-- The same schema, but for the order of declarations of different names and the order of combined
schemas, at any depth. -/
inductive Schema.Reordered : Schema → Schema → Prop where
  | refl (s : Schema) : Reordered s s
  | trans {s t u : Schema} (h : Reordered s t) (hNext : Reordered t u) : Reordered s u
  | declarations (front back : Attributes) {a b : String × Bool × Schema} (hNames : a.1 ≠ b.1)
      (allowUnknown : Bool) : Reordered (object (front ++ a :: b :: back) allowUnknown)
        (object (front ++ b :: a :: back) allowUnknown)
  | alternatives {ss ts : List Schema} (h : ss.Perm ts) : Reordered (any ss) (any ts)
  | parts {ss ts : List Schema} (h : ss.Perm ts) : Reordered (all ss) (all ts)
  | inDeclaration (front back : Attributes) (name : String) (required allowUnknown : Bool)
      {s t : Schema} (h : Reordered s t) :
      Reordered (object (front ++ (name, required, s) :: back) allowUnknown)
        (object (front ++ (name, required, t) :: back) allowUnknown)
  | inElement (least most : Option Nat) {s t : Schema} (h : Reordered s t) :
      Reordered (array (some s) least most) (array (some t) least most)
  | inAlternative (front back : List Schema) {s t : Schema} (h : Reordered s t) :
      Reordered (any (front ++ s :: back)) (any (front ++ t :: back))
  | inPart (front back : List Schema) {s t : Schema} (h : Reordered s t) :
      Reordered (all (front ++ s :: back)) (all (front ++ t :: back))

/-- All others are still in a list when one of its entries is replaced. -/
theorem mem_replaced {α : Type} {front back : List α} {a b x : α} (h : x ∈ front ++ a :: back) :
    x = a ∨ x ∈ front ++ b :: back := by
  rcases List.mem_append.mp h with hFront | hBack
  · exact Or.inr (List.mem_append_left _ hFront)
  · rcases List.mem_cons.mp hBack with rfl | hBack
    · exact Or.inl rfl
    · exact Or.inr (List.mem_append_right _ (List.mem_cons_of_mem _ hBack))

namespace Document.Reordered

variable {d e : Document}

theorem symm (h : d.Reordered e) : e.Reordered d := by
  induction h with
  | refl d => exact .refl d
  | trans _ _ ih ihNext => exact ihNext.trans ih
  | members h => exact .members h.symm
  | inMember front back name _ ih => exact .inMember front back name ih
  | inElement front back _ ih => exact .inElement front back ih

end Document.Reordered

namespace Schema

variable {s t : Schema} {d e : Document}

theorem Reordered.symm (h : s.Reordered t) : t.Reordered s := by
  induction h with
  | refl s => exact .refl s
  | trans _ _ ih ihNext => exact ihNext.trans ih
  | declarations front back hNames allowUnknown =>
      exact .declarations front back hNames.symm allowUnknown
  | alternatives h => exact .alternatives h.symm
  | parts h => exact .parts h.symm
  | inDeclaration front back name required allowUnknown _ ih =>
      exact .inDeclaration front back name required allowUnknown ih
  | inElement least most _ ih => exact .inElement least most ih
  | inAlternative front back _ ih => exact .inAlternative front back ih
  | inPart front back _ ih => exact .inPart front back ih

/-! ### Documents -/

/-- Two containers of one kind are told apart by the schemas of objects and arrays only. -/
theorem Accepts.of_containers (hKind : ∀ k, d.CoercesTo k → e.CoercesTo k)
    (hString : e.string? = d.string?) (hNumber : e.number? = d.number?)
    (hObject : ∀ attributes allowUnknown, Accepts (.object attributes allowUnknown) d →
      Accepts (.object attributes allowUnknown) e)
    (hArray : ∀ element least most, Accepts (.array element least most) d →
      Accepts (.array element least most) e) (h : s.Accepts d) : s.Accepts e := by
  induction s using induction_parts with
  | anything => exact .anything e
  | nothing => cases h
  | kind k =>
      cases h with
      | kind h => exact .kind (hKind k h)
  | string r =>
      cases h with
      | string h hLeast hMost hPattern hAllowed =>
          exact .string (hString ▸ h) hLeast hMost hPattern hAllowed
  | integer r =>
      cases h with
      | integer h hTest => exact .integer (by rwa [Document.int64?, hNumber]) hTest
  | number r =>
      cases h with
      | number h hLeast hMost hTest =>
          exact .number (by rwa [Document.float?, hNumber]) hLeast hMost hTest
  | object attributes allowUnknown => exact hObject attributes allowUnknown h
  | array element least most => exact hArray element least most h
  | any alternatives ih =>
      cases h with
      | any hs h => exact .any hs (ih _ hs h)
  | all parts ih =>
      cases h with
      | all h => exact .all fun s hs => ih s hs (h s hs)

/-- Objects need only have the same keys, and values that are accepted alike. -/
theorem Accepts.of_members {ms ns : Members}
    (hKeys : ∀ name ∈ Members.keys ms, name ∈ Members.keys ns)
    (hValues : ∀ n ∈ ns, ∃ m ∈ ms, m.1 = n.1 ∧ ∀ s : Schema, s.Accepts m.2 → s.Accepts n.2)
    (h : s.Accepts (.object ms)) : s.Accepts (.object ns) := by
  refine of_containers (d := .object ms) (fun k hk => by cases hk; exact .object ns) rfl rfl
    (fun attributes allowUnknown h => ?_) (fun element least most h => ?_) h
  · cases h with
    | object hSome hRequired hKnown hUnknown =>
        cases hSome
        refine .object rfl (fun name s hs => hKeys name (hRequired name s hs)) ?_ ?_
        · intro n hn required s hs
          obtain ⟨m, hm, hName, hAccepts⟩ := hValues n hn
          exact hAccepts s (hKnown m hm required s (hName ▸ hs))
        · intro n hn hNone
          obtain ⟨m, hm, hName, -⟩ := hValues n hn
          exact hUnknown m hm (hName ▸ hNone)
  · cases h with
    | array hSome => cases hSome

/-- Arrays need only have the same length, and elements that are accepted alike. -/
theorem Accepts.of_elements {es fs : List Document} (hLength : es.length = fs.length)
    (hElements : ∀ f ∈ fs, ∃ e ∈ es, ∀ s : Schema, s.Accepts e → s.Accepts f)
    (h : s.Accepts (.array es)) : s.Accepts (.array fs) := by
  refine of_containers (d := .array es) (fun k hk => by cases hk; exact .array fs) rfl rfl
    (fun attributes allowUnknown h => ?_) (fun element least most h => ?_) h
  · cases h with
    | object hSome => cases hSome
  · cases h with
    | array hSome hLeast hMost hEach =>
        cases hSome
        refine .array rfl (hLength ▸ hLeast) (hLength ▸ hMost) fun s hs f hf => ?_
        obtain ⟨e, he, hAccepts⟩ := hElements f hf
        exact hAccepts s (hEach s hs e he)

theorem accepts_of_reordered_document (h : d.Reordered e) :
    ∀ s : Schema, s.Accepts d → s.Accepts e := by
  induction h with
  | refl d => exact fun _ h => h
  | trans _ _ ih ihNext => exact fun s h => ihNext s (ih s h)
  | members h =>
      intro s hAccepts
      refine hAccepts.of_members (fun name hName => (h.map Prod.fst).mem_iff.mp hName) fun n hn => ?_
      exact ⟨n, h.mem_iff.mpr hn, rfl, fun _ h => h⟩
  | @inMember front back name d e _ ih =>
      intro s hAccepts
      refine hAccepts.of_members (fun k hk => by simpa [Members.keys] using hk) fun n hn => ?_
      rcases mem_replaced hn with rfl | hn
      · exact ⟨(name, d), List.mem_append_cons_self, rfl, ih⟩
      · exact ⟨n, hn, rfl, fun _ h => h⟩
  | @inElement front back d e _ ih =>
      intro s hAccepts
      refine hAccepts.of_elements (by simp) fun f hf => ?_
      rcases mem_replaced hf with rfl | hf
      · exact ⟨d, List.mem_append_cons_self, ih⟩
      · exact ⟨f, hf, fun _ h => h⟩

/-! ### Schemas -/

/-- Declarations need only come to the same last ones, with schemas that accept as much. -/
theorem Accepts.of_declarations {attributes others : Attributes} {allowUnknown : Bool}
    (hSome : ∀ name required t, others.latest? name = some (required, t) →
      ∃ s, attributes.latest? name = some (required, s) ∧ ∀ e, s.Accepts e → t.Accepts e)
    (hNone : ∀ name, others.latest? name = none → attributes.latest? name = none)
    (h : Accepts (.object attributes allowUnknown) d) :
    Accepts (.object others allowUnknown) d := by
  cases h with
  | object hObject hRequired hKnown hUnknown =>
      refine .object hObject (fun name t ht => ?_) (fun m hm required t ht => ?_)
        fun m hm hm' => hUnknown m hm (hNone m.1 hm')
      · obtain ⟨s, hs, -⟩ := hSome name true t ht
        exact hRequired name s hs
      · obtain ⟨s, hs, hAccepts⟩ := hSome m.1 required t ht
        exact hAccepts m.2 (hKnown m hm required s hs)

theorem accepts_of_reordered (h : s.Reordered t) : ∀ d : Document, s.Accepts d → t.Accepts d := by
  induction h with
  | refl s => exact fun _ h => h
  | trans _ _ ih ihNext => exact fun d h => ihNext d (ih d h)
  | declarations front back hNames allowUnknown =>
      intro d hAccepts
      refine hAccepts.of_declarations (fun name required t ht => ⟨t, ?_, fun _ h => h⟩)
        fun name hName => ?_
      · rwa [Attributes.latest?_swap front back hNames name] at ht
      · rwa [Attributes.latest?_swap front back hNames name] at hName
  | alternatives h =>
      intro d hAccepts
      cases hAccepts with
      | any hs hAccepts => exact .any (h.mem_iff.mp hs) hAccepts
  | parts h =>
      intro d hAccepts
      cases hAccepts with
      | all hAccepts => exact .all fun s hs => hAccepts s (h.mem_iff.mpr hs)
  | @inDeclaration front back name required allowUnknown s t _ ih =>
      intro d hAccepts
      refine hAccepts.of_declarations (fun k r u hu => ?_) fun k hk => ?_
      · rcases Attributes.latest?_replace front back name required s t k with hSame | ⟨hNew, hOld⟩
        · exact ⟨u, hSame ▸ hu, fun _ h => h⟩
        · cases hNew.symm.trans hu
          exact ⟨s, hOld, ih⟩
      · rcases Attributes.latest?_replace front back name required s t k with hSame | ⟨hNew, -⟩
        · exact hSame ▸ hk
        · simp [hNew] at hk
  | inElement least most _ ih =>
      intro d hAccepts
      cases hAccepts with
      | array hArray hLeast hMost hElements =>
          refine .array hArray hLeast hMost fun t ht e he => ?_
          cases Option.mem_some.mp ht
          exact ih e (hElements _ rfl e he)
  | @inAlternative front back s t _ ih =>
      intro d hAccepts
      cases hAccepts with
      | @any _ _ u hu hAccepts =>
          rcases mem_replaced (b := t) hu with rfl | hu
          · exact .any List.mem_append_cons_self (ih d hAccepts)
          · exact .any hu hAccepts
  | @inPart front back s t _ ih =>
      intro d hAccepts
      cases hAccepts with
      | all hAccepts =>
          refine .all fun u hu => ?_
          rcases mem_replaced (b := s) hu with rfl | hu
          · exact ih d (hAccepts s List.mem_append_cons_self)
          · exact hAccepts u hu

/-- The verdict of a check is the meaning of its schema. It depends neither on the context nor on the
order of members, of declarations of different names, or of combined schemas. -/
theorem check_built_iff_accepts :
    (∀ (s : Schema) (d : Document) (c : Context), (s.built.check d c).1 = true ↔ s.Accepts d) ∧
    ∀ (s t : Schema) (d e : Document), s.Reordered t → d.Reordered e → ∀ c others : Context,
      (s.built.check d c).1 = (t.built.check e others).1 := by
  refine ⟨fun s d c => s.judges_check d c, fun s t d e hSchema hDocument c others => ?_⟩
  rw [Bool.eq_iff_iff, s.judges_check, t.judges_check]
  constructor
  · intro h
    exact accepts_of_reordered_document hDocument t (accepts_of_reordered hSchema d h)
  · intro h
    exact accepts_of_reordered hSchema.symm d (accepts_of_reordered_document hDocument.symm t h)

/-- A name that is declared again, first as optional and then as required, below a list of
alternatives. -/
theorem check_built_iff_accepts_redeclared :
    let a : String × Bool × Schema := ("a", false, .nothing)
    let b : String × Bool × Schema := ("b", false, .string .free)
    let c : String × Bool × Schema := ("a", true, .integer .positive)
    let s : Schema := .any [.object [a, b, c] false, .kind .null]
    let t : Schema := .any [.kind .null, .object [b, a, c] false]
    let d : Document := .object [("b", .string "x"), ("a", .ofInt 1)]
    let e : Document := .object [("a", .ofInt 1), ("b", .string "x")]
    s.Reordered t ∧ d.Reordered e ∧ s.Accepts d ∧
      (s.built.check d .root).1 = (t.built.check e ⟨[.index 0], []⟩).1 := by
  intro a b c s t d e
  have hDeclarations : (object [a, b, c] false).Reordered (object [b, a, c] false) :=
    .declarations [] [c] (by decide) false
  have hSchema : s.Reordered t :=
    (Reordered.inAlternative [] [.kind .null] hDeclarations).trans (.alternatives (.swap _ _ _))
  have hDocument : d.Reordered e := .members (.swap _ _ _)
  obtain ⟨hMeaning, hOrder⟩ := check_built_iff_accepts
  exact ⟨hSchema, hDocument, (hMeaning s d .root).mp (by decide),
    hOrder s t d e hSchema hDocument .root _⟩

end Schema

end Cabinet
