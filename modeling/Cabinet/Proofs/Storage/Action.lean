import Cabinet.Storage.World

/-! Running queries and actions. A step that succeeds hands its result and the world to the next one,
and one that fails ends the action with the world as it is then. A property of the world that every
step keeps is kept by the action, however it ends. -/

namespace Cabinet

variable {ε δ α β : Type}

namespace Query

variable {q : Query ε α} {f : α → Query ε β} {w : World} {x : α} {e : ε}

theorem bind_ok (h : q w = .ok x) : (q >>= f) w = f x w := by
  change (q w >>= fun a => f a w) = _
  rw [h]
  rfl

theorem bind_error (h : q w = .error e) : (q >>= f) w = .error e := by
  change (q w >>= fun a => f a w) = _
  rw [h]
  rfl

theorem bind_eq_ok_iff {y : β} : (q >>= f) w = .ok y ↔ ∃ x, q w = .ok x ∧ f x w = .ok y := by
  cases hFirst : q w with
  | error e => simp [bind_error hFirst]
  | ok x => simp [bind_ok hFirst]

theorem mapError_eq_ok_iff {g : ε → δ} : q.mapError g w = .ok x ↔ q w = .ok x := by
  rw [mapError]
  cases q w with
  | error e => exact ⟨nofun, nofun⟩
  | ok y => exact ⟨fun h => congrArg _ (Except.ok.inj h), fun h => congrArg _ (Except.ok.inj h)⟩

theorem pure_apply (x : α) (w : World) : (pure x : Query ε α) w = .ok x := rfl

theorem throw_apply (e : ε) (w : World) : (throw e : Query ε α) w = .error e := rfl

/-- Queries that all succeed succeed one after the other. -/
theorem mapM_ok {l : List β} {f : β → Query ε α} {g : β → α} (h : ∀ b ∈ l, f b w = .ok (g b)) :
    l.mapM f w = .ok (l.map g) := by
  induction l with
  | nil => rfl
  | cons b l ih =>
      obtain ⟨hFirst, hRest⟩ := List.forall_mem_cons.mp h
      rw [List.mapM_cons, bind_ok hFirst, bind_ok (ih hRest)]
      rfl

/-- What is refused under a condition succeeds where the condition fails. -/
theorem guard_eq_ok_iff {c : Prop} [Decidable c] {e : ε} {f : β → Query ε α} :
    (if c then throw e >>= f else q) w = .ok x ↔ ¬c ∧ q w = .ok x := by
  split
  · rename_i hRefused
    exact ⟨fun h => (nomatch h), fun h => absurd hRefused h.1⟩
  · rename_i hPassed
    simp [hPassed]

end Query

namespace Action

variable {a : Action ε α} {f : α → Action ε β} {w w' : World} {x : α} {e : ε}

theorem bind_ok (h : a w = (.ok x, w')) : (a >>= f) w = f x w' := by
  change (match a w with | (r, w') => (ExceptT.bindCont f r : StateM World _) w') = _
  rw [h]
  rfl

theorem bind_error (h : a w = (.error e, w')) : (a >>= f) w = (.error e, w') := by
  change (match a w with | (r, w') => (ExceptT.bindCont f r : StateM World _) w') = _
  rw [h]
  rfl

/-- What succeeds in the end has succeeded in its first step. -/
theorem bind_eq_ok {y : β} (h : ((a >>= f) w).1 = .ok y) :
    ∃ x w', a w = (.ok x, w') ∧ (f x w').1 = .ok y := by
  obtain ⟨r, w', hRun⟩ : ∃ r w', a w = (r, w') := ⟨_, _, rfl⟩
  cases r with
  | error e =>
      rw [bind_error hRun] at h
      cases h
  | ok x => exact ⟨x, w', hRun, by rwa [bind_ok hRun] at h⟩

theorem bind_eq_ok_iff {y : β} : (a >>= f) w = (.ok y, w') ↔
    ∃ x w₁, a w = (.ok x, w₁) ∧ f x w₁ = (.ok y, w') := by
  obtain ⟨r, w₁, hRun⟩ : ∃ r w₁, a w = (r, w₁) := ⟨_, _, rfl⟩
  constructor
  · intro h
    cases r with
    | error e => cases (bind_error hRun).symm.trans h
    | ok x => exact ⟨x, w₁, hRun, (bind_ok hRun).symm.trans h⟩
  · rintro ⟨x, w₁, hFirst, hRest⟩
    rw [bind_ok hFirst, hRest]

/-- Whether an action succeeds can be decided without comparing results. -/
theorem exists_eq_ok (h : (a w).1.toOption.isSome = true) : ∃ x w', a w = (.ok x, w') := by
  obtain ⟨r, w', hRun⟩ : ∃ r w', a w = (r, w') := ⟨_, _, rfl⟩
  rw [hRun] at h
  cases r with
  | error e => cases h
  | ok x => exact ⟨x, w', hRun⟩

/-- Actions that go on in the same way after the same first step are the same. -/
theorem bind_eq_bind {b : Action ε α} {g : α → Action ε β} (hFirst : a w = b w)
    (hRest : ∀ x w', a w = (.ok x, w') → f x w' = g x w') : (a >>= f) w = (b >>= g) w := by
  obtain ⟨r, w', hRun⟩ : ∃ r w', a w = (r, w') := ⟨_, _, rfl⟩
  have hRun' := hFirst.symm.trans hRun
  cases r with
  | error e => rw [bind_error hRun, bind_error hRun']
  | ok x => rw [bind_ok hRun, bind_ok hRun', hRest x w' hRun]

theorem query_apply (q : Query ε α) (w : World) : (liftM q : Action ε α) w = (q w, w) := rfl

theorem query_eq_ok_iff {q : Query ε α} :
    (liftM q : Action ε α) w = (.ok x, w') ↔ q w = .ok x ∧ w = w' := by
  rw [query_apply]
  constructor
  · exact fun h => ⟨congrArg Prod.fst h, congrArg Prod.snd h⟩
  · rintro ⟨hFirst, rfl⟩
    rw [hFirst]

theorem query_bind_ok {q : Query ε β} {b : β} {f : β → Action ε α} (h : q w = .ok b) :
    ((liftM q : Action ε β) >>= f) w = f b w := bind_ok (query_eq_ok_iff.mpr ⟨h, rfl⟩)

theorem query_bind_error {q : Query ε β} {f : β → Action ε α} (h : q w = .error e) :
    ((liftM q : Action ε β) >>= f) w = (.error e, w) := by
  apply bind_error
  rw [query_apply, h]

/-- How an action ends is told by its first step, if that fails, and by what comes after it. -/
theorem bind_cases {r : Except ε α} {P : Except ε β × World → Prop} (hRun : a w = (r, w'))
    (hError : ∀ e, r = .error e → P (.error e, w')) (hOk : ∀ x, r = .ok x → P (f x w')) : P ((a >>= f) w) := by
  cases r with
  | error e =>
      rw [bind_error hRun]
      exact hError e rfl
  | ok x =>
      rw [bind_ok hRun]
      exact hOk x rfl

theorem mapError_apply (g : ε → δ) (a : Action ε α) (w : World) :
    a.mapError g w = ((a w).1.mapError g, (a w).2) := rfl

theorem mapError_ok (g : ε → δ) (h : a w = (.ok x, w')) : a.mapError g w = (.ok x, w') := by
  rw [mapError_apply, h]
  rfl

theorem mapError_error (g : ε → δ) (h : a w = (.error e, w')) : a.mapError g w = (.error (g e), w') := by
  rw [mapError_apply, h]
  rfl

theorem mapError_eq_ok_iff {g : ε → δ} : (a.mapError g w).1 = .ok x ↔ (a w).1 = .ok x :=
  Query.mapError_eq_ok_iff (q := fun w => (a w).1)

/-! ### What actions keep -/

/-- Whatever comes of the action, the property holds of the world afterwards if it did before. -/
def Keeps (P : World → Prop) (a : Action ε α) : Prop := ∀ w, P w → P (a w).2

variable {P : World → Prop}

theorem Keeps.pure (x : α) : Keeps P (Pure.pure x : Action ε α) := fun _ hw => hw

theorem Keeps.throw (e : ε) : Keeps P (MonadExcept.throw e : Action ε α) := fun _ hw => hw

theorem Keeps.get : Keeps P (MonadState.get : Action ε World) := fun _ hw => hw

theorem Keeps.query (q : Query ε α) : Keeps P (liftM q : Action ε α) := fun _ hw => hw

theorem Keeps.except (r : Except ε α) : Keeps P (liftM r : Action ε α) := fun _ hw => hw

theorem Keeps.modify {g : World → World} (h : ∀ w, P w → P (g w)) :
    Keeps P (modify g : Action ε PUnit) := h

theorem Keeps.mapError {g : ε → δ} (h : Keeps P a) : Keeps P (a.mapError g) := h

/-- What comes after a step has to keep the property only for results of the step. -/
theorem Keeps.bind (ha : Keeps P a) (hf : ∀ w x, (a w).1 = .ok x → Keeps P (f x)) :
    Keeps P (a >>= f) := by
  intro w hw
  have hFirst := ha w hw
  obtain ⟨r, w', hRun⟩ : ∃ r w', a w = (r, w') := ⟨_, _, rfl⟩
  cases r with
  | error e =>
      rw [bind_error hRun]
      rwa [hRun] at hFirst
  | ok x =>
      rw [bind_ok hRun]
      rw [hRun] at hFirst
      exact hf w x (by rw [hRun]) w' hFirst

/-- Behind a refusal the condition fails. -/
theorem Keeps.guard {c : Prop} [Decidable c] {g : β → Action ε α} (h : ¬c → Keeps P a) :
    Keeps P (if c then MonadExcept.throw e >>= g else a) := by
  split
  · exact (Keeps.throw e).bind fun _ _ hNever => nomatch hNever
  · exact h ‹_›

theorem Keeps.forM {β : Type} {l : List β} {f : β → Action ε PUnit} (h : ∀ b ∈ l, Keeps P (f b)) :
    Keeps P (l.forM f) := by
  induction l with
  | nil => exact Keeps.pure _
  | cons b l ih =>
      obtain ⟨hFirst, hRest⟩ := List.forall_mem_cons.mp h
      exact hFirst.bind fun _ _ _ => ih hRest

theorem Keeps.discard (h : Keeps P a) : Keeps P (Functor.discard a) :=
  h.bind fun _ _ _ => Keeps.pure _

/-! ### How actions end -/

/-- A run ends with an error of a kind, or with a result and a world that are as they should be. -/
def Ends (E : ε → Prop) (Q : α → World → Prop) (run : Except ε α × World) : Prop :=
  match run.1 with
  | .ok x => Q x run.2
  | .error e => E e

namespace Ends

variable {E : ε → Prop} {Q : α → World → Prop} {R : β → World → Prop} {run : Except ε α × World}

theorem ok (h : Q x w) : Ends E Q (.ok x, w) := h

theorem error (h : E e) : Ends E Q (.error e, w) := h

theorem of_ok (h : Ends E Q run) (hRun : run = (.ok x, w)) : Q x w := by
  rw [hRun] at h
  exact h

theorem of_error (h : Ends E Q run) (hRun : run = (.error e, w)) : E e := by
  rw [hRun] at h
  exact h

theorem mono {D : ε → Prop} {R : α → World → Prop} (h : Ends E Q run) (hD : ∀ e, E e → D e)
    (hR : ∀ x w, run = (.ok x, w) → Q x w → R x w) : Ends D R run := by
  obtain ⟨r, w⟩ := run
  cases r with
  | error e => exact hD e h
  | ok x => exact hR x w rfl h

theorem imp {R : α → World → Prop} (h : Ends E Q run) (hR : ∀ x w, Q x w → R x w) : Ends E R run :=
  h.mono (fun _ he => he) fun x w _ => hR x w

theorem widen {D : ε → Prop} (h : Ends E Q run) (hD : ∀ e, E e → D e) : Ends D Q run :=
  h.mono hD fun _ _ _ hEnd => hEnd

theorem bind (h : Ends E Q (a w)) (hf : ∀ x w', a w = (.ok x, w') → Q x w' → Ends E R (f x w')) :
    Ends E R ((a >>= f) w) := by
  obtain ⟨r, w', hRun⟩ : ∃ r w', a w = (r, w') := ⟨_, _, rfl⟩
  cases r with
  | error e =>
      rw [bind_error hRun]
      exact h.of_error hRun
  | ok x =>
      rw [bind_ok hRun]
      exact hf x w' hRun (h.of_ok hRun)

/-- Where an action ends as it should, its first step does not end in another way. -/
theorem first (h : Ends E R ((a >>= f) w)) : Ends E (fun x w' => Ends E R (f x w')) (a w) := by
  obtain ⟨r, w', hRun⟩ : ∃ r w', a w = (r, w') := ⟨_, _, rfl⟩
  rw [hRun]
  cases r with
  | error e =>
      rw [bind_error hRun] at h
      exact h
  | ok x =>
      rw [bind_ok hRun] at h
      exact h

theorem discard {P : World → Prop} (h : Ends E (fun _ => P) (a w)) :
    Ends E (fun _ => P) ((Functor.discard a : Action ε PUnit) w) :=
  h.bind fun _ _ _ hw => hw

/-- A loop ends as it should if each turn does and leaves the world ready for the turns to come. -/
theorem forM {l : List β} {f : β → Action ε PUnit} {P : List β → World → Prop} (h : P l w)
    (hTurn : ∀ b rest, b :: rest <:+ l → ∀ w, P (b :: rest) w → Ends E (fun _ => P rest) (f b w)) :
    Ends E (fun _ => P []) (l.forM f w) := by
  induction l generalizing w with
  | nil => exact h
  | cons b l ih =>
      apply (hTurn b l (List.suffix_refl _) w h).bind
      intro _ w' _ hNext
      apply ih hNext
      intro c rest hSuffix
      exact hTurn c rest (hSuffix.trans (List.suffix_cons b l))

end Ends

end Action

end Cabinet
