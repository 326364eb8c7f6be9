import Cabinet.Proofs.Storage.Resolution
import Cabinet.Proofs.Storage.Writing
import Cabinet.Storage.Change

/-! What actions fail with. A kind of error that none of the steps raises is not raised by the action.
In this way no request but a copy is ever told to be endless. -/

namespace Cabinet

variable {ε δ α β : Type} {E : ε → Prop}

namespace Query

variable {q : Query ε α} {f : α → Query ε β}

/-- Every error of a query is of a kind. -/
def Fails (E : ε → Prop) (q : Query ε α) : Prop := ∀ w e, q w = .error e → E e

theorem Fails.pure (x : α) : Fails E (Pure.pure x : Query ε α) := fun _ _ h => nomatch h

theorem Fails.throw {e : ε} (h : E e) : Fails E (MonadExcept.throw e : Query ε α) :=
  fun _ _ hThrown => Except.error.inj hThrown ▸ h

theorem Fails.except {r : Except ε α} (h : ∀ e, r = .error e → E e) : Fails E (liftM r : Query ε α) :=
  fun _ e hError => h e hError

theorem Fails.read : Fails E (MonadReader.read : Query ε World) := fun _ _ h => nomatch h

theorem Fails.bind (h : Fails E q) (hf : ∀ x, Fails E (f x)) : Fails E (q >>= f) := by
  intro w e hError
  cases hFirst : q w with
  | error e' =>
      rw [bind_error hFirst] at hError
      exact Except.error.inj hError ▸ h w e' hFirst
  | ok x =>
      rw [bind_ok hFirst] at hError
      exact hf x w e hError

theorem Fails.guard {c : Prop} [Decidable c] {e : ε} {g : β → Query ε α} (he : E e) (h : Fails E q) :
    Fails E (if c then MonadExcept.throw e >>= g else q) := by
  split
  · exact fun _ _ hError => Except.error.inj hError ▸ he
  · exact h

theorem Fails.mapError {D : δ → Prop} {g : ε → δ} (h : ∀ e, D (g e)) : Fails D (q.mapError g) := by
  intro w e hError
  rw [Query.mapError] at hError
  cases hFirst : q w with
  | error e' =>
      rw [hFirst] at hError
      exact Except.error.inj hError ▸ h e'
  | ok x =>
      rw [hFirst] at hError
      cases hError

end Query

namespace Action

variable {a : Action ε α} {f : α → Action ε β}

/-- Every error of an action is of a kind. -/
def Fails (E : ε → Prop) (a : Action ε α) : Prop := ∀ w e, (a w).1 = .error e → E e

theorem Fails.pure (x : α) : Fails E (Pure.pure x : Action ε α) := fun _ _ h => nomatch h

theorem Fails.throw {e : ε} (h : E e) : Fails E (MonadExcept.throw e : Action ε α) :=
  fun _ _ hThrown => Except.error.inj hThrown ▸ h

theorem Fails.query {q : Query ε α} (h : q.Fails E) : Fails E (liftM q : Action ε α) := h

theorem Fails.except {r : Except ε α} (h : ∀ e, r = .error e → E e) : Fails E (liftM r : Action ε α) :=
  fun _ e hError => h e hError

theorem Fails.modify (g : World → World) : Fails E (modify g : Action ε PUnit) := fun _ _ h => nomatch h

theorem Fails.bind (h : Fails E a) (hf : ∀ x, Fails E (f x)) : Fails E (a >>= f) := by
  intro w e hError
  obtain ⟨r, w', hRun⟩ : ∃ r w', a w = (r, w') := ⟨_, _, rfl⟩
  cases r with
  | error e' =>
      rw [bind_error hRun] at hError
      exact Except.error.inj hError ▸ h w e' (congrArg Prod.fst hRun)
  | ok x =>
      rw [bind_ok hRun] at hError
      exact hf x w' e hError

theorem Fails.guard {c : Prop} [Decidable c] {e : ε} {g : β → Action ε α} (he : E e) (h : Fails E a) :
    Fails E (if c then MonadExcept.throw e >>= g else a) := by
  split
  · exact fun _ _ hError => Except.error.inj hError ▸ he
  · exact h

theorem Fails.mapError {D : δ → Prop} {g : ε → δ} (h : ∀ e, D (g e)) : Fails D (a.mapError g) := by
  intro w e hError
  rw [mapError_apply] at hError
  cases hFirst : (a w).1 with
  | error e' =>
      rw [hFirst] at hError
      exact Except.error.inj hError ▸ h e'
  | ok x =>
      rw [hFirst] at hError
      cases hError

theorem Fails.ends (h : Fails E a) (w : World) : Ends E (fun _ _ => True) (a w) := by
  obtain ⟨r, w', hRun⟩ : ∃ r w', a w = (r, w') := ⟨_, _, rfl⟩
  rw [hRun]
  cases r with
  | error e => exact h w e (congrArg Prod.fst hRun)
  | ok x => trivial

end Action

/-! ### Ordinary errors -/

/-- Any error but that of a copy which is cut off. -/
def FileError.IsOrdinary (e : FileError) : Prop := ∀ p, e ≠ .endless p

instance : DecidablePred FileError.IsOrdinary := fun e =>
  decidable_of_iff ((match e with | .endless _ => false | _ => true) = true)
    (by cases e <;> simp [FileError.IsOrdinary])

open FileError (IsOrdinary)

theorem FileError.isOrdinary_io (p : StoragePath) (e : IoError) : IsOrdinary (.io p e) := nofun

variable {s : Storage} {i : Item} {p : StoragePath} {name : String}

namespace Storage

theorem fails_validate (s : Storage) : s.validate.Fails IsOrdinary := by
  intro w e hError
  rw [validate] at hError
  split at hError
  · cases hError
  · cases hError
    nofun

theorem fails_entry (s : Storage) (p : StoragePath) : (s.entry p).Fails IsOrdinary :=
  .mapError (FileError.isOrdinary_io p)

theorem isOrdinary_of_checkWritable {e : FileError} (h : s.checkWritable = .error e) : e.IsOrdinary := by
  rw [checkWritable] at h
  split at h
  · cases h
    nofun
  · cases h

theorem fails_requireClear (s : Storage) (paths : List StoragePath) :
    (s.requireClear paths).Fails IsOrdinary := by
  induction paths with
  | nil => exact .pure ()
  | cons p rest ih =>
      apply (s.fails_entry p).bind
      rintro (_ | m)
      · exact ih
      · dsimp only
        split
        · exact .pure ()
        · exact .throw nofun

theorem fails_prepareParent (s : Storage) (p : StoragePath) : Action.Fails IsOrdinary (s.prepareParent p) := by
  rw [prepareParent]
  cases p.parent? with
  | none => exact .pure ()
  | some parent =>
      exact (Action.Fails.query (s.fails_requireClear p.ancestors)).bind fun _ =>
        .mapError (FileError.isOrdinary_io parent)

end Storage

namespace Item

theorem fails_requireEntry (i : Item) : i.requireEntry.Fails IsOrdinary := by
  refine i.storage.fails_validate.bind fun _ => .guard nofun (.bind (i.storage.fails_entry i.path) ?_)
  rintro (_ | m)
  · exact .throw nofun
  · exact .pure m

theorem fails_asFolder (i : Item) : i.asFolder.Fails IsOrdinary := by
  apply (fails_requireEntry i).bind
  intro m
  split
  · exact .pure i
  · exact .throw nofun

theorem fails_select (i : Item) (f : ListFilter) (paths : List StoragePath) :
    (i.select f paths).Fails IsOrdinary := by
  induction paths with
  | nil => exact .pure []
  | cons p rest ih =>
      rw [select]
      split
      · exact ih
      · apply (i.storage.fails_entry p).bind
        rintro (_ | m)
        · exact ih
        · dsimp only
          split
          · exact ih.bind fun _ => .pure _
          · exact ih

theorem fails_list (i : Item) (f : ListFilter) : (i.list f).Fails IsOrdinary := by
  apply (fails_asFolder i).bind
  intro _
  apply (Query.Fails.mapError (FileError.isOrdinary_io i.path)).bind
  exact fun _ => fails_select i f _

theorem fails_file (i : Item) (name : String) : (i.file name).Fails IsOrdinary := by
  intro w e hError
  rw [file_apply] at hError
  split at hError
  · cases hName : i.path.resolve name with
    | error e' =>
        rw [hName] at hError
        obtain rfl := Except.error.inj hError
        obtain ⟨-, rfl⟩ := StoragePath.resolve_eq_error_iff.mp hName
        nofun
    | ok p =>
        rw [hName] at hError
        cases hError
  · obtain rfl := Except.error.inj hError
    nofun

theorem fails_requireTarget (i : Item) (source : Source) : (i.requireTarget source).Fails IsOrdinary := by
  refine .guard nofun (.bind (i.storage.fails_entry i.path) fun _ => .guard nofun ?_)
  refine Query.Fails.read.bind fun w => ?_
  split
  · split
    · exact .throw nofun
    · exact .pure ()
  · exact .pure ()

theorem fails_openReader (i : Item) : i.openReader.Fails IsOrdinary :=
  (fails_requireEntry i).bind fun _ => .guard nofun (.mapError (FileError.isOrdinary_io i.path))

theorem fails_openFor (source : Source) (p : StoragePath) : (source.openFor p).Fails IsOrdinary := by
  cases source with
  | bytes contents => exact .pure _
  | feed deliveries => exact .pure _
  | item j => exact (fails_openReader j).bind fun _ => .pure _
  | native name =>
      intro w e hError
      change ((Source.openNative name w).mapError _).map Stream.reader = _ at hError
      cases hOpened : Source.openNative name w with
      | error cause =>
          rw [hOpened] at hError
          exact Except.error.inj hError ▸ FileError.isOrdinary_io p cause
      | ok r =>
          rw [hOpened] at hError
          cases hError

theorem isOrdinary_of_pour {limit : Option Nat} {total : Nat} {reads : List Delivery} {x : Writer}
    {w : World} {e : FileError} (h : (pour p limit total reads x w).1 = .error e) : e.IsOrdinary := by
  induction reads generalizing total x w with
  | nil => cases h
  | cons d reads ih =>
      cases d with
      | interrupted => exact ih h
      | failed cause => exact Except.error.inj h ▸ FileError.isOrdinary_io p cause
      | bytes piece =>
          rw [pour] at h
          split_ifs at h
          · obtain rfl := Except.error.inj h
            exact fun _ => FileError.noConfusion
          · obtain ⟨r, x', w', hRun⟩ : ∃ r x' w', x.write piece w = (r, x', w') := ⟨_, _, _, rfl⟩
            rw [hRun] at h
            cases r with
            | error cause => exact Except.error.inj h ▸ FileError.isOrdinary_io p cause
            | ok _ => exact ih h

theorem fails_fillDraft (i : Item) (stream : Stream) (x : Writer) :
    Action.Fails IsOrdinary (i.fillDraft stream x) := by
  intro w e hError
  obtain ⟨r, x', w', hRun⟩ : ∃ r x' w',
      pour i.path i.storage.options.sizeLimit 0 (stream.reads w) x w = (r, x', w') := ⟨_, _, _, rfl⟩
  rw [fillDraft, hRun] at hError
  cases r with
  | error e' =>
      obtain rfl := Except.error.inj hError
      exact isOrdinary_of_pour (congrArg Prod.fst hRun)
  | ok _ =>
      cases hFlush : (x'.flush w').1 with
      | error cause =>
          dsimp only at hError
          rw [hFlush] at hError
          exact Except.error.inj hError ▸ FileError.isOrdinary_io i.path cause
      | ok _ =>
          dsimp only at hError
          rw [hFlush] at hError
          cases hError

theorem fails_settle {step : Action FileError Unit} (h : Action.Fails IsOrdinary step) :
    Action.Fails IsOrdinary (i.settle step) := by
  intro w e hError
  obtain ⟨r, w', hRun⟩ : ∃ r w', step w = (r, w') := ⟨_, _, rfl⟩
  rw [settle, hRun] at hError
  cases r with
  | ok _ => cases hError
  | error e' =>
      obtain rfl := Except.error.inj hError
      exact h w e' (congrArg Prod.fst hRun)

theorem fails_carry (i : Item) (source : Source) : Action.Fails IsOrdinary (i.carry source) := by
  refine (i.storage.fails_prepareParent i.path).bind fun _ =>
    (Action.Fails.query (fails_openFor source i.path)).bind fun stream =>
      (Action.Fails.mapError (FileError.isOrdinary_io i.path)).bind fun x => fails_settle ?_
  exact (fails_fillDraft i stream x).bind fun _ => .mapError (FileError.isOrdinary_io i.path)

theorem fails_write (i : Item) (source : Source) : Action.Fails IsOrdinary (i.write source) := by
  rw [write_eq]
  refine (Action.Fails.query i.storage.fails_validate).bind fun _ =>
    (Action.Fails.except fun _ => Storage.isOrdinary_of_checkWritable).bind fun _ => .guard nofun ?_
  split
  · exact .pure i
  · exact (Action.Fails.query (fails_requireTarget i source)).bind fun _ => fails_carry i source

theorem fails_create (i : Item) (name : String) (source : Source) :
    Action.Fails IsOrdinary (i.create name source) :=
  (Action.Fails.query (fails_file i name)).bind fun target => fails_write target source

theorem fails_createFolder (i : Item) (name : String) : Action.Fails IsOrdinary (i.createFolder name) := by
  refine (Action.Fails.query (fails_file i name)).bind fun target =>
    (Action.Fails.except fun _ => Storage.isOrdinary_of_checkWritable).bind fun _ => .guard nofun ?_
  refine (Action.Fails.query (i.storage.fails_entry target.path)).bind ?_
  rintro (_ | m)
  · exact (i.storage.fails_prepareParent target.path).bind fun _ =>
      (Action.Fails.mapError (FileError.isOrdinary_io target.path)).bind fun _ =>
        (Action.Fails.modify _).bind fun _ => .pure _
  · dsimp only
    split
    · exact .pure _
    · exact .throw nofun

end Item

end Cabinet
