import Cabinet.Proofs.Storage.Copying
import Cabinet.Proofs.Storage.Inquiry
import Cabinet.Proofs.Storage.Remembering
import Cabinet.Proofs.Storage.Sessionless

/-! What is done with hardly a look at sessions. What is asked or requested depends on nothing of a session but
whether the storages that it is about are open; only metadata that is remembered tells more. So worlds with the
same entries go the same way, whatever the session of a storage that has no part in it, or its cache. -/

namespace Cabinet

variable {ε δ α β : Type} {s r : Storage} {known : Storage → Prop} {w w' : World}

/-- Two worlds agree but for a storage: they have the same entries, and the same sessions of all others; and
of the storages of a kind each is open in both or in neither. -/
structure World.Agree (s : Storage) (known : Storage → Prop) (w w' : World) : Prop where
  disk : w'.disk = w.disk
  trees : w'.trees = w.trees
  length : w'.sessions.length = w.sessions.length
  session {n : Nat} (h : n ≠ s.number) : w'.session n = w.session n
  isOpen {r : Storage} (h : known r) : r.isOpen w' = r.isOpen w

/-- Asking for metadata may change what is remembered of the storage, and nothing else. -/
theorem Item.exists_metadata_world (i : Item) (w : World) : ∃ c, (i.metadata w).2 =
    w.setSession i.storage.number { w.session i.storage.number with cache := c } := by
  have hSelf : w.setSession i.storage.number (w.session i.storage.number) = w := World.setSession_session _
  cases hOpen : i.storage.isOpen w with
  | false =>
      rw [metadata_closed hOpen]
      exact ⟨_, hSelf.symm⟩
  | true =>
      cases hFound : i.storage.cached? i.path w with
      | some m =>
          rw [metadata_of_cached hOpen hFound]
          exact ⟨_, hSelf.symm⟩
      | none =>
          rw [metadata_apply_of_not_cached hFound]
          cases i.freshMetadata w with
          | error e => exact ⟨_, hSelf.symm⟩
          | ok m => exact ⟨_, rfl⟩

/-! ### Questions -/

namespace World.Agree

open Query

theorem refl (s : Storage) (known : Storage → Prop) (w : World) : w.Agree s known w :=
  ⟨rfl, rfl, rfl, fun _ => rfl, fun _ => rfl⟩

theorem exists_eq (h : w.Agree s known w') : ∃ sessions, w' = { w with sessions } := by
  obtain ⟨disk, trees, sessions⟩ := w'
  obtain ⟨rfl, rfl, -⟩ := h
  exact ⟨sessions, rfl⟩

theorem metadata (h : w.Agree s known w') (b : Backend) (p : StoragePath) : Alike w w' (b.metadata p) := by
  obtain ⟨sessions, rfl⟩ := h.exists_eq
  rfl

theorem list (h : w.Agree s known w') (b : Backend) (p : StoragePath) : Alike w w' (b.list p) := by
  obtain ⟨sessions, rfl⟩ := h.exists_eq
  rfl

theorem openRead (h : w.Agree s known w') (b : Backend) (p : StoragePath) : Alike w w' (b.openRead p) := by
  obtain ⟨sessions, rfl⟩ := h.exists_eq
  rfl

theorem rest (h : w.Agree s known w') (r : Reader) : r.rest w' = r.rest w := by
  obtain ⟨sessions, rfl⟩ := h.exists_eq
  cases r <;> rfl

theorem levels (h : w.Agree s known w') (b : Backend) : b.levels w' = b.levels w := by
  obtain ⟨sessions, rfl⟩ := h.exists_eq
  rfl

theorem descend (h : w.Agree s known w') (b : Backend) (levels : Nat) (p : StoragePath) :
    Alike w w' (b.descend levels p) := by
  induction levels generalizing p with
  | zero => exact .pure _
  | succ levels ih =>
      refine (h.list b p).bind fun names _ => (Alike.mapM fun name _ => ?_).bind fun _ _ => .pure _
      refine (h.metadata b (p.child name)).bind fun found _ => ?_
      cases found with
      | none => exact .pure _
      | some m =>
          dsimp only
          split
          · exact (ih (p.child name)).bind fun _ _ => .pure _
          · exact .pure _

theorem walk (h : w.Agree s known w') (b : Backend) (p : StoragePath) : Alike w w' (b.walk p) := by
  have hDescend : b.descend (b.levels w') p w' = b.descend (b.levels w) p w := by
    rw [h.levels b, h.descend b]
  rw [Alike, Backend.walk, Backend.walk, h.disk, hDescend]

theorem entry (h : w.Agree s known w') (r : Storage) (p : StoragePath) : Alike w w' (r.entry p) :=
  (h.metadata r.backend p).mapError

theorem select (h : w.Agree s known w') (i : Item) (f : ListFilter) (paths : List StoragePath) :
    Alike w w' (i.select f paths) := by
  induction paths with
  | nil => exact .pure _
  | cons p rest ih =>
      rw [Item.select]
      split
      · exact ih
      · refine (h.entry i.storage p).bind fun found _ => ?_
        cases found with
        | none => exact ih
        | some m =>
            dsimp only
            split
            · exact ih.bind fun _ _ => .pure _
            · exact ih

/-- A storage that is open in both worlds or in neither shows the same in both. -/
theorem showsAlike (h : w.Agree s known w') (hKnown : known r) : r.ShowsAlike w w' where
  isOpen := h.isOpen hKnown
  entry _ := h.entry r _
  openRead _ := h.openRead r.backend _
  rest _ := h.rest _
  list p f := by
    have hFolder : Alike w w' (Item.asFolder ⟨r, p⟩) := Item.SeesAlike.asFolder ⟨h.isOpen hKnown, fun _ => h.entry r p⟩
    have hPaths : Alike w w' (Item.pathsBelow ⟨r, p⟩ f.recursive) := by
      rw [Item.pathsBelow]
      split
      · exact h.walk r.backend p
      · exact (h.list r.backend p).bind fun _ _ => .pure _
    exact hFolder.bind fun _ _ => hPaths.mapError.bind fun _ _ => h.select ⟨r, p⟩ f _

theorem seesAlike {i : Item} (h : w.Agree s known w') (hKnown : known i.storage) : i.SeesAlike w w' :=
  (h.showsAlike hKnown).seesAlike i.path

/-- Worlds with the same sessions do not differ. -/
theorem eq_of_session (h : w.Agree s known w') (hSession : w'.session s.number = w.session s.number) : w = w' := by
  have hAll (n : Nat) : w'.session n = w.session n := by
    by_cases hn : n = s.number
    · rw [hn, hSession]
    · exact h.session hn
  have hSessions : w'.sessions = w.sessions := by
    refine List.ext_getElem h.length fun n hn hn' => ?_
    have hHere := hAll n
    rwa [World.session, World.session, List.getD_eq_getElem?_getD, List.getD_eq_getElem?_getD,
      List.getElem?_eq_getElem hn, List.getElem?_eq_getElem hn'] at hHere
  obtain ⟨sessions, rfl⟩ := h.exists_eq
  exact congrArg (fun sessions => { w with sessions }) hSessions.symm

/-- A session may change in both worlds at once. -/
theorem setSession (h : w.Agree s known w') (n : Nat) {x y : Session} (hSame : n ≠ s.number → y = x)
    (hOpen : ∀ r, known r → r.number = n → y.isOpen = x.isOpen) :
    (w.setSession n x).Agree s known (w'.setSession n y) where
  disk := h.disk
  trees := h.trees
  length := by rw [World.setSession, World.setSession, List.length_set, List.length_set, h.length]
  session {m} hm := by
    rw [World.session_setSession, World.session_setSession, h.length, h.session hm]
    by_cases hHere : n = m
    · rw [hSame (hHere ▸ hm)]
    · rw [if_neg fun hSet => hHere hSet.1, if_neg fun hSet => hHere hSet.1]
  isOpen {r} hKnown := by
    rw [Storage.isOpen, Storage.isOpen, World.session_setSession, World.session_setSession, h.length]
    split
    · rename_i hSet
      exact hOpen r hKnown hSet.1.symm
    · exact h.isOpen hKnown

theorem isOpen_session {n : Nat} (h : w.Agree s known w') (hKnown : known r) (hNumber : r.number = n) :
    (w'.session n).isOpen = (w.session n).isOpen := hNumber ▸ h.isOpen hKnown

theorem onCache (h : w.Agree s known w') (r : Storage) (f : Cache → Cache) :
    (r.onCache f w).Agree s known (r.onCache f w') :=
  h.setSession r.number (fun hOther => by rw [h.session hOther]) fun _ => h.isOpen_session

theorem close (h : w.Agree s known w') (hKnown : known r) : (r.close w).Agree s known (r.close w') := by
  cases hOpen : r.isOpen w with
  | false => rwa [Storage.close_of_closed hOpen, Storage.close_of_closed ((h.isOpen hKnown).trans hOpen)]
  | true =>
      rw [Storage.close_of_isOpen hOpen, Storage.close_of_isOpen ((h.isOpen hKnown).trans hOpen)]
      exact h.setSession r.number (fun hOther => by rw [h.session hOther]) fun _ _ _ => rfl

theorem reopen (h : w.Agree s known w') (r : Storage) : (r.reopen w).Agree s known (r.reopen w') :=
  h.setSession r.number (fun hOther => by rw [h.session hOther]) fun _ _ _ => rfl

/-- Metadata of a storage with the same session is the same, and is remembered in both worlds. -/
theorem metadata_eq {i : Item} (h : w.Agree s known w') (hKnown : known i.storage)
    (hOther : i.storage.number ≠ s.number) :
    (i.metadata w').1 = (i.metadata w).1 ∧ (i.metadata w).2.Agree s known (i.metadata w').2 := by
  have hCached : i.storage.cached? i.path w' = i.storage.cached? i.path w :=
    Storage.cached?_congr (h.session hOther) i.path
  cases hOpen : i.storage.isOpen w with
  | false =>
      rw [Item.metadata_closed hOpen, Item.metadata_closed ((h.isOpen hKnown).trans hOpen)]
      exact ⟨rfl, h⟩
  | true =>
      cases hFound : i.storage.cached? i.path w with
      | some m =>
          rw [Item.metadata_of_cached hOpen hFound,
            Item.metadata_of_cached ((h.isOpen hKnown).trans hOpen) (hCached.trans hFound)]
          exact ⟨rfl, h⟩
      | none =>
          have hFresh := (h.showsAlike hKnown).freshMetadata i.path
          rw [Item.metadata_apply_of_not_cached hFound, Item.metadata_apply_of_not_cached (hCached.trans hFound),
            hFresh]
          cases i.freshMetadata w with
          | error e => exact ⟨rfl, h⟩
          | ok m => exact ⟨rfl, h.onCache i.storage _⟩

/-- When metadata is asked for, worlds go on to agree. -/
theorem metadata_world {i : Item} (h : w.Agree s known w') (hKnown : known i.storage) :
    (i.metadata w).2.Agree s known (i.metadata w').2 := by
  by_cases hHere : i.storage.number = s.number
  · obtain ⟨c, hAfter⟩ := i.exists_metadata_world w
    obtain ⟨c', hAfter'⟩ := i.exists_metadata_world w'
    rw [hAfter, hAfter']
    exact h.setSession _ (absurd hHere) fun _ => h.isOpen_session
  · exact (h.metadata_eq hKnown hHere).2

end World.Agree

/-! ### Actions -/

/-- In worlds that agree an action has the same result, and leaves them so that they agree. -/
def Action.Overlooks (s : Storage) (known : Storage → Prop) (a : Action ε α) : Prop :=
  ∀ w w', w.Agree s known w' → (a w').1 = (a w).1 ∧ (a w).2.Agree s known (a w').2

namespace Action.Overlooks

variable {a : Action ε α}

theorem pure (x : α) : Overlooks s known (Pure.pure x : Action ε α) := fun _ _ h => ⟨rfl, h⟩

theorem throw (e : ε) : Overlooks s known (MonadExcept.throw e : Action ε α) := fun _ _ h => ⟨rfl, h⟩

theorem except (x : Except ε α) : Overlooks s known (liftM x : Action ε α) := fun _ _ h => ⟨rfl, h⟩

theorem query {q : Query ε α} (hq : ∀ w w', w.Agree s known w' → q.Alike w w') :
    Overlooks s known (liftM q : Action ε α) := fun w w' h => ⟨hq w w' h, h⟩

theorem modify {g : World → World} (hg : ∀ w w', w.Agree s known w' → (g w).Agree s known (g w')) :
    Overlooks s known (modify g : Action ε PUnit) := fun w w' h => ⟨rfl, hg w w' h⟩

theorem mapError {g : ε → δ} (h : Overlooks s known a) : Overlooks s known (a.mapError g) := by
  intro w w' hAgree
  obtain ⟨hSame, hAfter⟩ := h w w' hAgree
  rw [mapError_apply, mapError_apply, hSame]
  exact ⟨rfl, hAfter⟩

/-- What comes after a step has to overlook a session only for results of the step. -/
theorem bind {f : α → Action ε β} (ha : Overlooks s known a)
    (hf : ∀ w x, (a w).1 = .ok x → Overlooks s known (f x)) : Overlooks s known (a >>= f) := by
  intro w w' hAgree
  obtain ⟨hSame, hAfter⟩ := ha w w' hAgree
  obtain ⟨x, w₁, hRun⟩ : ∃ x w₁, a w = (x, w₁) := ⟨_, _, rfl⟩
  obtain ⟨x', w₂, hRun'⟩ : ∃ x w₁, a w' = (x, w₁) := ⟨_, _, rfl⟩
  rw [hRun, hRun'] at hSame hAfter
  obtain rfl : x' = x := hSame
  cases x' with
  | error e =>
      rw [bind_error hRun, bind_error hRun']
      exact ⟨rfl, hAfter⟩
  | ok x =>
      rw [bind_ok hRun, bind_ok hRun']
      exact hf w x (by rw [hRun]) w₁ w₂ hAfter

theorem guard {c : Prop} [Decidable c] {e : ε} {g : β → Action ε α} (h : ¬c → Overlooks s known a) :
    Overlooks s known (if c then MonadExcept.throw e >>= g else a) := by
  split
  · exact (throw e).bind fun _ _ hNever => nomatch hNever
  · exact h ‹_›

theorem forM {l : List β} {f : β → Action ε PUnit} (h : ∀ b ∈ l, Overlooks s known (f b)) :
    Overlooks s known (l.forM f) := by
  induction l with
  | nil => exact pure _
  | cons b l ih =>
      obtain ⟨hFirst, hRest⟩ := List.forall_mem_cons.mp h
      exact hFirst.bind fun _ _ _ => ih hRest

theorem discard (h : Overlooks s known a) : Overlooks s known (Functor.discard a) :=
  h.bind fun _ _ _ => pure _

theorem of_sessionless (h : Sessionless a) : Overlooks s known a := by
  intro w w' hAgree
  obtain ⟨sessions, rfl⟩ := hAgree.exists_eq
  have hKept : (a w).2.sessions = w.sessions := congrArg (fun run => run.2.sessions) (h w w.sessions)
  rw [h w sessions]
  refine ⟨rfl, rfl, rfl, ?_, fun {n} hn => ?_, fun {r} hKnown => ?_⟩
  · rw [hKept]
    exact hAgree.length
  · rw [World.session, World.session, hKept]
    exact hAgree.session hn
  · rw [Storage.isOpen, Storage.isOpen, World.session, World.session, hKept]
    exact hAgree.isOpen hKnown

end Action.Overlooks

/-! ### Requests -/

/-- A source has to do with storages of a kind only. -/
def Source.Among (known : Storage → Prop) : Source → Prop
  | .item i => known i.storage
  | _ => True

/-- A request has to do with storages of a kind only. -/
def Request.Among (known : Storage → Prop) : Request → Prop
  | .write i source => known i.storage ∧ source.Among known
  | .create folder _ source => known folder.storage ∧ source.Among known
  | .createFolder folder _ => known folder.storage
  | .delete i => known i.storage
  | .rename i _ => known i.storage
  | .copyTo i folder => known i.storage ∧ known folder.storage

theorem Request.Among.storage {r : Request} (h : r.Among known) : known r.storage := by
  cases r with
  | write i source => exact h.1
  | create folder name source => exact h.1
  | createFolder folder name => exact h
  | delete i => exact h
  | rename i name => exact h
  | copyTo i folder => exact h.2

theorem Request.among_all (r : Request) : r.Among fun _ => True := by
  have hSource (source : Source) : source.Among fun _ => True := by cases source <;> trivial
  cases r with
  | write i source => exact ⟨trivial, hSource source⟩
  | create folder name source => exact ⟨trivial, hSource source⟩
  | createFolder folder name => trivial
  | delete i => trivial
  | rename i name => trivial
  | copyTo i folder => exact ⟨trivial, trivial⟩

theorem Storage.requireClear_alike (h : w.Agree s known w') (r : Storage) (paths : List StoragePath) :
    Query.Alike w w' (r.requireClear paths) := by
  induction paths with
  | nil => exact .pure _
  | cons p rest ih =>
      refine (h.entry r p).bind fun found _ => ?_
      cases found with
      | none => exact ih
      | some m =>
          dsimp only
          split
          · exact .pure _
          · exact .throw _

namespace Source

variable {source : Source}

theorem size?_eq (h : w.Agree s known w') (hSource : source.Among known) : source.size? w' = source.size? w := by
  cases source with
  | bytes contents => rfl
  | feed deliveries => rfl
  | native name =>
      obtain ⟨sessions, rfl⟩ := h.exists_eq
      rfl
  | item i => exact congrArg Except.toOption (h.seesAlike hSource).size

theorem openFor_alike (h : w.Agree s known w') (hSource : source.Among known) (p : StoragePath) :
    Query.Alike w w' (source.openFor p) := by
  cases source with
  | bytes contents => exact .pure _
  | feed deliveries => exact .pure _
  | native name =>
      obtain ⟨sessions, rfl⟩ := h.exists_eq
      rfl
  | item i => exact ((h.showsAlike hSource).openReader i.path).bind fun _ _ => .pure _

end Source

theorem Item.requireTarget_alike {source : Source} (h : w.Agree s known w') (hSource : source.Among known)
    (i : Item) : Query.Alike w w' (i.requireTarget source) := by
  refine Query.Alike.guard fun _ => (h.entry i.storage i.path).bind fun _ _ => Query.Alike.guard fun _ => ?_
  apply Query.Alike.read
  rw [source.size?_eq h hSource]
  cases i.storage.options.sizeLimit with
  | none => rfl
  | some limit =>
      cases source.size? w with
      | none => rfl
      | some size =>
          dsimp only
          split <;> rfl

namespace Action.Overlooks

variable {i folder : Item} {source : Source}

theorem prepareParent (r : Storage) (p : StoragePath) : Overlooks s known (r.prepareParent p) := by
  rw [Storage.prepareParent]
  cases p.parent? with
  | none => exact pure _
  | some parent =>
      exact (query fun _ _ h => Storage.requireClear_alike h r p.ancestors).bind fun _ _ _ =>
        (of_sessionless (r.backend.sessionless_createFolders parent)).mapError

theorem settle {step : Action FileError Unit} (h : Overlooks s known step) (i : Item) :
    Overlooks s known (i.settle step) := by
  intro w w' hAgree
  obtain ⟨hSame, hAfter⟩ := h w w' hAgree
  obtain ⟨x, w₁, hRun⟩ : ∃ x w₁, step w = (x, w₁) := ⟨_, _, rfl⟩
  obtain ⟨x', w₂, hRun'⟩ : ∃ x w₁, step w' = (x, w₁) := ⟨_, _, rfl⟩
  rw [hRun, hRun'] at hSame hAfter
  obtain rfl : x' = x := hSame
  have hForgotten := hAfter.onCache i.storage (Cache.invalidate i.path)
  rw [Item.settle, Item.settle, hRun, hRun']
  cases x' with
  | ok _ => exact ⟨rfl, hForgotten⟩
  | error e =>
      have hRemove : Overlooks s known (i.storage.backend.removeFile i.draft) :=
        of_sessionless (Backend.sessionless_removeFile _ _)
      exact ⟨rfl, (hRemove _ _ hForgotten).2⟩

theorem carry (hSource : source.Among known) (i : Item) : Overlooks s known (i.carry source) :=
  (prepareParent i.storage i.path).bind fun _ _ _ =>
    (query fun _ _ h => source.openFor_alike h hSource i.path).bind fun _ stream _ =>
      (of_sessionless (i.storage.backend.sessionless_openWrite i.draft)).mapError.bind fun _ x _ =>
        settle (of_sessionless (i.sessionless_replace stream x)) i

theorem write (hKnown : known i.storage) (hSource : source.Among known) : Overlooks s known (i.write source) := by
  rw [Item.write_eq]
  refine (query fun _ _ h => (h.seesAlike hKnown).validate).bind fun _ _ _ => (except _).bind fun _ _ _ =>
    guard fun _ => ?_
  split
  · exact pure _
  · exact (query fun _ _ h => i.requireTarget_alike h hSource).bind fun _ _ _ => carry hSource i

theorem create (hKnown : known folder.storage) (name : String) (hSource : source.Among known) :
    Overlooks s known (folder.create name source) := by
  refine (query fun _ _ h => (h.showsAlike hKnown).file folder.path name).bind fun w target hTarget => ?_
  have hSame : target.storage = folder.storage := Item.storage_of_file hTarget
  exact write (hSame ▸ hKnown) hSource

theorem createFolder (hKnown : known folder.storage) (name : String) :
    Overlooks s known (folder.createFolder name) := by
  refine (query fun _ _ h => (h.showsAlike hKnown).file folder.path name).bind fun _ target _ =>
    (except _).bind fun _ _ _ => guard fun _ =>
      (query fun _ _ h => h.entry folder.storage target.path).bind fun _ found _ => ?_
  cases found with
  | some m =>
      dsimp only
      split
      · exact pure _
      · exact throw _
  | none =>
      exact (prepareParent folder.storage target.path).bind fun _ _ _ =>
        (of_sessionless (folder.storage.backend.sessionless_createFolders target.path)).mapError.bind fun _ _ _ =>
          (modify fun _ _ h => h.onCache folder.storage _).bind fun _ _ _ => pure _

theorem delete (hKnown : known i.storage) : Overlooks s known i.delete :=
  (except _).bind fun _ _ _ => (query fun _ _ h => (h.seesAlike hKnown).requireEntry).bind fun _ m _ =>
    (of_sessionless (i.sessionless_removeEntry m)).mapError.bind fun _ _ _ =>
      modify fun _ _ h => h.onCache i.storage _

theorem rename (hKnown : known i.storage) (name : String) : Overlooks s known (i.rename name) := by
  refine (except _).bind fun _ _ _ => (query fun _ _ h => (h.seesAlike hKnown).requireEntry).bind fun _ _ _ =>
    (except _).bind fun _ target _ => ?_
  split
  · exact pure _
  · exact guard fun _ => (query fun _ _ h => h.entry i.storage target.path).bind fun _ _ _ => guard fun _ =>
      (prepareParent i.storage target.path).bind fun _ _ _ =>
        (of_sessionless (i.storage.backend.sessionless_rename i.path target.path)).mapError.bind fun _ _ _ =>
          (modify fun _ _ h => (h.onCache i.storage _).onCache i.storage _).bind fun _ _ _ => pure _

theorem copyDown (hKnown : known i.storage) (hFolder : known folder.storage) (levels : Nat) :
    Overlooks s known (Item.copyDown levels i folder) := by
  induction levels generalizing i folder with
  | zero => exact throw _
  | succ levels ih =>
      refine (query fun _ _ h => (h.seesAlike hKnown).requireEntry).bind fun _ m _ => ?_
      split
      · exact create hFolder i.name hKnown
      · refine guard fun _ => (query fun _ _ h => (h.showsAlike hKnown).list i.path .all).bind fun w children hListed =>
          (createFolder hFolder i.name).bind fun w copy hCopy => ?_
        have hSame : copy.storage = folder.storage := Item.storage_of_createFolder hCopy
        refine (forM fun child hMem => ?_).bind fun _ _ _ => pure _
        obtain ⟨name, _, _, -, -, rfl, -⟩ := Item.mem_list hListed hMem
        exact (ih (i := ⟨i.storage, i.path.child name⟩) hKnown (hSame ▸ hFolder)).discard

theorem copyTo (hKnown : known i.storage) (hFolder : known folder.storage) : Overlooks s known (i.copyTo folder) := by
  intro w w' h
  rw [Item.copyTo_apply, Item.copyTo_apply, h.levels]
  exact copyDown hKnown hFolder _ w w' h

/-- Requests go the same way whatever is remembered, and whether or not other storages are open. -/
theorem perform {r : Request} (h : r.Among known) : Overlooks s known r.perform := by
  cases r with
  | write i source => exact (write h.1 h.2).discard
  | create folder name source => exact (create h.1 name h.2).discard
  | createFolder folder name => exact (createFolder h name).discard
  | delete i => exact delete h
  | rename i name => exact (rename h name).discard
  | copyTo i folder => exact (copyTo h.1 h.2).discard

end Action.Overlooks

end Cabinet
