import Cabinet.Proofs.Storage.Describing
import Cabinet.Proofs.Storage.Heeding
import Mathlib.Logic.Relation

/-! Storages with a cache, in use. What a storage remembers of an item stays right as long as nothing but
the item's own entry tells what it is, or the file beside it changes only together with it. So a cache is
not to be seen where metadata is of entries alone, but for drafts that are shown; and with documents beside
items it goes out of date exactly where a document is changed on its own. -/

namespace Cabinet

open Relation (ReflTransGen)

variable {s : Storage} {i : Item} {w₀ w w' : World} {t t' : Tree} {p : StoragePath} {m : Members}
  {suffix : String}

namespace Storage

/-! ### Steps -/

/-- A storage that has just been made, with a cache and a tree of its own. -/
def Begins (s : Storage) (w : World) : Prop :=
  ∃ w₀ : World, s.number = w₀.sessions.length ∧ s.backend = ⟨w₀.addTree.1, .plain⟩ ∧
    w = (w₀.addTree.2.addStorage (fun _ => s) true).2

/-- What happens to a storage: something is requested of it, metadata is asked for, it is closed or opened
again; or something is done elsewhere, that changes neither its entries nor its session. -/
inductive Step (s : Storage) : World → World → Prop where
  | request {w : World} (r : Request) (hTo : r.storage = s) : Step s w (r.perform w).2
  | metadata {w : World} (i : Item) (hOf : i.storage = s) : Step s w (i.metadata w).2
  | close {w : World} : Step s w (s.close w)
  | reopen {w : World} : Step s w (s.reopen w)
  | elsewhere {w w' : World} (hTree : ∀ t, s.Holds w t → s.Holds w' t)
      (hSession : w'.session s.number = w.session s.number) : Step s w w'

/-- What is requested of another storage, with entries at another place, is done elsewhere. This may be a
copy of an item of the storage. -/
theorem step_of_request_elsewhere (r : Request) (hNumber : r.storage.number ≠ s.number)
    (hPlace : r.storage.backend.place ≠ s.backend.place) (w : World) : s.Step w (r.perform w).2 :=
  .elsewhere (fun _ h => r.keeps_of_leaves (leaves_holds hPlace) w h)
    (r.keeps_of_leaves (leaves_session hNumber _) w rfl)

/-- A storage with a tree of its own that remembers something only while it is open, and only of what it
shows. -/
structure Orderly (s : Storage) (w : World) : Prop where
  tree : ∃ t, s.Holds w t ∧ t.WellFormed
  isOpen {p : StoragePath} {m : Members} (h : s.cached? p w = some m) : s.isOpen w = true
  shown {p : StoragePath} {m : Members} (h : s.cached? p w = some m) : s.hides p = false

/-- An entry that is there stays as it is. -/
def Stays (s : Storage) (p : StoragePath) (w w' : World) : Prop :=
  ∀ t t' n, s.Holds w t → s.Holds w' t' → t.get? p = some n → t'.get? p = some n

theorem Begins.cached?_eq_none (h : s.Begins w) (p : StoragePath) : s.cached? p w = none := by
  obtain ⟨w₀, hNumber, -, rfl⟩ := h
  have hSession : (w₀.addTree.2.addStorage (fun _ => s) true).2.session s.number = ⟨true, some []⟩ := by
    rw [hNumber]
    simp [World.session, World.addStorage, World.addTree]
  rw [cached?, hSession]
  rfl

theorem Begins.orderly (h : s.Begins w) : s.Orderly w where
  tree := by
    obtain ⟨w₀, -, hBackend, rfl⟩ := h
    exact ⟨.empty, ⟨_, hBackend, List.getElem?_concat_length⟩, Tree.wellFormed_empty⟩
  isOpen hKnown := nomatch (h.cached?_eq_none _).symm.trans hKnown
  shown hKnown := nomatch (h.cached?_eq_none _).symm.trans hKnown

/-- What a storage remembers after a step, it remembered before, of an entry that stays as it is, or of a
draft; or it is what would be made afresh. -/
def Accounts (s : Storage) (w w' : World) : Prop :=
  ∀ p m, s.cached? p w' = some m →
    s.cached? p w = some m ∧ (¬p.IsDraft → s.Stays p w w') ∨ (⟨s, p⟩ : Item).freshMetadata w' = .ok m

theorem stays_of_holds (h : s.Holds w t) (h' : s.Holds w' t) (p : StoragePath) : s.Stays p w w' := by
  intro t₁ t₂ n h₁ h₂ hFound
  rwa [h₂.unique h', h.unique h₁]

namespace Orderly

/-- Where the tree is the same, and nothing new is remembered, all is well. -/
theorem quiet (h : s.Orderly w) (hTree : ∀ t, s.Holds w t → s.Holds w' t)
    (hCached : ∀ p m, s.cached? p w' = some m → s.cached? p w = some m ∧ s.isOpen w' = true) :
    s.Orderly w' ∧ s.Accounts w w' := by
  obtain ⟨t, hHolds, hT⟩ := h.tree
  refine ⟨⟨⟨t, hTree t hHolds, hT⟩, fun hKnown => (hCached _ _ hKnown).2, fun hKnown =>
    h.shown (hCached _ _ hKnown).1⟩, fun p m hKnown => Or.inl ⟨(hCached p m hKnown).1, fun _ => ?_⟩⟩
  exact stays_of_holds hHolds (hTree t hHolds) p

theorem self (h : s.Orderly w) : s.Orderly w ∧ s.Accounts w w :=
  h.quiet (fun _ hHolds => hHolds) fun _ _ hKnown => ⟨hKnown, h.isOpen hKnown⟩

theorem request (r : Request) (h : r.storage.Orderly w) :
    r.storage.Orderly (r.perform w).2 ∧ r.storage.Accounts w (r.perform w).2 := by
  obtain ⟨t, hHolds, hT⟩ := h.tree
  have hHeeds := r.heeds_perform w
  have hOpen := r.keeps_of_leaves (leaves_isOpen r.storage r.storage (r.storage.isOpen w)) w rfl
  obtain ⟨t', hAfter, hFormed, hKept⟩ := hHeeds.tree hHolds hT
  refine ⟨⟨⟨t', hAfter, hFormed⟩, fun hKnown => hOpen.trans (h.isOpen (hHeeds.remembers hKnown)), fun hKnown =>
    h.shown (hHeeds.remembers hKnown)⟩, fun p m hKnown => Or.inl ⟨hHeeds.remembers hKnown, ?_⟩⟩
  intro hNoDraft t₁ t₂ n h₁ h₂ hFound
  rw [h₁.unique hHolds] at hFound
  rw [h₂.unique hAfter]
  exact hKept p m n hKnown hNoDraft hFound

/-- What is remembered anew was made of an item that is there to be seen, and is still what would be made. -/
theorem remember (h : i.storage.Orderly w) (hMade : i.freshMetadata w = .ok m) :
    i.storage.Orderly (i.storage.remember i.path m w) ∧
      i.storage.Accounts w (i.storage.remember i.path m w) := by
  obtain ⟨t, hHolds, hT⟩ := h.tree
  have hAfter : i.storage.Holds (i.storage.remember i.path m w) t := hHolds.congr rfl
  obtain ⟨found, hFound⟩ := Item.requireEntry_of_freshMetadata hMade
  obtain ⟨hOpen, hShown, -⟩ := Item.requireEntry_eq_ok_iff.mp hFound
  have hSame : i.storage.isOpen (i.storage.remember i.path m w) = i.storage.isOpen w :=
    World.SameBut.isOpen_onCache _ _ _
  have hAlike := Item.freshMetadata_alike hHolds hAfter hSame rfl fun _ _ _ _ => rfl
  refine ⟨⟨⟨t, hAfter, hT⟩, fun _ => hSame.trans hOpen, fun hKnown => ?_⟩, fun p k hKnown => ?_⟩
  · rcases cached?_of_remember hKnown with ⟨rfl, -⟩ | hBefore
    · exact hShown
    · exact h.shown hBefore
  · rcases cached?_of_remember hKnown with ⟨rfl, rfl⟩ | hBefore
    · exact Or.inr (hAlike.trans hMade)
    · exact Or.inl ⟨hBefore, fun _ => stays_of_holds hHolds hAfter p⟩

theorem metadata (h : i.storage.Orderly w) :
    i.storage.Orderly (i.metadata w).2 ∧ i.storage.Accounts w (i.metadata w).2 := by
  cases hKnown : i.storage.cached? i.path w with
  | some m =>
      rw [Item.metadata_of_cached (h.isOpen hKnown) hKnown]
      exact h.self
  | none =>
      rcases (Item.metadata_of_not_cached hKnown).2 with hSame | ⟨m, hMade, hAfter⟩
      · rw [hSame]
        exact h.self
      · rw [hAfter]
        exact h.remember hMade

theorem close (h : s.Orderly w) : s.Orderly (s.close w) ∧ s.Accounts w (s.close w) := by
  cases hOpen : s.isOpen w with
  | false =>
      rw [close_of_closed hOpen]
      exact h.self
  | true =>
      refine h.quiet (fun _ hHolds => ?_) fun p m hKnown => nomatch (cached?_close hOpen p).symm.trans hKnown
      rw [close_of_isOpen hOpen]
      exact hHolds.congr rfl

theorem reopen (h : s.Orderly w) : s.Orderly (s.reopen w) ∧ s.Accounts w (s.reopen w) :=
  h.quiet (fun _ hHolds => hHolds.congr rfl) fun p _ hKnown =>
    ⟨(cached?_reopen p).symm.trans hKnown, isOpen_reopen s w⟩

/-- A storage stays orderly in every step, and what it remembers is accounted for. -/
theorem step (h : s.Orderly w) (hStep : s.Step w w') : s.Orderly w' ∧ s.Accounts w w' := by
  cases hStep with
  | request r hTo => exact hTo ▸ request r (hTo ▸ h)
  | metadata i hOf => exact hOf ▸ metadata (hOf ▸ h)
  | close => exact h.close
  | reopen => exact h.reopen
  | elsewhere hTree hSession =>
      refine h.quiet hTree fun p m hKnown => ?_
      have hBefore := (cached?_congr hSession p).symm.trans hKnown
      exact ⟨hBefore, (congrArg Session.isOpen hSession).trans (h.isOpen hBefore)⟩

end Orderly

theorem orderly_of_run (h : s.Begins w₀) (hRun : ReflTransGen s.Step w₀ w) : s.Orderly w := by
  induction hRun with
  | refl => exact h.orderly
  | tail _ hStep ih => exact (ih.step hStep).1

/-! ### Answers that are right -/

/-- What a storage remembers of a path, if anything, is what would be made afresh. -/
def IsRight (s : Storage) (p : StoragePath) (w : World) : Prop :=
  ∀ m, s.cached? p w = some m → (⟨s, p⟩ : Item).freshMetadata w = .ok m

theorem isRight_of_not_cached (h : s.cached? p w = none) : s.IsRight p w := fun _ hKnown =>
  nomatch h.symm.trans hKnown

theorem Orderly.isRight_of_hides (h : s.Orderly w) (hHides : s.hides p = true) : s.IsRight p w := fun _ hKnown =>
  nomatch hHides.symm.trans (h.shown hKnown)

/-- The storage in a world as it would be without a cache. -/
def withoutCache (s : Storage) (w : World) : World := w.setSession s.number ⟨s.isOpen w, none⟩

theorem cached?_withoutCache (p : StoragePath) : s.cached? p (s.withoutCache w) = none := by
  rw [cached?, withoutCache, World.session_setSession]
  split
  · rfl
  · rename_i hBeyond
    rw [World.session_of_le (Nat.le_of_not_lt fun hBound => hBeyond ⟨rfl, hBound⟩)]
    rfl

theorem isOpen_withoutCache : s.isOpen (s.withoutCache w) = s.isOpen w := by
  rw [isOpen, withoutCache, World.session_setSession]
  split <;> rfl

end Storage

namespace Item

open Storage

/-- Metadata is answered as it would be made exactly if what is remembered is right. -/
theorem metadata_eq_fresh_iff (h : i.storage.Orderly w) :
    (i.metadata w).1 = i.freshMetadata w ↔ i.storage.IsRight i.path w := by
  constructor
  · intro hAnswer m hKnown
    rw [metadata_of_cached (h.isOpen hKnown) hKnown] at hAnswer
    exact hAnswer.symm
  · intro hRight
    cases hKnown : i.storage.cached? i.path w with
    | none => exact (metadata_of_not_cached hKnown).1
    | some m =>
        rw [metadata_of_cached (h.isOpen hKnown) hKnown]
        exact (hRight m hKnown).symm

/-- The file beside an item, whose name has a suffix more, is the same as long as the item is. -/
def Accompanied (i : Item) (suffix : String) (w w' : World) : Prop :=
  ∀ j t t', i.sibling (i.name ++ suffix) = .ok j → i.storage.Holds w t → i.storage.Holds w' t' →
    t'.get? i.path = t.get? i.path → t'.file? j.path = t.file? j.path

theorem Accompanied.of_changed (h : i.storage.Holds w t) (h' : i.storage.Holds w' t')
    (hChanged : t'.get? i.path ≠ t.get? i.path) : i.Accompanied suffix w w' := by
  intro j t₁ t₂ _ h₁ h₂ hSame
  rw [h₁.unique h, h₂.unique h'] at hSame
  exact absurd hSame hChanged

theorem Accompanied.of_holds (h : i.storage.Holds w t) (h' : i.storage.Holds w' t) :
    i.Accompanied suffix w w' := by
  intro j t₁ t₂ _ h₁ h₂ _
  rw [h₁.unique h, h₂.unique h']

/-- What is right stays right: a step forgets it, or leaves all alone on which it depends. -/
theorem isRight_step (hStep : i.storage.Step w w') (h : i.storage.Orderly w) (hNoDraft : ¬i.path.IsDraft)
    (hBeside : ∀ suffix, i.storage.metadataSource = .sidecar suffix → i.Accompanied suffix w w')
    (hRight : i.storage.IsRight i.path w) : i.storage.IsRight i.path w' := by
  intro m hKnown
  obtain ⟨h', hAccounts⟩ := h.step hStep
  rcases hAccounts i.path m hKnown with ⟨hBefore, hStays⟩ | hFresh
  · obtain ⟨t, hHolds, -⟩ := h.tree
    obtain ⟨t', hHolds', -⟩ := h'.tree
    have hMade := hRight m hBefore
    obtain ⟨found, hFound⟩ := requireEntry_of_freshMetadata hMade
    obtain ⟨hOpen, -, hEntry⟩ := requireEntry_eq_ok_iff.mp hFound
    obtain ⟨n, hThere, -⟩ := Option.map_eq_some_iff.mp (Except.ok.inj ((hHolds.entry i.path).symm.trans hEntry))
    have hSame : t'.get? i.path = t.get? i.path :=
      (hStays hNoDraft t t' n hHolds hHolds' hThere).trans hThere.symm
    have hAlike := freshMetadata_alike hHolds hHolds' ((h'.isOpen hKnown).trans hOpen.symm) hSame
      fun suffix j hSource hSibling => hBeside suffix hSource j t t' hSibling hHolds hHolds' hSame
    exact hAlike.trans hMade
  · exact hFresh

/-- The cache of a storage in memory whose metadata is of entries alone is not to be seen, however the
storage is used: what is answered for an item is what would be answered without it. The drafts of files are
the exception, where they are shown. -/
theorem metadata_withoutCache (hBegins : i.storage.Begins w₀) (hRun : ReflTransGen i.storage.Step w₀ w)
    (hSource : i.storage.metadataSource = .basic) (hPath : i.storage.hides i.path = true ∨ ¬i.path.IsDraft) :
    (i.metadata w).1 = (i.metadata (i.storage.withoutCache w)).1 := by
  have hOrderly := orderly_of_run hBegins hRun
  have hRight : i.storage.IsRight i.path w := by
    rcases hPath with hHides | hNoDraft
    · exact hOrderly.isRight_of_hides hHides
    · induction hRun with
      | refl => exact isRight_of_not_cached (hBegins.cached?_eq_none i.path)
      | tail hBefore hStep ih =>
          have hThen := orderly_of_run hBegins hBefore
          exact isRight_step hStep hThen hNoDraft (fun _ hOther => nomatch hSource.symm.trans hOther) (ih hThen)
  obtain ⟨t, hHolds, -⟩ := hOrderly.tree
  have hWithout : i.storage.Holds (i.storage.withoutCache w) t := hHolds.congr rfl
  have hAlike := freshMetadata_alike hHolds hWithout isOpen_withoutCache rfl fun _ _ _ _ => rfl
  calc (i.metadata w).1 = i.freshMetadata w := (metadata_eq_fresh_iff hOrderly).mpr hRight
    _ = i.freshMetadata (i.storage.withoutCache w) := hAlike.symm
    _ = (i.metadata (i.storage.withoutCache w)).1 :=
      (metadata_of_not_cached (cached?_withoutCache i.path)).1.symm

/-- The metadata of a file is remembered while the file is copied into another storage, and forgotten when
its folder is moved. -/
theorem metadata_withoutCache_moved :
    let other : Storage := ⟨0, "other", ⟨.memory 0, .plain⟩, .standard, .byName, .basic⟩
    let s : Storage := ⟨1, "main", ⟨.memory 1, .plain⟩, .standard, .byName, .basic⟩
    let w := (World.empty.addTree.2.addStorage (fun _ => other) false).2
    let w₀ := (w.addTree.2.addStorage (fun _ => s) true).2
    let i : Item := ⟨s, ⟨["a", "x"]⟩⟩
    let w₁ := ((Request.write i (.bytes [1, 2])).perform w₀).2
    let w₂ := ((Request.copyTo i ⟨other, .root⟩).perform (i.metadata w₁).2).2
    let w₃ := ((Request.rename ⟨s, ⟨["a"]⟩⟩ "b").perform w₂).2
    s.Begins w₀ ∧ ReflTransGen s.Step w₀ w₃ ∧
      (s.cached? i.path w₂).isSome = true ∧ (i.metadata w₂).1 = (i.metadata (s.withoutCache w₂)).1 ∧
      i.requireEntry w₃ = .error (.notFound i.path) ∧
      (i.metadata w₃).1 = (i.metadata (s.withoutCache w₃)).1 := by
  intro other s w w₀ i w₁ w₂ w₃
  have hBegins : s.Begins w₀ := ⟨w, rfl, rfl, rfl⟩
  have hCopied : ReflTransGen s.Step w₀ w₂ :=
    ((ReflTransGen.single (.request _ rfl)).tail (.metadata i rfl)).tail
      (step_of_request_elsewhere _ (by decide) (by decide) _)
  have hMoved : ReflTransGen s.Step w₀ w₃ := hCopied.tail (.request _ rfl)
  have hPath := hides_or_not_isDraft (s := s) rfl i.path
  exact ⟨hBegins, hMoved, by decide +kernel +zetaReduce, metadata_withoutCache hBegins hCopied rfl hPath,
    by decide +kernel +zetaReduce, metadata_withoutCache hBegins hMoved rfl hPath⟩

/-- A draft that is shown, and remembered, is gone after a file has been written over it; but it is still
told of. -/
theorem not_metadata_withoutCache_draft :
    let s : Storage := ⟨0, "main", ⟨.memory 0, .plain⟩, ⟨none, false, true⟩, .byName, .basic⟩
    let w₀ := (World.empty.addTree.2.addStorage (fun _ => s) true).2
    let i : Item := ⟨s, ⟨[".a.partial"]⟩⟩
    let w₁ := ((Request.write i (.bytes [1])).perform w₀).2
    let w₂ := (i.metadata w₁).2
    let w₃ := ((Request.write ⟨s, ⟨["a"]⟩⟩ (.bytes [2])).perform w₂).2
    s.Begins w₀ ∧ ReflTransGen s.Step w₀ w₃ ∧ s.metadataSource = .basic ∧
      i.requireEntry w₃ = .error (.notFound i.path) ∧
      (i.metadata w₃).1 ≠ (i.metadata (s.withoutCache w₃)).1 := by
  intro s w₀ i w₁ w₂ w₃
  have hRun : ReflTransGen s.Step w₀ w₃ :=
    ((ReflTransGen.single (.request _ rfl)).tail (.metadata i rfl)).tail (.request _ rfl)
  have hTold : (i.metadata w₃).1.toOption.isSome = true := by decide +kernel +zetaReduce
  have hNot : (i.metadata (s.withoutCache w₃)).1.toOption.isSome = false := by decide +kernel +zetaReduce
  refine ⟨⟨.empty, rfl, rfl, rfl⟩, hRun, rfl, by decide +kernel +zetaReduce, fun hSame => ?_⟩
  rw [hSame, hNot] at hTold
  cases hTold

theorem freshMetadata_of_sidecar (hSource : i.storage.metadataSource = .sidecar suffix) (w : World) :
    i.freshMetadata w = i.sidecarMetadata suffix w := by
  rw [freshMetadata, hSource]

/-- With documents beside items, what is answered for an item is right as long as the file beside it has
changed only together with the item itself since nothing was remembered of it. Nothing is when the storage
is new. -/
theorem metadata_accompanied {w₁ : World} (hBegins : i.storage.Begins w₀)
    (hBefore : ReflTransGen i.storage.Step w₀ w₁) (hUnknown : i.storage.cached? i.path w₁ = none)
    (hRun : ReflTransGen (fun w w' => i.storage.Step w w' ∧ i.Accompanied suffix w w') w₁ w)
    (hSource : i.storage.metadataSource = .sidecar suffix)
    (hPath : i.storage.hides i.path = true ∨ ¬i.path.IsDraft) :
    (i.metadata w).1 = i.sidecarMetadata suffix w := by
  have hOrderly {w : World}
      (h : ReflTransGen (fun w w' => i.storage.Step w w' ∧ i.Accompanied suffix w w') w₁ w) :
      i.storage.Orderly w :=
    orderly_of_run hBegins (hBefore.trans (ReflTransGen.mono (fun _ _ => And.left) _ _ h))
  have hRight : i.storage.IsRight i.path w := by
    rcases hPath with hHides | hNoDraft
    · exact (hOrderly hRun).isRight_of_hides hHides
    · induction hRun with
      | refl => exact isRight_of_not_cached hUnknown
      | tail hUpTo hStep ih =>
          refine isRight_step hStep.1 (hOrderly hUpTo) hNoDraft (fun other hOther => ?_) ih
          obtain rfl := MetadataSource.sidecar.inj (hSource.symm.trans hOther)
          exact hStep.2
  rw [← freshMetadata_of_sidecar hSource]
  exact (metadata_eq_fresh_iff (hOrderly hRun)).mpr hRight

/-- A file and the document beside it are moved together with their folder, after the metadata of the file
was remembered. -/
theorem metadata_accompanied_moved :
    let s : Storage := ⟨0, "main", ⟨.memory 0, .plain⟩, .standard, .byName, .sidecar ".m"⟩
    let i : Item := ⟨s, ⟨["d", "x"]⟩⟩
    let w₀ := (World.empty.addTree.2.addStorage (fun _ => s) true).2
    let w := ((Request.write i (.bytes [1])).perform w₀).2
    let w₁ := ((Request.write ⟨s, ⟨["d", "x.m"]⟩⟩ (.bytes [49])).perform w).2
    let w₂ := (i.metadata w₁).2
    let w₃ := ((Request.rename ⟨s, ⟨["d"]⟩⟩ "e").perform w₂).2
    s.Begins w₀ ∧ (i.metadata w₀).1 = i.sidecarMetadata ".m" w₀ ∧ ReflTransGen s.Step w₀ w₁ ∧
      s.cached? i.path w₁ = none ∧ (s.cached? i.path w₂).isSome = true ∧
      (i.metadata w₂).1 = i.sidecarMetadata ".m" w₂ ∧ (i.metadata w₃).1 = i.sidecarMetadata ".m" w₃ := by
  intro s i w₀ w w₁ w₂ w₃
  have hBegins : s.Begins w₀ := ⟨.empty, rfl, rfl, rfl⟩
  have hPath := hides_or_not_isDraft (s := s) rfl i.path
  have hWritten : ReflTransGen s.Step w₀ w₁ := (ReflTransGen.single (.request _ rfl)).tail (.request _ rfl)
  have hUnknown : s.cached? i.path w₁ = none := Option.isNone_iff_eq_none.mp (by decide +kernel +zetaReduce)
  have hHere : s.Holds w₁
      (((Tree.empty.put ⟨["d"]⟩ .folder).put ⟨["d", "x"]⟩ (.file [1])).put ⟨["d", "x.m"]⟩ (.file [49])) :=
    ⟨0, rfl, by decide +kernel +zetaReduce⟩
  have hStill : s.Holds w₂
      (((Tree.empty.put ⟨["d"]⟩ .folder).put ⟨["d", "x"]⟩ (.file [1])).put ⟨["d", "x.m"]⟩ (.file [49])) :=
    ⟨0, rfl, by decide +kernel +zetaReduce⟩
  have hMoved : s.Holds w₃
      (((Tree.empty.put ⟨["e"]⟩ .folder).put ⟨["e", "x"]⟩ (.file [1])).put ⟨["e", "x.m"]⟩ (.file [49])) :=
    ⟨0, rfl, by decide +kernel +zetaReduce⟩
  have hAsked : ReflTransGen (fun w w' => s.Step w w' ∧ i.Accompanied ".m" w w') w₁ w₂ :=
    .single ⟨.metadata i rfl, .of_holds hHere hStill⟩
  have hChanged : i.Accompanied ".m" w₂ w₃ := .of_changed hStill hMoved (by decide +kernel +zetaReduce)
  have hRenamed : ReflTransGen (fun w w' => s.Step w w' ∧ i.Accompanied ".m" w w') w₁ w₃ :=
    hAsked.tail ⟨.request _ rfl, hChanged⟩
  exact ⟨hBegins, metadata_accompanied hBegins .refl (hBegins.cached?_eq_none _) .refl rfl hPath, hWritten,
    hUnknown, by decide +kernel +zetaReduce,
    metadata_accompanied hBegins hWritten hUnknown hAsked rfl hPath,
    metadata_accompanied hBegins hWritten hUnknown hRenamed rfl hPath⟩

/-- A document that is written after the metadata of its file was remembered is not told of. -/
theorem not_metadata_accompanied_alone :
    let s : Storage := ⟨0, "main", ⟨.memory 0, .plain⟩, .standard, .byName, .sidecar ".meta.json"⟩
    let i : Item := ⟨s, ⟨["x.txt"]⟩⟩
    let document : Bytes := Utf8.encode ['{', '"', 'a', '"', ':', '1', '}']
    let w₀ := (World.empty.addTree.2.addStorage (fun _ => s) true).2
    let w₁ := (i.metadata ((Request.write i (.bytes [49])).perform w₀).2).2
    let w₂ := ((Request.write ⟨s, ⟨["x.txt.meta.json"]⟩⟩ (.bytes document)).perform w₁).2
    s.Begins w₀ ∧ ReflTransGen s.Step w₀ w₂ ∧ s.hides i.path = false ∧ ¬i.path.IsDraft ∧
      (i.metadata w₂).1 ≠ i.sidecarMetadata ".meta.json" w₂ := by
  intro s i document w₀ w₁ w₂
  have hRun : ReflTransGen s.Step w₀ w₂ :=
    ((ReflTransGen.single (.request _ rfl)).tail (.metadata i rfl)).tail (.request _ rfl)
  have hTold : (i.metadata w₂).1.toOption.any (Members.contains "a") = false := by decide +kernel +zetaReduce
  have hThere : (i.sidecarMetadata ".meta.json" w₂).toOption.any (Members.contains "a") = true := by
    decide +kernel +zetaReduce
  refine ⟨⟨.empty, rfl, rfl, rfl⟩, hRun, rfl, ?_, fun hSame => ?_⟩
  · exact (hides_or_not_isDraft (s := s) rfl i.path).resolve_left Bool.false_ne_true
  · rw [hSame, hThere] at hTold
    cases hTold

end Item

end Cabinet
