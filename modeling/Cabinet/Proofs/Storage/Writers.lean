import Cabinet.Proofs.Storage.Operations
import Cabinet.Storage.Handle

/-! Backends in memory whose writers stay open. A writer is checked when it is opened, and stores what it
was given when it is flushed or given up, whatever has become of its path by then. The root stays a folder
through all of it. The entries stay a tree exactly as long as every writer that stores something finds its
folder there, and nothing below its path. -/

namespace Cabinet

variable {t : Tree}

/-! ### What a writer stores -/

namespace Writer

/-- A tree when everything that was given to a writer has been stored in it. -/
def settled (x : Writer) (t : Tree) : Tree :=
  match x.sink with
  | .memory _ p gathered true => t.put p (.file gathered)
  | _ => t

/-- A writer has nothing to store in a tree, or there is room for it. -/
def Fits (x : Writer) (t : Tree) : Prop :=
  match x.sink with
  | .memory _ p _ true => t.HasRoom p
  | _ => True

/-- A writer of a file of a tree in memory. -/
def WritesTo (n : Nat) (x : Writer) : Prop :=
  ∃ p gathered dirty, x = treeWriter n p gathered dirty ∧ p.isRoot = false

variable {n : Nat} {x : Writer} {w : World}

theorem WritesTo.settled_rooted_iff (hx : x.WritesTo n) (h : t.Rooted) :
    (x.settled t).Rooted ↔ x.Fits t := by
  obtain ⟨p, gathered, dirty, rfl, hp⟩ := hx
  cases dirty with
  | false => exact ⟨fun _ => trivial, fun _ => h⟩
  | true => exact h.put_file_iff hp

theorem WritesTo.root_settled (hx : x.WritesTo n) (h : t.get? .root = some .folder) :
    (x.settled t).get? .root = some .folder := by
  obtain ⟨p, gathered, dirty, rfl, hp⟩ := hx
  cases dirty with
  | false => exact h
  | true => exact (Tree.get?_put_of_ne (StoragePath.ne_root hp).symm).trans h

/-- What a writer is given is not stored yet. -/
theorem WritesTo.writeOnce (hx : x.WritesTo n) (bytes : Bytes) (w : World) :
    (x.writeOnce bytes w).2.1.WritesTo n ∧ (x.writeOnce bytes w).2.2 = w := by
  obtain ⟨p, gathered, dirty, rfl, hp⟩ := hx
  exact ⟨⟨p, gathered ++ bytes, true, rfl, hp⟩, rfl⟩

/-- Flushing stores what a writer holds, and so does giving it up. -/
theorem WritesTo.flush (hx : x.WritesTo n) (hTree : w.trees[n]? = some t) :
    (x.flush w).2.1.WritesTo n ∧ (x.flush w).2.2.trees[n]? = some (x.settled t) := by
  obtain ⟨p, gathered, dirty, rfl, hp⟩ := hx
  refine ⟨⟨p, gathered, false, ?_, hp⟩, ?_⟩
  · cases dirty <;> rfl
  · cases dirty with
    | false => exact hTree
    | true =>
        obtain ⟨hBound, -⟩ := List.getElem?_eq_some_iff.mp hTree
        rw [← Storage.Holds.tree_eq hTree]
        exact List.getElem?_set_self hBound

theorem WritesTo.close (hx : x.WritesTo n) (hTree : w.trees[n]? = some t) :
    (x.close w).trees[n]? = some (x.settled t) := by
  rw [← (hx.flush hTree).2]
  obtain ⟨p, gathered, dirty, rfl, -⟩ := hx
  rfl

end Writer

namespace Desk

/-! ### Running -/

section Running

variable {α β : Type} {a : DeskAction α} {f : α → DeskAction β} {d d' : Desk} {x : α} {e : IoError}
  {name : String} {p : StoragePath} {y : Writer} {w : World}

theorem bind_ok (h : a d = (.ok x, d')) : (a >>= f) d = f x d' := by
  change (match a d with | (r, d') => (ExceptT.bindCont f r : StateM Desk _) d') = _
  rw [h]
  rfl

theorem bind_error (h : a d = (.error e, d')) : (a >>= f) d = (.error e, d') := by
  change (match a d with | (r, d') => (ExceptT.bindCont f r : StateM Desk _) d') = _
  rw [h]
  rfl

theorem discard_snd (a : DeskAction α) (d : Desk) : ((discard a : DeskAction Unit) d).2 = (a d).2 := by
  obtain ⟨r, d', hRun⟩ : ∃ r d', a d = (r, d') := ⟨_, _, rfl⟩
  have hDiscard : (discard a : DeskAction Unit) = a >>= fun _ => pure () := rfl
  rw [hDiscard, hRun]
  cases r with
  | error e => rw [bind_error hRun]
  | ok x => rw [bind_ok hRun]; rfl

theorem drop_apply (name : String) (d : Desk) : drop name d = (.ok (d.writers.lookup name).isSome,
    (d.writers.lookup name).elim d fun x =>
      { d with world := x.close d.world, writers := d.writers.filter fun h => h.1 != name }) := by
  have hGet : (get : DeskAction Desk) d = (.ok d, d) := rfl
  rw [drop, bind_ok hGet]
  cases d.writers.lookup name <;> rfl

theorem openWrite_error (h : d.backend.openWrite p d.world = (.error e, d.world)) :
    openWrite name p d = (.error e, d) := by
  have hGet : (get : DeskAction Desk) d = (.ok d, d) := rfl
  have hAct : act (d.backend.openWrite p) d = (.error e, d) := by rw [act, h]
  rw [openWrite, bind_ok hGet, bind_error hAct]

theorem openWrite_ok (h : d.backend.openWrite p d.world = (.ok y, w))
    (hDropped : (drop name { d with world := w }).2 = d') :
    (openWrite name p d).2 = { d' with writers := replace name y d'.writers } := by
  have hGet : (get : DeskAction Desk) d = (.ok d, d) := rfl
  have hAct : act (d.backend.openWrite p) d = (.ok y, { d with world := w }) := by rw [act, h]
  have hDrop := drop_apply name { d with world := w }
  rw [openWrite, bind_ok hGet, bind_ok hAct, bind_ok hDrop, ← hDropped, hDrop]
  rfl

end Running

/-! ### Steps -/

/-- The entries of a backend in memory. -/
def tree (d : Desk) : Tree :=
  match d.backend.place with
  | .memory n => d.world.tree n
  | .directory _ => .empty

/-- One step: a change of the backend, or a step of one of its writers. -/
inductive Move where
  | change (c : Change)
  | openWrite (name : String) (p : StoragePath)
  | write (name : String) (bytes : Bytes)
  | flush (name : String)
  | drop (name : String)

/-- A tree after the writer of a name, if there is one, has stored everything in it. -/
def settledBy (d : Desk) (name : String) (t : Tree) : Tree := (d.writers.lookup name).elim t (·.settled t)

namespace Move

def perform : Move → DeskAction Unit
  | change c => fun d => act (c.perform d.backend) d
  | openWrite name p => Desk.openWrite name p
  -- One write, also of no bytes: even then the writer has something to store.
  | write name bytes => discard (Desk.onWriter name fun x => x.writeOnce bytes)
  | flush name => discard (Desk.flush name)
  | drop name => discard (Desk.drop name)

/-- The tree after a step. A writer that is opened under a name in use makes the one before give up. -/
def leaves (d : Desk) : Move → Tree
  | change c => (c.onTree d.tree).2
  | openWrite name p =>
    match d.tree.create p with
    | .ok t => settledBy d name t
    | .error _ => d.tree
  | write _ _ => d.tree
  | flush name => settledBy d name d.tree
  | drop name => settledBy d name d.tree

/-- Nothing is stored in a step where there is no room for it. -/
def Welcome (d : Desk) : Move → Prop
  | openWrite name p => ∀ x t, d.writers.lookup name = some x → d.tree.create p = .ok t → x.Fits t
  | flush name => ∀ x, d.writers.lookup name = some x → x.Fits d.tree
  | drop name => ∀ x, d.writers.lookup name = some x → x.Fits d.tree
  | _ => True

end Move

/-- The states that come about of a backend that begins in memory, empty and without writers, by steps
that are allowed. -/
inductive Reached (Allowed : Desk → Move → Prop) : Desk → Prop where
  | fresh (w : World) : Reached Allowed ⟨w.addTree.2, ⟨w.addTree.1, .plain⟩, [], []⟩
  | step {d : Desk} (h : Reached Allowed d) (m : Move) (hAllowed : Allowed d m) :
      Reached Allowed (m.perform d).2

/-! ### What a step leaves -/

/-- A backend in memory whose writers are all writers of its tree. -/
structure Serves (d : Desk) (n : Nat) : Prop where
  backend : d.backend = ⟨.memory n, .plain⟩
  bound : n < d.world.trees.length
  writers {x : String × Writer} (h : x ∈ d.writers) : x.2.WritesTo n

namespace Serves

variable {d : Desk} {n : Nat} {name : String} {x : Writer}

theorem tree_eq (h : d.Serves n) : d.tree = d.world.tree n := by
  rw [tree, h.backend]

theorem getElem?_eq (h : d.Serves n) : d.world.trees[n]? = some d.tree := by
  rw [h.tree_eq, World.tree, List.getD_eq_getElem?_getD, List.getElem?_eq_getElem h.bound, Option.getD_some]

/-- The backend as that of a storage. -/
theorem holds (h : d.Serves n) :
    (Storage.mk 0 "" d.backend .standard .byName .basic).Holds d.world d.tree :=
  ⟨n, h.backend, h.getElem?_eq⟩

/-- Where the tree is known after a step, and all writers still write to it, the backend goes on serving. -/
theorem next (h : d.Serves n) (d' : Desk) (hBackend : d'.backend = d.backend) (hTree : d'.world.trees[n]? = some t)
    (hWriters : ∀ x ∈ d'.writers, x.2.WritesTo n) : d'.Serves n ∧ d'.tree = t := by
  obtain ⟨hBound, -⟩ := List.getElem?_eq_some_iff.mp hTree
  have hAfter : d'.Serves n := ⟨hBackend.trans h.backend, hBound, fun {x} hx => hWriters x hx⟩
  exact ⟨hAfter, Option.some.inj (hAfter.getElem?_eq.symm.trans hTree)⟩

theorem writesTo_of_lookup (h : d.Serves n) (hFound : d.writers.lookup name = some x) : x.WritesTo n := by
  obtain ⟨before, after, hList, -⟩ := List.lookup_eq_some_iff.mp hFound
  exact h.writers (x := (name, x)) (hList ▸ List.mem_append_right _ List.mem_cons_self)

/-- Writers of the tree, with one of them replaced. -/
theorem writesTo_replace (h : d.Serves n) (hx : x.WritesTo n) :
    ∀ y ∈ replace name x d.writers, y.2.WritesTo n :=
  List.forall_mem_cons.mpr ⟨hx, fun _ hy => h.writers (List.mem_of_mem_filter hy)⟩

theorem change (h : d.Serves n) (c : Change) :
    ((Move.change c).perform d).2.Serves n ∧ ((Move.change c).perform d).2.tree = (c.onTree d.tree).2 := by
  obtain ⟨-, hAfter⟩ := c.perform_onTree h.holds
  exact h.next _ rfl (hAfter.getElem?_eq h.backend) fun _ hx => h.writers hx

/-- A use of a writer does to the tree what its step does; without the writer nothing happens. -/
theorem onWriter (h : d.Serves n) (name : String)
    (f : Writer → World → Except IoError Unit × Writer × World) (store : Writer → Tree)
    (hStep : ∀ x, x.WritesTo n →
      (f x d.world).2.1.WritesTo n ∧ (f x d.world).2.2.trees[n]? = some (store x)) :
    ((discard (Desk.onWriter name f) : DeskAction Unit) d).2.Serves n ∧
      ((discard (Desk.onWriter name f) : DeskAction Unit) d).2.tree =
        (d.writers.lookup name).elim d.tree store := by
  rw [discard_snd, Desk.onWriter]
  cases hFound : d.writers.lookup name with
  | none => exact ⟨h, rfl⟩
  | some x =>
      obtain ⟨hWrites, hTree⟩ := hStep x (h.writesTo_of_lookup hFound)
      exact h.next _ rfl hTree (h.writesTo_replace hWrites)

theorem write (h : d.Serves n) (name : String) (bytes : Bytes) :
    ((Move.write name bytes).perform d).2.Serves n ∧ ((Move.write name bytes).perform d).2.tree = d.tree := by
  have hAfter := h.onWriter name (fun x => x.writeOnce bytes) (fun _ => d.tree) fun x hx => by
    obtain ⟨hWrites, hWorld⟩ := hx.writeOnce bytes d.world
    exact ⟨hWrites, hWorld.symm ▸ h.getElem?_eq⟩
  cases hFound : d.writers.lookup name <;> rwa [hFound] at hAfter

theorem flush (h : d.Serves n) (name : String) :
    ((Move.flush name).perform d).2.Serves n ∧
      ((Move.flush name).perform d).2.tree = settledBy d name d.tree :=
  h.onWriter name Writer.flush (fun x => x.settled d.tree) fun _ hx => hx.flush h.getElem?_eq

/-- A writer that is given up stores what it holds in the tree that is there, and leaves. -/
theorem drop (h : d.Serves n) (name : String) :
    (Desk.drop name d).2.Serves n ∧ (Desk.drop name d).2.tree = settledBy d name d.tree := by
  rw [drop_apply, settledBy]
  cases hFound : d.writers.lookup name with
  | none => exact ⟨h, rfl⟩
  | some x =>
      exact h.next _ rfl ((h.writesTo_of_lookup hFound).close h.getElem?_eq) fun _ hy =>
        h.writers (List.mem_of_mem_filter hy)

theorem openWrite (h : d.Serves n) (name : String) (p : StoragePath) :
    (Desk.openWrite name p d).2.Serves n ∧
      (Desk.openWrite name p d).2.tree = (Move.openWrite name p).leaves d := by
  rw [Move.leaves]
  have hOpen := Backend.openWrite_tree h.backend h.getElem?_eq p
  cases hCreate : d.tree.create p with
  | error e =>
      rw [hCreate] at hOpen
      rw [openWrite_error hOpen]
      exact ⟨h, rfl⟩
  | ok t =>
      rw [hCreate] at hOpen
      obtain ⟨hBegun, hTree⟩ := h.next { d with world := d.world.setTree n t } rfl
        (List.getElem?_set_self h.bound) fun _ hx => h.writers hx
      obtain ⟨hAfter, hStored⟩ := hBegun.drop name
      generalize hDropped : (Desk.drop name { d with world := d.world.setTree n t }).2 = d' at hAfter hStored
      have hNew : (treeWriter n p [] false).WritesTo n :=
        ⟨p, [], false, rfl, (Tree.create_eq_ok hCreate).1⟩
      rw [openWrite_ok hOpen hDropped]
      obtain ⟨hServes, hSame⟩ := hAfter.next { d' with writers := replace name _ d'.writers } rfl
        hAfter.getElem?_eq (hAfter.writesTo_replace hNew)
      exact ⟨hServes, hSame.trans (hStored.trans (congrArg (settledBy d name) hTree))⟩

/-- Every step leaves the tree that it is said to leave. -/
theorem perform (h : d.Serves n) (m : Move) : (m.perform d).2.Serves n ∧ (m.perform d).2.tree = m.leaves d := by
  cases m with
  | change c => exact h.change c
  | openWrite name p => exact h.openWrite name p
  | write name bytes => exact h.write name bytes
  | flush name => exact h.flush name
  | drop name =>
      rw [Move.perform, discard_snd]
      exact h.drop name

end Serves

/-! ### What holds of every state -/

namespace Move

variable {d : Desk} {n : Nat}

theorem root_settledBy (h : d.Serves n) (name : String) (hRoot : t.get? .root = some .folder) :
    (settledBy d name t).get? .root = some .folder := by
  rw [settledBy]
  cases hFound : d.writers.lookup name with
  | none => exact hRoot
  | some x => exact (h.writesTo_of_lookup hFound).root_settled hRoot

theorem settledBy_rooted_iff (h : d.Serves n) (name : String) (hT : t.Rooted) :
    (settledBy d name t).Rooted ↔ ∀ x, d.writers.lookup name = some x → x.Fits t := by
  rw [settledBy]
  cases hFound : d.writers.lookup name with
  | none => exact ⟨fun _ => nofun, fun _ => hT⟩
  | some x =>
      refine ((h.writesTo_of_lookup hFound).settled_rooted_iff hT).trans ?_
      simp only [Option.some.injEq, forall_eq']

/-- The root stays a folder, come what may. -/
theorem root_leaves (h : d.Serves n) (m : Move) (hRoot : d.tree.get? .root = some .folder) :
    (m.leaves d).get? .root = some .folder := by
  cases m with
  | change c => exact c.root_onTree hRoot
  | openWrite name p =>
      rw [leaves]
      cases hCreate : d.tree.create p with
      | error e => exact hRoot
      | ok t =>
          obtain ⟨hp, -, -, rfl⟩ := Tree.create_eq_ok hCreate
          exact root_settledBy h name ((Tree.get?_put_of_ne (StoragePath.ne_root hp).symm).trans hRoot)
  | write name bytes => exact hRoot
  | flush name => exact root_settledBy h name hRoot
  | drop name => exact root_settledBy h name hRoot

/-- A step leaves a tree if and only if there is room for all that it stores. -/
theorem leaves_rooted_iff (h : d.Serves n) (m : Move) (hT : d.tree.Rooted) :
    (m.leaves d).Rooted ↔ m.Welcome d := by
  cases m with
  | change c => exact iff_of_true (c.rooted_onTree hT).1 trivial
  | openWrite name p =>
      rw [leaves, Welcome]
      cases hCreate : d.tree.create p with
      | error e => exact iff_of_true hT fun _ _ _ hBegun => nomatch hBegun
      | ok t =>
          have hp := (Tree.create_eq_ok hCreate).1
          obtain ⟨-, -, -, hPut⟩ := Tree.create_eq_ok hCreate
          have hBegun : t.Rooted := hPut ▸ (hT.put_file_iff hp).mpr (hT.hasRoom_of_create hCreate)
          refine (settledBy_rooted_iff h name hBegun).trans ?_
          exact ⟨fun hFits x _ hx hSame => Except.ok.inj hSame ▸ hFits x hx, fun hFits x hx => hFits x t hx rfl⟩
  | write name bytes => exact iff_of_true hT trivial
  | flush name => exact settledBy_rooted_iff h name hT
  | drop name => exact settledBy_rooted_iff h name hT

end Move

variable {Allowed : Desk → Move → Prop} {d : Desk}

theorem Reached.serves (h : Reached Allowed d) : ∃ n, d.Serves n := by
  induction h with
  | fresh w => exact ⟨w.trees.length, rfl, by simp [World.addTree], nofun⟩
  | step h m hAllowed ih =>
      obtain ⟨n, hServes⟩ := ih
      exact ⟨n, (hServes.perform m).1⟩

theorem tree_fresh (w : World) : tree ⟨w.addTree.2, ⟨w.addTree.1, .plain⟩, [], []⟩ = .empty := by
  simp [tree, World.addTree, World.tree]

theorem Reached.root (h : Reached Allowed d) : d.tree.get? .root = some .folder := by
  induction h with
  | fresh w => rw [tree_fresh]; rfl
  | step h m _ ih =>
      obtain ⟨n, hServes⟩ := h.serves
      rw [(hServes.perform m).2]
      exact Move.root_leaves hServes m ih

theorem Reached.rooted (h : Reached Allowed d) (hAllowed : ∀ d m, Allowed d m → m.Welcome d) :
    d.tree.Rooted := by
  induction h with
  | fresh w => rw [tree_fresh]; exact Tree.rooted_empty
  | step h m hMay ih =>
      obtain ⟨n, hServes⟩ := h.serves
      rw [(hServes.perform m).2]
      exact (Move.leaves_rooted_iff hServes m ih).mpr (hAllowed _ m hMay)

/-- Whatever is done with a backend in memory, however the steps of its writers come, its root stays a
folder. And as long as whatever writers store finds its folder, and nothing below its path, the entries
make a tree; the first time that it does not, they make none. -/
theorem reached_rooted (h : Reached Allowed d) : d.tree.get? .root = some .folder ∧
    ((∀ d m, Allowed d m → m.Welcome d) →
      d.tree.Rooted ∧ ∀ m : Move, (m.perform d).2.tree.Rooted ↔ m.Welcome d) := by
  obtain ⟨n, hServes⟩ := h.serves
  refine ⟨h.root, fun hAllowed => ⟨h.rooted hAllowed, fun m => ?_⟩⟩
  rw [(hServes.perform m).2]
  exact Move.leaves_rooted_iff hServes m (h.rooted hAllowed)

/-- A desk after steps. -/
def after (d : Desk) : List Move → Desk
  | [] => d
  | m :: rest => after (m.perform d).2 rest

theorem Reached.after (h : Reached (fun _ _ => True) d) (steps : List Move) :
    Reached (fun _ _ => True) (d.after steps) := by
  induction steps generalizing d with
  | nil => exact h
  | cons m rest ih => exact ih (h.step m trivial)

/-- A writer can be given up while its folder is there. When the folder has been removed, it must not. -/
theorem reached_rooted_abandoned :
    let d₀ : Desk := ⟨World.empty.addTree.2, ⟨World.empty.addTree.1, .plain⟩, [], []⟩
    let d₁ := d₀.after [.change (.createFolders ⟨["a"]⟩), .openWrite "x" ⟨["a", "f"]⟩, .write "x" [1, 2]]
    let d₂ := d₁.after [.change (.removeFolder ⟨["a"]⟩)]
    Reached (fun d m => m.Welcome d) d₁ ∧ d₁.tree.Rooted ∧ ((Move.drop "x").perform d₁).2.tree.Rooted ∧
      Reached (fun d m => m.Welcome d) d₂ ∧ d₂.tree.Rooted ∧ ¬((Move.drop "x").perform d₂).2.tree.Rooted ∧
      ((Move.drop "x").perform d₂).2.tree.get? .root = some .folder := by
  intro d₀ d₁ d₂
  have hFirst : Reached (fun d m => m.Welcome d) d₁ := by
    refine (((Reached.fresh _).step _ trivial).step (.openWrite "x" _) ?_).step (.write "x" _) trivial
    exact fun _ _ hNone => nomatch hNone
  have hSecond : Reached (fun d m => m.Welcome d) d₂ := hFirst.step _ trivial
  obtain ⟨hRooted, hNext⟩ := (reached_rooted hFirst).2 fun _ _ hWelcome => hWelcome
  obtain ⟨hRemoved, hLast⟩ := (reached_rooted hSecond).2 fun _ _ hWelcome => hWelcome
  have hOpen₁ : d₁.writers.lookup "x" = some (treeWriter 0 ⟨["a", "f"]⟩ [1, 2] true) := rfl
  have hOpen₂ : d₂.writers.lookup "x" = some (treeWriter 0 ⟨["a", "f"]⟩ [1, 2] true) := rfl
  refine ⟨hFirst, hRooted, (hNext _).mpr fun x hx => ?_, hSecond, hRemoved, fun hLeft => ?_, ?_⟩
  · obtain rfl := Option.some.inj (hOpen₁.symm.trans hx)
    exact hRooted.hasRoom_of_create (p := ⟨["a", "f"]⟩) rfl
  · have hRoom : d₂.tree.HasRoom ⟨["a", "f"]⟩ := (hLast _).mp hLeft _ hOpen₂
    exact absurd hRoom.1 (by decide)
  · exact (reached_rooted (((Reached.fresh World.empty).after _).after [.change _, .drop "x"])).1

/-- A writer that is given up after its folder has gone leaves a file that lies in nothing. And one that is
given up after a folder has taken the place of its file leaves a file with something below it. -/
theorem not_reached_rooted :
    let d₀ : Desk := ⟨World.empty.addTree.2, ⟨World.empty.addTree.1, .plain⟩, [], []⟩
    let d₁ := d₀.after [.change (.createFolders ⟨["a"]⟩), .openWrite "x" ⟨["a", "b"]⟩, .write "x" [1],
      .change (.removeFolder ⟨["a"]⟩), .drop "x"]
    let d₂ := d₀.after [.openWrite "x" ⟨["a"]⟩, .write "x" [1], .change (.removeFile ⟨["a"]⟩),
      .change (.createFolders ⟨["a", "b"]⟩), .flush "x"]
    Reached (fun _ _ => True) d₁ ∧ d₁.tree.get? ⟨["a", "b"]⟩ = some (.file [1]) ∧
      d₁.tree.get? ⟨["a"]⟩ = none ∧
      Reached (fun _ _ => True) d₂ ∧ d₂.tree.get? ⟨["a", "b"]⟩ = some .folder ∧
      d₂.tree.get? ⟨["a"]⟩ = some (.file [1]) := by
  intro d₀ d₁ d₂
  have hFresh : Reached (fun _ _ => True) d₀ := .fresh World.empty
  exact ⟨hFresh.after _, by decide, by decide, hFresh.after _, by decide, by decide⟩

end Desk

end Cabinet
