import Cabinet.Proofs.Storage.Action
import Cabinet.Storage.Change
import Mathlib.Tactic.SplitIfs

/-! What is done without a look at sessions. A backend knows nothing of storages: its operations, and what is
put together of them alone, go the same way whatever is open, and whatever is remembered. -/

namespace Cabinet

variable {ε δ α β : Type}

/-! ### Backends -/

/-- An action neither depends on sessions nor changes any. -/
def Action.Sessionless (a : Action ε α) : Prop :=
  ∀ (w : World) (sessions : List Session), a { w with sessions } = ((a w).1, { (a w).2 with sessions })

namespace Action.Sessionless

variable {a : Action ε α} {f : α → Action ε β}

theorem mapError {g : ε → δ} (h : Sessionless a) : Sessionless (a.mapError g) := by
  intro w sessions
  rw [mapError_apply, mapError_apply, h]

theorem bind (h : Sessionless a) (hf : ∀ x, Sessionless (f x)) : Sessionless (a >>= f) := by
  intro w sessions
  have hFirst := h w sessions
  obtain ⟨r, w', hRun⟩ : ∃ r w', a w = (r, w') := ⟨_, _, rfl⟩
  rw [hRun] at hFirst
  cases r with
  | error e => rw [bind_error hRun, bind_error hFirst]
  | ok x => rw [bind_ok hRun, bind_ok hFirst, hf x w' sessions]

theorem check {a : Action IoError α} {r : Except IoError Unit} (h : Sessionless a) :
    Sessionless fun w => match r with
      | .error e => (.error e, w)
      | .ok _ => a w := by
  cases r with
  | error e => exact fun _ _ => rfl
  | ok _ => exact h

/-- What changes the tree or the disk at once does not look at sessions. -/
theorem at_place (place : Place) (f : Tree → Except IoError Tree) (g : List String → Disk → Except IoError Disk) :
    Sessionless fun w => match place with
      | .memory n => onTree n f w
      | .directory root => onDisk (g root) w := by
  intro w sessions
  cases place with
  | memory n =>
      have hTree : World.tree { w with sessions } n = w.tree n := rfl
      dsimp only [onTree]
      rw [hTree]
      cases f (w.tree n) <;> rfl
  | directory root =>
      dsimp only [onDisk]
      cases g root w.disk <;> rfl

end Action.Sessionless

namespace Backend

open Cabinet.Action

theorem sessionless_openWrite (b : Backend) (p : StoragePath) : Sessionless (b.openWrite p) := by
  apply Sessionless.check
  intro w sessions
  cases b.place with
  | memory n =>
      have hTree : World.tree { w with sessions } n = w.tree n := rfl
      dsimp only
      rw [hTree]
      cases (w.tree n).create p <;> rfl
  | directory root =>
      dsimp only
      cases Directory.create w.disk root p <;> rfl

theorem sessionless_createFolders (b : Backend) (p : StoragePath) : Sessionless (b.createFolders p) := by
  apply Sessionless.check
  intro w sessions
  cases b.place <;> rfl

theorem sessionless_removeFile (b : Backend) (p : StoragePath) : Sessionless (b.removeFile p) :=
  .check (.at_place _ (Tree.removeFile · p) fun root d => Directory.removeFile d root p)

theorem sessionless_removeFolder (b : Backend) (p : StoragePath) : Sessionless (b.removeFolder p) :=
  .check (.at_place _ (Tree.removeFolder · p) fun root d => Directory.removeFolder d root p)

theorem sessionless_rename (b : Backend) (source target : StoragePath) : Sessionless (b.rename source target) :=
  .check (.at_place _ (Tree.rename · source target) fun root d => Directory.rename d root source target)

end Backend

/-! ### Writers -/

theorem Sink.commit_sessions (x : Sink) (w : World) (sessions : List Session) :
    x.commit { w with sessions } = ((x.commit w).1, { (x.commit w).2 with sessions }) := by
  cases x with
  | memory n p gathered dirty => cases dirty <;> rfl
  | file number offset pending =>
      rw [commit, commit]
      split <;> rfl

theorem Sink.write_sessions (x : Sink) (bytes : Bytes) (w : World) (sessions : List Session) :
    x.write bytes { w with sessions } = ((x.write bytes w).1, { (x.write bytes w).2 with sessions }) := by
  cases x with
  | memory n p gathered dirty => rfl
  | file number offset pending =>
      by_cases hRoom : pending.length + bytes.length < capacity
      · rw [write, write, if_pos hRoom, if_pos hRoom]
      · by_cases hOver : capacity < pending.length + bytes.length
        · have hStored := commit_sessions (.file number offset pending) w sessions
          obtain ⟨stored, w₁, hCommit⟩ : ∃ stored w₁,
              (Sink.file number offset pending).commit w = (stored, w₁) := ⟨_, _, rfl⟩
          rw [hCommit] at hStored
          simp only [write, if_neg hRoom, if_pos hOver, hCommit, hStored]
          cases stored with
          | memory n p gathered dirty => rfl
          | file number offset pending =>
              dsimp only
              split
              · exact commit_sessions _ _ _
              · rfl
        · simp only [write, if_neg hRoom, if_neg hOver]
          split
          · exact commit_sessions _ _ _
          · rfl

namespace Writer

variable (x : Writer) (w : World) (sessions : List Session)

theorem write_sessions (bytes : Bytes) : x.write bytes { w with sessions } =
    ((x.write bytes w).1, (x.write bytes w).2.1, { (x.write bytes w).2.2 with sessions }) := by
  rw [write, write]
  split
  · rfl
  · rw [writeOnce, writeOnce]
    cases x.rig.check .write with
    | error e => rfl
    | ok _ =>
        dsimp only
        rw [Sink.write_sessions]

theorem flush_sessions : x.flush { w with sessions } =
    ((x.flush w).1, (x.flush w).2.1, { (x.flush w).2.2 with sessions }) := by
  rw [flush, flush]
  cases x.rig.check .flush with
  | error e => rfl
  | ok _ =>
      dsimp only
      rw [Sink.commit_sessions]

theorem close_sessions : x.close { w with sessions } = { x.close w with sessions } :=
  congrArg Prod.snd (Sink.commit_sessions _ _ _)

end Writer

theorem pour_sessions (path : StoragePath) (limit : Option Nat) (total : Nat) (reads : List Delivery) (x : Writer)
    (w : World) (sessions : List Session) :
    pour path limit total reads x { w with sessions } = ((pour path limit total reads x w).1,
      (pour path limit total reads x w).2.1, { (pour path limit total reads x w).2.2 with sessions }) := by
  induction reads generalizing total x w with
  | nil => rfl
  | cons d reads ih =>
      cases d with
      | interrupted => exact ih total x w
      | failed e => rfl
      | bytes piece =>
          rw [pour, pour]
          split_ifs
          · rfl
          · rfl
          · have hWritten := x.write_sessions w sessions piece
            obtain ⟨r, x', w', hRun⟩ : ∃ r x' w', x.write piece w = (r, x', w') := ⟨_, _, _, rfl⟩
            rw [hRun] at hWritten
            rw [hRun, hWritten]
            cases r with
            | error e => rfl
            | ok _ => exact ih _ x' w'

namespace Item

open Cabinet.Action

theorem sessionless_fillDraft (i : Item) (stream : Stream) (x : Writer) : Sessionless (i.fillDraft stream x) := by
  intro w sessions
  have hReads : stream.reads { w with sessions } = stream.reads w := by
    cases stream with
    | feed deliveries => rfl
    | reader r => cases r <;> rfl
  have hPoured := pour_sessions i.path i.storage.options.sizeLimit 0 (stream.reads w) x w sessions
  obtain ⟨r, x', w', hRun⟩ : ∃ r x' w',
      pour i.path i.storage.options.sizeLimit 0 (stream.reads w) x w = (r, x', w') := ⟨_, _, _, rfl⟩
  rw [hRun] at hPoured
  rw [fillDraft, fillDraft, hReads, hRun, hPoured]
  cases r with
  | error e =>
      dsimp only
      rw [x'.close_sessions]
  | ok _ =>
      dsimp only
      rw [x'.flush_sessions, Writer.close_sessions]

theorem sessionless_replace (i : Item) (stream : Stream) (x : Writer) : Sessionless (i.replace stream x) :=
  (i.sessionless_fillDraft stream x).bind fun _ => (Backend.sessionless_rename _ _ _).mapError

theorem sessionless_removeEach (b : Backend) (paths : List StoragePath) : Sessionless (removeEach b paths) := by
  induction paths with
  | nil => exact fun _ _ => rfl
  | cons p rest ih =>
      have hFound : Sessionless (liftM (b.metadata p) : Action IoError (Option EntryMeta)) := fun _ _ => rfl
      refine hFound.bind fun found => ?_
      cases found with
      | none => exact ih
      | some m =>
          dsimp only
          split
          · exact (b.sessionless_removeFolder p).bind fun _ => ih
          · exact (b.sessionless_removeFile p).bind fun _ => ih

theorem sessionless_removeEntry (i : Item) (m : EntryMeta) : Sessionless (i.removeEntry m) := by
  have hNames : Sessionless (liftM (i.storage.backend.list i.path) : Action IoError (List String)) := fun _ _ => rfl
  rw [removeEntry]
  split_ifs
  · exact hNames.bind fun _ => sessionless_removeEach _ _
  · exact Backend.sessionless_removeFolder _ _
  · exact Backend.sessionless_removeFile _ _

end Item

end Cabinet
