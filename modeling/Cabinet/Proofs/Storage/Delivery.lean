import Cabinet.Storage.Write
import Mathlib.Tactic.Common

/-! Contents that arrive bit by bit. However they are cut, what is received is what was given, up to
the end or up to a failure; interruptions do not count. A writer of a tree has gathered just that when
its source ends within the limit, and nothing is stored before the writer is flushed or given up. -/

namespace Cabinet

variable {limit : Option Nat} {total : Nat} {reads rest : List Delivery} {contents : Bytes}

/-- What reads bring until they end. -/
def received : List Delivery → Except IoError Bytes
  | [] => .ok []
  | .interrupted :: rest => received rest
  | .failed e :: _ => .error e
  | .bytes [] :: _ => .ok []
  | .bytes (b :: piece) :: rest => (received rest).map (b :: piece ++ ·)

theorem received_bytes {piece : Bytes} (h : piece ≠ []) :
    received (.bytes piece :: rest) = (received rest).map (piece ++ ·) := by
  cases piece with
  | nil => exact absurd rfl h
  | cons b piece => rfl

/-! ### Cutting -/

theorem cutInto_spec (size room : Nat) (held contents : Bytes) (hHeld : held = [] → 0 < room) :
    (∀ piece ∈ cutInto size room held contents, piece ≠ []) ∧
      (cutInto size room held contents).flatten = held.reverse ++ contents := by
  induction contents generalizing room held with
  | nil =>
      cases held with
      | nil => simp [cutInto]
      | cons b held => simp [cutInto]
  | cons b contents ih =>
      cases room with
      | zero =>
          have hNonempty : held ≠ [] := fun hNil => absurd (hHeld hNil) (Nat.lt_irrefl 0)
          obtain ⟨hPieces, hFlat⟩ := ih (size - 1) [b] fun hNil => nomatch hNil
          rw [cutInto]
          refine ⟨List.forall_mem_cons.mpr ⟨?_, hPieces⟩, ?_⟩
          · exact fun hNil => hNonempty (List.reverse_eq_nil_iff.mp hNil)
          · rw [List.flatten_cons, hFlat, List.reverse_singleton, List.singleton_append]
      | succ room =>
          obtain ⟨hPieces, hFlat⟩ := ih room (b :: held) fun hNil => nomatch hNil
          rw [cutInto]
          refine ⟨hPieces, ?_⟩
          rw [hFlat, List.reverse_cons, List.append_assoc, List.singleton_append]

theorem received_pieces {pieces : List Bytes} (h : ∀ piece ∈ pieces, piece ≠ []) :
    received (pieces.map .bytes ++ rest) = (received rest).map (pieces.flatten ++ ·) := by
  induction pieces with
  | nil => cases hRest : received rest <;> simp [hRest, Except.map]
  | cons piece pieces ih =>
      obtain ⟨hFirst, hPieces⟩ := List.forall_mem_cons.mp h
      rw [List.map_cons, List.cons_append, received_bytes hFirst, ih hPieces]
      cases received rest <;> simp [Except.map]

/-- Contents that are cut into reads are received whole. -/
theorem received_deliver_append (contents : Bytes) (rest : List Delivery) :
    received (deliver contents ++ rest) = (received rest).map (contents ++ ·) := by
  obtain ⟨hPieces, hFlat⟩ :=
    cutInto_spec pieceSize pieceSize [] contents fun _ => by decide
  rw [deliver, received_pieces hPieces, hFlat, List.reverse_nil, List.nil_append]

theorem received_deliver : received (deliver contents) = .ok contents := by
  have hWhole := received_deliver_append contents []
  rwa [List.append_nil, received, Except.map, List.append_nil] at hWhole

/-- Taking deliveries in several reads changes nothing. -/
theorem received_flatMap_reads (deliveries : List Delivery) :
    received (deliveries.flatMap Delivery.reads) = received deliveries := by
  induction deliveries with
  | nil => rfl
  | cons d deliveries ih =>
      rw [List.flatMap_cons]
      cases d with
      | bytes piece =>
          cases piece with
          | nil => rfl
          | cons b piece => rw [Delivery.reads, received_deliver_append, ih, received]; simp
      | interrupted => exact ih
      | failed e => rfl

/-! ### Pouring -/

/-- Reads bring contents to their end, and not more than a limit leaves after a total. -/
def Arrives (limit : Option Nat) (total : Nat) (reads : List Delivery) (contents : Bytes) : Prop :=
  received reads = .ok contents ∧ exceeds (total + contents.length) limit = false

theorem exceeds_zero (limit : Option Nat) : exceeds 0 limit = false := by
  cases limit with
  | none => rfl
  | some bound => exact decide_eq_false (Nat.not_lt_zero bound)

theorem exceeds_eq_false_iff :
    exceeds total limit = false ↔ ∀ bound, limit = some bound → total ≤ bound := by
  cases limit with
  | none => simp [exceeds]
  | some bound => simp [exceeds]

theorem exceeds_mono {more : Nat} (hMore : total ≤ more) (h : exceeds total limit = true) :
    exceeds more limit = true := by
  cases limit with
  | none => exact h
  | some bound => exact decide_eq_true (Nat.lt_of_lt_of_le (of_decide_eq_true h) hMore)

theorem arrives_bytes_iff {piece : Bytes} (hPiece : piece ≠ []) :
    Arrives limit total (.bytes piece :: rest) contents ↔
      ∃ tail, contents = piece ++ tail ∧ Arrives limit (total + piece.length) rest tail := by
  cases hRest : received rest with
  | error e => simp [Arrives, received_bytes hPiece, hRest, Except.map]
  | ok tail =>
      have hWhole : received (.bytes piece :: rest) = .ok (piece ++ tail) := by
        rw [received_bytes hPiece, hRest, Except.map]
      rw [Arrives, hWhole]
      constructor
      · rintro ⟨hContents, hLimit⟩
        obtain rfl := Except.ok.inj hContents
        rw [List.length_append, ← Nat.add_assoc] at hLimit
        exact ⟨tail, rfl, hRest, hLimit⟩
      · rintro ⟨found, rfl, hFound, hLimit⟩
        obtain rfl := Except.ok.inj (hRest.symm.trans hFound)
        rw [List.length_append, ← Nat.add_assoc]
        exact ⟨rfl, hLimit⟩

/-- A writer of a tree with what it has gathered. -/
def treeWriter (n : Nat) (p : StoragePath) (gathered : Bytes) (dirty : Bool) : Writer :=
  ⟨.memory n p gathered dirty, .plain⟩

theorem writeOnce_treeWriter (n : Nat) (p : StoragePath) (gathered piece : Bytes) (dirty : Bool) (w : World) :
    (treeWriter n p gathered dirty).writeOnce piece w =
      (.ok (), treeWriter n p (gathered ++ piece) true, w) := rfl

theorem write_treeWriter {n : Nat} {p : StoragePath} {gathered piece : Bytes} {dirty : Bool}
    {w : World} (hPiece : piece ≠ []) : (treeWriter n p gathered dirty).write piece w =
      (.ok (), treeWriter n p (gathered ++ piece) true, w) := by
  have hEmpty : ¬piece.isEmpty = true := fun h => hPiece (List.isEmpty_iff.mp h)
  rw [Writer.write, if_neg hEmpty, writeOnce_treeWriter]

/-- Pouring into a tree's writer gathers all that arrives, and fails if not all of it may. Nothing is
stored yet. -/
theorem pour_treeWriter (reads : List Delivery) (path : StoragePath) (n : Nat) (p : StoragePath) (gathered : Bytes)
    (dirty : Bool) (w : World) (hTotal : exceeds total limit = false) :
    ∃ r poured, pour path limit total reads (treeWriter n p gathered dirty) w =
        (r, treeWriter n p (gathered ++ poured) (dirty || !poured.isEmpty), w) ∧
      (r = .ok () ∧ Arrives limit total reads poured ∨
        (∃ e, r = .error e) ∧ ∀ contents, ¬Arrives limit total reads contents) := by
  have hNothing {r : Except FileError Unit} :
      (r, treeWriter n p gathered dirty, w) =
        (r, treeWriter n p (gathered ++ []) (dirty || !([] : Bytes).isEmpty), w) := by
    rw [List.append_nil, List.isEmpty_nil, Bool.not_true, Bool.or_false]
  induction reads generalizing total gathered dirty with
  | nil => exact ⟨.ok (), [], hNothing, Or.inl ⟨rfl, rfl, hTotal⟩⟩
  | cons d reads ih =>
      cases d with
      | interrupted => exact ih gathered dirty hTotal hNothing
      | failed e =>
          exact ⟨.error (.io path e), [], hNothing, Or.inr ⟨⟨_, rfl⟩, fun _ h => nomatch h.1⟩⟩
      | bytes piece =>
          by_cases hPiece : piece = []
          · subst hPiece
            exact ⟨.ok (), [], hNothing, Or.inl ⟨rfl, rfl, hTotal⟩⟩
          · have hEmpty : piece.isEmpty = false := List.isEmpty_eq_false_iff.mpr hPiece
            rw [pour]
            simp only [hEmpty, Bool.false_eq_true, if_false, write_treeWriter hPiece]
            split
            · rename_i hOver
              refine ⟨_, [], hNothing, Or.inr ⟨⟨_, rfl⟩, fun contents h => ?_⟩⟩
              obtain ⟨tail, rfl, -, hLimit⟩ := (arrives_bytes_iff hPiece).mp h
              rw [exceeds_mono (Nat.le_add_right _ _) hOver] at hLimit
              cases hLimit
            · rename_i hWithin
              obtain ⟨r, poured, hRun, hResult⟩ := ih (gathered ++ piece) true
                (Bool.eq_false_iff.mpr hWithin) (by simp)
              have hGrown : (piece ++ poured).isEmpty = false :=
                List.isEmpty_eq_false_iff.mpr (List.append_ne_nil_of_left_ne_nil hPiece _)
              refine ⟨r, piece ++ poured, ?_, ?_⟩
              · rw [hRun, List.append_assoc, hGrown, Bool.not_false, Bool.or_true, Bool.true_or]
              · rcases hResult with ⟨hOk, hArrives⟩ | ⟨hError, hNever⟩
                · exact Or.inl ⟨hOk, (arrives_bytes_iff hPiece).mpr ⟨poured, rfl, hArrives⟩⟩
                · refine Or.inr ⟨hError, fun contents h => ?_⟩
                  obtain ⟨tail, -, hTail⟩ := (arrives_bytes_iff hPiece).mp h
                  exact hNever tail hTail

/-! ### Sources -/

/-- What comes of a source that brings its own contents: bytes, or a feed. -/
inductive Source.Yields : Source → Except IoError Bytes → Prop where
  | bytes (contents : Bytes) : Yields (.bytes contents) (.ok contents)
  | feed (deliveries : List Delivery) : Yields (.feed deliveries) (received deliveries)

/-- Such a source can always be opened, and gives what it brings. -/
theorem Source.Yields.exists_openFor {source : Source} {result : Except IoError Bytes}
    (h : source.Yields result) (p : StoragePath) (w : World) :
    ∃ stream, source.openFor p w = .ok stream ∧ ∀ w', received (stream.reads w') = result := by
  cases h with
  | bytes contents =>
      refine ⟨_, rfl, fun w' => ?_⟩
      rw [Stream.reads, received_flatMap_reads, received_deliver]
  | feed deliveries => exact ⟨_, rfl, fun w' => received_flatMap_reads deliveries⟩

namespace Source.Yields

variable {source : Source} {result : Except IoError Bytes} {size : Nat} {w : World}

/-- A number of bytes that is known beforehand is the right one. -/
theorem size_eq (h : source.Yields (.ok contents)) (hSize : source.size? w = some size) :
    size = contents.length := by
  generalize hResult : Except.ok contents = result at h
  cases h with
  | bytes whole =>
      obtain rfl := Except.ok.inj hResult
      exact (Option.some.inj hSize).symm
  | feed deliveries => cases hSize

end Source.Yields

end Cabinet
