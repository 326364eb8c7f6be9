import Cabinet.Proofs.Properties.Key
import Cabinet.Proofs.Properties.Lines
import Cabinet.Proofs.Properties.Store

/-! What reading a text preserves. Every entry is cut from whole pairs and stored under parts that are
made from them, so that a property that storing keeps holds of everything that is read. -/

namespace Cabinet.Properties

variable {behind bare : Char → Prop} {Fine : Part → Prop} {before after : Document → Prop}
  {d d' : Document} {line : Nat × List Char} {lines : List (Nat × List Char)}

/-- What makes a property hold of documents that are read: what the parts of keys and the values bring
with them, and that storing keeps it. -/
structure Reads (behind bare : Char → Prop) (Fine : Part → Prop) (before after : Document → Prop) :
    Prop where
  parts : Makes behind (fun c => bare c ∧ ¬EndsKey c) Fine
  value {cs : List Char} (h : Spelled behind bare cs) (hHead : ∀ c ∈ cs.head?, isBlank c = false) :
    after (.string (String.ofList (unescape cs)))
  stores : Stores Fine before after

/-- An entry is stored under the key that is read from its line. -/
theorem exists_insert_of_readEntry (h : readEntry line d = .ok d') :
    ∃ key, parse? (splitEntry [] false line.2).1 = some key ∧
      insert (.string (String.ofList (unescape (splitEntry [] false line.2).2))) key d = .ok d' := by
  unfold readEntry at h
  dsimp only at h
  split at h
  · exact absurd h (by simp)
  · rename_i key hKey
    exact ⟨key, hKey, mapError_eq_ok.mp h⟩

theorem Reads.after_readEntry (hReads : Reads behind bare Fine before after)
    (hLine : Spelled behind bare line.2) (hd : before d) (h : readEntry line d = .ok d') :
    after d' := by
  obtain ⟨key, hKey, hStored⟩ := exists_insert_of_readEntry h
  obtain ⟨text, hText, hSpelled, hValue, hHead⟩ := spelled_splitEntry [] hLine
  rw [hText, List.reverse_nil, List.nil_append] at hKey
  obtain ⟨hNonempty, hFine⟩ := fine_of_parse? hReads.parts hSpelled hKey
  exact hReads.stores.after_insert hNonempty hFine (hReads.value hValue hHead) hd hStored

theorem Reads.before_readEntries (hReads : Reads behind bare Fine before after)
    (hLines : ∀ line ∈ lines, Spelled behind bare line.2) (hd : before d)
    (h : readEntries lines d = .ok d') : before d' := by
  induction lines generalizing d with
  | nil =>
      obtain rfl := Except.ok.inj h
      exact hd
  | cons line lines ih =>
      obtain ⟨hLine, hRest⟩ := List.forall_mem_cons.mp hLines
      rw [readEntries] at h
      split at h
      · exact absurd h (by simp)
      · rename_i hEntry
        exact ih hRest (hReads.stores.weaken (hReads.after_readEntry hLine hd hEntry)) h

/-- What is read is an object. -/
theorem exists_object_of_readEntries {ms : Members} (h : readEntries lines (.object ms) = .ok d) :
    ∃ ms', d = .object ms' := by
  induction lines generalizing ms with
  | nil => exact ⟨ms, (Except.ok.inj h).symm⟩
  | cons line lines ih =>
      rw [readEntries] at h
      split at h
      · exact absurd h (by simp)
      · rename_i hEntry
        obtain ⟨key, -, hStored⟩ := exists_insert_of_readEntry hEntry
        obtain ⟨ms', rfl⟩ := exists_insert_object hStored
        exact ih h

end Cabinet.Properties
