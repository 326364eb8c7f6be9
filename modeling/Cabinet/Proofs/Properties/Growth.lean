import Cabinet.Binder.Basic
import Cabinet.Proofs.Document.Tree
import Cabinet.Proofs.Properties.Reading
import Cabinet.Proofs.Text.Utf8
import Mathlib.Algebra.GroupWithZero.Nat

/-! How much a text can make a document grow. Each index of a key writes one position of one array, at
most `maximalGap` behind its end, so that the nulls and the lengths of the arrays are bounded by the
number of indexes in the keys, however large these are. -/

namespace Cabinet

namespace Document

mutual

/-- How many nulls a document holds. -/
def nulls : Document → Nat
  | null => 1
  | array es => nullsElements es
  | object ms => nullsMembers ms
  | _ => 0

def nullsElements : List Document → Nat
  | [] => 0
  | d :: ds => d.nulls + nullsElements ds

def nullsMembers : List (String × Document) → Nat
  | [] => 0
  | (_, d) :: ms => d.nulls + nullsMembers ms

end

theorem nullsElements_eq (es : List Document) : nullsElements es = (es.map nulls).sum := by
  induction es with
  | nil => rfl
  | cons e es ih => rw [nullsElements, ih, List.map_cons, List.sum_cons]

/-- How many elements the array at a location has; none where there is no array. -/
def extentAt (d : Document) (l : Location) : Nat :=
  match d.at? l with
  | some (array es) => es.length
  | _ => 0

theorem extentAt_cons (d : Document) (s : Step) (l : Location) :
    d.extentAt (s :: l) = (d.child? s).elim 0 fun c => c.extentAt l := by
  rw [extentAt, at?_cons]
  cases d.child? s <;> rfl

theorem extentAt_of_children_nil {d : Document} (h : d.children = []) (l : Location) :
    d.extentAt l = 0 := by
  cases l with
  | nil =>
      cases d with
      | array es =>
          obtain rfl : es = [] := by simpa [children] using h
          rfl
      | _ => rfl
  | cons s l =>
      rw [extentAt_cons]
      cases hChild : d.child? s with
      | none => rfl
      | some c => exact absurd (h ▸ mem_children_of_child? hChild) List.not_mem_nil

end Document

namespace Properties

variable {value d d' : Document} {key rest : Key} {name : String} {n : Nat} {p : Part}
  {line : Nat × List Char} {lines : List (Nat × List Char)}

/-! ### Nulls and lengths of what is stored in -/

open Document (nulls nullsElements nullsMembers nullsElements_eq extentAt extentAt_cons)

theorem nulls_containerFor (p : Part) : (containerFor p).nulls = 0 := by
  cases p <;> rfl

theorem extentAt_containerFor (p : Part) (l : Location) : (containerFor p).extentAt l = 0 :=
  Document.extentAt_of_children_nil (by cases p <;> rfl) l

/-- A put exchanges the nulls of the old value for those of the new one. -/
theorem nulls_put (name : String) (c : Document) (ms : Members) :
    nullsMembers (Members.put name c ms) + (Members.get? name ms).elim 0 nulls =
      nullsMembers ms + c.nulls := by
  induction ms with
  | nil => simp [Members.put, Members.get?, nullsMembers]
  | cons m ms ih =>
      obtain ⟨k, e⟩ := m
      by_cases hk : k = name
      · simp only [Members.put, Members.get?, hk, if_true, nullsMembers, Option.elim_some]
        omega
      · simp only [Members.put, Members.get?, hk, if_false, nullsMembers]
        omega

theorem nullsElements_set {es : List Document} {e : Document} (h : es[n]? = some e) (c : Document) :
    nullsElements (es.set n c) + e.nulls = nullsElements es + c.nulls := by
  induction es generalizing n with
  | nil => simp at h
  | cons e' es ih =>
      cases n with
      | zero =>
          obtain rfl : e' = e := by simpa using h
          rw [List.set_cons_zero, nullsElements, nullsElements]
          omega
      | succ n =>
          have hRest := ih (by simpa using h)
          rw [List.set_cons_succ, nullsElements, nullsElements]
          omega

/-- A write exchanges the nulls of the old element for those of the new one, and fills the gap. -/
theorem nulls_set (n : Nat) (c : Document) (es : List Document) :
    nullsElements (Elements.set n c es) + es[n]?.elim 0 nulls =
      nullsElements es + (n - es.length) + c.nulls := by
  unfold Elements.set
  split
  · rename_i hn
    rw [List.getElem?_eq_getElem hn, Option.elim_some, Nat.sub_eq_zero_of_le hn.le]
    exact nullsElements_set (List.getElem?_eq_getElem hn) c
  · rename_i hn
    have hGap : nulls .null = 1 := rfl
    rw [List.getElem?_eq_none (by omega), Option.elim_none]
    simp only [nullsElements_eq, List.map_append, List.sum_append, List.map_replicate, hGap,
      List.sum_replicate_nat, List.map_singleton, List.sum_singleton, Nat.mul_one, Nat.add_zero]

/-! ### One entry -/

def Part.isIndex : Part → Bool
  | .field _ => false
  | .index _ => true

/-- How many indexes a key has. -/
def indexes (key : Key) : Nat :=
  key.countP Part.isIndex

@[simp] theorem indexes_field (name : String) (rest : Key) : indexes (.field name :: rest) = indexes rest := rfl

@[simp] theorem indexes_index (n : Nat) (rest : Key) : indexes (.index n :: rest) = indexes rest + 1 :=
  List.countP_cons_of_pos rfl

section Measure

variable (measure : Document → Nat) {next : Part}

/-- A key goes on from a member that is there, or from a container that counts nothing. -/
theorem measure_getD_containerFor (hFresh : measure (containerFor next) = 0) (found : Option Document) :
    measure (found.getD (containerFor next)) = found.elim 0 measure := by
  cases found with
  | none => exact hFresh
  | some c => rfl

/-- A key goes on from an element that is there, or from a container that counts nothing. -/
theorem measure_elementAt_le (hFresh : measure (containerFor next) = 0) (n : Nat) (es : List Document) :
    measure (elementAt n next es) ≤ es[n]?.elim 0 measure := by
  rcases elementAt_cases n next es with hNew | ⟨hThere, -⟩
  · rw [hNew, hFresh]
    exact Nat.zero_le _
  · rw [hThere, Option.elim_some]

end Measure

/-- Storing a value brings its own nulls and, for each index of the key, at most those of a gap. -/
theorem nulls_insert_le (h : insert value key d = .ok d') :
    d'.nulls ≤ d.nulls + value.nulls + maximalGap * indexes key := by
  induction key generalizing d d' with
  | nil =>
      obtain rfl := Except.ok.inj h
      omega
  | cons p rest ih =>
      cases p with
      | field name =>
          obtain ⟨ms, c, rfl, rfl, hc⟩ := exists_put h
          have hPut := nulls_put name c ms
          rw [nulls, nulls, indexes_field]
          rcases hc with ⟨rfl, rfl⟩ | ⟨next, tail, rfl, hStored⟩
          · omega
          · have hChild := ih hStored
            rw [measure_getD_containerFor nulls (nulls_containerFor next)] at hChild
            omega
      | index n =>
          obtain ⟨es, c, rfl, rfl, hGap, hc⟩ := exists_set h
          have hSet := nulls_set n c es
          rw [nulls, nulls, indexes_index, Nat.mul_add_one]
          rcases hc with ⟨rfl, rfl⟩ | ⟨next, tail, rfl, hStored⟩
          · omega
          · have hChild := ih hStored
            have hThere := measure_elementAt_le nulls (nulls_containerFor next) n es
            omega

/-- Below a put a member may have grown, and everything else is as before. -/
theorem extentAt_put_le {ms : Members} {c : Document} {bound : Nat}
    (hc : ∀ l, c.extentAt l ≤ (Members.get? name ms).elim 0 (extentAt · l) + bound) (l : Location) :
    (Document.object (Members.put name c ms)).extentAt l ≤ (Document.object ms).extentAt l + bound := by
  cases l with
  | nil => exact Nat.zero_le _
  | cons s l =>
      rw [extentAt_cons, extentAt_cons]
      cases s with
      | index m => exact Nat.zero_le _
      | key k =>
          rw [Document.child?, Document.child?]
          by_cases hk : k = name
          · rw [hk, Members.get?_put, Option.elim_some]
            exact hc l
          · rw [Members.get?_put_of_ne hk]
            exact Nat.le_add_right _ _

/-- A write lengthens the array, below it an element may have grown, and the nulls of the gap hold no
arrays. -/
theorem extentAt_set_le {es : List Document} {c : Document} {bound : Nat}
    (hGap : n ≤ es.length + maximalGap)
    (hc : ∀ l, c.extentAt l ≤ es[n]?.elim 0 (extentAt · l) + bound) (l : Location) :
    (Document.array (Elements.set n c es)).extentAt l ≤
      (Document.array es).extentAt l + bound + (maximalGap + 1) := by
  cases l with
  | nil =>
      have hLength := Elements.length_set n c es
      change (Elements.set n c es).length ≤ es.length + bound + (maximalGap + 1)
      omega
  | cons s l =>
      refine le_trans ?_ (Nat.le_add_right _ _)
      rw [extentAt_cons, extentAt_cons]
      cases s with
      | key k => exact Nat.zero_le _
      | index m =>
          rw [Document.child?, Document.child?]
          by_cases hm : m = n
          · rw [hm, Elements.getElem?_set_self, Option.elim_some]
            exact hc l
          · rcases Elements.getElem?_set_of_ne hm c es with hSame | hNull
            · rw [hSame]
              exact Nat.le_add_right _ _
            · rw [hNull, Option.elim_some, Document.extentAt_of_children_nil rfl]
              exact Nat.zero_le _

/-- Storing a value without arrays lengthens an array only where the key leads through it, by one
element and at most a gap. -/
theorem extentAt_insert_le (hValue : ∀ l, value.extentAt l = 0) (h : insert value key d = .ok d')
    (l : Location) : d'.extentAt l ≤ d.extentAt l + (maximalGap + 1) * indexes key := by
  induction key generalizing d d' l with
  | nil =>
      obtain rfl := Except.ok.inj h
      exact Nat.le_add_right _ _
  | cons p rest ih =>
      cases p with
      | field name =>
          obtain ⟨ms, c, rfl, rfl, ⟨rfl, rfl⟩ | ⟨next, tail, rfl, hStored⟩⟩ := exists_put h
          · exact extentAt_put_le (fun l => (hValue l).trans_le (Nat.zero_le _)) l
          · refine extentAt_put_le (fun l => ?_) l
            rw [← measure_getD_containerFor (extentAt · l) (extentAt_containerFor next l)]
            exact ih hStored l
      | index n =>
          obtain ⟨es, c, rfl, rfl, hGap, hc⟩ := exists_set h
          rw [indexes_index, Nat.mul_add_one, ← Nat.add_assoc]
          rcases hc with ⟨rfl, rfl⟩ | ⟨next, tail, rfl, hStored⟩
          · exact extentAt_set_le hGap (fun l => (hValue l).trans_le (Nat.zero_le _)) l
          · refine extentAt_set_le hGap (fun l => (ih hStored l).trans ?_) l
            exact Nat.add_le_add_right (measure_elementAt_le (extentAt · l) (extentAt_containerFor next l) n es) _

/-! ### Whole texts -/

/-- How many indexes the key of a line has; none when it has no key. -/
def lineIndexes (line : List Char) : Nat :=
  (parse? (splitEntry [] false line).1).elim 0 indexes

/-- How many indexes the keys of a text have, those of all its lines that hold entries. -/
def textIndexes (text : List Char) : Nat :=
  ((logicalLines text).map fun line => lineIndexes line.2).sum

/-- What one line does is stored under the indexes of its key. -/
theorem exists_insert_of_readEntry_indexes (h : readEntry line d = .ok d') : ∃ key s,
    lineIndexes line.2 = indexes key ∧ insert (.string s) key d = .ok d' := by
  obtain ⟨key, hKey, hStored⟩ := exists_insert_of_readEntry h
  exact ⟨key, _, by rw [lineIndexes, hKey, Option.elim_some], hStored⟩

theorem nulls_readEntry_le (h : readEntry line d = .ok d') :
    d'.nulls ≤ d.nulls + maximalGap * lineIndexes line.2 := by
  obtain ⟨key, s, hIndexes, hStored⟩ := exists_insert_of_readEntry_indexes h
  exact hIndexes ▸ nulls_insert_le hStored

theorem extentAt_readEntry_le (h : readEntry line d = .ok d') (l : Location) :
    d'.extentAt l ≤ d.extentAt l + (maximalGap + 1) * lineIndexes line.2 := by
  obtain ⟨key, s, hIndexes, hStored⟩ := exists_insert_of_readEntry_indexes h
  exact hIndexes ▸ extentAt_insert_le (Document.extentAt_of_children_nil rfl) hStored l

/-- What each line adds to at most so much for each of its indexes, a run of lines adds to at most so
much for all of them. -/
theorem measure_readEntries_le (measure : Document → Nat) {rate : Nat}
    (hEntry : ∀ {line d d'}, readEntry line d = .ok d' →
      measure d' ≤ measure d + rate * lineIndexes line.2) (h : readEntries lines d = .ok d') :
    measure d' ≤ measure d + rate * (lines.map fun line => lineIndexes line.2).sum := by
  induction lines generalizing d with
  | nil =>
      obtain rfl := Except.ok.inj h
      exact Nat.le_add_right _ _
  | cons line lines ih =>
      rw [readEntries] at h
      split at h
      · exact absurd h (by simp)
      · rename_i hFirst
        have hHead := hEntry hFirst
        have hTail := ih h
        rw [List.map_cons, List.sum_cons, Nat.mul_add]
        omega

end Properties

open Properties

/-- A document that is read from properties text holds at most 1024 nulls for each index in the keys of
the text, and no array in it has more than 1025 elements for each. No line lengthens an array, wherever
it is and whatever document the line is read into, by more than 1025 elements for each index that the
line itself has. -/
theorem Binder.properties_decode_bounded {bytes : List UInt8} {f : Format} {d : Document}
    (h : Binder.properties.decode bytes f = .ok d) :
    (∃ text, Utf8.decode bytes = .ok text ∧ d.nulls ≤ 1024 * textIndexes text ∧
      ∀ l es, d.at? l = some (.array es) → es.length ≤ 1025 * textIndexes text) ∧
    ∀ line before after, readEntry line before = .ok after →
      ∀ l, after.extentAt l ≤ before.extentAt l + 1025 * lineIndexes line.2 := by
  refine ⟨?_, fun line before after hRead l => extentAt_readEntry_le hRead l⟩
  rw [decode] at h
  split at h
  · rw [decodeProperties] at h
    split at h
    · exact absurd h (by simp)
    · rename_i text hText
      have hRead : readEntries (logicalLines text) (.object []) = .ok d := mapError_eq_ok.mp h
      refine ⟨text, hText, ?_, fun l es hl => ?_⟩
      · have hNulls := measure_readEntries_le Document.nulls nulls_readEntry_le hRead
        rwa [Document.nulls, Document.nullsMembers, Nat.zero_add] at hNulls
      · have hExtent := measure_readEntries_le (Document.extentAt · l)
          (fun hEntry => extentAt_readEntry_le hEntry l) hRead
        have hEmpty : (Document.object []).extentAt l = 0 := Document.extentAt_of_children_nil rfl l
        have hArray : d.extentAt l = es.length := by rw [Document.extentAt, hl]
        rwa [hEmpty, hArray, Nat.zero_add] at hExtent
  · exact absurd h (by simp)

/-- Three lines that write past the end of arrays in each other, and one line that writes as far past
the end as it may. -/
theorem Binder.properties_decode_bounded_nested :
    let text := "list[2]=c\nlist[0][1]=x\nlist[1].a[0]=y".toList
    let list : Document :=
      .array [.array [.null, .string "x"], .object [("a", .array [.string "y"])], .string "c"]
    let d : Document := .object [("list", list)]
    let long : Document := .array (List.replicate 1024 .null ++ [.string "z"])
    Binder.properties.decode (Utf8.encode text) .properties = .ok d ∧
      d.nulls ≤ 1024 * textIndexes text ∧ textIndexes text = 5 ∧
      readEntry (1, "l[1024]=z".toList) (.object []) = .ok (.object [("l", long)]) ∧
      (Document.object [("l", long)]).extentAt [.key "l"] ≤
        (Document.object []).extentAt [.key "l"] + 1025 * lineIndexes "l[1024]=z".toList := by
  intro text list d long
  have hRead : Binder.properties.decode (Utf8.encode text) .properties = .ok d := by
    simp only [text, d, list]
    rfl
  obtain ⟨⟨text', hText, hNulls, -⟩, hLines⟩ := Binder.properties_decode_bounded hRead
  rw [Utf8.decode_encode] at hText
  obtain rfl := Except.ok.inj hText
  have hLine : readEntry (1, "l[1024]=z".toList) (.object []) = .ok (.object [("l", long)]) := rfl
  exact ⟨hRead, hNulls, by decide, hLine, hLines _ _ _ hLine _⟩

end Cabinet
