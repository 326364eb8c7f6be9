import Cabinet.Path.Update
import Cabinet.Proofs.Document.Elements
import Cabinet.Proofs.Document.Rebuild

/-! Writing one child of a container. Which documents take a child by a segment is said apart from
the code, and so is what the written document looks like. The check made beforehand and the write
itself agree with both, and with each other. Neither looks at the children that are there, only at
the kind of the document and the length of an array. -/

namespace Cabinet

/-- The documents that take a child by a segment. An object takes any name. An array takes an index
from its length back below zero up to its length, the place behind the last element included; a
name that reads as an integer without a minus counts as an index. -/
inductive Document.Takes : Document → Segment → Prop where
  | member (ms : Members) (name : String) : Takes (.object ms) (.field name)
  | position {es : List Document} {name : String} {i : Int}
      (hName : Width.int64.read? name.toList = some i) (hLow : 0 ≤ i) (hHigh : i ≤ es.length) :
      Takes (.array es) (.field name)
  | element {es : List Document} {i : Int} (hLow : -(es.length : Int) ≤ i) (hHigh : i ≤ es.length) :
      Takes (.array es) (.index i)

/-- The position that an index means for writing, which may be the one behind the last element. -/
def Elements.place? (i : Int) (length : Nat) : Option Nat :=
  if i = length then some length else resolve? i length

/-- The step to the child that a segment means for writing. -/
def Segment.slot? : Segment → Document → Option Step
  | field name, .object _ => some (.key name)
  | field name, .array es =>
    (writePosition? name).bind fun i => (Elements.place? i es.length).map .index
  | index i, .array es => (Elements.place? i es.length).map .index
  | _, _ => none

/-- A document with a child put at a step: a member under its key, or an element in the place of an
old one or behind the last. -/
def Document.putChild (d : Document) (s : Step) (value : Document) : Document :=
  match d, s with
  | .object ms, .key name => .object (Members.put name value ms)
  | .array es, .index n => .array (if n < es.length then es.set n value else es ++ [value])
  | d, _ => d

/-- An array with an element behind its last. -/
def Document.push (d value : Document) : Document :=
  match d with
  | .array es => .array (es ++ [value])
  | d => d

/-- A document with a child written by a segment, if it takes one. -/
def Document.writeIn (d : Document) (s : Segment) (value : Document) : Document :=
  match s.slot? d with
  | some t => d.putChild t value
  | none => d

theorem Elements.place?_isSome_iff {i : Int} {length : Nat} :
    (place? i length).isSome ↔ -(length : Int) ≤ i ∧ i ≤ length := by
  unfold place?
  split
  · simp only [Option.isSome_some, true_iff]
    omega
  · rw [← Option.ne_none_iff_isSome, ne_eq, resolve?_eq_none_iff]
    omega

namespace Segment

variable {s : Segment} {d value : Document} {l : Location}

theorem checkElement_eq (i : Int) (es : List Document) : checkElement i es =
    if (Elements.place? i es.length).isSome then .ok ()
    else .error (.indexOutOfBounds i.natAbs es.length) := by
  have hPlace : ((Elements.resolve? i es.length).isSome ∨ (0 ≤ i ∧ i.toNat = es.length)) ↔
      (Elements.place? i es.length).isSome := by
    unfold Elements.place?
    split
    · exact iff_of_true (Or.inr (by omega)) rfl
    · exact ⟨fun h => h.resolve_right (by omega), Or.inl⟩
  simp only [checkElement, hPlace]

theorem writeElement_eq (i : Int) (value : Document) (es : List Document) :
    writeElement i value es = match Elements.place? i es.length with
      | some n => .ok (if n < es.length then es.set n value else es ++ [value])
      | none => .error (.indexOutOfBounds i.natAbs es.length) := by
  unfold writeElement Elements.place?
  split
  · rename_i n hn
    obtain ⟨hLt, hi⟩ := Elements.resolve?_eq_some_iff.mp hn
    rw [if_neg (by omega)]
    simp [hn, hLt]
  · rename_i hNone
    by_cases hi : i = es.length
    · simp [hi]
    · rw [if_neg (by omega), if_neg hi]
      simp [hNone]

/-- A write succeeds exactly where there is a slot, and fills it. -/
theorem writeChild_of_slot? {t : Step} (h : s.slot? d = some t) :
    s.writeChild value d l = .ok (d.putChild t value) := by
  cases s with
  | field name =>
      cases d <;> simp only [slot?, reduceCtorEq, Option.bind_eq_some_iff, Option.map_eq_some_iff,
        Option.some.injEq] at h
      · obtain ⟨i, hi, n, hn, rfl⟩ := h
        simp [writeChild, hi, writeElement_eq, hn, Except.map, Document.putChild]
      · subst t
        rfl
  | index i =>
      cases d <;> simp only [slot?, reduceCtorEq, Option.map_eq_some_iff] at h
      obtain ⟨n, hn, rfl⟩ := h
      simp [writeChild, writeElement_eq, hn, Except.map, Document.putChild]
  | _ => cases d <;> simp [slot?] at h

/-- The check fails with the error that the write would fail with, and passes when it would not. -/
theorem checkChild_eq_map_writeChild (s : Segment) (value d : Document) (l : Location) :
    s.checkChild d l = (s.writeChild value d l).map fun _ => () := by
  have hElement (i : Int) (es : List Document) :
      checkElement i es = ((writeElement i value es).map Document.array).map fun _ => () := by
    rw [checkElement_eq, writeElement_eq]
    cases Elements.place? i es.length <;> rfl
  cases s <;> cases d <;> simp only [checkChild, writeChild, hElement] <;> try rfl
  split <;> rfl

theorem writePosition?_eq_some_iff {name : String} {i : Int} :
    writePosition? name = some i ↔ Width.int64.read? name.toList = some i ∧ 0 ≤ i := by
  unfold writePosition?
  cases Width.int64.read? name.toList with
  | none => simp
  | some n =>
      by_cases hn : 0 ≤ n
      · simp only [hn, if_true, Option.some.injEq]
        omega
      · simp only [hn, if_false, reduceCtorEq, Option.some.injEq, false_iff]
        omega

/-- There is a slot in the documents that take a child, and in no others. -/
theorem slot?_isSome_iff : (s.slot? d).isSome ↔ d.Takes s := by
  cases s with
  | field name =>
      cases d with
      | object ms => exact iff_of_true rfl (.member ms name)
      | array es =>
          constructor
          · intro h
            cases hName : writePosition? name with
            | none => simp [slot?, hName] at h
            | some i =>
                obtain ⟨hRead, hLow⟩ := writePosition?_eq_some_iff.mp hName
                have hPlace : (Elements.place? i es.length).isSome := by
                  simpa [slot?, hName] using h
                exact .position hRead hLow (Elements.place?_isSome_iff.mp hPlace).2
          · intro h
            cases h with
            | position hRead hLow hHigh =>
                have hName := writePosition?_eq_some_iff.mpr ⟨hRead, hLow⟩
                have hPlace := Elements.place?_isSome_iff.mpr ⟨by omega, hHigh⟩
                simpa [slot?, hName] using hPlace
      | _ =>
          refine iff_of_false (by simp [slot?]) fun h => ?_
          cases h
  | index i =>
      cases d with
      | array es =>
          rw [slot?, Option.isSome_map, Elements.place?_isSome_iff]
          constructor
          · rintro ⟨hLow, hHigh⟩
            exact .element hLow hHigh
          · intro h
            cases h with
            | element hLow hHigh => exact ⟨hLow, hHigh⟩
      | _ =>
          refine iff_of_false (by simp [slot?]) fun h => ?_
          cases h
  | _ =>
      refine iff_of_false (by simp [slot?]) fun h => ?_
      cases h

/-- Where there is no slot, the write fails. -/
theorem writeChild_of_slot?_eq_none (h : s.slot? d = none) (value : Document) (l : Location) :
    ∃ e, s.writeChild value d l = .error e := by
  cases s with
  | field name =>
      cases d with
      | object ms => simp [slot?] at h
      | array es =>
          cases hName : writePosition? name with
          | none => exact ⟨.wrongType l.text "an object", by simp only [writeChild, hName]⟩
          | some i =>
              have hPlace : Elements.place? i es.length = none := by simpa [slot?, hName] using h
              exact ⟨.indexOutOfBounds i.natAbs es.length, by
                simp only [writeChild, hName, writeElement_eq, hPlace, Except.map]⟩
      | _ => exact ⟨_, rfl⟩
  | index i =>
      cases d with
      | array es =>
          have hPlace : Elements.place? i es.length = none := by simpa [slot?] using h
          exact ⟨.indexOutOfBounds i.natAbs es.length, by
            simp only [writeChild, writeElement_eq, hPlace, Except.map]⟩
      | _ => exact ⟨_, rfl⟩
  | _ => cases d <;> exact ⟨_, rfl⟩

/-- The check passes exactly the documents that take the child. -/
theorem checkChild_eq_ok_iff : s.checkChild d l = .ok () ↔ d.Takes s := by
  rw [checkChild_eq_map_writeChild s .null, ← slot?_isSome_iff]
  cases hSlot : s.slot? d with
  | none =>
      obtain ⟨e, he⟩ := writeChild_of_slot?_eq_none hSlot .null l
      simp [he, Except.map]
  | some t => simp [writeChild_of_slot? hSlot, Except.map]

/-- A slot depends on the children only through how many there are. -/
theorem slot?_mapChildren (f : Step → Document → Document) :
    s.slot? (d.mapChildren f) = s.slot? d := by
  cases s <;> cases d <;> simp [slot?, Document.mapChildren]

end Segment

namespace Document

variable {d value : Document}

theorem is_object_iff : d.is .object ↔ ∃ ms, d = .object ms := by
  cases d <;> simp [is, object?]

theorem is_array_iff : d.is .array ↔ ∃ es, d = .array es := by
  cases d <;> simp [is, array?]

theorem UniqueKeys.putChild (hd : d.UniqueKeys) (hValue : value.UniqueKeys) (s : Step) :
    (d.putChild s value).UniqueKeys := by
  cases d with
  | array es =>
      cases s with
      | key name => exact hd
      | index n =>
          refine uniqueKeys_array_iff.mpr fun e he => ?_
          have hOld := uniqueKeys_array_iff.mp hd
          split at he
          · rcases List.mem_or_eq_of_mem_set he with he | rfl
            · exact hOld e he
            · exact hValue
          · rcases List.mem_append.mp he with he | he
            · exact hOld e he
            · rwa [List.mem_singleton.mp he]
  | object ms =>
      cases s with
      | key name =>
          obtain ⟨hKeys, hOld⟩ := uniqueKeys_object_iff.mp hd
          refine uniqueKeys_object_iff.mpr ⟨Members.nodup_keys_put name value hKeys, fun m hm => ?_⟩
          rcases Members.mem_put hm with rfl | hm
          · exact hValue
          · exact hOld m hm
      | index n => exact hd
  | _ => cases s <;> exact hd

theorem UniqueKeys.push (hd : d.UniqueKeys) (hValue : value.UniqueKeys) :
    (d.push value).UniqueKeys := by
  cases d with
  | array es =>
      refine uniqueKeys_array_iff.mpr fun e he => ?_
      rcases List.mem_append.mp he with he | he
      · exact uniqueKeys_array_iff.mp hd e he
      · rwa [List.mem_singleton.mp he]
  | _ => exact hd

theorem UniqueKeys.writeIn (hd : d.UniqueKeys) (hValue : value.UniqueKeys) (s : Segment) :
    (d.writeIn s value).UniqueKeys := by
  unfold Document.writeIn
  split
  · exact hd.putChild hValue _
  · exact hd

end Document

end Cabinet
