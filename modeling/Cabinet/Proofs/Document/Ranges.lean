import Cabinet.Document.Elements
import Mathlib.Tactic.Common

/-! Ranges of arrays. An offset means the position that it counts to from the start, or back from the
end, and never leaves the array. A range is read and filled element by element, and a splice can be
undone by a second one. The operations are also carried out in words of 64 bits, where every cut is
checked: they come to the same, so that no offset and no count overflows or leads out of the array. -/

namespace Cabinet.Elements

variable {α : Type} {es part : List α} {start : Int} {first last n : Nat}

/-! ### Positions -/

/-- The position of an offset, told by the two ends that it may not pass. -/
def position (offset : Int) (length : Nat) : Int :=
  if offset < 0 then max (length + offset) 0 else min offset length

theorem clamp_eq (offset : Int) (length : Nat) : clamp offset length = position offset length := by
  unfold clamp position
  split <;> omega

theorem clampEnd_eq (stop : Option Int) (length : Nat) :
    clampEnd stop length = stop.elim (length : Int) (position · length) := by
  cases stop with
  | none => rfl
  | some offset => exact clamp_eq offset length

theorem clamp_le (offset : Int) (length : Nat) : clamp offset length ≤ length := by
  unfold clamp
  split <;> omega

theorem clampEnd_le (stop : Option Int) (length : Nat) : clampEnd stop length ≤ length := by
  cases stop with
  | none => exact Nat.le_refl _
  | some offset => exact clamp_le offset length

theorem clamp_natCast (n length : Nat) : clamp n length = min n length := by
  unfold clamp
  split <;> omega

/-! ### Ranges -/

/-- `part` is what an array holds from one position up to another, and nothing if the second position
is not behind the first. -/
def IsPart (first last : Nat) (part es : List α) : Prop :=
  ∀ n, part[n]? = if first + n < last then es[first + n]? else none

theorem isPart_take_drop (first last : Nat) (es : List α) :
    IsPart first last ((es.drop first).take (last - first)) es := by
  intro n
  have hInside : n < last - first ↔ first + n < last := by omega
  simp only [List.getElem?_take, List.getElem?_drop, hInside]

theorem isPart_slice (start : Int) (stop : Option Int) (es : List α) :
    IsPart (clamp start es.length) (clampEnd stop es.length) (slice start stop es) es :=
  isPart_take_drop _ _ es

/-- Writing a range writes its positions and leaves the others. -/
theorem getElem?_fill (value : α) (start : Int) (stop : Option Int) (es : List α) (n : Nat) :
    (fill value start stop es)[n]? =
      if clamp start es.length ≤ n ∧ n < clampEnd stop es.length then some value else es[n]? := by
  have hFirst := clamp_le start es.length
  have hLast := clampEnd_le stop es.length
  simp only [fill]
  generalize clamp start es.length = first at *
  generalize clampEnd stop es.length = last at *
  have hBefore : (es.take first).length = first := by rw [List.length_take]; omega
  rcases Nat.lt_or_ge n first with hn | hn
  · -- in front of the range
    rw [List.append_assoc, List.getElem?_append_left (by omega), List.getElem?_take_of_lt hn,
      if_neg (by omega)]
  · rcases Nat.lt_or_ge n last with hn' | hn'
    · rw [List.getElem?_append_left (by simp; omega), List.getElem?_append_right (by omega),
        List.getElem?_replicate, if_pos (by omega), if_pos ⟨hn, hn'⟩]
    · -- behind the range, which may be empty
      rw [List.getElem?_append_right (by simp; omega), List.getElem?_drop, if_neg (by omega)]
      congr 1
      simp
      omega

theorem length_fill (value : α) (start : Int) (stop : Option Int) (es : List α) :
    (fill value start stop es).length = es.length := by
  have hFirst := clamp_le start es.length
  have hLast := clampEnd_le stop es.length
  simp [fill]
  omega

/-- A splice exchanges the elements between two cuts. -/
theorem splice_append (before middle after items : List α) :
    splice before.length middle.length items (before ++ middle ++ after) =
      (middle, before ++ items ++ after) := by
  have hFirst : clamp before.length (before ++ middle ++ after).length = before.length := by
    rw [clamp_natCast]
    simp
  have hBehind : before.length + middle.length = (before ++ middle).length := by simp
  simp only [splice, hFirst, hBehind, List.drop_left]
  simp

/-- The cuts that a splice makes. -/
theorem exists_splice (start : Int) (count : Nat) (items es : List α) :
    ∃ before middle after, es = before ++ middle ++ after ∧ before.length = clamp start es.length ∧
      splice start count items es = (middle, before ++ items ++ after) := by
  refine ⟨es.take (clamp start es.length), (es.drop (clamp start es.length)).take count,
    es.drop (clamp start es.length + count), ?_, ?_, rfl⟩
  · rw [← List.drop_drop, List.append_assoc, List.take_append_drop, List.take_append_drop]
  · rw [List.length_take, Nat.min_eq_left (clamp_le start es.length)]

/-- What a splice takes out, and what it leaves. -/
theorem splice_eq (start : Int) (count : Nat) (items es : List α) :
    IsPart (clamp start es.length) (min (clamp start es.length + count) es.length)
        (splice start count items es).1 es ∧
      (splice start count items es).2 = es.take (clamp start es.length) ++ items ++
        es.drop (clamp start es.length + (splice start count items es).1.length) := by
  have hFirst := clamp_le start es.length
  simp only [splice]
  generalize clamp start es.length = first at *
  have hTaken : (es.drop first).take count =
      (es.drop first).take (min (first + count) es.length - first) := by
    rw [List.take_eq_take_iff, List.length_drop]
    omega
  have hRest : es.drop (first + count) = es.drop (first + ((es.drop first).take count).length) := by
    rw [List.drop_eq_drop_iff, List.length_take, List.length_drop]
    omega
  exact ⟨hTaken ▸ isPart_take_drop first _ es, by rw [← hRest]⟩

/-- A splice is undone by one that takes out what was put in, and puts in what was taken out. -/
theorem splice_splice (start : Int) (count : Nat) (items es : List α) :
    splice (clamp start es.length) items.length (splice start count items es).1
      (splice start count items es).2 = (items, es) := by
  obtain ⟨before, middle, after, hCut, hLength, hSplice⟩ := exists_splice start count items es
  rw [hSplice, ← hLength, splice_append, ← hCut]

/-- Two slices that meet make up the array. -/
theorem slice_append_slice (k : Nat) (es : List α) :
    slice 0 (some k) es ++ slice k none es = es := by
  have hZero : clamp 0 es.length = 0 := by
    have hMin := clamp_natCast 0 es.length
    simpa using hMin
  have hUp : slice 0 (some k) es = es.take k := by
    rw [slice, clampEnd, clamp_natCast, hZero, List.drop_zero, List.take_eq_take_iff]
    omega
  have hOn : slice k none es = es.drop k := by
    rw [slice, clampEnd, clamp_natCast]
    have hDrop : es.drop (min k es.length) = es.drop k := by
      rw [List.drop_eq_drop_iff]
      omega
    rw [hDrop, List.take_of_length_le]
    rw [List.length_drop]
    omega
  rw [hUp, hOn, List.take_append_drop]

/-! ### Words -/

namespace Word

theorem toNat_minus (a b : UInt64) : (minus a b).toNat = a.toNat - b.toNat := by
  unfold minus
  split
  · rename_i h
    rw [Nat.sub_eq_zero_of_le (Nat.le_of_lt (UInt64.lt_iff_toNat_lt.mp h))]
    rfl
  · rename_i h
    exact UInt64.toNat_sub_of_le _ _ (UInt64.not_lt.mp h)

theorem toNat_plus (a b : UInt64) : (plus a b).toNat = min (a.toNat + b.toNat) (UInt64.size - 1) := by
  have ha := a.toNat_lt
  have hb := b.toNat_lt
  unfold plus
  split <;> rename_i h <;> rw [UInt64.lt_iff_toNat_lt, UInt64.toNat_add] at h
  · -- the sum has wrapped around, and so it is less than either word
    have hGreatest : (18446744073709551615 : UInt64).toNat = UInt64.size - 1 := rfl
    rw [hGreatest, UInt64.size]
    omega
  · rw [UInt64.toNat_add, UInt64.size]
    omega

theorem toNat_min (a b : UInt64) : (min a b).toNat = min a.toNat b.toNat := by
  change (if a ≤ b then a else b).toNat = _
  split <;> rename_i h <;> rw [UInt64.le_iff_toNat_le] at h <;> omega

/-- The integer of a word with a sign, by the word without one. -/
theorem toInt_eq (offset : Int64) : offset.toInt =
    if 2 * offset.toUInt64.toNat < UInt64.size then (offset.toUInt64.toNat : Int)
    else offset.toUInt64.toNat - UInt64.size :=
  BitVec.toInt_eq_toNat_cond offset.toBitVec

theorem toNat_clamp (offset : Int64) (length : UInt64) :
    (clamp offset length).toNat = Elements.clamp offset.toInt length.toNat := by
  have hOffset := toInt_eq offset
  have hWord := offset.toUInt64.toNat_lt
  unfold clamp Elements.clamp
  simp only [Int64.lt_iff_toInt_lt, Int64.toInt_zero]
  split
  · have hAbs : (-offset).toUInt64.toNat = offset.toInt.natAbs := by
      rw [Int64.toUInt64_neg, UInt64.toNat_neg]
      split at hOffset <;> simp only [UInt64.size] at * <;> omega
    rw [toNat_minus, hAbs]
  · have hUp : offset.toUInt64.toNat = offset.toInt.toNat := by
      split at hOffset <;> simp only [UInt64.size] at * <;> omega
    rw [toNat_min, hUp]

/-- Two positions in the right order, the second one within the array, cut it. -/
theorem cut?_eq_some {first last : UInt64} (hOrder : first.toNat ≤ last.toNat)
    (hInside : last.toNat ≤ es.length) : cut? first last es = some (es.take first.toNat,
      (es.drop first.toNat).take (last.toNat - first.toNat), es.drop last.toNat) := by
  have hOrder := UInt64.le_iff_toNat_le.mpr hOrder
  rw [cut?, if_pos ⟨hOrder, hInside⟩, UInt64.toNat_sub_of_le _ _ hOrder]

section

variable (hLength : es.length < UInt64.size)
include hLength

theorem toNat_length : (UInt64.ofNat es.length).toNat = es.length := by
  rw [UInt64.toNat_ofNat', Nat.mod_eq_of_lt hLength]

theorem toNat_first (start : Int64) :
    (clamp start (UInt64.ofNat es.length)).toNat = Elements.clamp start.toInt es.length := by
  rw [toNat_clamp, toNat_length hLength]

theorem toNat_last (stop : Option Int64) : (clampEnd stop (UInt64.ofNat es.length)).toNat =
    Elements.clampEnd (stop.map Int64.toInt) es.length := by
  cases stop with
  | none => exact toNat_length hLength
  | some offset => exact toNat_first hLength offset

theorem slice?_eq (start : Int64) (stop : Option Int64) :
    slice? start stop es = some (slice start.toInt (stop.map Int64.toInt) es) := by
  have hInside := clampEnd_le (stop.map Int64.toInt) es.length
  simp only [slice?, slice, ← toNat_first hLength, ← toNat_last hLength] at hInside ⊢
  split <;> rename_i hOrder <;> rw [UInt64.le_iff_toNat_le] at hOrder
  · rw [Nat.sub_eq_zero_of_le hOrder, List.take_zero]
  · rw [cut?_eq_some (Nat.le_of_not_le hOrder) hInside, Option.map_some]

theorem fill?_eq (value : α) (start : Int64) (stop : Option Int64) :
    fill? value start stop es = some (fill value start.toInt (stop.map Int64.toInt) es) := by
  have hInside := clampEnd_le (stop.map Int64.toInt) es.length
  simp only [fill?, fill, ← toNat_first hLength, ← toNat_last hLength] at hInside ⊢
  generalize clamp start (UInt64.ofNat es.length) = first
  generalize clampEnd stop (UInt64.ofNat es.length) = last at hInside ⊢
  split <;> rename_i hOrder <;> rw [UInt64.lt_iff_toNat_lt] at hOrder
  · have hOrder := Nat.le_of_lt hOrder
    have hPart : ((es.drop first.toNat).take (last.toNat - first.toNat)).length =
        last.toNat - first.toNat := by
      simp
      omega
    rw [cut?_eq_some hOrder hInside, Option.map_some, List.map_const', hPart, Nat.add_sub_cancel' hOrder]
  · rw [Nat.sub_eq_zero_of_le (Nat.le_of_not_lt hOrder)]
    simp

theorem splice?_eq (start : Int64) (count : UInt64) (items : List α) :
    splice? start count items es = some (splice start.toInt count.toNat items es) := by
  have hFirst := clamp_le start.toInt es.length
  simp only [splice?, splice, ← toNat_first hLength] at hFirst ⊢
  generalize clamp start (UInt64.ofNat es.length) = first at hFirst ⊢
  -- the greatest word is never less than the length, so that the sum may as well stop there
  have hLast : (min (plus first count) (UInt64.ofNat es.length)).toNat =
      min (first.toNat + count.toNat) es.length := by
    rw [toNat_min, toNat_plus, toNat_length hLength]
    omega
  have hPart : (es.drop first.toNat).take (min (first.toNat + count.toNat) es.length - first.toNat) =
      (es.drop first.toNat).take count.toNat := by
    rw [List.take_eq_take_iff, List.length_drop]
    omega
  have hRest : es.drop (min (first.toNat + count.toNat) es.length) =
      es.drop (first.toNat + count.toNat) := by
    rw [List.drop_eq_drop_iff]
    omega
  rw [cut?_eq_some (by omega) (by omega), Option.map_some, hLast, hPart, hRest]

end

end Word

/-- A range lies between two positions that an offset cannot lead past the ends of the array. A slice is
what the array holds there, and a fill writes there and nowhere else. A splice takes out what it finds, puts
the items in its place, and is undone by a second splice; two slices that meet make up the array. In words
of 64 bits the operations come to the same, whatever the offsets and the count, and no cut is refused. -/
theorem ranges_undone (value : α) (start : Int) (stop : Option Int) (count : Nat) (items es : List α) :
    let first := clamp start es.length
    let last := clampEnd stop es.length
    (first = position start es.length ∧ last = stop.elim (es.length : Int) (position · es.length)) ∧
    IsPart first last (slice start stop es) es ∧
    ((fill value start stop es).length = es.length ∧ ∀ n, (fill value start stop es)[n]? =
      if first ≤ n ∧ n < last then some value else es[n]?) ∧
    (∃ removed left, splice start count items es = (removed, left) ∧
      IsPart first (min (first + count) es.length) removed es ∧
      left = es.take first ++ items ++ es.drop (first + removed.length) ∧
      splice first items.length removed left = (items, es)) ∧
    (∀ k : Nat, slice 0 (some k) es ++ slice k none es = es) ∧
    (es.length < UInt64.size → ∀ (start : Int64) (stop : Option Int64) (count : UInt64),
      Word.slice? start stop es = some (slice start.toInt (stop.map Int64.toInt) es) ∧
      Word.fill? value start stop es = some (fill value start.toInt (stop.map Int64.toInt) es) ∧
      Word.splice? start count items es = some (splice start.toInt count.toNat items es)) := by
  intro first last
  refine ⟨⟨clamp_eq start es.length, clampEnd_eq stop es.length⟩, isPart_slice start stop es,
    ⟨length_fill value start stop es, getElem?_fill value start stop es⟩, ?_,
    fun k => slice_append_slice k es, fun hLength start stop count => ?_⟩
  · obtain ⟨hTaken, hLeft⟩ := splice_eq start count items es
    exact ⟨_, _, rfl, hTaken, hLeft, splice_splice start count items es⟩
  · exact ⟨Word.slice?_eq hLength start stop, Word.fill?_eq hLength value start stop,
      Word.splice?_eq hLength start count items⟩

/-- The least and the greatest offset, and the greatest count. -/
theorem ranges_undone_limits :
    let es : List Document := [.null, .boolean true, .string "c"]
    let left : List Document := [.null, .boolean true, .string "x"]
    es.length < UInt64.size ∧
      Word.slice? Int64.minValue (some Int64.maxValue) es = some es ∧
      Word.fill? .null (-2) (some Int64.maxValue) es = some [.null, .null, .null] ∧
      Word.splice? (-1) 18446744073709551615 [.string "x"] es = some ([.string "c"], left) ∧
      splice 2 1 [.string "c"] left = ([.string "x"], es) ∧
      slice 0 (some 2) es ++ slice 2 none es = es := by
  intro es left
  have hLength : es.length < UInt64.size := by decide
  obtain ⟨-, -, -, ⟨removed, rest, hSplice, -, -, hUndone⟩, hMeet, hWords⟩ :=
    ranges_undone .null (-1) none 10 [.string "x"] es
  obtain ⟨rfl, rfl⟩ := Prod.mk.inj hSplice
  obtain ⟨hSlice, -, -⟩ := hWords hLength Int64.minValue (some Int64.maxValue) 0
  obtain ⟨-, hFill, -⟩ := hWords hLength (-2) (some Int64.maxValue) 0
  obtain ⟨-, -, hTaken⟩ := hWords hLength (-1) none 18446744073709551615
  have hLeast : clamp Int64.minValue.toInt es.length = 0 := by decide
  have hMost : clamp Int64.maxValue.toInt es.length = es.length := by decide
  have hEnds : slice Int64.minValue.toInt ((some Int64.maxValue).map Int64.toInt) es = es := by
    simp only [Option.map_some, slice, clampEnd, hLeast, hMost]
    rfl
  have hNulls : fill .null (Int64.toInt (-2)) ((some Int64.maxValue).map Int64.toInt) es =
      [.null, .null, .null] := by
    rw [Option.map_some, fill, clampEnd, hMost]
    rfl
  have hGreatest : splice (Int64.toInt (-1)) (UInt64.toNat 18446744073709551615) [.string "x"] es =
      ([.string "c"], left) := by
    simp [splice, clamp, es, left]
  refine ⟨hLength, ?_, ?_, ?_, hUndone, hMeet 2⟩
  · rw [hSlice, hEnds]
  · rw [hFill, hNulls]
  · rw [hTaken, hGreatest]

end Cabinet.Elements
