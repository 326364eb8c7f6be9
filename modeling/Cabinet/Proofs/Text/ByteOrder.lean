import Cabinet.Proofs.Text.Utf8

/-! The order of texts is that of their bytes. Where two texts differ first, the lesser character comes
first, and it has the lesser byte where the bytes of the two differ first. -/

namespace Cabinet.Utf8

variable {n m : Nat} {l k : List UInt8}

/-- Bytes that differ from others, and have the lesser one where they do first. -/
inductive Precedes : List UInt8 → List UInt8 → Prop where
  | here {b d : UInt8} {l k : List UInt8} (h : b < d) : Precedes (b :: l) (d :: k)
  | later {b : UInt8} {l k : List UInt8} (h : Precedes l k) : Precedes (b :: l) (b :: k)

namespace Precedes

/-- What follows the first difference does not count. -/
theorem append (h : Precedes l k) (l' k' : List UInt8) : Precedes (l ++ l') (k ++ k') := by
  induction h with
  | here h => exact .here h
  | later _ ih => exact .later ih

theorem lt (h : Precedes l k) : l < k := by
  induction h with
  | here h => exact .rel h
  | later _ ih => exact .cons ih

theorem of_lt (h : n < m) (hm : m < 0x100) : Precedes (n.toUInt8 :: l) (m.toUInt8 :: k) := by
  refine .here (UInt8.lt_iff_toNat_lt.mpr ?_)
  rwa [toNat_toUInt8 hm, toNat_toUInt8 (Nat.lt_trans h hm)]

theorem of_le (h : n ≤ m) (hm : m < 0x100) (hRest : n = m → Precedes l k) :
    Precedes (n.toUInt8 :: l) (m.toUInt8 :: k) := by
  rcases Nat.lt_or_eq_of_le h with hLess | rfl
  · exact of_lt hLess hm
  · exact .later (hRest rfl)

end Precedes

/-- A character of more bytes begins with a greater one. Among characters of as many bytes the first that
differs decides: they are the digits of the character's number, the highest first. -/
theorem precedes_encodeChar {c d : Char} (h : c < d) : Precedes (encodeChar c) (encodeChar d) := by
  have hLess : c.toNat < d.toNat := h
  have hLast : d.toNat < 0xD800 ∨ 0xDFFF < d.toNat ∧ d.toNat < 0x110000 := d.valid
  simp only [encodeChar]
  generalize c.toNat = n at hLess ⊢
  generalize d.toNat = m at hLess hLast ⊢
  split_ifs
  -- A lesser number never has more bytes. Where it has fewer, or both have one, the first byte decides;
  -- what is left has two, three or four on both sides.
  any_goals omega
  any_goals (refine .of_lt ?_ ?_ <;> omega)
  · exact .of_le (by omega) (by omega) fun _ => .of_lt (by omega) (by omega)
  · exact .of_le (by omega) (by omega) fun _ => .of_le (by omega) (by omega) fun _ =>
      .of_lt (by omega) (by omega)
  · exact .of_le (by omega) (by omega) fun _ => .of_le (by omega) (by omega) fun _ =>
      .of_le (by omega) (by omega) fun _ => .of_lt (by omega) (by omega)

theorem encode_lt {cs ds : List Char} (h : cs < ds) : encode cs < encode ds := by
  induction h with
  | @nil d ds =>
      obtain ⟨b, l, hBytes⟩ := List.exists_cons_of_ne_nil (encodeChar_ne_nil d)
      rw [encode_cons, hBytes]
      exact .nil
  | @cons c cs ds _ ih =>
      rw [encode_cons, encode_cons]
      exact List.append_left_lt ih
  | @rel c cs d ds h =>
      rw [encode_cons, encode_cons]
      exact ((precedes_encodeChar h).append _ _).lt

theorem compare_of_lt (h : l < k) : compare l k = .lt := by
  induction h with
  | nil => rfl
  | @cons b _ _ _ ih =>
      have hSame : compare b b = .eq := Std.ReflCmp.compare_self
      rw [List.compare_cons_cons, hSame, Ordering.eq_then, ih]
  | rel h => rw [List.compare_cons_cons, Std.compare_eq_lt.mpr h, Ordering.lt_then]

/-- Texts are in the order of their bytes. -/
theorem compare_eq_compare_encode (s t : String) :
    compare s t = compare (encode s.toList) (encode t.toList) := by
  have hLess {s t : String} (h : compare s t = .lt) : compare (encode s.toList) (encode t.toList) = .lt :=
    compare_of_lt (encode_lt (compareOfLessAndEq_eq_lt (x := s) (y := t).mp h))
  cases hTexts : compare s t with
  | lt => exact (hLess hTexts).symm
  | eq =>
      obtain rfl := Std.LawfulEqCmp.eq_of_compare hTexts
      exact Std.ReflCmp.compare_self.symm
  | gt => exact (Std.OrientedCmp.gt_iff_lt.mpr (hLess (Std.OrientedCmp.gt_iff_lt.mp hTexts))).symm

end Cabinet.Utf8
