import Cabinet.Text.Utf8
import Mathlib.Tactic.Common

/-! Characters survive UTF-8. The bytes of one character take the reader from between two characters
to the next such place, with just this character read, so that the pieces of an encoded text are its
characters. Bytes survive as well: the pieces that they are cut into are, put together, the bytes, so
that no two spellings are read as one text. -/

namespace Cabinet.Utf8

variable {b : UInt8} {done : List Piece} {p : Pending} {n : Nat}

theorem toNat_toUInt8 (h : n < 0x100) : n.toUInt8.toNat = n :=
  UInt8.toNat_ofNat_of_lt' h

/-- A first byte begins a character. -/
theorem step_lead (hWide : 0x80 ≤ b.toNat) (hLead : lead b = some p) :
    step b (done, none) = (done, some p) := by
  simp only [step, begin, Nat.not_lt.mpr hWide, if_false, hLead]

/-- A later byte goes on with the character that has begun. -/
theorem step_tail (hLow : p.low ≤ 0x80 + n % 0x40) (hHigh : 0x80 + n % 0x40 ≤ p.high)
    (hOwed : 1 < p.owed) :
    step (0x80 + n % 0x40).toUInt8 (done, some p) =
      (done, some ⟨(0x80 + n % 0x40).toUInt8 :: p.held, p.owed - 1, 0x80, 0xBF,
        p.code * 0x40 + n % 0x40⟩) := by
  have hByte : (0x80 + n % 0x40).toUInt8.toNat = 0x80 + n % 0x40 := toNat_toUInt8 (by omega)
  simp only [step, hByte, hLow, hHigh, and_self, if_true, Nat.not_le.mpr hOwed, if_false,
    Nat.add_sub_cancel_left]

/-- The last byte that is owed ends the character. -/
theorem step_last (hLow : p.low ≤ 0x80 + n % 0x40) (hHigh : 0x80 + n % 0x40 ≤ p.high)
    (hOwed : p.owed = 1) :
    step (0x80 + n % 0x40).toUInt8 (done, some p) =
      (.char (Char.ofNat (p.code * 0x40 + n % 0x40)) :: done, none) := by
  have hByte : (0x80 + n % 0x40).toUInt8.toNat = 0x80 + n % 0x40 := toNat_toUInt8 (by omega)
  simp only [step, hByte, hLow, hHigh, and_self, if_true, hOwed, Nat.le_refl,
    Nat.add_sub_cancel_left]

/-- The byte that begins a character of two. -/
theorem step_two (hLow : 0x80 ≤ n) (hHigh : n < 0x800) :
    step (0xC0 + n / 0x40).toUInt8 (done, none) =
      (done, some ⟨[(0xC0 + n / 0x40).toUInt8], 1, 0x80, 0xBF, n / 0x40⟩) := by
  have hByte : (0xC0 + n / 0x40).toUInt8.toNat = 0xC0 + n / 0x40 := toNat_toUInt8 (by omega)
  refine step_lead (by omega) ?_
  rw [lead, hByte, if_neg (by omega), if_pos (by omega), Nat.add_sub_cancel_left]

/-- The byte that begins a character of three. -/
theorem step_three (hLow : 0x800 ≤ n) (hHigh : n < 0x10000) :
    step (0xE0 + n / 0x1000).toUInt8 (done, none) =
      (done, some ⟨[(0xE0 + n / 0x1000).toUInt8], 2, if n / 0x1000 = 0 then 0xA0 else 0x80,
        if n / 0x1000 = 0xD then 0x9F else 0xBF, n / 0x1000⟩) := by
  have hByte : (0xE0 + n / 0x1000).toUInt8.toNat = 0xE0 + n / 0x1000 := toNat_toUInt8 (by omega)
  have hZero : 0xE0 + n / 0x1000 = 0xE0 ↔ n / 0x1000 = 0 := by omega
  have hSurrogate : 0xE0 + n / 0x1000 = 0xED ↔ n / 0x1000 = 0xD := by omega
  refine step_lead (by omega) ?_
  rw [lead, hByte, if_neg (by omega), if_neg (by omega), if_pos (by omega)]
  simp only [hZero, hSurrogate, Nat.add_sub_cancel_left]

/-- The byte that begins a character of four. -/
theorem step_four (hLow : 0x10000 ≤ n) (hHigh : n < 0x110000) :
    step (0xF0 + n / 0x40000).toUInt8 (done, none) =
      (done, some ⟨[(0xF0 + n / 0x40000).toUInt8], 3, if n / 0x40000 = 0 then 0x90 else 0x80,
        if n / 0x40000 = 4 then 0x8F else 0xBF, n / 0x40000⟩) := by
  have hByte : (0xF0 + n / 0x40000).toUInt8.toNat = 0xF0 + n / 0x40000 := toNat_toUInt8 (by omega)
  have hZero : 0xF0 + n / 0x40000 = 0xF0 ↔ n / 0x40000 = 0 := by omega
  have hLast : 0xF0 + n / 0x40000 = 0xF4 ↔ n / 0x40000 = 4 := by omega
  refine step_lead (by omega) ?_
  rw [lead, hByte, if_neg (by omega), if_neg (by omega), if_neg (by omega), if_pos (by omega)]
  simp only [hZero, hLast, Nat.add_sub_cancel_left]

/-- The bytes of a character are read as this character. The bounds of the second byte let them
pass, since no character lies among the surrogates. -/
theorem foldl_step_encodeChar (c : Char) (done : List Piece) :
    (encodeChar c).foldl (fun state b => step b state) (done, none) = (.char c :: done, none) := by
  have hValid : c.toNat < 0xD800 ∨ 0xDFFF < c.toNat ∧ c.toNat < 0x110000 := c.valid
  have hChar : Char.ofNat c.toNat = c := Char.ofNat_toNat c
  simp only [encodeChar]
  generalize c.toNat = n at hValid hChar ⊢
  split
  · rename_i hOne
    have hByte : n.toUInt8.toNat = n := toNat_toUInt8 (by omega)
    simp only [List.foldl_cons, List.foldl_nil, step, begin, hByte, hOne, if_true, hChar]
  split
  · rename_i hOne hTwo
    have hCode : n / 0x40 * 0x40 + n % 0x40 = n := by omega
    rw [List.foldl_cons, step_two (by omega) hTwo, List.foldl_cons,
      step_last (by dsimp only; omega) (by dsimp only; omega) rfl, List.foldl_nil, hCode, hChar]
  split
  · rename_i hOne hTwo hThree
    have hCode : (n / 0x1000 * 0x40 + n / 0x40 % 0x40) * 0x40 + n % 0x40 = n := by omega
    have hSecond : (if n / 0x1000 = 0 then 0xA0 else 0x80) ≤ 0x80 + n / 0x40 % 0x40 ∧
        0x80 + n / 0x40 % 0x40 ≤ if n / 0x1000 = 0xD then 0x9F else 0xBF := by
      constructor <;> split <;> omega
    rw [List.foldl_cons, step_three (by omega) hThree, List.foldl_cons,
      step_tail hSecond.1 hSecond.2 (by dsimp only; omega), List.foldl_cons,
      step_last (by dsimp only; omega) (by dsimp only; omega) rfl, List.foldl_nil, hCode, hChar]
  · rename_i hOne hTwo hThree
    have hCode : ((n / 0x40000 * 0x40 + n / 0x1000 % 0x40) * 0x40 + n / 0x40 % 0x40) * 0x40 +
        n % 0x40 = n := by omega
    have hSecond : (if n / 0x40000 = 0 then 0x90 else 0x80) ≤ 0x80 + n / 0x1000 % 0x40 ∧
        0x80 + n / 0x1000 % 0x40 ≤ if n / 0x40000 = 4 then 0x8F else 0xBF := by
      constructor <;> split <;> omega
    rw [List.foldl_cons, step_four (by omega) (by omega), List.foldl_cons,
      step_tail hSecond.1 hSecond.2 (by dsimp only; omega), List.foldl_cons,
      step_tail (by dsimp only; omega) (by dsimp only; omega) (by dsimp only; omega),
      List.foldl_cons,
      step_last (by dsimp only; omega) (by dsimp only; omega) rfl, List.foldl_nil, hCode, hChar]

theorem encode_cons (c : Char) (cs : List Char) : encode (c :: cs) = encodeChar c ++ encode cs :=
  List.flatMap_cons

theorem foldl_step_encode (cs : List Char) (done : List Piece) :
    (encode cs).foldl (fun state b => step b state) (done, none) =
      ((cs.map Piece.char).reverse ++ done, none) := by
  induction cs generalizing done with
  | nil => rfl
  | cons c cs ih =>
      rw [encode_cons, List.foldl_append, foldl_step_encodeChar, ih, List.map_cons, List.reverse_cons,
        List.append_assoc, List.singleton_append]

/-- The pieces of an encoded text are its characters. -/
theorem pieces_encode (cs : List Char) : pieces (encode cs) = cs.map .char := by
  simp only [pieces, foldl_step_encode, List.append_nil, List.reverse_reverse]

theorem join_char (index : Nat) (done cs : List Char) :
    join index done (cs.map Piece.char) = .ok (done.reverse ++ cs) := by
  induction cs generalizing index done with
  | nil => rw [List.map_nil, join, List.append_nil]
  | cons c cs ih => rw [List.map_cons, join, ih, List.reverse_cons, List.append_assoc,
      List.singleton_append]

/-- Characters survive the way to bytes and back. -/
theorem decode_encode (cs : List Char) : decode (encode cs) = .ok cs := by
  rw [decode, pieces_encode, join_char, List.reverse_nil, List.nil_append]

theorem encode_injective {cs ds : List Char} (h : encode cs = encode ds) : cs = ds := by
  have hRead : decode (encode cs) = .ok ds := h ▸ decode_encode ds
  exact Except.ok.inj ((decode_encode cs).symm.trans hRead)

/-! ### What is read is what was there -/

/-- The bytes that a piece stands for. -/
def Piece.bytes : Piece → List UInt8
  | char c => encodeChar c
  | invalid bytes => bytes
  | truncated bytes => bytes

/-- Whatever bytes are taken for those that a character still owes, all of its bytes spell it. -/
def Spells : (owed low high : Nat) → (held : List UInt8) → (code : Nat) → Prop
  | 0, _, _, held, code => encodeChar (Char.ofNat code) = held.reverse
  | owed + 1, low, high, held, code => ∀ b : UInt8, low ≤ b.toNat → b.toNat ≤ high →
      Spells owed 0x80 0xBF (b :: held) (code * 0x40 + (b.toNat - 0x80))

/-- A character that has begun owes a byte, and becomes one that its bytes spell. -/
def Pending.Sound (p : Pending) : Prop := p.owed ≠ 0 ∧ Spells p.owed p.low p.high p.held p.code

theorem toNat_charOfNat (h : n.isValidChar) : (Char.ofNat n).toNat = n := by
  rw [Char.ofNat, dif_pos h]
  rfl

theorem toUInt8_eq (h : n = b.toNat) : n.toUInt8 = b := by
  rw [h]
  exact UInt8.ofNat_toNat

theorem encodeChar_one (h : b.toNat < 0x80) : encodeChar (Char.ofNat b.toNat) = [b] := by
  rw [encodeChar, toNat_charOfNat (Or.inl (by omega)), if_pos h, toUInt8_eq rfl]

theorem spells_two (hLow : 0xC2 ≤ b.toNat) (hHigh : b.toNat < 0xE0) :
    Spells 1 0x80 0xBF [b] (b.toNat - 0xC0) := by
  intro c hc hc'
  have hCode := toNat_charOfNat (n := (b.toNat - 0xC0) * 0x40 + (c.toNat - 0x80)) (Or.inl (by omega))
  rw [Spells, encodeChar, hCode, if_neg (by omega), if_pos (by omega), toUInt8_eq (b := b) (by omega),
    toUInt8_eq (b := c) (by omega)]
  rfl

/-- The bounds of the second byte leave out what is shorter to spell, and the surrogates. -/
theorem spells_three (hLow : 0xE0 ≤ b.toNat) (hHigh : b.toNat < 0xF0) :
    Spells 2 (if b.toNat = 0xE0 then 0xA0 else 0x80) (if b.toNat = 0xED then 0x9F else 0xBF) [b]
      (b.toNat - 0xE0) := by
  intro c hc hc' d hd hd'
  have hLong : 0x800 ≤ ((b.toNat - 0xE0) * 0x40 + (c.toNat - 0x80)) * 0x40 + (d.toNat - 0x80) := by
    split at hc <;> omega
  have hValid : Nat.isValidChar (((b.toNat - 0xE0) * 0x40 + (c.toNat - 0x80)) * 0x40 + (d.toNat - 0x80)) := by
    by_cases hEarly : b.toNat ≤ 0xED
    · refine Or.inl ?_
      split at hc' <;> omega
    · refine Or.inr ⟨by omega, ?_⟩
      split at hc' <;> omega
  have hc : 0x80 ≤ c.toNat := by split at hc <;> omega
  have hc' : c.toNat ≤ 0xBF := by split at hc' <;> omega
  rw [Spells, encodeChar, toNat_charOfNat hValid, if_neg (by omega), if_neg (by omega), if_pos (by omega),
    toUInt8_eq (b := b) (by omega), toUInt8_eq (b := c) (by omega), toUInt8_eq (b := d) (by omega)]
  rfl

/-- The bounds of the second byte leave out what is shorter to spell, and what is no character. -/
theorem spells_four (hLow : 0xF0 ≤ b.toNat) (hHigh : b.toNat < 0xF5) :
    Spells 3 (if b.toNat = 0xF0 then 0x90 else 0x80) (if b.toNat = 0xF4 then 0x8F else 0xBF) [b]
      (b.toNat - 0xF0) := by
  intro c hc hc' d hd hd' e he he'
  have hLong : 0x10000 ≤ (((b.toNat - 0xF0) * 0x40 + (c.toNat - 0x80)) * 0x40 + (d.toNat - 0x80)) * 0x40 +
      (e.toNat - 0x80) := by
    split at hc <;> omega
  have hValid : Nat.isValidChar ((((b.toNat - 0xF0) * 0x40 + (c.toNat - 0x80)) * 0x40 + (d.toNat - 0x80)) * 0x40 +
      (e.toNat - 0x80)) := by
    refine Or.inr ⟨by omega, ?_⟩
    split at hc' <;> omega
  have hc : 0x80 ≤ c.toNat := by split at hc <;> omega
  have hc' : c.toNat ≤ 0xBF := by split at hc' <;> omega
  rw [Spells, encodeChar, toNat_charOfNat hValid, if_neg (by omega), if_neg (by omega), if_neg (by omega),
    toUInt8_eq (b := b) (by omega), toUInt8_eq (b := c) (by omega), toUInt8_eq (b := d) (by omega),
    toUInt8_eq (b := e) (by omega)]
  rfl

theorem lead_sound (h : lead b = some p) : p.Sound ∧ p.held = [b] := by
  simp only [lead] at h
  split at h
  · cases h
  split at h
  · rename_i hNever hTwo
    obtain rfl := Option.some.inj h
    exact ⟨⟨Nat.one_ne_zero, spells_two (by omega) hTwo⟩, rfl⟩
  split at h
  · rename_i hNever hTwo hThree
    obtain rfl := Option.some.inj h
    exact ⟨⟨Nat.succ_ne_zero 1, spells_three (by omega) hThree⟩, rfl⟩
  split at h
  · rename_i hNever hTwo hThree hFour
    obtain rfl := Option.some.inj h
    exact ⟨⟨Nat.succ_ne_zero 2, spells_four (by omega) hFour⟩, rfl⟩
  · cases h

/-- Where a reader stands that has read some bytes. -/
structure Reads (bytes : List UInt8) (state : List Piece × Option Pending) : Prop where
  bytes : state.1.reverse.flatMap Piece.bytes ++ state.2.elim [] (fun p => p.held.reverse) = bytes
  sound : ∀ p ∈ state.2, p.Sound

theorem Reads.begin {bytes : List UInt8} (h : done.reverse.flatMap Piece.bytes = bytes) (b : UInt8) :
    Reads (bytes ++ [b]) (begin b done) := by
  rw [Utf8.begin]
  split_ifs with hOne
  · exact ⟨by simp [Piece.bytes, encodeChar_one hOne, h], nofun⟩
  · split
    · rename_i p hLead
      obtain ⟨hSound, hHeld⟩ := lead_sound hLead
      exact ⟨by simp [hHeld, h], fun _ hp => Option.some.inj hp ▸ hSound⟩
    · exact ⟨by simp [Piece.bytes, h], nofun⟩

/-- One byte is put behind the others, whatever it ends or begins. -/
theorem Reads.step {bytes : List UInt8} {state : List Piece × Option Pending} (h : Reads bytes state)
    (b : UInt8) : Reads (bytes ++ [b]) (step b state) := by
  obtain ⟨done, _ | p⟩ := state
  · exact .begin (by simpa using h.bytes) b
  · have hBytes : done.reverse.flatMap Piece.bytes ++ p.held.reverse = bytes := h.bytes
    obtain ⟨hOwed, hSpells⟩ := h.sound p rfl
    obtain ⟨owed, hSucc⟩ := Nat.exists_eq_succ_of_ne_zero hOwed
    rw [hSucc] at hSpells
    simp only [Utf8.step]
    split_ifs with hBounds hLast
    · obtain rfl : owed = 0 := by omega
      have hChar : encodeChar (Char.ofNat (p.code * 0x40 + (b.toNat - 0x80))) = (b :: p.held).reverse :=
        hSpells b hBounds.1 hBounds.2
      exact ⟨by simp [Piece.bytes, hChar, ← hBytes], nofun⟩
    · refine ⟨by simp [← hBytes], fun _ hp => Option.some.inj hp ▸ ⟨by dsimp only; omega, ?_⟩⟩
      rw [hSucc]
      exact hSpells b hBounds.1 hBounds.2
    · exact .begin (by simpa [Piece.bytes] using hBytes) b

theorem Reads.foldl {front : List UInt8} {state : List Piece × Option Pending} (h : Reads front state)
    (bytes : List UInt8) : Reads (front ++ bytes) (bytes.foldl (fun state b => Utf8.step b state) state) := by
  induction bytes generalizing front state with
  | nil => rwa [List.append_nil]
  | cons b bytes ih => simpa using ih (h.step b)

/-- The pieces are all that there is. -/
theorem flatMap_pieces (bytes : List UInt8) : (pieces bytes).flatMap Piece.bytes = bytes := by
  have hStart : Reads [] ([], none) := ⟨rfl, nofun⟩
  have hBytes := (hStart.foldl bytes).bytes
  rw [pieces]
  split <;> rename_i hState <;> rw [hState] at hBytes
  · simpa using hBytes
  · simpa [Piece.bytes] using hBytes

theorem join_eq_ok {index : Nat} {before cs : List Char} {ps : List Piece} (h : join index before ps = .ok cs) :
    ∃ rest, ps = rest.map .char ∧ cs = before.reverse ++ rest := by
  induction ps generalizing index before with
  | nil =>
      obtain rfl := Except.ok.inj h
      exact ⟨[], rfl, (List.append_nil _).symm⟩
  | cons q ps ih =>
      cases q with
      | char c =>
          obtain ⟨rest, rfl, rfl⟩ := ih h
          exact ⟨c :: rest, rfl, by simp⟩
      | invalid bytes => cases h
      | truncated bytes => cases h

/-- Bytes are read as a text if they are its spelling, and only then. -/
theorem decode_eq_ok_iff {bytes : List UInt8} {cs : List Char} : decode bytes = .ok cs ↔ encode cs = bytes := by
  constructor
  · intro h
    obtain ⟨rest, hPieces, rfl⟩ := join_eq_ok h
    have hBytes := flatMap_pieces bytes
    rw [hPieces, List.flatMap_map] at hBytes
    exact hBytes
  · rintro rfl
    exact decode_encode cs

theorem le_of_mem_encodeChar {c : Char} (h : 0x80 ≤ c.toNat) (hb : b ∈ encodeChar c) : 0x80 ≤ b.toNat := by
  have hValid : c.toNat < 0xD800 ∨ 0xDFFF < c.toNat ∧ c.toNat < 0x110000 := c.valid
  simp only [encodeChar] at hb
  split_ifs at hb with hOne hTwo hThree <;> simp only [List.mem_cons, List.not_mem_nil, or_false] at hb
  · omega
  · rcases hb with rfl | rfl <;> rw [toNat_toUInt8 (by omega)] <;> omega
  · rcases hb with rfl | rfl | rfl <;> rw [toNat_toUInt8 (by omega)] <;> omega
  · rcases hb with rfl | rfl | rfl | rfl <;> rw [toNat_toUInt8 (by omega)] <;> omega

/-- A byte below 0x80 stands for one character, and for nothing else. -/
theorem mem_encodeChar_iff {c : Char} (h : b.toNat < 0x80) : b ∈ encodeChar c ↔ Char.ofNat b.toNat = c := by
  constructor
  · intro hb
    have hOne : c.toNat < 0x80 := by
      by_contra hLong
      exact absurd (le_of_mem_encodeChar (Nat.not_lt.mp hLong) hb) (Nat.not_le.mpr h)
    rw [encodeChar, if_pos hOne, List.mem_singleton] at hb
    rw [hb, toNat_toUInt8 (by omega), Char.ofNat_toNat]
  · rintro rfl
    rw [encodeChar_one h]
    exact List.mem_singleton_self b

theorem mem_encode_iff {cs : List Char} (h : b.toNat < 0x80) : b ∈ encode cs ↔ Char.ofNat b.toNat ∈ cs := by
  rw [encode, List.mem_flatMap]
  simp [mem_encodeChar_iff h]

theorem encodeChar_ne_nil (c : Char) : encodeChar c ≠ [] := by
  simp only [encodeChar]
  split_ifs <;> exact List.cons_ne_nil _ _

/-- A byte below 0x80 that comes last is the last character. -/
theorem getLast?_encode_iff {cs : List Char} (h : b.toNat < 0x80) :
    (encode cs).getLast? = some b ↔ cs.getLast? = some (Char.ofNat b.toNat) := by
  rcases List.eq_nil_or_concat cs with rfl | ⟨front, c, rfl⟩
  · simp [encode]
  · have hLast : (encode (front.concat c)).getLast? = some ((encodeChar c).getLast (encodeChar_ne_nil c)) := by
      rw [List.concat_eq_append, encode, List.flatMap_append, List.flatMap_singleton,
        List.getLast?_append, List.getLast?_eq_some_getLast (encodeChar_ne_nil c), Option.some_or]
    rw [hLast, List.concat_eq_append, List.getLast?_concat, Option.some.injEq, Option.some.injEq, eq_comm (a := c),
      ← mem_encodeChar_iff h]
    constructor
    · rintro rfl
      exact List.getLast_mem _
    · intro hb
      obtain rfl := (mem_encodeChar_iff h).mp hb
      simp only [encodeChar_one h, List.getLast_singleton]

end Cabinet.Utf8
