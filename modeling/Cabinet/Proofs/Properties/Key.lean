import Cabinet.Proofs.Properties.Writing

/-! The keys of properties text. Every key that is read leads to a name that is not empty, and a key
that begins with a name is read back as it was spelled, whatever its names hold. -/

namespace Cabinet.Properties

variable {behind bare : Char → Prop} {Fine : Part → Prop} {c : Char} {cs name rest : List Char}
  {done parts key : Key} {fuel n : Nat} {indexed : Bool}

/-! ### One turn of the reader -/

theorem parseRest_nil : parseRest (fuel + 1) done name indexed [] =
    endField done name.reverse indexed := rfl

theorem parseRest_escaped : parseRest (fuel + 1) done name indexed ('\\' :: c :: rest) =
    if indexed then none else parseRest fuel done (c :: '\\' :: name) indexed rest := rfl

theorem parseRest_point : parseRest (fuel + 1) done name indexed ('.' :: rest) =
    (endField done name.reverse indexed).bind fun parts => parseRest fuel parts [] false rest := by
  cases hEnd : endField done name.reverse indexed with
  | none => simp [parseRest, hEnd]
  | some parts => simp [parseRest, hEnd]

/-- A bracket ends a name as if an index had come before it. -/
theorem parseRest_bracket (hStart : ¬(name = [] ∧ done = []))
    (hEnd : endField done name.reverse true = some parts) :
    parseRest (fuel + 1) done name indexed ('[' :: rest) =
      (bracketed? rest).bind fun r => parseRest fuel (parts ++ [.index r.1]) [] true r.2 := by
  have hParts : (if name = [] then done
      else done ++ [.field (String.ofList (unescape name.reverse))]) = parts := by
    refine Option.some.inj (Eq.trans ?_ hEnd)
    rw [endField]
    by_cases hName : name = []
    · simp [hName]
    · simp [hName]
  cases hIndex : bracketed? rest with
  | none => simp [parseRest, hIndex]
  | some r => simp [parseRest, hStart, hParts, hIndex]

/-- A character that is part of a name. -/
def InName (c : Char) : Prop :=
  c ≠ '.' ∧ c ≠ '[' ∧ c ≠ ']'

theorem parseRest_plain (hSlash : c ≠ '\\') (hc : InName c) :
    parseRest (fuel + 1) done name indexed (c :: rest) =
      if indexed then none else parseRest fuel done (c :: name) indexed rest := by
  rw [parseRest.eq_def]
  dsimp only
  rw [if_neg hSlash, if_neg hc.1, if_neg hc.2.1, if_neg hc.2.2]

/-! ### Keys that are read -/

/-- What a reader makes of the pieces of a text: indexes, and names for texts of whole pairs that are
not empty. -/
structure Makes (behind bare : Char → Prop) (Fine : Part → Prop) : Prop where
  index (n : Nat) : Fine (.index n)
  field {name : List Char} (h : Spelled behind bare name) (hNonempty : name ≠ []) :
    Fine (.field (String.ofList (unescape name)))

theorem fine_endField (hMakes : Makes behind bare Fine) (hDone : ∀ p ∈ done, Fine p)
    (hName : Spelled behind bare name) (hStart : name = [] → indexed = true → done ≠ [])
    (h : endField done name indexed = some key) : key ≠ [] ∧ ∀ p ∈ key, Fine p := by
  rw [endField] at h
  split at h
  · rename_i hEmpty
    split at h
    · rename_i hIndex
      obtain rfl := Option.some.inj h
      exact ⟨hStart (List.isEmpty_iff.mp hEmpty) hIndex, hDone⟩
    · exact absurd h (by simp)
  · rename_i hNonempty
    obtain rfl := Option.some.inj h
    refine ⟨by simp, List.forall_mem_append.mpr ⟨hDone, List.forall_mem_singleton.mpr ?_⟩⟩
    exact hMakes.field hName (by simpa using hNonempty)

/-- An index ends at its bracket, so that no pair is torn. -/
theorem spelled_of_bracketed? (h : Spelled behind bare cs)
    (hIndex : bracketed? cs = some (n, rest)) : Spelled behind bare rest := by
  have hDrop : Spelled behind bare (cs.dropWhile isDigit) := by
    clear hIndex
    induction cs with
    | nil => exact .nil
    | cons c cs ih =>
        by_cases hc : isDigit c
        · rw [List.dropWhile_cons_of_pos hc]
          exact ih (h.of_cons (ne_backslash_of_isDigit hc))
        · rwa [List.dropWhile_cons_of_neg hc]
  unfold bracketed? at hIndex
  split at hIndex
  · rename_i tail hText
    obtain ⟨_, -, hPair⟩ := Option.map_eq_some_iff.mp hIndex
    obtain rfl : tail = rest := (Prod.mk.inj hPair).2
    rw [hText] at hDrop
    exact hDrop.of_cons (by decide)
  · exact absurd hIndex (by simp)

/-- The parts read so far stay fine, and the name being read holds whole pairs. -/
theorem fine_parseRest (hMakes : Makes behind bare Fine) (hDone : ∀ p ∈ done, Fine p)
    (hName : Spelled behind bare name.reverse) (hStart : indexed = true → done ≠ [])
    (hRest : Spelled behind bare rest) (h : parseRest fuel done name indexed rest = some key) :
    key ≠ [] ∧ ∀ p ∈ key, Fine p := by
  induction fuel generalizing done name indexed rest with
  | zero => exact absurd h (by simp [parseRest])
  | succ fuel ih =>
      cases hRest with
      | nil => exact fine_endField hMakes hDone hName (fun _ => hStart) (parseRest_nil ▸ h)
      | @escaped e cs hBehind hRest =>
          rw [parseRest_escaped] at h
          split at h
          · exact absurd h (by simp)
          · refine ih hDone ?_ hStart hRest h
            simpa using hName.append (.escaped hBehind .nil)
      | @plain c cs hSlash hBare hRest =>
          rcases eq_or_ne c '.' with rfl | hPoint
          · obtain ⟨parts, hEnd, h⟩ := Option.bind_eq_some_iff.mp (parseRest_point ▸ h)
            have hParts := fine_endField hMakes hDone hName (fun _ => hStart) hEnd
            exact ih hParts.2 .nil (by simp) hRest h
          rcases eq_or_ne c '[' with rfl | hOpen
          · by_cases hEmpty : name = [] ∧ done = []
            · obtain ⟨rfl, rfl⟩ := hEmpty
              exact absurd h (by simp [parseRest])
            obtain ⟨parts, hEnd⟩ : ∃ parts, endField done name.reverse true = some parts := by
              rw [endField]
              split <;> exact ⟨_, rfl⟩
            rw [parseRest_bracket hEmpty hEnd] at h
            obtain ⟨⟨n, cs⟩, hIndex, h⟩ := Option.bind_eq_some_iff.mp h
            have hParts := fine_endField hMakes hDone hName
              (fun hName _ hDone => hEmpty ⟨List.reverse_eq_nil_iff.mp hName, hDone⟩) hEnd
            have hMore : ∀ p ∈ parts ++ [Part.index n], Fine p := List.forall_mem_append.mpr
              ⟨hParts.2, List.forall_mem_singleton.mpr (hMakes.index n)⟩
            exact ih hMore .nil (by simp) (spelled_of_bracketed? hRest hIndex) h
          rcases eq_or_ne c ']' with rfl | hClose
          · exact absurd h (by simp [parseRest])
          · rw [parseRest_plain hSlash ⟨hPoint, hOpen, hClose⟩] at h
            split at h
            · exact absurd h (by simp)
            · refine ih hDone ?_ hStart hRest h
              simpa using hName.append (.plain hSlash hBare .nil)

/-- A key that is read from whole pairs leads somewhere, by parts that are made from them. -/
theorem fine_of_parse? (hMakes : Makes behind bare Fine) (hText : Spelled behind bare cs)
    (h : parse? cs = some key) : key ≠ [] ∧ ∀ p ∈ key, Fine p :=
  fine_parseRest hMakes (List.forall_mem_nil _) .nil (by simp) hText h

/-- An index, or a field whose name is not empty. -/
def Part.Named : Part → Prop
  | .field name => name ≠ ""
  | .index _ => True

/-- No pair is read as nothing. -/
theorem makes_named : Makes behind bare Part.Named where
  index _ := trivial
  field h hNonempty := by simpa [Part.Named] using h.unescape_ne_nil hNonempty

/-! ### Keys that are spelled -/

/-- The reader takes a name pair by pair, and still has turns for what follows. -/
theorem parseRest_spelled (done : Key) (name : List Char) (h : Spelled behind InName cs)
    (hFuel : (cs ++ rest).length < fuel) :
    ∃ left, rest.length < left ∧ parseRest fuel done name false (cs ++ rest) =
      parseRest left done (cs.reverse ++ name) false rest := by
  induction h generalizing fuel name with
  | nil => exact ⟨fuel, hFuel, rfl⟩
  | @escaped c cs _ _ ih =>
      obtain ⟨fuel, rfl⟩ := Nat.exists_eq_add_one_of_ne_zero (Nat.ne_zero_of_lt hFuel)
      have hFewer : (cs ++ rest).length < fuel := by
        simp only [List.cons_append, List.length_cons] at hFuel
        omega
      obtain ⟨left, hLeft, hText⟩ := ih (c :: '\\' :: name) hFewer
      refine ⟨left, hLeft, ?_⟩
      rw [List.cons_append, List.cons_append, parseRest_escaped, if_neg Bool.false_ne_true, hText]
      simp
  | @plain c cs hSlash hBare _ ih =>
      obtain ⟨fuel, rfl⟩ := Nat.exists_eq_add_one_of_ne_zero (Nat.ne_zero_of_lt hFuel)
      obtain ⟨left, hLeft, hText⟩ := ih (c :: name) (Nat.lt_of_succ_lt_succ hFuel)
      refine ⟨left, hLeft, ?_⟩
      rw [List.cons_append, parseRest_plain hSlash hBare, if_neg Bool.false_ne_true, hText]
      simp

/-- An index that fits in a word is read back. -/
theorem bracketed?_natural (h : n < Nat.pow 2 64) :
    bracketed? (Decimal.natural n ++ ']' :: rest) = some (n, rest) := by
  have hDigits : ∀ c ∈ Decimal.natural n, isDigit c := fun _ => isDigit_of_mem_natural
  have hRead : Width.word64.read? (Decimal.natural n) = some (n : Int) := by
    refine Width.read?_eq_some_iff.mpr (Width.read_integer (n := n) ?_ ?_)
    · exact Int.natCast_nonneg n
    · have hHigh : Width.word64.high = Nat.pow 2 64 - 1 := rfl
      omega
  rw [bracketed?, List.takeWhile_append_of_pos hDigits, List.dropWhile_append_of_pos hDigits,
    List.takeWhile_cons_of_neg (by decide), List.dropWhile_cons_of_neg (by decide), List.append_nil]
  simp [hRead]

theorem inName_of_shown (h : Shown c) : InName c := by
  refine ⟨?_, ?_, ?_⟩ <;> (rintro rfl; exact absurd h.1 (by decide))

/-- A name that has been taken is the last part, once it ends. -/
theorem endField_escapeKey {name : String} (hName : name ≠ "") :
    endField done (escapeKey name.toList) indexed = some (done ++ [.field name]) := by
  have hNonempty : escapeKey name.toList ≠ [] := escapeKey_ne_nil (by simpa using hName)
  rw [endField, if_neg (by simpa using hNonempty), unescape_escapeKey, String.ofList_toList]

/-- A name that may end may also end at a bracket. -/
theorem endField_bracket (h : endField done name indexed = some parts) :
    endField done name true = some parts := by
  cases indexed with
  | true => exact h
  | false =>
      rw [endField] at h ⊢
      by_cases hName : name.isEmpty
      · simp [hName] at h
      · rwa [if_neg hName] at h ⊢

/-- A part that can be spelled: a field with a name, or an index of at most a word. -/
def Part.Spellable : Part → Prop
  | .field name => name ≠ ""
  | .index n => n < Nat.pow 2 64

/-- Whatever part came last, the parts that follow are read behind it. -/
theorem parseRest_spell (hFuel : (spell true key).length < fuel) (hParts : parts ≠ [])
    (hEnd : endField done name.reverse indexed = some parts) (hKey : ∀ p ∈ key, p.Spellable) :
    parseRest fuel done name indexed (spell true key) = some (parts ++ key) := by
  induction key generalizing fuel done name indexed parts with
  | nil =>
      obtain ⟨fuel, rfl⟩ := Nat.exists_eq_add_one_of_ne_zero (Nat.ne_zero_of_lt hFuel)
      rw [spell, parseRest_nil, hEnd, List.append_nil]
  | cons p key ih =>
      obtain ⟨hPart, hRest⟩ := List.forall_mem_cons.mp hKey
      obtain ⟨fuel, rfl⟩ := Nat.exists_eq_add_one_of_ne_zero (Nat.ne_zero_of_lt hFuel)
      cases p with
      | field name =>
          have hText : spell true (.field name :: key) =
              '.' :: (escapeKey name.toList ++ spell true key) := rfl
          rw [hText, List.length_cons] at hFuel
          obtain ⟨left, hLeft, hTaken⟩ := parseRest_spelled parts []
            (spelled_escapeKey fun c _ => inName_of_shown) (Nat.lt_of_succ_lt_succ hFuel)
          have hField : endField parts (escapeKey name.toList).reverse.reverse false =
              some (parts ++ [.field name]) := by
            rw [List.reverse_reverse]
            exact endField_escapeKey hPart
          rw [hText, parseRest_point, hEnd, Option.bind_some, hTaken, List.append_nil,
            ih hLeft (by simp) hField hRest, List.append_assoc, List.singleton_append]
      | index n =>
          have hText : spell true (.index n :: key) =
              '[' :: (Decimal.natural n ++ ']' :: spell true key) := rfl
          have hStart : ¬(name = [] ∧ done = []) := by
            rintro ⟨rfl, rfl⟩
            cases indexed
            · exact absurd hEnd (by simp [endField])
            · exact hParts (Option.some.inj hEnd).symm
          have hIndex : endField (parts ++ [.index n]) [] true = some (parts ++ [.index n]) := rfl
          rw [hText] at hFuel ⊢
          simp only [List.length_cons, List.length_append] at hFuel
          rw [parseRest_bracket hStart (endField_bracket hEnd), bracketed?_natural hPart,
            Option.bind_some, ih (by omega) (by simp) hIndex hRest, List.append_assoc,
            List.singleton_append]

/-- A key that begins with a name is read back as it was spelled. -/
theorem parse?_spell {name : String} (hKey : ∀ p ∈ Part.field name :: key, p.Spellable) :
    parse? (spell false (.field name :: key)) = some (.field name :: key) := by
  obtain ⟨hFirst, hRest⟩ := List.forall_mem_cons.mp hKey
  have hText : spell false (.field name :: key) = escapeKey name.toList ++ spell true key := rfl
  have hField : endField [] (escapeKey name.toList).reverse.reverse false = some [.field name] := by
    rw [List.reverse_reverse]
    exact endField_escapeKey hFirst
  rw [hText, parse?]
  have hName : Spelled Marked InName (escapeKey name.toList) :=
    spelled_escapeKey fun c _ => inName_of_shown
  obtain ⟨left, hLeft, hTaken⟩ := parseRest_spelled [] [] hName (Nat.lt_succ_self _)
  rw [hTaken, List.append_nil, parseRest_spell hLeft (by simp) hField hRest, List.singleton_append]

end Cabinet.Properties
