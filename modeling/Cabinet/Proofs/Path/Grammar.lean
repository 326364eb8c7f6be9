import Cabinet.Path.Parser
import Cabinet.Proofs.Text.Blank
import Cabinet.Proofs.Text.Integer

/-! The grammar of path expressions, said apart from the reader, and the reader measured by it. Each
rule is a relation between a text and what the text denotes. The reader takes a piece off the front
of a text and leaves the rest, so a piece that a rule derives is read in front of anything that does
not go on with it, and a piece that is read has a derivation. -/

namespace Cabinet.Path

namespace Grammar

/-- A name: a run of characters without points and opening brackets, all digits or an identifier. -/
structure Name (cs : List Char) : Prop where
  nonempty : cs ≠ []
  run : ∀ c ∈ cs, c ≠ '.' ∧ c ≠ '['
  plain : (∀ c ∈ cs, isDigit c) ∨
    ∃ c ds, cs = c :: ds ∧ (Identifier.isStart c ∨ c = '_') ∧ ∀ d ∈ ds, Identifier.isContinue d

/-- The text between two quotes, and the name that it spells: a backslash makes the character behind
it stand for itself. -/
inductive Quoted (mark : Char) : List Char → List Char → Prop where
  | done : Quoted mark [] []
  | plain {c : Char} {cs name : List Char} (hMark : c ≠ mark) (hSlash : c ≠ '\\')
      (h : Quoted mark cs name) : Quoted mark (c :: cs) (c :: name)
  | escaped {c : Char} {cs name : List Char} (h : Quoted mark cs name) :
      Quoted mark ('\\' :: c :: cs) (c :: name)

/-- An index: digits, with or without a minus sign, whose value fits 64 bits. -/
inductive Index : List Char → Int → Prop where
  | positive {cs : List Char} {n : Nat} (hs : Spells cs n) (hn : n < Nat.pow 2 63) : Index cs n
  | negative {cs : List Char} {n : Nat} (hs : Spells cs n) (hn : n ≤ Nat.pow 2 63) :
      Index ('-' :: cs) (-n)

/-- A name or a star. -/
inductive Dotted : List Char → Segment → Prop where
  | wildcard : Dotted ['*'] .wildcard
  | name {cs : List Char} (h : Name cs) : Dotted cs (.field (String.ofList cs))

/-- A star, a quoted name or an index in brackets. -/
inductive Bracketed : List Char → Segment → Prop where
  | wildcard : Bracketed ['[', '*', ']'] .wildcard
  | quoted {mark : Char} {cs name : List Char} (hMark : mark = '\'' ∨ mark = '"')
      (h : Quoted mark cs name) :
      Bracketed ('[' :: mark :: cs ++ [mark, ']']) (.field (String.ofList name))
  | index {cs : List Char} {n : Int} (h : Index cs n) : Bracketed ('[' :: cs ++ [']']) (.index n)

/-- One segment behind the beginning of a path. -/
inductive Rest : List Char → Segment → Prop where
  | child {cs : List Char} {s : Segment} (h : Dotted cs s) : Rest ('.' :: cs) s
  | bracket {cs : List Char} {s : Segment} (h : Bracketed cs s) : Rest cs s
  | below {cs : List Char} {s : Segment} (h : Dotted cs s) : Rest ('.' :: '.' :: cs) (.descendant s)
  | belowBracket {cs : List Char} {s : Segment} (h : Bracketed cs s) :
      Rest ('.' :: '.' :: cs) (.descendant s)

/-- Any number of such segments, one behind the other. -/
inductive Rests : List Char → Path → Prop where
  | done : Rests [] []
  | more {cs ds : List Char} {s : Segment} {p : Path} (hHead : Rest cs s) (hTail : Rests ds p) :
      Rests (cs ++ ds) (s :: p)

/-- A whole expression. It begins with the mark of the root, with a name or a star of its own, or
right away with the segments. -/
inductive Expression : List Char → Path → Prop where
  | root {cs : List Char} {p : Path} (h : Rests cs p) : Expression ('$' :: cs) p
  | bare {cs : List Char} {p : Path} (h : Rests cs p) : Expression cs p
  | first {cs ds : List Char} {s : Segment} {p : Path}
      (hStart : ∀ c ∈ cs.head?, c ≠ '$' ∧ c ≠ '.' ∧ c ≠ '[') (hFirst : Dotted cs s)
      (hRests : Rests ds p) : Expression (cs ++ ds) (s :: p)

theorem name_iff {cs : List Char} : Name cs ↔ (∀ c ∈ cs, inName c) ∧ isPlainName cs := by
  have hRun : (∀ c ∈ cs, inName c) ↔ ∀ c ∈ cs, c ≠ '.' ∧ c ≠ '[' := by simp [inName]
  have hPlain : isPlainName cs ↔ cs ≠ [] ∧ ((∀ c ∈ cs, isDigit c) ∨
      ∃ c ds, cs = c :: ds ∧ (Identifier.isStart c ∨ c = '_') ∧
        ∀ d ∈ ds, Identifier.isContinue d) := by
    cases cs <;> simp [isPlainName, isIdentifier]
  rw [hRun, hPlain]
  exact ⟨fun h => ⟨h.run, h.nonempty, h.plain⟩, fun ⟨hRun, hNonempty, hPlain⟩ =>
    ⟨hNonempty, hRun, hPlain⟩⟩

end Grammar

open Grammar

/-- Nothing that would go on with a name comes next. -/
def Ends (rest : List Char) : Prop :=
  ∀ c ∈ rest.head?, inName c = false

variable {cs rest : List Char} {s : Segment} {p : Path}

theorem dotted_of_derives (h : Dotted cs s) (hRest : Ends rest) :
    dotted (cs ++ rest) = .ok (s, rest) := by
  cases h with
  | wildcard => rfl
  | name h =>
      obtain ⟨hRun, hPlain⟩ := name_iff.mp h
      have hSplit : rest.takeWhile inName = [] ∧ rest.dropWhile inName = rest := by
        cases rest with
        | nil => exact ⟨rfl, rfl⟩
        | cons r rest => simp [hRest r rfl]
      have hTake : (cs ++ rest).takeWhile inName = cs := by
        rw [List.takeWhile_append_of_pos hRun, hSplit.1, List.append_nil]
      have hDrop : (cs ++ rest).dropWhile inName = rest := by
        rw [List.dropWhile_append_of_pos hRun, hSplit.2]
      have hSome : cs.isEmpty = false := by simpa using h.nonempty
      unfold dotted
      split
      · rename_i hStar
        cases cs with
        | nil => exact absurd rfl h.nonempty
        | cons c cs =>
            obtain rfl : c = '*' := (List.cons.inj hStar).1
            have hFirst : isDigit '*' = false ∧ Identifier.isStart '*' = false := by decide
            simp [isPlainName, isIdentifier, hFirst] at hPlain
      · simp only [hTake, hDrop, hSome, hPlain, Bool.false_eq_true, if_false, if_true]

theorem exists_dotted (h : dotted cs = .ok (s, rest)) :
    ∃ text, cs = text ++ rest ∧ Dotted text s := by
  unfold dotted at h
  split at h
  · cases h
    exact ⟨['*'], rfl, .wildcard⟩
  · dsimp only at h
    split at h
    · cases h
    · split at h
      · rename_i hPlain
        cases h
        exact ⟨_, List.takeWhile_append_dropWhile.symm,
          .name (name_iff.mpr ⟨fun _ => List.mem_takeWhile_imp, hPlain⟩)⟩
      · cases h

theorem quoted_of_derives {mark : Char} (hMark : mark ≠ '\\') {name : List Char}
    (h : Quoted mark cs name) (done rest : List Char) :
    quoted mark done (cs ++ mark :: rest) = .ok (done.reverse ++ name, rest) := by
  induction h generalizing done with
  | done => simp [quoted.eq_def mark done, hMark]
  | @plain c cs name hc hSlash h ih =>
      rw [List.cons_append, quoted.eq_def]
      simpa [hc, hSlash] using ih (c :: done)
  | @escaped c cs name h ih =>
      rw [List.cons_append, List.cons_append, quoted.eq_def]
      simpa using ih (c :: done)

theorem exists_quoted {mark : Char} {done name : List Char}
    (h : quoted mark done cs = .ok (name, rest)) :
    ∃ text spelt, cs = text ++ mark :: rest ∧ name = done.reverse ++ spelt ∧
      Quoted mark text spelt := by
  fun_induction quoted mark done cs with
  | case1 => cases h
  | case2 => cases h
  | case3 done e cs ih =>
      obtain ⟨text, spelt, rfl, rfl, hText⟩ := ih h
      exact ⟨'\\' :: e :: text, e :: spelt, rfl, by simp, .escaped hText⟩
  | case4 done cs hSlash =>
      cases h
      exact ⟨[], [], rfl, by simp, .done⟩
  | case5 done c cs hSlash hMark ih =>
      obtain ⟨text, spelt, rfl, rfl, hText⟩ := ih h
      exact ⟨c :: text, c :: spelt, rfl, by simp, .plain hMark hSlash hText⟩

/-- Digits end where something else begins. -/
theorem index_append {c : Char} {ds : List Char} (hDigits : ∀ d ∈ ds, isDigit d)
    (hRest : ∀ d ∈ rest.head?, isDigit d = false) {n : Int}
    (hRead : Width.int64.read (c :: ds) = .ok n) : index (c :: ds ++ rest) = .ok (n, rest) := by
  have hSplit : rest.takeWhile isDigit = [] ∧ rest.dropWhile isDigit = rest := by
    cases rest with
    | nil => exact ⟨rfl, rfl⟩
    | cons r rest => simp [hRest r rfl]
  simp only [index, List.cons_append, List.take_succ_cons, List.take_zero, List.drop_succ_cons,
    List.drop_zero, List.nil_append, List.takeWhile_append_of_pos hDigits,
    List.dropWhile_append_of_pos hDigits, hSplit, List.append_nil, hRead]

/-- An index begins with a minus sign or a digit, has digits behind it, and is read as its value. -/
theorem Grammar.Index.read_eq_ok {n : Int} (h : Index cs n) :
    Width.int64.read cs = .ok n ∧
      ∃ c ds, cs = c :: ds ∧ (c = '-' ∨ isDigit c) ∧ ∀ d ∈ ds, isDigit d := by
  cases h with
  | positive hs hn =>
      obtain ⟨hNonempty, hDigits, rfl⟩ := spells_iff.mp hs
      refine ⟨(Width.read_eq_ok_iff hs.splitSign_eq).mpr
        ⟨⟨hNonempty, hDigits, by decide⟩, rfl, ?_, ?_⟩, ?_⟩
      · rw [Width.int64_low]
        omega
      · rw [Width.int64_high]
        omega
      · obtain ⟨c, ds, rfl⟩ := List.exists_cons_of_ne_nil hNonempty
        exact ⟨c, ds, rfl, Or.inr (hDigits c (List.mem_cons_self ..)),
          fun d hd => hDigits d (List.mem_cons_of_mem _ hd)⟩
  | negative hs hn =>
      obtain ⟨hNonempty, hDigits, rfl⟩ := spells_iff.mp hs
      have hSigned : Width.int64.low ≠ 0 := by decide
      refine ⟨(Width.read_eq_ok_iff (splitSign_minus _)).mpr
        ⟨⟨hNonempty, hDigits, fun h => hSigned h.2⟩, rfl, ?_, ?_⟩, '-', _, rfl, Or.inl rfl, hDigits⟩
      · rw [Width.int64_low]
        omega
      · have hPos : 0 < Nat.pow 2 63 := by decide
        rw [Width.int64_high]
        omega

theorem exists_index {c : Char} {n : Int} (hFirst : c = '-' ∨ isDigit c)
    (h : index (c :: cs) = .ok (n, rest)) : ∃ text, c :: cs = text ++ rest ∧ Index text n := by
  have hDigits : ∀ d ∈ cs.takeWhile isDigit, isDigit d := fun _ => List.mem_takeWhile_imp
  refine ⟨c :: cs.takeWhile isDigit, ?_, ?_⟩ <;>
    simp only [index, List.take_succ_cons, List.take_zero, List.drop_succ_cons, List.drop_zero,
      List.cons_append, List.nil_append] at h <;> split at h <;> cases h
  · rw [List.cons_append, List.takeWhile_append_dropWhile]
  · rename_i hRead
    by_cases hc : isDigit c
    · have hs : Spells (c :: cs.takeWhile isDigit) _ :=
        spells_iff.mpr ⟨List.cons_ne_nil _ _, List.forall_mem_cons.mpr ⟨hc, hDigits⟩, rfl⟩
      obtain ⟨-, rfl, -, hHigh⟩ := (Width.read_eq_ok_iff hs.splitSign_eq).mp hRead
      simp only [Width.int64_high, Bool.false_eq_true, if_false] at hHigh
      exact .positive hs (by omega)
    · obtain rfl : c = '-' := hFirst.resolve_right hc
      obtain ⟨⟨hSome, -⟩, rfl, hLow, -⟩ := (Width.read_eq_ok_iff (splitSign_minus _)).mp hRead
      simp only [Width.int64_low, if_true] at hLow
      have hs : Spells (cs.takeWhile isDigit) _ := spells_iff.mpr ⟨hSome, hDigits, rfl⟩
      exact .negative hs (by omega)

/-- What stands in brackets is read up to the closing one, whatever follows. -/
theorem bracketed_of_derives (h : Bracketed cs s) (rest : List Char) :
    ∃ inner, cs = '[' :: inner ∧ bracketed (inner ++ rest) = .ok (s, rest) := by
  cases h with
  | wildcard => exact ⟨_, rfl, rfl⟩
  | @quoted mark cs name hMark h =>
      refine ⟨mark :: cs ++ [mark, ']'], rfl, ?_⟩
      have hSlash : mark ≠ '\\' := by rintro rfl; revert hMark; decide
      have hStar : mark ≠ '*' := by rintro rfl; revert hMark; decide
      have hText : mark :: cs ++ [mark, ']'] ++ rest = mark :: (cs ++ mark :: (']' :: rest)) := by
        simp
      have hSelector : selector (mark :: (cs ++ mark :: (']' :: rest))) =
          .ok (.field (String.ofList name), ']' :: rest) := by
        rw [selector, if_neg hStar, if_pos hMark, quoted_of_derives hSlash h]
        rfl
      rw [hText, bracketed, hSelector]
      rfl
  | @index cs n h =>
      refine ⟨cs ++ [']'], rfl, ?_⟩
      obtain ⟨hRead, c, ds, rfl, hFirst, hDigits⟩ := h.read_eq_ok
      have hStar : c ≠ '*' := by rintro rfl; revert hFirst; decide
      have hQuote : ¬(c = '\'' ∨ c = '"') := by
        rintro (rfl | rfl) <;> revert hFirst <;> decide
      have hClose : ∀ d ∈ (']' :: rest).head?, isDigit d = false := by
        intro d hd
        cases hd
        decide
      have hSelector : selector (c :: (ds ++ ']' :: rest)) = .ok (.index n, ']' :: rest) := by
        rw [selector, if_neg hStar, if_neg hQuote, if_pos hFirst, ← List.cons_append,
          index_append hDigits hClose hRead]
        rfl
      rw [List.append_assoc, List.singleton_append, List.cons_append, bracketed, hSelector]
      rfl

theorem exists_selector {cs rest : List Char} {s : Segment} (h : selector cs = .ok (s, rest)) :
    ∃ text, cs = text ++ rest ∧ Bracketed ('[' :: text ++ [']']) s := by
  cases cs with
  | nil => cases h
  | cons c cs =>
      rw [selector] at h
      split at h
      · rename_i hStar
        cases h
        exact ⟨['*'], by rw [hStar]; rfl, .wildcard⟩
      · split at h
        · rename_i hMark
          cases hRead : quoted c [] cs with
          | error f => simp [hRead, Except.map] at h
          | ok r =>
              obtain ⟨name, after⟩ := r
              simp only [hRead, Except.map, Except.ok.injEq, Prod.mk.injEq] at h
              obtain ⟨rfl, rfl⟩ := h
              obtain ⟨text, spelt, rfl, rfl, hText⟩ := exists_quoted hRead
              exact ⟨c :: (text ++ [c]), by simp, by simpa using Bracketed.quoted hMark hText⟩
        · split at h
          · rename_i hFirst
            cases hRead : index (c :: cs) with
            | error f => simp [hRead, Except.map] at h
            | ok r =>
                obtain ⟨n, after⟩ := r
                simp only [hRead, Except.map, Except.ok.injEq, Prod.mk.injEq] at h
                obtain ⟨rfl, rfl⟩ := h
                obtain ⟨text, hText, hIndex⟩ := exists_index hFirst hRead
                exact ⟨text, hText, .index hIndex⟩
          · cases h

theorem exists_bracketed (h : bracketed cs = .ok (s, rest)) :
    ∃ text, '[' :: cs = text ++ rest ∧ Bracketed text s := by
  rw [bracketed] at h
  split at h
  · cases h
  · rename_i t after hSelector
    obtain ⟨text, rfl, hText⟩ := exists_selector hSelector
    split at h
    · cases h
    · split at h
      · rename_i hClose
        cases h
        exact ⟨'[' :: text ++ [']'], by simp [hClose], hText⟩
      · cases h

theorem Grammar.Dotted.exists_cons (h : Dotted cs s) :
    ∃ c ds, cs = c :: ds ∧ c ≠ '.' ∧ c ≠ '[' := by
  cases h with
  | wildcard => exact ⟨'*', [], rfl, by decide⟩
  | name h =>
      obtain ⟨c, ds, rfl⟩ := List.exists_cons_of_ne_nil h.nonempty
      exact ⟨c, ds, rfl, h.run c (List.mem_cons_self ..)⟩

/-- A segment begins with a point or a bracket, and is read in front of another one. -/
theorem segment_of_derives (h : Rest cs s) (hRest : Ends rest) :
    segment (cs ++ rest) = .ok (s, rest) ∧ ∃ c ds, cs = c :: ds ∧ inName c = false := by
  cases h with
  | child h =>
      have hRead := dotted_of_derives h hRest
      obtain ⟨c, ds, rfl, hPoint, -⟩ := h.exists_cons
      refine ⟨?_, '.', _, rfl, by decide⟩
      rw [← hRead]
      simp [segment, hPoint]
  | bracket h =>
      obtain ⟨inner, rfl, hRead⟩ := bracketed_of_derives h rest
      exact ⟨hRead, '[', inner, rfl, by decide⟩
  | below h =>
      have hRead := dotted_of_derives h hRest
      obtain ⟨c, ds, rfl, -, hBracket⟩ := h.exists_cons
      refine ⟨?_, '.', _, rfl, by decide⟩
      rw [List.cons_append] at hRead
      simp [segment, hBracket, hRead, Except.map]
  | belowBracket h =>
      obtain ⟨inner, rfl, hRead⟩ := bracketed_of_derives h rest
      exact ⟨by simp [segment, hRead, Except.map], '.', _, rfl, by decide⟩

theorem exists_segment (h : segment cs = .ok (s, rest)) :
    ∃ text, cs = text ++ rest ∧ Rest text s := by
  unfold segment at h
  split at h
  · rename_i cs
    cases hRead : bracketed cs with
    | error f => simp [hRead, Except.map] at h
    | ok r =>
        simp only [hRead, Except.map, Except.ok.injEq, Prod.mk.injEq] at h
        obtain ⟨rfl, rfl⟩ := h
        obtain ⟨text, hText, hBracketed⟩ := exists_bracketed hRead
        exact ⟨'.' :: '.' :: text, by simp [hText], .belowBracket hBracketed⟩
  · rename_i cs _
    cases hRead : dotted cs with
    | error f => simp [hRead, Except.map] at h
    | ok r =>
        simp only [hRead, Except.map, Except.ok.injEq, Prod.mk.injEq] at h
        obtain ⟨rfl, rfl⟩ := h
        obtain ⟨text, rfl, hDotted⟩ := exists_dotted hRead
        exact ⟨'.' :: '.' :: text, rfl, .below hDotted⟩
  · obtain ⟨text, rfl, hDotted⟩ := exists_dotted h
    exact ⟨'.' :: text, rfl, .child hDotted⟩
  · obtain ⟨text, hText, hBracketed⟩ := exists_bracketed h
    exact ⟨text, hText, .bracket hBracketed⟩
  · cases h
  · cases h

/-- Segments are read to the end of the text, each in front of the beginning of the next. -/
theorem segments_of_derives (h : Rests cs p) {fuel : Nat} (hFuel : cs.length ≤ fuel) :
    segments fuel cs = .ok p ∧ Ends cs := by
  induction h generalizing fuel with
  | done => cases fuel <;> exact ⟨rfl, by simp [Ends]⟩
  | @more cs ds s p hHead hTail ih =>
      obtain ⟨-, hEnds⟩ := ih (Nat.le_refl ds.length)
      obtain ⟨hRead, c, ds', rfl, hc⟩ := segment_of_derives hHead hEnds
      cases fuel with
      | zero => simp at hFuel
      | succ fuel =>
          have hEnough : ds.length ≤ fuel := by
            simp only [List.length_append, List.length_cons] at hFuel
            omega
          rw [List.cons_append] at hRead ⊢
          refine ⟨?_, by simpa [Ends] using hc⟩
          rw [segments, hRead]
          · simp only [(ih hEnough).1, Except.map]
          · exact List.cons_ne_nil c _

theorem rests_of_segments {fuel : Nat} (h : segments fuel cs = .ok p) : Rests cs p := by
  fun_induction segments fuel cs generalizing p with
  | case1 =>
      cases h
      exact .done
  | case2 => cases h
  | case3 => cases h
  | case4 fuel cs hSome s rest hRead ih =>
      cases hRests : segments fuel rest with
      | error f => simp [hRests, Except.map] at h
      | ok q =>
          simp only [hRests, Except.map, Except.ok.injEq] at h
          subst p
          obtain ⟨text, rfl, hHead⟩ := exists_segment hRead
          exact .more hHead (ih hRests)

/-- An expression without blanks around it is read as what the grammar derives for it. -/
theorem expression_eq_ok_iff : expression cs = .ok p ↔ Expression cs p := by
  constructor
  · intro h
    unfold expression at h
    split at h
    · cases h
      exact .bare .done
    · rename_i c cs
      split at h
      · rename_i hRoot
        rw [hRoot]
        exact .root (rests_of_segments h)
      · rename_i hRoot
        split at h
        · rename_i hName
          cases hRead : dotted (c :: cs) with
          | error f => simp [hRead] at h
          | ok r =>
              obtain ⟨s, rest⟩ := r
              simp only [hRead] at h
              cases hRests : segments rest.length rest with
              | error f => simp [hRests, Except.map] at h
              | ok q =>
                  simp only [hRests, Except.map, Except.ok.injEq] at h
                  subst p
                  obtain ⟨text, hText, hDotted⟩ := exists_dotted hRead
                  obtain ⟨d, ds, rfl, hPoint, hBracket⟩ := hDotted.exists_cons
                  obtain ⟨rfl, -⟩ := List.cons.inj hText
                  rw [hText]
                  exact .first (by simpa using ⟨hRoot, hPoint, hBracket⟩) hDotted
                    (rests_of_segments hRests)
        · exact .bare (rests_of_segments h)
  · intro h
    cases h with
    | root h => exact (segments_of_derives h (Nat.le_refl _)).1
    | bare h =>
        obtain ⟨hRead, hEnds⟩ := segments_of_derives h (Nat.le_refl _)
        cases cs with
        | nil =>
            rw [← hRead]
            rfl
        | cons c cs =>
            have hName : inName c = false := hEnds c rfl
            have hRoot : c ≠ '$' := by rintro rfl; revert hName; decide
            rw [expression, if_neg hRoot, if_neg (by simp [hName]), hRead]
    | @first cs ds s p hStart hFirst hRests =>
        obtain ⟨hRead, hEnds⟩ := segments_of_derives hRests (Nat.le_refl _)
        have hHead := dotted_of_derives hFirst hEnds
        obtain ⟨c, cs, rfl, -⟩ := hFirst.exists_cons
        obtain ⟨hRoot, hPoint, hBracket⟩ := hStart c rfl
        rw [List.cons_append] at hHead ⊢
        rw [expression, if_neg hRoot, if_pos (by simp [inName, hPoint, hBracket]), hHead]
        simp only [hRead, Except.map]

/-- A path is read from a text exactly when the grammar derives it from the text without the blanks
around it, and it is the path that the derivation denotes. -/
theorem parse_eq_ok_iff (text : String) (p : Path) :
    parse text = .ok p ↔ ∃ t, IsTrimmed text.toList t ∧ Expression t p := by
  simp only [isTrimmed_iff, exists_eq_left', ← expression_eq_ok_iff]
  rw [parse]
  cases expression (trim text.toList) <;> simp [Except.mapError]

end Cabinet.Path
