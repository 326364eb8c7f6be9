import Cabinet.Proofs.Properties.Escape
import Cabinet.Proofs.Text.Blank
import Cabinet.Proofs.Text.Integer

/-! What is written for names and values. Backslashes stand before characters that mean something and
before the letters for breaks, so that a written text has no line break in it and is read as what it
was written for. Of the blanks only the space, the tab and the line breaks are hidden in this way. -/

namespace Cabinet.Properties

variable {bare : Char → Prop} {c : Char} {cs : List Char}

/-- What is put behind backslashes. -/
def Marked (c : Char) : Prop :=
  isStructural c ∨ c = 'n' ∨ c = 'r' ∨ c = 't'

/-- A character that is written as it is, where it means nothing. -/
def Inline (c : Char) : Prop :=
  c ≠ '\n' ∧ c ≠ '\r' ∧ c ≠ '\t'

/-- A character that a key shows without a backslash. -/
def Shown (c : Char) : Prop :=
  isStructural c = false ∧ Inline c

theorem marked_structural (h : isStructural c) : Marked c := Or.inl h

theorem ne_backslash_of_not_structural (h : ¬isStructural c) : c ≠ '\\' := by
  rintro rfl
  exact h (by decide)

theorem inline_structural (h : isStructural c) : Inline c := by
  refine ⟨?_, ?_, ?_⟩ <;> (rintro rfl; revert h; decide)

theorem inline_marked (h : Marked c) : Inline c := by
  rcases h with h | rfl | rfl | rfl
  · exact inline_structural h
  · exact ⟨by decide, by decide, by decide⟩
  · exact ⟨by decide, by decide, by decide⟩
  · exact ⟨by decide, by decide, by decide⟩

/-- A character is written as a letter behind a backslash, or as it is. -/
theorem spelled_escapeBreak (hSlash : c ≠ '\\') (h : Inline c → bare c) :
    Spelled Marked bare (escapeBreak c) := by
  unfold escapeBreak
  split_ifs with hFeed hReturn hTab
  · exact .escaped (by simp [Marked]) .nil
  · exact .escaped (by simp [Marked]) .nil
  · exact .escaped (by simp [Marked]) .nil
  · exact .plain hSlash (h ⟨hFeed, hReturn, hTab⟩) .nil

/-! ### Names -/

theorem spelled_escapeKey (h : ∀ c ∈ cs, Shown c → bare c) : Spelled Marked bare (escapeKey cs) := by
  refine Spelled.flatMap fun c hc => ?_
  split
  · rename_i hStructural
    exact .escaped (marked_structural hStructural) .nil
  · rename_i hPlain
    refine spelled_escapeBreak (ne_backslash_of_not_structural hPlain) fun hInline => ?_
    exact h c hc ⟨Bool.not_eq_true _ ▸ hPlain, hInline⟩

theorem unescape_escapeKey (cs : List Char) : unescape (escapeKey cs) = cs := by
  refine unescape_flatMap fun c _ => ?_
  split
  · rename_i hStructural
    exact standsFor_structural hStructural
  · rename_i hPlain
    exact standsFor_escapeBreak (ne_backslash_of_not_structural hPlain)

theorem escapeKey_ne_nil (h : cs ≠ []) : escapeKey cs ≠ [] := by
  intro hEmpty
  have hText := unescape_escapeKey cs
  rw [hEmpty] at hText
  exact h hText.symm

/-- Does a test let the digits, points and brackets of a key pass? -/
def InSpelling (bare : Char → Prop) : Prop :=
  (∀ c, isDigit c → bare c) ∧ ∀ c ∈ ['.', '[', ']'], bare c

theorem ne_backslash_of_isDigit (h : isDigit c) : c ≠ '\\' := by
  rintro rfl
  revert h
  decide

theorem spelled_digits {behind : Char → Prop} (h : ∀ c, isDigit c → bare c)
    (hDigits : ∀ c ∈ cs, isDigit c) : Spelled behind bare cs := by
  induction cs with
  | nil => exact .nil
  | cons c cs ih =>
      obtain ⟨hc, hRest⟩ := List.forall_mem_cons.mp hDigits
      exact .plain (ne_backslash_of_isDigit hc) (h c hc) (ih hRest)

/-- A key is whole pairs and characters that pass a test, if its names and its structure do. -/
theorem spelled_spell {key : Key} (hSpelling : InSpelling bare)
    (h : ∀ name, Part.field name ∈ key → ∀ c ∈ name.toList, Shown c → bare c) (dotted : Bool) :
    Spelled Marked bare (spell dotted key) := by
  obtain ⟨hDigits, hMarks⟩ := hSpelling
  induction key generalizing dotted with
  | nil => exact .nil
  | cons p key ih =>
      have hRest : Spelled Marked bare (spell true key) :=
        ih (fun name hName => h name (List.mem_cons_of_mem _ hName)) true
      cases p with
      | field name =>
          have hName : Spelled Marked bare (escapeKey name.toList) :=
            spelled_escapeKey (h name (List.mem_cons_self ..))
          have hPoint : Spelled Marked bare (if dotted then ['.'] else []) := by
            split
            · exact .plain (by decide) (hMarks '.' (by decide)) .nil
            · exact .nil
          exact (hPoint.append hName).append hRest
      | index n =>
          have hNatural : Spelled Marked bare (Decimal.natural n) :=
            spelled_digits hDigits fun _ => isDigit_of_mem_natural
          have hClose : Spelled Marked bare (']' :: spell true key) :=
            .plain (by decide) (hMarks ']' (by decide)) hRest
          exact .plain (by decide) (hMarks '[' (by decide)) (hNatural.append hClose)

/-! ### Values -/

theorem standsFor_escapeInside (c : Char) : StandsFor (escapeValue.escapeInside c) c := by
  unfold escapeValue.escapeInside
  split
  · rename_i hSlash
    exact hSlash ▸ standsFor_structural (c := '\\') (by decide)
  · rename_i hSlash
    exact standsFor_escapeBreak hSlash

theorem spelled_escapeInside (c : Char) : Spelled Marked Inline (escapeValue.escapeInside c) := by
  unfold escapeValue.escapeInside
  split
  · exact .escaped (marked_structural (by decide)) .nil
  · rename_i hSlash
    exact spelled_escapeBreak hSlash id

/-- A value is written character by character, after a backslash if it begins with a space. -/
theorem escapeValue_cases (cs : List Char) :
    (∃ rest, cs = ' ' :: rest ∧
      escapeValue cs = '\\' :: ' ' :: rest.flatMap escapeValue.escapeInside) ∨
    cs.head? ≠ some ' ' ∧ escapeValue cs = cs.flatMap escapeValue.escapeInside := by
  unfold escapeValue
  split
  · exact Or.inl ⟨_, rfl, rfl⟩
  · rename_i hBlank
    refine Or.inr ⟨fun hHead => ?_, rfl⟩
    obtain ⟨rest, rfl⟩ := List.head?_eq_some_iff.mp hHead
    exact hBlank rest rfl

theorem spelled_escapeValue (cs : List Char) : Spelled Marked Inline (escapeValue cs) := by
  have hInside (rest : List Char) : Spelled Marked Inline (rest.flatMap escapeValue.escapeInside) :=
    Spelled.flatMap fun c _ => spelled_escapeInside c
  rcases escapeValue_cases cs with ⟨rest, -, hText⟩ | ⟨-, hText⟩
  · exact hText ▸ .escaped (marked_structural (by decide)) (hInside rest)
  · exact hText ▸ hInside cs

theorem unescape_escapeValue (cs : List Char) : unescape (escapeValue cs) = cs := by
  have hInside (rest : List Char) : unescape (rest.flatMap escapeValue.escapeInside) = rest :=
    unescape_flatMap fun c _ => standsFor_escapeInside c
  rcases escapeValue_cases cs with ⟨rest, rfl, hText⟩ | ⟨-, hText⟩
  · have hFirst : StandsFor ['\\', ' '] ' ' := standsFor_structural (by decide)
    exact hText ▸ (hFirst _).trans (congrArg (' ' :: ·) (hInside rest))
  · rw [hText, hInside]

/-- A value of characters that mean nothing is written as it is. -/
theorem escapeValue_eq_self (h : ∀ c ∈ cs, c ≠ '\\' ∧ c ≠ ' ' ∧ Inline c) : escapeValue cs = cs := by
  have hInside : ∀ c ∈ cs, escapeValue.escapeInside c = [c] := by
    intro c hc
    obtain ⟨hSlash, -, hFeed, hReturn, hTab⟩ := h c hc
    rw [escapeValue.escapeInside, if_neg hSlash, escapeBreak, if_neg hFeed, if_neg hReturn,
      if_neg hTab]
  rcases escapeValue_cases cs with ⟨rest, rfl, -⟩ | ⟨-, hText⟩
  · exact absurd rfl (h ' ' (List.mem_cons_self ..)).2.1
  · rw [hText, List.flatMap_congr hInside, List.flatMap_singleton']

/-! ### Blanks -/

/-- A blank that is written without a backslash, so that the reader takes it for an end or drops it. -/
def isBareBlank (c : Char) : Bool :=
  isBlank c && !([' ', '\n', '\r', '\t'].contains c)

theorem isBareBlank_of_not_blank (h : isBlank c = false) : isBareBlank c = false := by
  rw [isBareBlank, h, Bool.false_and]

theorem isBlank_of_not_bare (h : isBareBlank c = false) (hSpace : c ≠ ' ') (hInline : Inline c) :
    isBlank c = false := by
  obtain ⟨hFeed, hReturn, hTab⟩ := hInline
  simpa [isBareBlank, hSpace, hFeed, hReturn, hTab] using h

/-- Nothing is trimmed off a value, unless it begins with a bare blank. -/
theorem trimStart_escapeValue (h : ∀ c ∈ cs.head?, isBareBlank c = false) :
    trimStart (escapeValue cs) = escapeValue cs := by
  refine trimStart_eq_self fun c hc => ?_
  obtain ⟨rest, hText⟩ := List.head?_eq_some_iff.mp hc
  by_cases hSlash : c = '\\'
  · subst c
    decide
  have hChars : cs = c :: unescape rest := by
    rw [← unescape_escapeValue cs, hText, unescape_plain hSlash]
  have hSpace : c ≠ ' ' := by
    rintro rfl
    rw [hChars, escapeValue] at hText
    exact absurd (List.cons.inj hText).1 (by decide)
  have hInline : Inline c := by
    cases hText ▸ spelled_escapeValue cs with
    | escaped => exact absurd rfl hSlash
    | plain _ hBare _ => exact hBare
  exact isBlank_of_not_bare (h c (by rw [hChars]; rfl)) hSpace hInline

/-- What stands behind a written backslash is never read as a bare blank. -/
theorem exists_standsFor (h : Marked c) : ∃ d, StandsFor ['\\', c] d ∧ isBareBlank d = false := by
  rcases h with h | rfl | rfl | rfl
  · refine ⟨c, standsFor_structural h, ?_⟩
    have hAll : ['=', ':', ' ', '#', '!', '\\', '.', '[', ']'].all fun c => !isBareBlank c := by
      decide
    simpa using List.all_eq_true.mp hAll c (List.contains_iff_mem.mp h)
  · exact ⟨'\n', fun rest => unescape_escaped 'n' rest, by decide⟩
  · exact ⟨'\r', fun rest => unescape_escaped 'r' rest, by decide⟩
  · exact ⟨'\t', fun rest => unescape_escaped 't' rest, by decide⟩

/-- A bare blank is read only where one stands. -/
theorem isBareBlank_of_mem_unescape (h : Spelled Marked bare cs)
    (hBare : ∀ c, bare c → isBareBlank c = false) : ∀ c ∈ unescape cs, isBareBlank c = false := by
  induction h with
  | nil => exact List.forall_mem_nil _
  | escaped hBehind _ ih =>
      obtain ⟨d, hStands, hd⟩ := exists_standsFor hBehind
      exact hStands _ ▸ List.forall_mem_cons.mpr ⟨hd, ih⟩
  | plain hSlash hc _ ih =>
      rw [unescape_plain hSlash]
      exact List.forall_mem_cons.mpr ⟨hBare _ hc, ih⟩

/-- What is read begins with a bare blank only if the text begins with a blank. -/
theorem isBareBlank_of_head?_unescape (h : Spelled Marked bare cs)
    (hHead : ∀ c ∈ cs.head?, isBlank c = false) :
    ∀ c ∈ (unescape cs).head?, isBareBlank c = false := by
  cases h with
  | nil => exact fun c hc => absurd hc (by simp [unescape, unescapeWithin])
  | escaped hBehind _ =>
      obtain ⟨d, hStands, hd⟩ := exists_standsFor hBehind
      intro c hc
      obtain rfl := Option.some.inj ((congrArg List.head? (hStands _)).symm.trans hc)
      exact hd
  | plain hSlash _ _ =>
      rw [unescape_plain hSlash]
      rintro c ⟨⟩
      exact isBareBlank_of_not_blank (hHead _ rfl)

end Cabinet.Properties
