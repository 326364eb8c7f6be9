import Cabinet.Pattern.Class
import Mathlib.Data.List.TakeWhile

/-! Reading a pattern with something behind it. A pattern is put in a group before it is read, so that the end
of the group and the anchor stand behind it. What a reader makes of the beginning of a text does not depend on
that: it finds the same, and leaves the closing behind what it leaves. -/

namespace Cabinet.Pattern

variable {α β : Type} {f : Flags} {cs cs' rest rest' : List Char} {x y : Option (α × List Char)} {a : α}
  {fuel fuel' : Nat}

/-- What stands behind a pattern when it is read: the end of the group that it is put in, and the anchor. -/
def closing : List Char := [')', '$']

/-- The rest of a text, and the rest when the closing stands behind it. A comment at the end of the text takes
the closing in. -/
def Behind (rest rest' : List Char) : Prop :=
  rest' = rest ++ closing ∨ rest = [] ∧ rest' = []

/-- What is read of a text is also read where the closing stands behind it. -/
def ReadsOn (x y : Option (α × List Char)) : Prop :=
  ∀ a rest, x = some (a, rest) → ∃ rest', y = some (a, rest') ∧ Behind rest rest'

theorem behind_append (rest : List Char) : Behind rest (rest ++ closing) := Or.inl rfl

theorem Behind.cons {c : Char} (h : Behind (c :: rest) cs') : cs' = c :: (rest ++ closing) :=
  h.resolve_right fun hNone => List.cons_ne_nil _ _ hNone.1

theorem Behind.head?_ne {c : Char} (h : Behind cs cs') (hc : c ≠ ')') (hHead : cs.head? ≠ some c) :
    cs'.head? ≠ some c := by
  rcases h with rfl | ⟨rfl, rfl⟩
  · cases cs with
    | nil => exact fun hSame => hc (Option.some.inj hSame).symm
    | cons d rest => exact hHead
  · exact hHead

/-- A text and the same with the closing behind it begin with a sign, or neither of them does. -/
theorem Behind.sign_cases {c : Char} (h : Behind cs cs') (hc : c ≠ ')') :
    (∃ rest, cs = c :: rest ∧ cs' = c :: (rest ++ closing)) ∨ cs.head? ≠ some c ∧ cs'.head? ≠ some c := by
  by_cases hHead : cs.head? = some c
  · obtain ⟨rest, rfl⟩ := List.head?_eq_some_iff.mp hHead
    exact Or.inl ⟨rest, rfl, h.cons⟩
  · exact Or.inr ⟨hHead, h.head?_ne hc hHead⟩

theorem Behind.length_le (h : Behind cs cs') : cs.length ≤ cs'.length := by
  rcases h with rfl | ⟨rfl, rfl⟩
  · simp
  · exact Nat.le_refl _

namespace ReadsOn

theorem none : ReadsOn none y := nofun

theorem some (h : Behind rest rest') : ReadsOn (some (a, rest)) (some (a, rest')) := by
  rintro b r hSome
  obtain ⟨rfl, rfl⟩ := Prod.mk.inj (Option.some.inj hSome)
  exact ⟨rest', rfl, h⟩

theorem bind {g g' : α × List Char → Option (β × List Char)} (h : ReadsOn x y)
    (hNext : ∀ a rest rest', Behind rest rest' → ReadsOn (g (a, rest)) (g' (a, rest'))) :
    ReadsOn (x >>= g) (y >>= g') := by
  intro b r hSome
  obtain ⟨⟨a, rest⟩, hx, hg⟩ := Option.bind_eq_some_iff.mp hSome
  obtain ⟨rest', rfl, hBehind⟩ := h a rest hx
  exact hNext a rest rest' hBehind b r hg

/-- What is asked on the way does not depend on the rest. -/
theorem ask {o : Option β} {g g' : β → Option (α × List Char)} (h : ∀ b, ReadsOn (g b) (g' b)) :
    ReadsOn (o >>= g) (o >>= g') := by
  cases o with
  | none => exact none
  | some b => exact h b

theorem pair (o : Option α) (h : Behind rest rest') : ReadsOn (o.map (·, rest)) (o.map (·, rest')) := by
  cases o with
  | none => exact none
  | some a => exact some h

theorem map (h : ReadsOn x y) (g : α → β) :
    ReadsOn (x.map fun r => (g r.1, r.2)) (y.map fun r => (g r.1, r.2)) := by
  intro b r hSome
  obtain ⟨⟨a, rest⟩, hx, hg⟩ := Option.map_eq_some_iff.mp hSome
  obtain ⟨rfl, rfl⟩ := Prod.mk.inj hg
  obtain ⟨rest', rfl, hBehind⟩ := h a rest hx
  exact ⟨rest', rfl, hBehind⟩

end ReadsOn

/-! ### Blanks and flags -/

theorem behind_skipBlanks (inComment : Bool) (cs : List Char) :
    Behind (skipBlanks inComment cs) (skipBlanks inComment (cs ++ closing)) := by
  induction cs generalizing inComment with
  | nil =>
      cases inComment with
      | false => exact Or.inl (by decide)
      | true => exact Or.inr (by decide)
  | cons c cs ih =>
      simp only [List.cons_append, skipBlanks]
      split_ifs
      · exact ih _
      · exact ih _
      · exact ih _
      · exact behind_append (c :: cs)

theorem Behind.skip (h : Behind cs cs') (f : Flags) : Behind (f.skip cs) (f.skip cs') := by
  rcases h with rfl | ⟨rfl, rfl⟩
  · rw [Flags.skip, Flags.skip]
    split
    · exact behind_skipBlanks false cs
    · exact behind_append cs
  · cases hBlanks : f.blanks <;> exact Or.inr (by simp [Flags.skip, hBlanks, skipBlanks])

theorem length_skipBlanks_le (inComment : Bool) (cs : List Char) :
    (skipBlanks inComment cs).length ≤ cs.length := by
  induction cs generalizing inComment with
  | nil => exact Nat.le_refl _
  | cons c cs ih =>
      simp only [skipBlanks]
      split_ifs
      · exact Nat.le_succ_of_le (ih _)
      · exact Nat.le_succ_of_le (ih _)
      · exact Nat.le_succ_of_le (ih _)
      · exact Nat.le_refl _

theorem length_skip_le (f : Flags) (cs : List Char) : (f.skip cs).length ≤ cs.length := by
  rw [Flags.skip]
  split
  · exact length_skipBlanks_le false cs
  · exact Nat.le_refl _

/-- After blanks a text is at its end, or it goes on with the same character where the closing stands behind. -/
theorem Behind.skip_cases (h : Behind cs cs') (f : Flags) :
    (f.skip cs = [] ∧ Behind [] (f.skip cs')) ∨
      ∃ c rest, rest.length < cs.length ∧ f.skip cs = c :: rest ∧ f.skip cs' = c :: (rest ++ closing) := by
  have hSkip := h.skip f
  have hLength := length_skip_le f cs
  cases hRest : f.skip cs with
  | nil => exact Or.inl ⟨rfl, hRest ▸ hSkip⟩
  | cons c rest =>
      rw [hRest] at hSkip hLength
      exact Or.inr ⟨c, rest, hLength, rfl, hSkip.cons⟩

theorem ReadsOn.goOn {g g' : List Char → Option (α × List Char)} (h : Behind cs cs')
    (hNext : ∀ c rest, rest.length < cs.length → ReadsOn (g (c :: rest)) (g' (c :: (rest ++ closing)))) :
    ReadsOn (f.goOn cs >>= g) (f.goOn cs' >>= g') := by
  rcases h.skip_cases f with ⟨hNil, -⟩ | ⟨c, rest, hLength, hRest, hRest'⟩
  · rw [Flags.goOn, hNil]
    exact ReadsOn.none
  · rw [Flags.goOn, Flags.goOn, hRest, hRest']
    exact hNext c rest hLength

theorem ReadsOn.goOn_map (h : Behind cs cs') (a : α) :
    ReadsOn ((f.goOn cs).map (a, ·)) ((f.goOn cs').map (a, ·)) := by
  rw [Option.map_eq_bind, Option.map_eq_bind]
  exact ReadsOn.goOn h fun c rest _ => ReadsOn.some (behind_append (c :: rest))

theorem readsOn_readFlags (h : Behind cs cs') (f : Flags) (seen : List Char) (on signed : Bool) :
    ReadsOn (readFlags f seen on signed cs) (readFlags f seen on signed cs') := by
  induction cs generalizing cs' f seen on signed with
  | nil => exact ReadsOn.none
  | cons c cs ih =>
      obtain rfl := h.cons
      simp only [readFlags]
      split_ifs
      · exact ReadsOn.none
      · exact ReadsOn.some (behind_append (c :: cs))
      · exact ReadsOn.none
      · exact ih (behind_append cs) _ _ _ _
      · cases f.switch on c with
        | none => exact ReadsOn.none
        | some f => exact ih (behind_append cs) f _ _ _

/-! ### Escapes -/

theorem readsOn_hexDigits (h : Behind cs cs') (value count : Nat) :
    ReadsOn (hexDigits f value count cs) (hexDigits f value count cs') := by
  induction count generalizing cs cs' value with
  | zero => exact ReadsOn.some (h.skip f)
  | succ count ih =>
      simp only [hexDigits]
      rcases h.skip_cases f with ⟨hNil, -⟩ | ⟨c, rest, -, hRest, hRest'⟩
      · rw [hNil]
        exact ReadsOn.none
      · rw [hRest, hRest']
        dsimp only
        cases Hex.value? c with
        | none => exact ReadsOn.none
        | some n => exact ih (behind_append rest) _

theorem readsOn_braced (h : Behind cs cs') (hFuel : fuel ≤ fuel') (done : List Char) :
    ReadsOn (braced f done fuel cs) (braced f done fuel' cs') := by
  induction fuel generalizing fuel' cs cs' done with
  | zero => exact ReadsOn.none
  | succ fuel ih =>
      obtain ⟨fuel', rfl⟩ := Nat.exists_eq_add_of_lt hFuel
      simp only [braced]
      rcases h.skip_cases f with ⟨hNil, -⟩ | ⟨c, rest, -, hRest, hRest'⟩
      · rw [hNil]
        exact ReadsOn.none
      · rw [hRest, hRest']
        dsimp only
        split
        · exact ReadsOn.some (behind_append rest)
        · exact ih (behind_append rest) (by omega) _

theorem readsOn_hexCode (h : Behind cs cs') (kind : Char) : ReadsOn (hexCode f kind cs) (hexCode f kind cs') := by
  refine ReadsOn.goOn h fun c rest _ => ?_
  by_cases hBrace : c = '\x7b'
  · subst hBrace
    refine (readsOn_braced (behind_append rest) (by simp) []).bind fun digits rest rest' hRest => ?_
    dsimp only
    split
    · exact ReadsOn.none
    · exact ReadsOn.ask fun n => ReadsOn.ask fun c => ReadsOn.some (hRest.skip f)
  · generalize (if kind = 'x' then 2 else if kind = 'u' then 4 else 8) = count
    split
    · rename_i hOther
      exact absurd (List.cons.inj hOther).1 hBrace
    · split
      · rename_i hOther
        exact absurd (List.cons.inj hOther).1 hBrace
      · refine (readsOn_hexDigits (behind_append (c :: rest)) _ _).bind fun n rest rest' hRest => ?_
        exact ReadsOn.ask fun c => ReadsOn.some hRest

theorem readsOn_propertyClass (h : Behind cs cs') (negated : Bool) :
    ReadsOn (propertyClass f negated cs) (propertyClass f negated cs') := by
  refine ReadsOn.goOn h fun c rest _ => ?_
  dsimp only
  split
  · exact ReadsOn.none
  · by_cases hBrace : c = '\x7b'
    · subst hBrace
      refine (readsOn_braced (behind_append rest) (by simp) []).bind fun name rest rest' hRest => ?_
      exact ReadsOn.ask fun r => ReadsOn.some hRest
    · split
      · rename_i hOther
        exact absurd (List.cons.inj hOther).1 hBrace
      · rename_i hSame
        obtain ⟨rfl, rfl⟩ := List.cons.inj hSame
        exact ReadsOn.ask fun r => ReadsOn.some ((behind_append rest).skip f)
      · rename_i hNone
        cases hNone

theorem readsOn_boundaryName (h : Behind cs cs') (hFuel : fuel ≤ fuel') (done : List Char) :
    ReadsOn (boundaryName f done fuel cs) (boundaryName f done fuel' cs') := by
  induction fuel generalizing fuel' cs cs' done with
  | zero => exact ReadsOn.none
  | succ fuel ih =>
      obtain ⟨fuel', rfl⟩ := Nat.exists_eq_add_of_lt hFuel
      simp only [boundaryName]
      rcases h.skip_cases f with ⟨hNil, -⟩ | ⟨c, rest, -, hRest, hRest'⟩
      · rw [hNil]
        exact ReadsOn.none
      · rw [hRest, hRest']
        dsimp only
        split_ifs
        · exact ih (behind_append rest) (by omega) _
        · exact ReadsOn.some (behind_append rest)
        · exact ReadsOn.none

theorem readsOn_wordBoundary (h : Behind cs cs') : ReadsOn (wordBoundary f cs) (wordBoundary f cs') := by
  rcases h with rfl | ⟨rfl, rfl⟩
  · rcases cs with _ | ⟨c, rest⟩
    · exact ReadsOn.some (behind_append [])
    · by_cases hBrace : c = '\x7b'
      · subst hBrace
        simp only [List.cons_append, wordBoundary]
        rcases (behind_append rest).skip_cases f with ⟨hNil, -⟩ | ⟨d, tail, -, hTail, hTail'⟩
        · rw [hNil]
          exact ReadsOn.none
        · rw [hTail, hTail']
          dsimp only
          split
          · refine (readsOn_boundaryName (behind_append rest) (by simp) []).bind fun name _ _ hAfter => ?_
            exact ReadsOn.ask fun b => ReadsOn.some hAfter
          · exact ReadsOn.some (behind_append ('\x7b' :: rest))
      · have hOther (rest : List Char) :
            wordBoundary f (c :: rest) = some (.boundary (.word f.unicode), c :: rest) := by
          unfold wordBoundary
          split
          · rename_i hSame
            exact absurd (List.cons.inj hSame).1 hBrace
          · rfl
        rw [List.cons_append, hOther, hOther]
        exact ReadsOn.some (behind_append (c :: rest))
  · exact ReadsOn.some (Or.inr ⟨rfl, rfl⟩)

theorem readsOn_escape (h : Behind cs cs') : ReadsOn (escape f cs) (escape f cs') := by
  cases cs with
  | nil => exact ReadsOn.none
  | cons c rest =>
      obtain rfl := h.cons
      have hRest := behind_append rest
      simp only [escape]
      split
      -- codes, properties and word boundaries read on; all other letters leave the rest as it is
      all_goals first
        | exact readsOn_hexCode hRest _
        | exact readsOn_propertyClass hRest _
        | exact readsOn_wordBoundary hRest
        | exact ReadsOn.pair _ hRest
        | exact ReadsOn.some hRest
        | split
          · exact ReadsOn.some hRest
          · exact ReadsOn.none

/-! ### Classes -/

theorem leadingHyphens_none (c : OpenClass) (fuel : Nat) (hHead : cs.head? ≠ some '-') :
    leadingHyphens f c fuel cs = some (c, cs) := by
  cases fuel with
  | zero => rfl
  | succ fuel =>
      rw [leadingHyphens]
      rintro rest rfl
      exact hHead rfl

theorem readsOn_leadingHyphens (h : Behind cs cs') (hLength : cs.length ≤ fuel) (hFuel : fuel ≤ fuel')
    (c : OpenClass) : ReadsOn (leadingHyphens f c fuel cs) (leadingHyphens f c fuel' cs') := by
  induction fuel generalizing fuel' cs cs' c with
  | zero =>
      obtain rfl := List.length_eq_zero_iff.mp (Nat.le_zero.mp hLength)
      rw [leadingHyphens_none c fuel' (h.head?_ne (by decide) nofun)]
      exact ReadsOn.some h
  | succ fuel ih =>
      obtain ⟨fuel', rfl⟩ := Nat.exists_eq_add_of_lt hFuel
      rcases h.sign_cases (by decide : '-' ≠ ')') with ⟨rest, rfl, rfl⟩ | ⟨hHead, hHead'⟩
      · refine ReadsOn.goOn (behind_append rest) fun d tail hTail => ?_
        rw [List.length_cons] at hLength
        exact ih (behind_append (d :: tail)) (by rw [List.length_cons]; omega) (by omega) _
      · rw [leadingHyphens_none c _ hHead, leadingHyphens_none c _ hHead']
        exact ReadsOn.some h

theorem readsOn_classSign (h : Behind cs cs') : ReadsOn (classSign f cs) (classSign f cs') := by
  rcases h.sign_cases (by decide : '^' ≠ ')') with ⟨rest, rfl, rfl⟩ | ⟨hHead, hHead'⟩
  · exact ReadsOn.goOn_map (behind_append rest) true
  · have hNone {cs : List Char} (hHead : cs.head? ≠ some '^') : classSign f cs = some (false, cs) := by
      rw [classSign]
      rintro rest rfl
      exact hHead rfl
    rw [hNone hHead, hNone hHead']
    exact ReadsOn.some h

theorem readsOn_openClass (h : Behind cs cs') : ReadsOn (openClass f cs) (openClass f cs') := by
  refine ReadsOn.goOn h fun c rest _ =>
    (readsOn_classSign (behind_append (c :: rest))).bind fun negated cs cs' h => ?_
  dsimp only
  rcases h.sign_cases (by decide : ']' ≠ ')') with ⟨rest, rfl, rfl⟩ | ⟨hHead, hHead'⟩
  · exact ReadsOn.goOn_map (behind_append rest) _
  · split
    · exact absurd rfl hHead
    · split
      · exact absurd rfl hHead'
      · exact readsOn_leadingHyphens h (Nat.le_refl _) h.length_le _

section

variable {p : Char → Bool} {name tail : List Char} {c : Char} (h : name.dropWhile p = c :: tail)
include h

theorem dropWhile_append_of_eq_cons (rest : List Char) :
    (name ++ rest).dropWhile p = c :: (tail ++ rest) := by
  rw [List.dropWhile_append, h]
  rfl

theorem takeWhile_append_of_eq_cons (rest : List Char) :
    (name ++ rest).takeWhile p = name.takeWhile p := by
  have hLength := congrArg List.length (List.takeWhile_append_dropWhile (p := p) (l := name))
  rw [h, List.length_append, List.length_cons] at hLength
  rw [List.takeWhile_append, if_neg (by omega)]

end

theorem asciiName_append (f : Flags) (negated : Bool) (cs : List Char) :
    asciiName f negated (cs ++ closing) = (asciiName f negated cs).map fun r => (r.1, r.2 ++ closing) := by
  rw [asciiName, asciiName]
  cases hName : cs.dropWhile (· != ':') with
  | nil =>
      rw [List.dropWhile_append_of_pos (List.dropWhile_eq_nil_iff.mp hName)]
      rfl
  | cons c tail =>
      rw [dropWhile_append_of_eq_cons hName, takeWhile_append_of_eq_cons hName]
      by_cases hEnd : c = ':' ∧ tail.head? = some ']'
      · obtain ⟨rfl, hBracket⟩ := hEnd
        obtain ⟨after, rfl⟩ := List.head?_eq_some_iff.mp hBracket
        simp only [List.cons_append, Option.map_map]
        rfl
      · split
        · rename_i after hSame
          obtain ⟨rfl, hTail⟩ := List.cons.inj hSame
          have hBracket := (behind_append tail).head?_ne (by decide) fun h => hEnd ⟨rfl, h⟩
          exact absurd (congrArg List.head? hTail) hBracket
        · split
          · rename_i after hSame
            obtain ⟨rfl, rfl⟩ := List.cons.inj hSame
            exact absurd ⟨rfl, rfl⟩ hEnd
          · rfl

theorem asciiClass_append (f : Flags) (cs : List Char) :
    asciiClass f (cs ++ closing) = (asciiClass f cs).map fun r => (r.1, r.2 ++ closing) := by
  rcases cs with _ | ⟨c, rest⟩
  · rfl
  · by_cases hColon : c = ':'
    · subst hColon
      rcases (behind_append rest).sign_cases (by decide : '^' ≠ ')') with ⟨name, rfl, -⟩ | ⟨hHead, hHead'⟩
      · exact asciiName_append f true name
      · have hName {rest : List Char} (hHead : rest.head? ≠ some '^') :
            asciiClass f (':' :: rest) = asciiName f false rest := by
          rw [asciiClass]
          rintro name rfl
          exact hHead rfl
        rw [List.cons_append, hName hHead, hName hHead']
        exact asciiName_append f false rest
    · have hNone (rest : List Char) : asciiClass f (c :: rest) = none := by
        rw [asciiClass]
        · rintro name hSame
          exact hColon (List.cons.inj hSame).1
        · rintro name hSame
          exact hColon (List.cons.inj hSame).1
      rw [List.cons_append, hNone, hNone, Option.map_none]

theorem readsOn_classItem (h : Behind cs cs') : ReadsOn (classItem f cs) (classItem f cs') := by
  cases cs with
  | nil => exact ReadsOn.none
  | cons c rest =>
      obtain rfl := h.cons
      simp only [classItem]
      split
      · exact readsOn_escape (behind_append rest)
      · exact ReadsOn.some (behind_append rest)

theorem Behind.standsAlone_eq (h : Behind cs cs') : standsAlone f cs' = standsAlone f cs := by
  rw [standsAlone, standsAlone]
  rcases h.skip_cases f with ⟨hNil, hEnd | ⟨-, hEnd⟩⟩ | ⟨c, rest, -, hRest, hRest'⟩
  · rw [hNil, hEnd]
    rfl
  · rw [hNil, hEnd]
  · rw [hRest, hRest']
    rfl

theorem readsOn_rangeFrom (h : Behind cs cs') (first : Atom) :
    ReadsOn (rangeFrom f first cs) (rangeFrom f first cs') := by
  refine ReadsOn.goOn h fun c rest _ => ?_
  refine (readsOn_classItem (behind_append (c :: rest))).bind fun last rest rest' hRest => ?_
  refine ReadsOn.ask fun low => ReadsOn.ask fun high => ?_
  split
  · exact ReadsOn.some hRest
  · exact ReadsOn.none

theorem readsOn_classRange (h : Behind cs cs') : ReadsOn (classRange f cs) (classRange f cs') := by
  refine (readsOn_classItem h).bind fun first rest rest' hRest => ReadsOn.goOn hRest fun c rest _ => ?_
  by_cases hHyphen : c = '-'
  · subst hHyphen
    simp only
    rw [(behind_append rest).standsAlone_eq]
    split
    · exact ReadsOn.pair _ (behind_append ('-' :: rest))
    · exact readsOn_rangeFrom (behind_append rest) first
  · split
    · rename_i hSame
      exact absurd (List.cons.inj hSame).1 hHyphen
    · split
      · rename_i hSame
        exact absurd (List.cons.inj hSame).1 hHyphen
      · exact ReadsOn.pair _ (behind_append (c :: rest))

theorem setOperator?_append (cs : List Char) :
    setOperator? (cs ++ closing) = (setOperator? cs).map fun r => (r.1, r.2 ++ closing) := by
  rcases cs with _ | ⟨c, _ | ⟨d, rest⟩⟩
  · rfl
  · -- a bracket behind a character makes no operator with it
    simp only [List.cons_append, List.nil_append, closing, setOperator?]
    split
    · subst c
      rfl
    · rfl
  · simp only [List.cons_append, setOperator?]
    split
    · rw [Option.map_map]
      rfl
    · rfl

theorem readsOn_classRest (h : Behind cs cs') (hFuel : fuel ≤ fuel') (c : OpenClass) (outer : List OpenClass) :
    ReadsOn (classRest f fuel c outer cs) (classRest f fuel' c outer cs') := by
  induction fuel generalizing fuel' cs cs' c outer with
  | zero => exact ReadsOn.none
  | succ fuel ih =>
      obtain ⟨fuel', rfl⟩ := Nat.exists_eq_add_of_lt hFuel
      have hNext {cs cs' : List Char} (h : Behind cs cs') (c : OpenClass) (outer : List OpenClass) :
          ReadsOn (classRest f fuel c outer cs) (classRest f (fuel + fuel') c outer cs') :=
        ih h (Nat.le_add_right _ _) c outer
      simp only [classRest]
      rcases h.skip_cases f with ⟨hNil, -⟩ | ⟨d, rest, -, hRest, hRest'⟩
      · rw [hNil]
        exact ReadsOn.none
      · have hBehind := behind_append rest
        rw [hRest, hRest']
        dsimp only
        split
        · rw [asciiClass_append]
          cases asciiClass f rest with
          | some r => exact hNext (behind_append r.2) _ _
          | none =>
              refine (readsOn_openClass hBehind).bind fun inner rest rest' h => ?_
              exact hNext h _ _
        · cases outer with
          | nil => exact ReadsOn.pair _ hBehind
          | cons parent outer => exact hNext hBehind _ _
        · rw [← List.cons_append, setOperator?_append]
          cases setOperator? (d :: rest) with
          | some r => exact hNext (behind_append r.2) _ _
          | none =>
              refine (readsOn_classRange (behind_append (d :: rest))).bind fun s rest rest' h => ?_
              exact hNext h _ _

theorem readsOn_bracketClass (h : Behind cs cs') : ReadsOn (bracketClass f cs) (bracketClass f cs') :=
  (readsOn_openClass h).bind fun _ _ _ hRest =>
    readsOn_classRest hRest (Nat.add_le_add_right hRest.length_le 1) _ _

end Cabinet.Pattern
