import Cabinet.Pattern.Parser
import Cabinet.Proofs.Pattern.Matching
import Cabinet.Proofs.Pattern.Prolonging

/-! The anchors of a pattern. A pattern is read between `^(?:` and `)$`. Where its text is a regular expression by
itself, that is what stands between the anchors, and the pattern accepts the texts that the expression matches in
full. A text that closes the group in its middle is none, and where it ends in a comment the anchored text is
none. -/

namespace Cabinet.Pattern

variable {α β : Type} {f : Flags} {cs cs' rest rest' : List Char} {x y : Option (α × List Char)}
  {fuel fuel' : Nat}

/-! ### Groups and repetitions -/

theorem groupName_append (cs : List Char) :
    groupName (cs ++ closing) = (groupName cs).map fun r => (r.1, r.2 ++ closing) := by
  rw [groupName, groupName]
  cases hName : cs.dropWhile (· != '>') with
  | nil =>
      rw [List.dropWhile_append_of_pos (List.dropWhile_eq_nil_iff.mp hName)]
      rfl
  | cons d tail =>
      rw [dropWhile_append_of_eq_cons hName, takeWhile_append_of_eq_cons hName]
      cases cs.takeWhile (· != '>') with
      | nil => rfl
      | cons c name =>
          dsimp only
          split <;> rfl

theorem nameSign?_append (cs : List Char) : nameSign? (cs ++ closing) = (nameSign? cs).map (· ++ closing) := by
  rcases cs with _ | ⟨c, rest⟩
  · rfl
  · by_cases hName : c = '<'
    · subst hName
      rfl
    · by_cases hSign : c = 'P'
      · subst hSign
        rcases rest with _ | ⟨d, rest⟩
        · rfl
        · by_cases hName : d = '<'
          · subst hName
            rfl
          · simp [nameSign?, hName]
      · simp [nameSign?, hName, hSign]

theorem readsOn_markedOpening (h : Behind cs cs') : ReadsOn (markedOpening f cs) (markedOpening f cs') := by
  rcases h with rfl | ⟨rfl, rfl⟩
  · rw [markedOpening, markedOpening, nameSign?_append]
    cases nameSign? cs with
    | some rest =>
        simp only [Option.map_some, groupName_append]
        cases groupName rest with
        | none => exact ReadsOn.none
        | some r => exact ReadsOn.some (behind_append r.2)
    | none =>
        refine (readsOn_readFlags (behind_append cs) f [] true false).bind fun r rest rest' h => ?_
        obtain ⟨inside, bare⟩ := r
        dsimp only
        split
        · rw [h.cons]
          exact ReadsOn.some (behind_append _)
        · rw [h.cons]
          split
          · exact ReadsOn.none
          · exact ReadsOn.some (behind_append _)
        · exact ReadsOn.none
  · exact ReadsOn.none

theorem readsOn_opening (h : Behind cs cs') : ReadsOn (opening f cs) (opening f cs') := by
  have hSkip := h.skip f
  rw [opening, opening]
  rcases hSkip.sign_cases (by decide : '?' ≠ ')') with ⟨rest, hRest, hRest'⟩ | ⟨hHead, hHead'⟩
  · rw [hRest, hRest']
    exact readsOn_markedOpening (behind_append rest)
  · split
    · rename_i hRest
      exact absurd (congrArg List.head? hRest) hHead
    · split
      · rename_i hRest
        exact absurd (congrArg List.head? hRest) hHead'
      · exact ReadsOn.some hSkip

theorem Behind.dropWhile_isBlank (h : Behind cs cs') : Behind (cs.dropWhile isBlank) (cs'.dropWhile isBlank) := by
  rcases h with rfl | ⟨rfl, rfl⟩
  · rw [List.dropWhile_append]
    split
    · rename_i hEmpty
      rw [List.isEmpty_iff.mp hEmpty]
      exact Or.inl (by decide)
    · exact behind_append _
  · exact Or.inr ⟨rfl, rfl⟩

theorem digitRun_behind (h : Behind [] cs) (done : List Char) (fuel : Nat) :
    count.digitRun f done fuel cs = (done.reverse, cs) := by
  cases fuel with
  | zero => rfl
  | succ fuel => rcases h with rfl | ⟨-, rfl⟩ <;> rfl

theorem readsOn_digitRun (h : Behind cs cs') (hLength : cs.length ≤ fuel) (hFuel : fuel ≤ fuel') (done : List Char) :
    ReadsOn (some (count.digitRun f done fuel cs)) (some (count.digitRun f done fuel' cs')) := by
  induction fuel generalizing fuel' cs cs' done with
  | zero =>
      obtain rfl := List.length_eq_zero_iff.mp (Nat.le_zero.mp hLength)
      rw [digitRun_behind h]
      exact ReadsOn.some h
  | succ fuel ih =>
      obtain ⟨fuel', rfl⟩ := Nat.exists_eq_add_of_lt hFuel
      cases cs with
      | nil =>
          rw [digitRun_behind h]
          exact ReadsOn.some h
      | cons c rest =>
          simp only [h.cons, count.digitRun]
          split
          · have hSkip := length_skip_le f rest
            rw [List.length_cons] at hLength
            exact ih ((behind_append rest).skip f) (by omega) (by omega) _
          · exact ReadsOn.some (behind_append (c :: rest))

theorem blankRun_behind (h : Behind [] cs) (fuel : Nat) : count.blankRun f fuel cs = cs := by
  cases fuel with
  | zero => rfl
  | succ fuel => rcases h with rfl | ⟨-, rfl⟩ <;> rfl

theorem behind_blankRun (h : Behind cs cs') (hLength : cs.length ≤ fuel) (hFuel : fuel ≤ fuel') :
    Behind (count.blankRun f fuel cs) (count.blankRun f fuel' cs') := by
  induction fuel generalizing fuel' cs cs' with
  | zero =>
      obtain rfl := List.length_eq_zero_iff.mp (Nat.le_zero.mp hLength)
      rw [blankRun_behind h]
      exact h
  | succ fuel ih =>
      obtain ⟨fuel', rfl⟩ := Nat.exists_eq_add_of_lt hFuel
      cases cs with
      | nil =>
          rw [blankRun_behind h]
          exact h
      | cons c rest =>
          simp only [h.cons, count.blankRun]
          split
          · have hSkip := length_skip_le f rest
            rw [List.length_cons] at hLength
            exact ih ((behind_append rest).skip f) (by omega) (by omega)
          · exact behind_append (c :: rest)

theorem readsOn_count (h : Behind cs cs') : ReadsOn (count f cs) (count f cs') := by
  have hRead := readsOn_digitRun (f := f) h.dropWhile_isBlank
    (Nat.le_succ_of_le (List.dropWhile_suffix isBlank).length_le) (Nat.add_le_add_right h.length_le 1) []
  simp only [count]
  generalize count.digitRun f [] (cs.length + 1) (cs.dropWhile isBlank) = digits at hRead ⊢
  generalize count.digitRun f [] (cs'.length + 1) (cs'.dropWhile isBlank) = digits' at hRead ⊢
  obtain ⟨rest', hSame, hRest⟩ := hRead digits.1 digits.2 rfl
  obtain rfl := Option.some.inj hSame
  dsimp only
  split
  · exact ReadsOn.none
  · exact ReadsOn.some (behind_blankRun hRest (Nat.le_succ _) (Nat.add_le_add_right hRest.length_le 1))

theorem readsOn_mostBound (h : Behind cs cs') : ReadsOn (mostBound f cs) (mostBound f cs') := by
  refine ReadsOn.goOn h fun c rest _ => ?_
  by_cases hBrace : c = '\x7d'
  · subst hBrace
    exact ReadsOn.some (behind_append rest)
  · split
    · rename_i hSame
      exact absurd (List.cons.inj hSame).1 hBrace
    · split
      · rename_i hSame
        exact absurd (List.cons.inj hSame).1 hBrace
      · refine (readsOn_count (behind_append (c :: rest))).bind fun most rest rest' h => ?_
        dsimp only
        split
        · rw [h.cons]
          exact ReadsOn.some (behind_append _)
        · exact ReadsOn.none

theorem readsOn_bounds (h : Behind cs cs') : ReadsOn (bounds f cs) (bounds f cs') := by
  refine ReadsOn.goOn h fun c rest _ => ?_
  refine (readsOn_count (behind_append (c :: rest))).bind fun least rest rest' h => ?_
  dsimp only
  split
  · rw [h.cons]
    exact ReadsOn.some (behind_append _)
  · rw [h.cons]
    refine (readsOn_mostBound (behind_append _)).bind fun most rest rest' h => ?_
    dsimp only
    split
    · exact ReadsOn.some h
    · exact ReadsOn.none
  · exact ReadsOn.none

theorem Behind.dropLazy (h : Behind cs cs') : Behind (dropLazy cs) (dropLazy cs') := by
  rcases h.sign_cases (by decide : '?' ≠ ')') with ⟨rest, rfl, rfl⟩ | ⟨hHead, hHead'⟩
  · exact behind_append rest
  · have hKeeps {cs : List Char} (hHead : cs.head? ≠ some '?') : Pattern.dropLazy cs = cs := by
      rw [Pattern.dropLazy]
      rintro rest rfl
      exact hHead rfl
    rw [hKeeps hHead, hKeeps hHead']
    exact h

theorem readsOn_part (h : Behind cs cs') : ReadsOn (part f cs) (part f cs') := by
  cases cs with
  | nil => exact ReadsOn.none
  | cons c rest =>
      obtain rfl := h.cons
      have hRest := behind_append rest
      simp only [part]
      split
      · exact (readsOn_bracketClass hRest).map _
      · exact ReadsOn.pair _ hRest
      · exact ReadsOn.some hRest
      · exact ReadsOn.some hRest
      · exact (readsOn_escape hRest).bind fun a rest rest' h => ReadsOn.pair _ h
      · exact ReadsOn.pair _ hRest

/-! ### Anchors -/

/-- The outermost of the open groups was opened under the flags that a pattern begins with. -/
def Outermost : OpenGroup → List OpenGroup → Prop
  | g, [] => g.outside = .initial
  | _, parent :: outer => Outermost parent outer

/-- What is read of a pattern becomes a part of the group that it is put in, where it can be read there at all,
and the anchor comes after it. -/
def Enclosed (group : OpenGroup) (x y : Option Regex) : Prop :=
  ∀ r, x = some r → y = none ∨ y = some ((group.add (some r)).add (some (.boundary .textEnd))).close

namespace Enclosed

variable {group : OpenGroup} {v : Option Regex}

theorem none : Enclosed group none v := nofun

theorem bind {g g' : α × List Char → Option Regex} (h : ReadsOn x y)
    (hNext : ∀ a rest rest', Behind rest rest' → Enclosed group (g (a, rest)) (g' (a, rest'))) :
    Enclosed group (x >>= g) (y >>= g') := by
  intro r hSome
  obtain ⟨⟨a, rest⟩, hx, hg⟩ := Option.bind_eq_some_iff.mp hSome
  obtain ⟨rest', rfl, hBehind⟩ := h a rest hx
  exact hNext a rest rest' hBehind r hg

theorem ask {o : Option β} {g g' : β → Option Regex} (h : ∀ b, o = some b → Enclosed group (g b) (g' b)) :
    Enclosed group (o >>= g) (o >>= g') := by
  cases o with
  | none => exact none
  | some b => exact h b rfl

end Enclosed

variable {names : List (List Char)} {g group : OpenGroup} {outer : List OpenGroup}

theorem Outermost.of_outside {g' : OpenGroup} (h : Outermost g outer) (hSame : g'.outside = g.outside) :
    Outermost g' outer := by
  cases outer with
  | nil => exact hSame.trans h
  | cons parent outer => exact h

theorem outside_repeatLast {g' : OpenGroup} {least : Nat} {most : Option Nat}
    (h : g.repeatLast least most = some g') : g'.outside = g.outside := by
  rw [OpenGroup.repeatLast] at h
  split at h
  · cases h
    rfl
  · cases h

theorem regexRest_closing (hSkip : f.skip cs = closing) (hOutside : g.outside = .initial) :
    regexRest names f (fuel + 3) g [group] cs =
      some ((group.add (some g.close)).add (some (.boundary .textEnd))).close := by
  rw [regexRest, hSkip]
  simp only [closing, hOutside]
  rfl

theorem regexRest_enclosed (h : Behind cs cs') (hFuel : fuel + 2 ≤ fuel') (hOuter : Outermost g outer) :
    Enclosed group (regexRest names f fuel g outer cs) (regexRest names f fuel' g (outer ++ [group]) cs') := by
  induction fuel generalizing fuel' cs cs' names f g outer with
  | zero => exact Enclosed.none
  | succ fuel ih =>
      obtain ⟨left, rfl⟩ : ∃ left, fuel' = left + 1 := ⟨fuel' - 1, by omega⟩
      have hNext {names : List (List Char)} {f : Flags} {g : OpenGroup} {outer : List OpenGroup}
          {cs cs' : List Char} (h : Behind cs cs') (hOuter : Outermost g outer) :
          Enclosed group (regexRest names f fuel g outer cs)
            (regexRest names f left g (outer ++ [group]) cs') :=
        ih h (by omega) hOuter
      have hAgain {cs cs' : List Char} (h : Behind cs cs') (least : Nat) (most : Option Nat) :
          Enclosed group (g.repeatLast least most >>= fun g => regexRest names f fuel g outer (dropLazy cs))
            (g.repeatLast least most >>= fun g => regexRest names f left g (outer ++ [group]) (dropLazy cs')) :=
        Enclosed.ask fun g' hRepeat => hNext h.dropLazy (hOuter.of_outside (outside_repeatLast hRepeat))
      simp only [regexRest]
      rcases h.skip_cases f with ⟨hNil, hEnd⟩ | ⟨c, rest, -, hRest, hRest'⟩
      · rw [hNil]
        cases outer with
        | nil =>
            rintro r hSome
            obtain rfl : g.close = r := Option.some.inj hSome
            rcases hEnd with hEnd | ⟨-, hEnd⟩
            · obtain ⟨last, rfl⟩ : ∃ last, left = last + 2 := ⟨left - 2, by omega⟩
              exact Or.inr (regexRest_closing hEnd hOuter)
            · rw [hEnd]
              exact Or.inl rfl
        | cons parent outer => exact Enclosed.none
      · have hBehind := behind_append rest
        rw [hRest, hRest']
        dsimp only
        split
        · refine Enclosed.bind (readsOn_opening hBehind) fun o rest rest' h => ?_
          cases o with
          | change inside => exact hNext h (hOuter.of_outside rfl)
          | group inside name =>
              cases name with
              | none => exact hNext h hOuter
              | some name =>
                  dsimp only
                  split
                  · exact Enclosed.none
                  · exact hNext h hOuter
        · cases outer with
          | nil => exact Enclosed.none
          | cons parent outer => exact hNext hBehind (Outermost.of_outside hOuter rfl)
        · exact hNext hBehind (hOuter.of_outside rfl)
        · exact hAgain hBehind _ _
        · exact hAgain hBehind _ _
        · exact hAgain hBehind _ _
        · refine Enclosed.bind (readsOn_bounds hBehind) fun b rest rest' h => ?_
          exact hAgain (h.skip f) _ _
        · refine Enclosed.bind (readsOn_part (behind_append (c :: rest))) fun r rest rest' h => ?_
          exact hNext h (hOuter.of_outside rfl)

/-- The group that is open when the text of a pattern begins. -/
def opened : OpenGroup := ⟨.initial, [], [some (.boundary .textStart)]⟩

theorem regex?_anchored_eq (cs : List Char) : regex? ("^(?:".toList ++ cs ++ ")$".toList) =
    regexRest [] .initial (cs.length + 5) ⟨.initial, [], []⟩ [opened] (cs ++ closing) := by
  have hText : "^(?:".toList ++ cs ++ ")$".toList = '^' :: '(' :: '?' :: ':' :: (cs ++ closing) := by
    simp [closing]
  have hFuel : ('^' :: '(' :: '?' :: ':' :: (cs ++ closing)).length + 1 = cs.length + 5 + 2 := by
    simp [closing]
  rw [regex?, hText, hFuel]
  rfl

/-- What is a regular expression by itself is what stands between the anchors, where they can be read. -/
theorem eq_anchored {r r' : Regex} (hRead : regex? cs = some r)
    (hAnchored : regex? ("^(?:".toList ++ cs ++ ")$".toList) = some r') : r' = r.anchored := by
  have hEnclosed : Enclosed opened (regex? cs)
      (regexRest [] .initial (cs.length + 5) ⟨.initial, [], []⟩ [opened] (cs ++ closing)) :=
    regexRest_enclosed (behind_append cs) (by omega) rfl
  rw [regex?_anchored_eq] at hAnchored
  rcases hEnclosed r hRead with hNone | hSome
  · cases hNone.symm.trans hAnchored
  · exact Option.some.inj (hAnchored.symm.trans hSome)

/-- A pattern whose text is a regular expression by itself accepts the texts that the expression matches in
full. -/
theorem accepts_iff {source text : String} {r : Regex} {p : Pattern} (hRead : regex? source.toList = some r)
    (hParsed : parse? source = some p) :
    p.accepts text = true ↔ r.Matches text.toList.toArray 0 text.length := by
  obtain ⟨r', hAnchored, hWeight⟩ := Option.bind_eq_some_iff.mp hParsed
  obtain rfl := eq_anchored hRead hAnchored
  obtain ⟨-, hSome⟩ := Option.ite_none_right_eq_some.mp hWeight
  obtain rfl := Option.some.inj hSome
  exact Regex.search_anchored_iff

/-- A text that closes the group in its middle is no regular expression, and its pattern accepts more. -/
example : regex? "a)|(?:b".toList = none ∧ (parse? "a)|(?:b").any (·.accepts "axxx") = true := by
  decide +kernel

/-- A comment at the end of a text takes the end of the group in. -/
example : (regex? "(?x)a#b".toList).isSome = true ∧ parse? "(?x)a#b" = none := by
  decide +kernel

end Cabinet.Pattern
