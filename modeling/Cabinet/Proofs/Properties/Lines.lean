import Cabinet.Proofs.Properties.Writing

/-! The lines of properties text. However a text is broken into lines, no line and no key that is cut
out of it loses the character behind a backslash. Lines of whole pairs stand each for itself: they are
found again one by one, without the blanks in front of them. -/

namespace Cabinet.Properties

variable {behind bare : Char → Prop} {line key value : List Char} {lines : List (List Char)}

/-! ### Any text -/

/-- What has been joined is whole, even if the text ends where a line should go on. -/
theorem whole_of_mem_joinLines {n : Nat} {pending : Option (Nat × List Char)}
    {entry : Nat × List Char} (hPending : ∀ p ∈ pending, Whole p.2)
    (h : entry ∈ joinLines n pending lines) : Whole entry.2 := by
  induction lines generalizing n pending with
  | nil => exact hPending entry (by simpa [joinLines] using h)
  | cons raw lines ih =>
      rw [joinLines] at h
      dsimp only at h
      split at h
      · exact ih (by simp) h
      · have hBefore : Whole (pending.getD (n, [])).2 := by
          cases pending with
          | none => exact .nil
          | some p => exact hPending p rfl
        split at h
        · rename_i hOn
          refine ih (fun p hp => ?_) h
          obtain rfl := Option.mem_some.mp hp
          exact hBefore.append (whole_dropLast hOn)
        · rename_i hEnd
          rcases List.mem_cons.mp h with rfl | h
          · exact hBefore.append (whole_of_goesOn_eq_false (Bool.not_eq_true _ ▸ hEnd))
          · exact ih (by simp) h

/-- Every entry of a text has all its pairs. -/
theorem whole_of_mem_logicalLines {text : List Char} {entry : Nat × List Char}
    (h : entry ∈ logicalLines text) : Whole entry.2 :=
  whole_of_mem_joinLines (by simp) h

/-! ### Keys and values -/

/-- A character that ends the key of a line. -/
def EndsKey (c : Char) : Prop :=
  c = '=' ∨ c = ':' ∨ isBlank c

theorem Spelled.trimStart (h : Spelled behind bare line) :
    Spelled behind bare (Cabinet.trimStart line) := by
  induction h with
  | nil => exact .nil
  | escaped hBehind h _ => exact .escaped hBehind h
  | @plain c cs hSlash hBare h ih =>
      by_cases hBlank : isBlank c
      · rwa [Cabinet.trimStart, List.dropWhile_cons_of_pos hBlank]
      · rw [Cabinet.trimStart, List.dropWhile_cons_of_neg hBlank]
        exact .plain hSlash hBare h

theorem Spelled.dropMark (h : Spelled behind bare line) :
    Spelled behind bare (Properties.dropMark line) := by
  unfold Properties.dropMark
  split
  · exact h.of_cons (by decide)
  · exact h.of_cons (by decide)
  · exact h

/-- A line is cut between two pairs. No character that would end the key is left alone in it, and the
value does not begin with a blank. -/
theorem spelled_splitEntry (done : List Char) (h : Spelled behind bare line) :
    ∃ key, (splitEntry done false line).1 = done.reverse ++ key ∧
      Spelled behind (fun c => bare c ∧ ¬EndsKey c) key ∧
      Spelled behind bare (splitEntry done false line).2 ∧
      ∀ c ∈ (splitEntry done false line).2.head?, isBlank c = false := by
  induction h generalizing done with
  | nil => exact ⟨[], by simp [splitEntry], .nil, .nil, by simp [splitEntry]⟩
  | @escaped c cs hBehind _ ih =>
      obtain ⟨key, hKey, hSpelled, hValue⟩ := ih (c :: '\\' :: done)
      exact ⟨'\\' :: c :: key, by simp [splitEntry, hKey], .escaped hBehind hSpelled, hValue⟩
  | @plain c cs hSlash hBare h ih =>
      rw [splitEntry, if_neg Bool.false_ne_true, if_neg hSlash]
      split
      · exact ⟨[], by simp, .nil, h.trimStart, fun _ => isBlank_head?_trimStart⟩
      rename_i hMark
      split
      · exact ⟨[], by simp, .nil, h.trimStart.dropMark.trimStart, fun _ => isBlank_head?_trimStart⟩
      · rename_i hBlank
        obtain ⟨key, hKey, hSpelled, hValue⟩ := ih (c :: done)
        have hc : ¬EndsKey c := fun hc => hc.elim (fun h => hMark (Or.inl h)) fun hc =>
          hc.elim (fun h => hMark (Or.inr h)) hBlank
        exact ⟨c :: key, by simp [hKey], .plain hSlash ⟨hBare, hc⟩ hSpelled, hValue⟩

/-- A line is cut at the first mark behind a key in which marks and blanks follow backslashes. -/
theorem splitEntry_mark (done : List Char) (h : Spelled behind (¬EndsKey ·) key) :
    splitEntry done false (key ++ '=' :: value) = (done.reverse ++ key, trimStart value) := by
  induction h generalizing done with
  | nil => simp [splitEntry]
  | @escaped c _ _ _ ih => simp [splitEntry, ih (c :: '\\' :: done)]
  | @plain c cs hSlash hBare _ ih =>
      obtain ⟨hMark, hColon, hBlank⟩ : c ≠ '=' ∧ c ≠ ':' ∧ ¬isBlank c := by
        simpa only [EndsKey, not_or] using hBare
      rw [List.cons_append, splitEntry, if_neg Bool.false_ne_true, if_neg hSlash,
        if_neg (not_or.mpr ⟨hMark, hColon⟩), if_neg hBlank, ih]
      simp

/-! ### Lines that stand for themselves -/

/-- A text without line breaks. -/
def OneLine (cs : List Char) : Prop :=
  ∀ c ∈ cs, c ≠ '\n' ∧ c ≠ '\r'

/-- Written texts have no line breaks. -/
theorem oneLine_of_spelled (h : Spelled Marked Inline line) : OneLine line := by
  induction h with
  | nil => exact List.forall_mem_nil _
  | escaped hBehind _ ih =>
      obtain ⟨hFeed, hReturn, -⟩ := inline_marked hBehind
      exact List.forall_mem_cons.mpr ⟨by decide, List.forall_mem_cons.mpr ⟨⟨hFeed, hReturn⟩, ih⟩⟩
  | plain _ hInline _ ih => exact List.forall_mem_cons.mpr ⟨⟨hInline.1, hInline.2.1⟩, ih⟩

theorem splitLines_line (done : List (List Char)) (before rest : List Char) (h : OneLine line) :
    splitLines done before (line ++ '\n' :: rest) =
      splitLines (splitLines.dropReturn (line.reverse ++ before) :: done) [] rest := by
  induction line generalizing before with
  | nil => simp [splitLines]
  | cons c line ih =>
      obtain ⟨⟨hFeed, -⟩, hLine⟩ := List.forall_mem_cons.mp h
      rw [List.cons_append, splitLines, if_neg hFeed, ih _ hLine]
      simp

theorem dropReturn_reverse (h : OneLine line) : splitLines.dropReturn line.reverse = line := by
  unfold splitLines.dropReturn
  split
  · rename_i rest hText
    have hMem : '\r' ∈ line.reverse := hText ▸ List.mem_cons_self
    exact absurd rfl (h '\r' (List.mem_reverse.mp hMem)).2
  · exact List.reverse_reverse line

/-- Lines that hold no line break are found again. -/
theorem splitLines_flatMap (done : List (List Char)) (h : ∀ line ∈ lines, OneLine line) :
    splitLines done [] (lines.flatMap fun line => line ++ ['\n']) = done.reverse ++ lines := by
  induction lines generalizing done with
  | nil => simp [splitLines]
  | cons line lines ih =>
      obtain ⟨hLine, hRest⟩ := List.forall_mem_cons.mp h
      rw [List.flatMap_cons, List.append_assoc, List.singleton_append, splitLines_line _ _ _ hLine,
        List.append_nil, dropReturn_reverse hLine, ih _ hRest]
      simp

/-- Nothing is joined where every line is whole. -/
theorem joinLines_whole (n : Nat) (h : ∀ line ∈ lines, Whole line) :
    (joinLines n none lines).map Prod.snd =
      (lines.map trimStart).filter fun line => !isIdle line := by
  induction lines generalizing n with
  | nil => rfl
  | cons line lines ih =>
      obtain ⟨hLine, hRest⟩ := List.forall_mem_cons.mp h
      have hOn : goesOn (trimStart line) = false := hLine.trimStart.goesOn_eq_false
      cases hIdle : isIdle (trimStart line) with
      | true => simp [joinLines, hIdle, ih _ hRest]
      | false => simp [joinLines, hIdle, hOn, ih _ hRest]

/-- The entries of written lines are these lines, but for blanks in front and for comments. -/
theorem logicalLines_written (h : ∀ line ∈ lines, Spelled Marked Inline line) :
    (logicalLines (lines.flatMap fun line => line ++ ['\n'])).map Prod.snd =
      (lines.map trimStart).filter fun line => !isIdle line := by
  rw [logicalLines, splitLines_flatMap [] fun line hLine => oneLine_of_spelled (h line hLine)]
  exact joinLines_whole 1 fun line hLine => (h line hLine).whole

end Cabinet.Properties
