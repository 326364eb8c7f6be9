import Cabinet.Proofs.Path.Grammar

/-! The reader of path expressions meets its own spelling. The grammar derives what is written for a
name, whatever is in it, and a whole text is read back when the grammar derives every piece of it. -/

namespace Cabinet.Path

namespace Grammar

/-- Quotes and backslashes in a quoted name stand behind a backslash, everything else for itself. -/
theorem quoted_escaped (name : List Char) :
    Quoted '\'' (name.flatMap fun c => if c = '\'' ∨ c = '\\' then ['\\', c] else [c]) name := by
  induction name with
  | nil => exact .done
  | cons c name ih =>
      rw [List.flatMap_cons]
      by_cases hc : c = '\'' ∨ c = '\\'
      · rw [if_pos hc]
        exact .escaped ih
      · obtain ⟨hQuote, hSlash⟩ := not_or.mp hc
        rw [if_neg hc]
        exact .plain hQuote hSlash ih

theorem bracketed_quoteName (name : String) :
    Bracketed (bracket (quoteName name.toList)) (.field name) := by
  simpa [bracket, quoteName] using
    Bracketed.quoted (Or.inl rfl) (quoted_escaped name.toList)

/-- Segments that are written one behind the other, each as the grammar has it. -/
theorem rests_flatMap {α : Type} {render : α → List Char} {read : α → Segment} {as : List α}
    (h : ∀ a ∈ as, Rest (render a) (read a)) : Rests (as.flatMap render) (as.map read) := by
  induction as with
  | nil => exact .done
  | cons a as ih =>
      obtain ⟨hHead, hTail⟩ := List.forall_mem_cons.mp h
      exact .more hHead (ih hTail)

end Grammar

open Grammar

/-- After the mark of the root come segments to the end. -/
theorem parse_root {cs : List Char} {p : Path} (hLast : ∀ c ∈ cs.getLast?, isBlank c = false)
    (h : Rests cs p) : parse (String.ofList ('$' :: cs)) = .ok p := by
  have hTrim : trim ('$' :: cs) = '$' :: cs := by
    refine trim_eq_self (by simp; decide) ?_
    cases cs with
    | nil => simp; decide
    | cons c cs => simpa [List.getLast?_cons_cons] using hLast
  rw [parse, String.toList_ofList, hTrim, expression_eq_ok_iff.mpr (.root h)]
  rfl

end Cabinet.Path
