import Cabinet.Proofs.Path.Addressing
import Cabinet.Proofs.Text.Identifier

/-! Paths and their texts. What is written for a path derives its segments one by one, and no
derivation ends in a blank that trimming would take away, so the text is read as the path again. Two
descents in a row have no text of their own. The reader never gives them, nor an index of more than 64
bits. -/

namespace Cabinet

namespace Segment

/-- No descent stands right behind another one. -/
def isFlat : Segment → Bool
  | descendant (descendant _) => false
  | _ => true

/-- The index in a segment, if there is one, is an integer of 64 bits. -/
def fits : Segment → Bool
  | index n => Width.int64.contains n
  | descendant s => s.fits
  | _ => true

theorem isFlat_of_descendant {s : Segment} (h : s.descendant.isFlat) : s.isFlat := by
  cases s with
  | descendant inner => cases h
  | _ => rfl

end Segment

/-- A text whose last character is no blank, so that trimming takes nothing off its end. -/
def EndsPlain (cs : List Char) : Prop :=
  ∃ front c, cs = front ++ [c] ∧ isBlank c = false

theorem EndsPlain.append (before : List Char) {cs : List Char} (h : EndsPlain cs) :
    EndsPlain (before ++ cs) := by
  obtain ⟨front, c, rfl, hc⟩ := h
  exact ⟨before ++ front, c, (List.append_assoc ..).symm, hc⟩

namespace Path

namespace Grammar

variable {cs ds : List Char} {s : Segment} {p : Path}

theorem index_integer {n : Int} (h : Width.int64.contains n) : Index (Decimal.integer n) n := by
  obtain ⟨hLow, hHigh⟩ := Width.contains_iff.mp h
  rw [Width.int64_low] at hLow
  rw [Width.int64_high] at hHigh
  unfold Decimal.integer
  split
  · have hIndex := Index.negative (spells_natural n.natAbs) (by omega)
    rwa [show -(n.natAbs : Int) = n by omega] at hIndex
  · have hIndex := Index.positive (spells_natural n.natAbs) (by omega)
    rwa [show (n.natAbs : Int) = n by omega] at hIndex

theorem Index.contains {n : Int} (h : Index cs n) : Width.int64.contains n := by
  have hPos : 0 < Nat.pow 2 63 := by decide
  rw [Width.contains_iff, Width.int64_low, Width.int64_high]
  cases h <;> omega

theorem dotted_plainName {name : String} (h : isPlainName name.toList) :
    Dotted name.toList (.field name) := by
  have hRun : ∀ c ∈ name.toList, inName c := fun c hc => by
    simpa [inName] using ne_of_mem_plainName h hc
  simpa using Dotted.name (name_iff.mpr ⟨hRun, h⟩)

/-- What is written for a segment derives it. -/
theorem rest_render (hFlat : s.isFlat) (hFits : s.fits) : Rest s.render s := by
  cases s with
  | field name =>
      by_cases hPlain : isPlainName name.toList
      · simpa [Segment.render, hPlain] using Rest.child (dotted_plainName hPlain)
      · simpa [Segment.render, hPlain] using Rest.bracket (bracketed_quoteName name)
  | index n => exact .bracket (.index (index_integer hFits))
  | wildcard => exact .bracket .wildcard
  | descendant inner =>
      cases inner with
      | field name =>
          by_cases hPlain : isPlainName name.toList
          · simpa [Segment.render, hPlain] using Rest.below (dotted_plainName hPlain)
          · simpa [Segment.render, hPlain] using Rest.belowBracket (bracketed_quoteName name)
      | index n => exact .belowBracket (.index (index_integer hFits))
      | wildcard => exact .below .wildcard
      | descendant inner => cases hFlat

/-- What is derived behind a point or in brackets may stand behind two points as well. -/
theorem Dotted.isFlat_and_fits (h : Dotted cs s) : s.descendant.isFlat ∧ s.fits := by
  cases h <;> exact ⟨rfl, rfl⟩

theorem Bracketed.isFlat_and_fits (h : Bracketed cs s) : s.descendant.isFlat ∧ s.fits := by
  cases h with
  | index h => exact ⟨rfl, h.contains⟩
  | _ => exact ⟨rfl, rfl⟩

theorem Rest.isFlat_and_fits (h : Rest cs s) : s.isFlat ∧ s.fits := by
  cases h with
  | child h => exact h.isFlat_and_fits.imp_left Segment.isFlat_of_descendant
  | bracket h => exact h.isFlat_and_fits.imp_left Segment.isFlat_of_descendant
  | below h => exact h.isFlat_and_fits
  | belowBracket h => exact h.isFlat_and_fits

theorem Rests.isFlat_and_fits (h : Rests cs p) : ∀ s ∈ p, s.isFlat ∧ s.fits := by
  induction h with
  | done => simp
  | more hHead _ ih => exact List.forall_mem_cons.mpr ⟨hHead.isFlat_and_fits, ih⟩

theorem Expression.isFlat_and_fits (h : Expression cs p) : ∀ s ∈ p, s.isFlat ∧ s.fits := by
  cases h with
  | root h => exact h.isFlat_and_fits
  | bare h => exact h.isFlat_and_fits
  | first _ hFirst hRests =>
      exact List.forall_mem_cons.mpr
        ⟨hFirst.isFlat_and_fits.imp_left Segment.isFlat_of_descendant, hRests.isFlat_and_fits⟩

theorem Dotted.endsPlain (h : Dotted cs s) : EndsPlain cs := by
  cases h with
  | wildcard => exact ⟨[], '*', rfl, by decide⟩
  | name h =>
      obtain ⟨front, c, rfl⟩ := (List.eq_nil_or_concat' cs).resolve_left h.nonempty
      exact ⟨front, c, rfl, isBlank_of_mem_plainName (name_iff.mp h).2 (by simp)⟩

theorem Bracketed.endsPlain (h : Bracketed cs s) : EndsPlain cs := by
  have hClose : EndsPlain [']'] := ⟨[], ']', rfl, by decide⟩
  cases h with
  | wildcard => exact hClose.append ['[', '*']
  | @quoted mark cs name hMark h => simpa using hClose.append ('[' :: mark :: cs ++ [mark])
  | @index cs n h => exact hClose.append ('[' :: cs)

theorem Rest.endsPlain (h : Rest cs s) : EndsPlain cs := by
  cases h with
  | child h => exact h.endsPlain.append ['.']
  | bracket h => exact h.endsPlain
  | below h => exact h.endsPlain.append ['.', '.']
  | belowBracket h => exact h.endsPlain.append ['.', '.']

/-- Segments end in no blank, so that trimming a text does not shorten the last one. -/
theorem Rests.endsPlain (h : Rests cs p) : cs = [] ∨ EndsPlain cs := by
  induction h with
  | done => exact Or.inl rfl
  | more hHead _ ih =>
      right
      rcases ih with rfl | hTail
      · simpa using hHead.endsPlain
      · exact hTail.append _

end Grammar

open Grammar

/-- The text of a path is read as the path. -/
theorem parse_text_of_isFlat {p : Path} (h : ∀ s ∈ p, s.isFlat ∧ s.fits) :
    parse p.text = .ok p := by
  have hRests : Rests (p.flatMap Segment.render) (p.map id) :=
    rests_flatMap fun s hs => rest_render (h s hs).1 (h s hs).2
  rw [List.map_id] at hRests
  refine parse_root (fun c hc => ?_) hRests
  rcases hRests.endsPlain with hNone | ⟨front, d, hText, hd⟩
  · simp [hNone] at hc
  · rw [hText, List.getLast?_concat] at hc
    cases hc
    exact hd

theorem isFlat_and_fits_of_parse {text : String} {p : Path} (h : parse text = .ok p) :
    ∀ s ∈ p, s.isFlat ∧ s.fits := by
  obtain ⟨t, -, hExpression⟩ := (parse_eq_ok_iff text p).mp h
  exact hExpression.isFlat_and_fits

theorem isFlat_of_isDefinite {s : Segment} (h : s.isDefinite) : s.isFlat := by
  cases s with
  | descendant inner => cases h
  | _ => rfl

/-- Text and path tell each other. A path without two descents in a row is read back from its text;
so is a path that was read and has been extended by members and elements of any names and indexes;
and the text of a location is read as the path of the location. -/
theorem parse_rendered :
    (∀ p : Path, (∀ s ∈ p, s.isFlat ∧ s.fits) → parse p.text = .ok p) ∧
    (∀ (text : String) (p q : Path), parse text = .ok p → q.isDefinite → (∀ s ∈ q, s.fits) →
      parse (Path.text (p ++ q)) = .ok (p ++ q)) ∧
    ∀ l : Location, l.Indexable → parse l.text = .ok l.path := by
  refine ⟨fun p h => parse_text_of_isFlat h, fun text p q hRead hDefinite hFits => ?_,
    fun l h => Location.parse_text h⟩
  refine parse_text_of_isFlat fun s hs => ?_
  rcases List.mem_append.mp hs with hs | hs
  · exact isFlat_and_fits_of_parse hRead s hs
  · exact ⟨isFlat_of_isDefinite (List.all_eq_true.mp hDefinite s hs), hFits s hs⟩

/-- Names with quotes, blanks and backslashes, a descent into brackets, and the least and the greatest
index. -/
theorem parse_rendered_quoted :
    let p : Path := [.descendant (.field "it's"), .field "a b", .field "é", .descendant .wildcard]
    let q : Path := [.field "x\\y", .index (-9223372036854775808)]
    let l : Location := [.key "..", .index 9223372036854775807]
    (∀ s ∈ p, s.isFlat ∧ s.fits) ∧ parse p.text = .ok p ∧
      parse " a..* " = .ok [.field "a", .descendant .wildcard] ∧ q.isDefinite ∧
      (∀ s ∈ q, s.fits) ∧
      parse (Path.text ([.field "a", .descendant .wildcard] ++ q)) =
        .ok ([.field "a", .descendant .wildcard] ++ q) ∧
      l.Indexable ∧ parse l.text = .ok l.path := by
  intro p q l
  have hFlat : ∀ s ∈ p, s.isFlat ∧ s.fits := by decide
  have hRead : parse " a..* " = .ok [.field "a", .descendant .wildcard] := by decide +kernel
  have hFits : ∀ s ∈ q, s.fits := by decide
  have hIndexable : l.Indexable := by simp [l, Location.Indexable]
  obtain ⟨hPath, hExtended, hLocation⟩ := parse_rendered
  exact ⟨hFlat, hPath p hFlat, hRead, by decide, hFits, hExtended _ _ q hRead (by decide) hFits,
    hIndexable, hLocation l hIndexable⟩

end Path

end Cabinet
