import Cabinet.Proofs.Properties.Reading
import Cabinet.Proofs.Properties.Rebuild
import Cabinet.Proofs.Text.Identifier

/-! Blanks in properties text. The reader takes every blank for the end of a key and drops it in front
of a value, but only spaces, tabs and line breaks are written with a backslash. Whatever is read from
a written text has no other blank in a name and none at the start of a string. -/

namespace Cabinet

open Properties

namespace Document

/-- Names without bare blanks, and texts that do not begin with one. -/
def hasKeptBlanks : Document → Bool
  | string s => s.toList.head?.all fun c => !isBareBlank c
  | object ms => ms.all fun m => m.1.toList.all fun c => !isBareBlank c
  | _ => true

/-- All blanks in the document are written with a backslash, where they would be taken for the end of
a key or dropped. -/
def KeepsBlanks (d : Document) : Prop :=
  d.all hasKeptBlanks

instance (d : Document) : Decidable d.KeepsBlanks :=
  inferInstanceAs (Decidable (d.all hasKeptBlanks = true))

theorem keepsBlanks_string_iff {s : String} :
    (string s).KeepsBlanks ↔ ∀ c ∈ s.toList.head?, isBareBlank c = false := by
  simp only [KeepsBlanks, all, hasKeptBlanks, Option.all_eq_true, Bool.not_eq_true',
    Option.mem_def]

theorem keepsBlanks_array_iff {es : List Document} :
    (array es).KeepsBlanks ↔ ∀ e ∈ es, e.KeepsBlanks := by
  simp only [KeepsBlanks, all, hasKeptBlanks, Bool.true_and, allElements_iff]

theorem keepsBlanks_object_iff {ms : Members} : (object ms).KeepsBlanks ↔
    (∀ m ∈ ms, ∀ c ∈ m.1.toList, isBareBlank c = false) ∧ ∀ m ∈ ms, m.2.KeepsBlanks := by
  simp only [KeepsBlanks, all, hasKeptBlanks, Bool.and_eq_true, List.all_eq_true,
    Bool.not_eq_true', allMembers_iff]

/-- Types are lost, but no blanks. -/
theorem keepsBlanks_of_untyped {d : Document} (h : d.untyped.KeepsBlanks) : d.KeepsBlanks := by
  induction d using induction_kinds with
  | array es ih =>
      rw [untyped, untypedElements_eq, keepsBlanks_array_iff, List.forall_mem_map] at h
      exact keepsBlanks_array_iff.mpr fun e he => ih e he (h e he)
  | object ms ih =>
      rw [untyped, untypedMembers_eq, keepsBlanks_object_iff, List.forall_mem_map,
        List.forall_mem_map] at h
      exact keepsBlanks_object_iff.mpr ⟨h.1, fun m hm => ih m hm (h.2 m hm)⟩
  | string s => exact h
  | _ => rfl

end Document

namespace Properties

open Document

variable {d : Document} {lines : List (List Char)}

/-- An index, or a field whose name has no bare blank. -/
def Part.KeepsBlanks : Part → Prop
  | .field name => ∀ c ∈ name.toList, isBareBlank c = false
  | .index _ => True

/-! ### Reading -/

theorem makes_keepsBlanks :
    Makes Marked (fun c => Inline c ∧ ¬EndsKey c) Part.KeepsBlanks where
  index _ := trivial
  field h _ := by
    have hBare (c : Char) (hc : Inline c ∧ ¬EndsKey c) : isBareBlank c = false :=
      isBareBlank_of_not_blank (Bool.not_eq_true _ ▸ fun hBlank => hc.2 (Or.inr (Or.inr hBlank)))
    simpa only [Part.KeepsBlanks, String.toList_ofList] using isBareBlank_of_mem_unescape h hBare

theorem stores_keepsBlanks :
    Stores Part.KeepsBlanks Document.KeepsBlanks Document.KeepsBlanks where
  weaken := id
  fresh p := by cases p <;> rfl
  member h hc := (keepsBlanks_object_iff.mp h).2 _ hc
  element h hc _ := keepsBlanks_array_iff.mp h _ hc
  put {ms name c} h hName hc := by
    obtain ⟨hNames, hMembers⟩ := keepsBlanks_object_iff.mp h
    refine keepsBlanks_object_iff.mpr ⟨fun m hm => ?_, fun m hm => ?_⟩
    · rcases Members.mem_put hm with rfl | hm
      · exact hName
      · exact hNames m hm
    · rcases Members.mem_put hm with rfl | hm
      · exact hc
      · exact hMembers m hm
  set n h hc := by
    refine keepsBlanks_array_iff.mpr fun e he => ?_
    rcases Elements.mem_set he with rfl | he | rfl
    · exact hc
    · exact keepsBlanks_array_iff.mp h e he
    · rfl

theorem reads_keepsBlanks :
    Reads Marked Inline Part.KeepsBlanks Document.KeepsBlanks Document.KeepsBlanks where
  parts := makes_keepsBlanks
  value h hHead := keepsBlanks_string_iff.mpr (by
    simpa only [String.toList_ofList] using isBareBlank_of_head?_unescape h hHead)
  stores := stores_keepsBlanks

/-- No bare blank is read from written lines. -/
theorem keepsBlanks_read (hLines : ∀ line ∈ lines, Spelled Marked Inline line)
    (h : read (lines.flatMap fun line => line ++ ['\n']) = .ok d) : d.KeepsBlanks := by
  have hEmpty : (Document.object []).KeepsBlanks := rfl
  refine reads_keepsBlanks.before_readEntries (fun entry hEntry => ?_) hEmpty h
  have hMem := logicalLines_written hLines ▸ List.mem_map_of_mem (f := Prod.snd) hEntry
  obtain ⟨line, hLine, hText⟩ := List.mem_map.mp (List.mem_of_mem_filter hMem)
  exact hText ▸ (hLines line hLine).trimStart

/-! ### Documents that keep their blanks -/

theorem isBareBlank_of_numeral {cs : List Char} (h : IsNumeral cs) {c : Char} (hc : c ∈ cs) :
    isBareBlank c = false := by
  refine isBareBlank_of_not_blank ?_
  rcases h c hc with hDigit | hLetter
  · exact isBlank_of_isDigit hDigit
  · have hLetters : ['-', '+', '.', 'e', 'n', 'u', 'l'].all fun c => !isBlank c := by decide
    simpa using List.all_eq_true.mp hLetters c hLetter

/-- The text of a scalar keeps its blanks if the scalar does. -/
theorem keepsBlanks_plainText (hScalar : isContainer d = false) (h : d.KeepsBlanks) :
    (Document.string d.plainText).KeepsBlanks := by
  cases d with
  | null => rfl
  | boolean b => cases b <;> decide
  | number n =>
      have hText : (Document.number n).plainText.toList = n.text := String.toList_ofList
      rw [keepsBlanks_string_iff, hText]
      exact fun c hc => isBareBlank_of_numeral n.isNumeral_text (List.mem_of_mem_head? hc)
  | string s => exact h
  | array es => exact absurd hScalar.symm Bool.false_ne_true
  | object ms => exact absurd hScalar.symm Bool.false_ne_true

end Properties

end Cabinet
