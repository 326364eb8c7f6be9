import Cabinet.Proofs.Json.RoundTrip

/-! Documents are told apart by their canonical text, however deep they are and whatever their
strings hold, so containers that compare equal are equal. A number that is not finite is written as
null; with such numbers the text says less than the document. -/

namespace Cabinet

namespace Json

open Utf8 (Piece)
open Document (compact quote separate)

theorem map_char_inj {r s : List Char} : r.map Piece.char = s.map .char ↔ r = s :=
  (List.map_injective_iff.mpr fun _ _ h => Piece.char.inj h).eq_iff

/-- The codes of two items tell whether it is one item, and where its code ends, as long as what
follows does not go on with a number. -/
def Apart {α : Type} (code : α → List Char) (a b : α) : Prop :=
  ∀ r s : List Char, Ends (r.map .char) → Ends (s.map .char) → code a ++ r = code b ++ s →
    a = b ∧ r = s

/-! ### Items -/

section Items

variable {α : Type} {code : α → List Char} {close : Char} {items others : List α} {r s : List Char}

/-- Items that each come behind a comma, and the closing bracket. -/
theorem tail_inj (hClose : inNumber close = false ∧ close ≠ ',')
    (h : ∀ a ∈ items, ∀ b ∈ others, Apart code a b)
    (hText : (items.map code).flatMap (',' :: ·) ++ close :: r =
      (others.map code).flatMap (',' :: ·) ++ close :: s) :
    items = others ∧ r = s := by
  induction items generalizing others with
  | nil =>
      cases others with
      | nil => simpa using hText
      | cons b others => exact absurd (List.cons.inj hText).1 hClose.2
  | cons a items ih =>
      cases others with
      | nil => exact absurd (List.cons.inj hText).1.symm hClose.2
      | cons b others =>
          have hEnds (texts : List (List Char)) (t : List Char) :
              Ends ((texts.flatMap (',' :: ·) ++ close :: t).map .char) := by
            simpa using Collects.ends_items [] blank_nil hClose.1 texts (t.map .char)
          simp only [List.map_cons, List.flatMap_cons, List.append_assoc, List.cons_append] at hText
          obtain ⟨rfl, hRest⟩ := h a (List.mem_cons_self ..) b (List.mem_cons_self ..) _ _
            (hEnds _ r) (hEnds _ s) (List.cons.inj hText).2
          obtain ⟨rfl, hEqual⟩ := ih (fun a ha b hb =>
            h a (List.mem_cons_of_mem _ ha) b (List.mem_cons_of_mem _ hb)) hRest
          exact ⟨rfl, hEqual⟩

/-- Items with commas between them, and the closing bracket, with which no item begins. -/
theorem separate_inj (hClose : inNumber close = false ∧ close ≠ ',')
    (hBegins : ∀ a ∈ items ++ others, ∃ c cs, code a = c :: cs ∧ c ≠ close)
    (h : ∀ a ∈ items, ∀ b ∈ others, Apart code a b)
    (hText : separate [','] (items.map code) ++ close :: r =
      separate [','] (others.map code) ++ close :: s) :
    items = others ∧ r = s := by
  cases items with
  | nil =>
      cases others with
      | nil => simpa [separate] using hText
      | cons b others =>
          obtain ⟨c, cs, hCode, hc⟩ := hBegins b (by simp)
          rw [List.map_cons, separate_cons, hCode] at hText
          exact absurd (List.cons.inj hText).1.symm hc
  | cons a items =>
      cases others with
      | nil =>
          obtain ⟨c, cs, hCode, hc⟩ := hBegins a (by simp)
          rw [List.map_cons, separate_cons, hCode] at hText
          exact absurd (List.cons.inj hText).1 hc
      | cons b others =>
          -- with a comma before the first items as well
          rw [List.map_cons, List.map_cons, separate_cons, separate_cons] at hText
          exact tail_inj hClose h (congrArg (List.cons ',') hText)

end Items

/-! ### Strings and scalars -/

variable {a b d : Document} {r s : List Char}

theorem quote_inj {k l : String} (h : quote k ++ r = quote l ++ s) : k = l ∧ r = s := by
  have hRead (k : String) (t : List Char) :
      string (((quote k ++ t).map Piece.char).tail) = .ok (k, t.map .char) := by
    simpa [quote] using string_quoted k (t.map .char)
  have hEqual := hRead k r
  rw [h, hRead l s] at hEqual
  simp only [Except.ok.injEq, Prod.mk.injEq, map_char_inj] at hEqual
  exact ⟨hEqual.1.symm, hEqual.2.symm⟩

theorem read_scalar (hExact : d.Exact) (hDepth : d.depth = 0) (hEnds : Ends (r.map .char)) :
    valueWith none ((d.compact ++ r).map .char) = .ok (d, r.map .char) := by
  simpa using (laid_compact hExact).reads_scalar hDepth none [] _ blank_nil hEnds

theorem read_container (hDepth : d.depth ≠ 0) (r : List Char) :
    ∃ f, valueWith none ((d.compact ++ r).map .char) = .error f := by
  cases d with
  | array es => exact ⟨_, rfl⟩
  | object ms => exact ⟨_, rfl⟩
  | _ => exact absurd rfl hDepth

/-- A reader that may open no container tells a scalar from everything else. -/
theorem apart_scalar (hLeft : a.Exact) (hRight : b.Exact) (hDepth : a.depth = 0) :
    Apart compact a b := by
  intro r s hr hs hText
  have hRead := read_scalar hLeft hDepth hr
  rw [hText] at hRead
  by_cases hOther : b.depth = 0
  · rw [read_scalar hRight hOther hs] at hRead
    simp only [Except.ok.injEq, Prod.mk.injEq, map_char_inj] at hRead
    exact ⟨hRead.1.symm, hRead.2.symm⟩
  · obtain ⟨f, hFault⟩ := read_container hOther s
    rw [hFault] at hRead
    cases hRead

theorem Apart.symm {α : Type} {code : α → List Char} {a b : α} (h : Apart code a b) :
    Apart code b a := by
  intro r s hr hs hText
  obtain ⟨rfl, rfl⟩ := h s r hs hr hText.symm
  exact ⟨rfl, rfl⟩

/-! ### Documents -/

/-- The code of a member in an object. -/
theorem apart_member {m n : String × Document} (h : Apart compact m.2 n.2) :
    Apart (fun m : String × Document => quote m.1 ++ ':' :: m.2.compact) m n := by
  intro r s hr hs hText
  simp only [List.append_assoc, List.cons_append] at hText
  obtain ⟨hKey, hRest⟩ := quote_inj hText
  obtain ⟨hValue, hEqual⟩ := h r s hr hs (List.cons.inj hRest).2
  exact ⟨Prod.ext hKey hValue, hEqual⟩

/-- The canonical texts of two documents tell them apart. -/
theorem apart_compact (hLeft : a.Exact) (hRight : b.Exact) : Apart compact a b := by
  -- Two containers of one kind part at their items; all else parts at the first character or, if
  -- one of the two is a scalar, by reading.
  induction a using Document.induction_kinds generalizing b with
  | null => exact apart_scalar hLeft hRight rfl
  | boolean x => exact apart_scalar hLeft hRight rfl
  | number n => exact apart_scalar hLeft hRight rfl
  | string x => exact apart_scalar hLeft hRight rfl
  | array es ih =>
      cases b with
      | array fs =>
          have hItems := Document.exact_array_iff.mp hLeft
          have hOthers := Document.exact_array_iff.mp hRight
          intro r s _ _ hText
          simp only [compact, Document.compactElements_eq, List.cons_append, List.append_assoc,
            List.nil_append, List.cons.injEq, true_and] at hText
          have hBegins : ∀ e ∈ es ++ fs, ∃ c cs, e.compact = c :: cs ∧ c ≠ ']' := by
            intro e he
            obtain ⟨c, cs, hCode, -, hc⟩ :=
              (laid_compact (List.forall_mem_append.mpr ⟨hItems, hOthers⟩ e he)).begins
            exact ⟨c, cs, hCode, hc⟩
          obtain ⟨rfl, hEqual⟩ := separate_inj (by decide) hBegins
            (fun e he f hf => ih e he (hItems e he) (hOthers f hf)) hText
          exact ⟨rfl, hEqual⟩
      | object ms => exact fun r s _ _ hText => absurd (List.cons.inj hText).1 (by decide)
      | _ => exact (apart_scalar hRight hLeft rfl).symm
  | object ms ih =>
      cases b with
      | array fs => exact fun r s _ _ hText => absurd (List.cons.inj hText).1 (by decide)
      | object ns =>
          have hItems := Document.exact_object_iff.mp hLeft
          have hOthers := Document.exact_object_iff.mp hRight
          intro r s _ _ hText
          simp only [compact, Document.compactMembers_eq, List.cons_append, List.append_assoc,
            List.nil_append, List.cons.injEq, true_and] at hText
          have hBegins : ∀ m ∈ ms ++ ns, ∃ c cs,
              quote m.1 ++ ':' :: m.2.compact = c :: cs ∧ c ≠ '\x7d' :=
            fun m _ => ⟨'"', _, rfl, by decide⟩
          obtain ⟨rfl, hEqual⟩ := separate_inj (by decide) hBegins
            (fun m hm n hn => apart_member (ih m hm (hItems m hm) (hOthers n hn))) hText
          exact ⟨rfl, hEqual⟩
      | _ => exact (apart_scalar hRight hLeft rfl).symm

end Json

namespace Document

variable {a b : Document}

theorem compact_inj (hLeft : a.Exact) (hRight : b.Exact) : a.compact = b.compact ↔ a = b := by
  refine ⟨fun h => ?_, congrArg compact⟩
  have hNothing : Json.Ends (([] : List Char).map .char) := by simp [Json.Ends]
  exact (Json.apart_compact hLeft hRight [] [] hNothing hNothing (by rw [h])).1

/-- Documents that compare equal are equal, kind by kind, integer by integer, character by character
and with their members in one order; and so are documents with one canonical text. -/
theorem same_iff_eq (hLeft : a.Exact) (hRight : b.Exact) :
    (a.same b ↔ a = b) ∧ (a.text = b.text ↔ a = b) := by
  refine ⟨?_, by rw [text, text, String.ofList_inj, compact_inj hLeft hRight]⟩
  cases a with
  | null => cases b <;> simp [same]
  | boolean x => cases b <;> simp [same]
  | string x => cases b <;> simp [same]
  | number n =>
      cases b with
      | number m =>
          cases n with
          | float x => exact absurd hLeft (not_exact_float x)
          | integer n =>
              cases m with
              | float y => exact absurd hRight (not_exact_float y)
              | integer m => simp [same, Number.same]
      | _ => simp [same]
  | array es =>
      cases b with
      | array fs => rw [same, beq_iff_eq, compact_inj hLeft hRight]
      | _ => simp [same]
  | object ms =>
      cases b with
      | object ns => rw [same, beq_iff_eq, compact_inj hLeft hRight]
      | _ => simp [same]

/-- One string that holds quotes, a comma and a bracket, and two strings; and one object with its
members in either order. -/
theorem same_iff_eq_strings :
    let one : Document := .array [.string "a\",\"b]"]
    let two : Document := .array [.string "a", .string "b]"]
    let rise : Document := .object [("x", .array []), ("y", .null)]
    let fall : Document := .object [("y", .null), ("x", .array [])]
    one.Exact ∧ two.Exact ∧ rise.Exact ∧ fall.Exact ∧
      ¬one.same two ∧ one.text ≠ two.text ∧ ¬rise.same fall ∧ rise.same rise := by
  intro one two rise fall
  have hOne : one.Exact := by decide
  have hTwo : two.Exact := by decide
  have hRise : rise.Exact := by decide
  have hFall : fall.Exact := by decide
  have hStrings : one ≠ two := by simp [one, two]
  have hMembers : rise ≠ fall := by simp [rise, fall]
  obtain ⟨hSame, hText⟩ := same_iff_eq hOne hTwo
  exact ⟨hOne, hTwo, hRise, hFall, mt hSame.mp hStrings, mt hText.mp hStrings,
    mt (same_iff_eq hRise hFall).1.mp hMembers, (same_iff_eq hRise hRise).1.mpr rfl⟩

end Document

end Cabinet
