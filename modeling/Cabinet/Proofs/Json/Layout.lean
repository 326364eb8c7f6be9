import Cabinet.Json.Parser
import Cabinet.Proofs.Document.Nesting
import Cabinet.Proofs.Json.Token

/-! Layouts of JSON text. A document may be written with blanks behind every bracket and comma,
before every closing bracket and behind the colon of a member; the two printers are the layouts with
none and with one line an item. Whatever the layout, the reader gives the document back. -/

namespace Cabinet.Json

open Utf8 (Piece)
open Document (quote separate)

/-- The texts of a document: numbers, strings and literals in their one form, and containers with
their items in order and blanks around them. -/
inductive Laid : Document → List Char → Prop where
  | null : Laid .null ['n', 'u', 'l', 'l']
  | yes : Laid (.boolean true) ['t', 'r', 'u', 'e']
  | no : Laid (.boolean false) ['f', 'a', 'l', 's', 'e']
  | integer (n : Integer) : Laid (.number (.integer n)) (Decimal.integer n.val)
  | string (s : String) : Laid (.string s) (quote s)
  | array {es : List Document} {text : Document → List Char} {before between after : List Char}
      (hBefore : Blank before) (hBetween : Blank between) (hAfter : Blank after)
      (h : ∀ e ∈ es, Laid e (text e)) :
      Laid (.array es)
        ('[' :: before ++ separate (',' :: between) (es.map text) ++ after ++ [']'])
  | object {ms : Members} {text : Document → List Char} {before between colon after : List Char}
      (hBefore : Blank before) (hBetween : Blank between) (hColon : Blank colon)
      (hAfter : Blank after) (h : ∀ m ∈ ms, Laid m.2 (text m.2)) :
      Laid (.object ms)
        ('\x7b' :: before ++
          separate (',' :: between) (ms.map fun m => quote m.1 ++ ':' :: (colon ++ text m.2)) ++
          after ++ ['\x7d'])

/-- A text that is read as a document, behind blanks and in front of anything that does not go on
with a number. -/
def Reads (read : List Piece → Result Document) (d : Document) (cs : List Char) : Prop :=
  ∀ (gap : List Char) (rest : List Piece), Blank gap → Ends rest →
    read ((gap ++ cs).map .char ++ rest) = .ok (d, rest)

/-- The first character of a value is neither a blank nor a closing bracket. -/
def Begins (cs : List Char) : Prop :=
  ∃ c ds, cs = c :: ds ∧ isSpace c = false ∧ c ≠ ']'

theorem separate_cons (separator cs : List Char) (items : List (List Char)) :
    separate separator (cs :: items) = cs ++ items.flatMap (separator ++ ·) := by
  induction items generalizing cs with
  | nil => simp [separate]
  | cons ds items ih => simp [separate, ih]

theorem separate_eq_intercalate (separator : List Char) (items : List (List Char)) :
    separate separator items = separator.intercalate items := by
  fun_induction separate separator items with
  | case1 => exact List.intercalate_nil.symm
  | case2 cs => exact List.intercalate_singleton.symm
  | case3 cs rest hRest ih =>
      cases rest with
      | nil => exact absurd rfl hRest
      | cons ds rest => rw [ih, List.intercalate_cons_cons]

theorem inNumber_of_isSpace {c : Char} (h : isSpace c) : inNumber c = false := by
  simp only [isSpace, Bool.or_eq_true, beq_iff_eq] at h
  rcases h with ((rfl | rfl) | rfl) | rfl <;> decide

/-! ### Items -/

/-- How a loop that collects items takes its turns: it ends at the closing bracket, and goes on
behind the first item and behind a comma with an item. The items are written by `code`, in front of
anything that does not go on with a number. -/
structure Collects {α : Type} (loop : Nat → Bool → List α → List Piece → Result (List α))
    (close : Char) (items : List α) (code : α → List Char) : Prop where
  ends : ∀ (fuel : Nat) (first : Bool) (done : List α) (after : List Char) (rest : List Piece),
    Blank after →
    loop (fuel + 1) first done ((after ++ [close]).map .char ++ rest) = .ok (done.reverse, rest)
  first : ∀ a ∈ items, ∀ (fuel : Nat) (before : List Char) (rest : List Piece),
    Blank before → Ends rest →
    loop (fuel + 1) true [] ((before ++ code a).map .char ++ rest) = loop fuel false [a] rest
  comma : ∀ a ∈ items, ∀ (fuel : Nat) (done : List α) (between : List Char) (rest : List Piece),
    Blank between → Ends rest →
    loop (fuel + 1) false done ((',' :: between ++ code a).map .char ++ rest) =
      loop fuel false (a :: done) rest

namespace Collects

variable {α : Type} {loop : Nat → Bool → List α → List Piece → Result (List α)} {close : Char}
  {items : List α} {code : α → List Char} {before between after : List Char}

theorem tail {a : α} (h : Collects loop close (a :: items) code) :
    Collects loop close items code where
  ends := h.ends
  first b hb := h.first b (List.mem_cons_of_mem _ hb)
  comma b hb := h.comma b (List.mem_cons_of_mem _ hb)

/-- What follows an item does not go on with a number: a comma, a blank or the closing bracket. -/
theorem ends_items (between : List Char) (hAfter : Blank after) (hClose : inNumber close = false)
    (texts : List (List Char)) (rest : List Piece) :
    Ends ((texts.flatMap (',' :: between ++ ·) ++ (after ++ [close])).map .char ++ rest) := by
  intro c hc
  cases texts with
  | nil =>
      cases after with
      | nil =>
          cases hc
          exact hClose
      | cons d after =>
          cases hc
          exact inNumber_of_isSpace (hAfter c (List.mem_cons_self ..))
  | cons cs texts =>
      cases hc
      decide

/-- The items behind the first, each behind a comma. -/
theorem rest (h : Collects loop close items code) (hClose : inNumber close = false)
    (hBetween : Blank between) (hAfter : Blank after) {fuel : Nat} (hFuel : items.length < fuel)
    (done : List α) (rest : List Piece) :
    loop fuel false done
      (((items.map code).flatMap (',' :: between ++ ·) ++ (after ++ [close])).map .char ++ rest) =
      .ok (done.reverse ++ items, rest) := by
  induction items generalizing fuel done with
  | nil =>
      obtain ⟨fuel, rfl⟩ := Nat.exists_eq_add_of_lt hFuel
      simpa using h.ends _ false done after rest hAfter
  | cons a items ih =>
      obtain ⟨fuel, rfl⟩ := Nat.exists_eq_add_of_lt hFuel
      have hEnds := ends_items between hAfter hClose (items.map code) rest
      have hEnough : items.length < (a :: items).length + fuel := by
        simp only [List.length_cons]
        omega
      have hTail := ih h.tail hEnough (a :: done)
      rw [List.reverse_cons, List.append_assoc, List.singleton_append] at hTail
      rw [← hTail, ← h.comma a (List.mem_cons_self ..) _ done between _ hBetween hEnds,
        List.map_cons, List.flatMap_cons, List.append_assoc, List.map_append, List.append_assoc]

/-- All items up to the closing bracket. The text bounds their number, since each but the first has
a comma in front of it and the bracket comes behind the last. -/
theorem all (h : Collects loop close items code) (hClose : inNumber close = false)
    (hBefore : Blank before) (hBetween : Blank between) (hAfter : Blank after)
    {text : List Piece} (rest : List Piece)
    (hText : text = (before ++ separate (',' :: between) (items.map code) ++
      (after ++ [close])).map .char ++ rest) :
    loop (text.length + 1) true [] text = .ok (items, rest) := by
  cases items with
  | nil =>
      have hBlank : Blank (before ++ after) := List.forall_mem_append.mpr ⟨hBefore, hAfter⟩
      have hEmpty : text = ((before ++ after) ++ [close]).map .char ++ rest := by
        simp [hText, separate]
      have hEnds := h.ends text.length true [] (before ++ after) rest hBlank
      rwa [← hEmpty] at hEnds
  | cons a items =>
      have hFirst : text = (before ++ code a).map .char ++
          (((items.map code).flatMap (',' :: between ++ ·) ++ (after ++ [close])).map .char ++
            rest) := by
        rw [hText, List.map_cons, separate_cons]
        simp only [List.map_append, List.append_assoc]
      have hLength : items.length < text.length := by
        have hItems : (items.map code).length ≤
            ((items.map code).flatMap (',' :: between ++ ·)).length :=
          length_le_length_flatMap (by simp)
        rw [List.length_map] at hItems
        simp only [hFirst, List.length_append, List.length_map, List.length_singleton]
        omega
      have hEnds := ends_items between hAfter hClose (items.map code) rest
      rw [hFirst, h.first a (List.mem_cons_self ..) _ before _ hBefore hEnds, ← hFirst]
      exact h.tail.rest hClose hBetween hAfter hLength [a] rest

end Collects

variable {read : List Piece → Result Document}

theorem collects_elements {es : List Document} {text : Document → List Char}
    (h : ∀ e ∈ es, Begins (text e) ∧ Reads read e (text e)) :
    Collects (elements read) ']' es text where
  ends fuel first done after rest hAfter := by
    have hClose : isSpace ']' = false := by decide
    simp only [List.map_append, List.append_assoc, List.map_cons, List.map_nil, List.cons_append,
      List.nil_append, elements, skipSpace_blank hAfter, skipSpace_char hClose, if_true]
  first e he fuel before rest hBefore hEnds := by
    obtain ⟨⟨c, ds, hText, hSpace, hClose⟩, hRead⟩ := h e he
    have hHead := hRead [] rest (by simp [Blank]) hEnds
    rw [hText] at hHead ⊢
    simp only [List.nil_append, List.map_cons, List.cons_append] at hHead
    simp [elements, skipSpace_blank hBefore, skipSpace_char hSpace, hClose, hHead]
  comma e he fuel done between rest hBetween hEnds := by
    obtain ⟨⟨c, ds, hText, hSpace, hClose⟩, hRead⟩ := h e he
    have hComma : isSpace ',' = false := by decide
    have hHead := hRead [] rest (by simp [Blank]) hEnds
    rw [hText] at hHead ⊢
    simp only [List.nil_append, List.map_cons, List.cons_append] at hHead
    simp [elements, skipSpace_blank hBetween, skipSpace_char hSpace, skipSpace_char hComma, hClose,
      hHead]

/-- A member is read from its quoted key on. -/
theorem member_quoted {d : Document} {gap cs : List Char} {rest : List Piece} (key : String)
    (hRead : Reads read d cs) (hGap : Blank gap) (hEnds : Ends rest) :
    member read ((key.toList.flatMap Document.escape).map .char ++ .char '"' :: .char ':' ::
      ((gap ++ cs).map .char ++ rest)) = .ok ((key, d), rest) := by
  have hColon : isSpace ':' = false := by decide
  have hValue : colon (.char ':' :: ((gap ++ cs).map .char ++ rest)) =
      .ok ((), (gap ++ cs).map .char ++ rest) := by
    simp only [colon, skipSpace_char hColon, if_true]
  simp only [member, string_quoted, hValue, hRead gap rest hGap hEnds]

theorem collects_members {ms : Members} {text : Document → List Char} {gap : List Char}
    (hGap : Blank gap) (h : ∀ m ∈ ms, Reads read m.2 (text m.2)) :
    Collects (members read) '\x7d' ms fun m => quote m.1 ++ ':' :: (gap ++ text m.2) where
  ends fuel first done after rest hAfter := by
    have hClose : isSpace '\x7d' = false := by decide
    simp only [List.map_append, List.append_assoc, List.map_cons, List.map_nil, List.cons_append,
      List.nil_append, members, skipSpace_blank hAfter, skipSpace_char hClose, if_true]
  first m hm fuel before rest hBefore hEnds := by
    have hQuote : isSpace '"' = false := by decide
    have hMember := member_quoted m.1 (h m hm) hGap hEnds
    simp only [List.map_append, List.append_assoc] at hMember
    simp [quote, members, skipSpace_blank hBefore, skipSpace_char hQuote, hMember]
  comma m hm fuel done between rest hBetween hEnds := by
    have hQuote : isSpace '"' = false := by decide
    have hComma : isSpace ',' = false := by decide
    have hMember := member_quoted m.1 (h m hm) hGap hEnds
    simp only [List.map_append, List.append_assoc] at hMember
    simp [quote, members, skipSpace_blank hBetween, skipSpace_char hQuote, skipSpace_char hComma,
      hMember]

/-! ### Values -/

/-- The digits of a number begin with a digit, which is no other beginning of a value. -/
theorem exists_natural_cons (n : Nat) :
    ∃ c ds, Decimal.natural n = c :: ds ∧ isDigit c ∧ isSpace c = false ∧
      c ∉ ['n', 't', 'f', '-', '"', '[', ']', '\x7b'] := by
  obtain ⟨c, ds, hText⟩ := List.exists_cons_of_ne_nil (natural_ne_nil n)
  have hDigit : isDigit c := isDigit_of_mem_natural (hText ▸ List.mem_cons_self ..)
  refine ⟨c, ds, hText, hDigit, ?_, ?_⟩
  · by_contra hSpace
    have hNumber := inNumber_of_isSpace (Bool.not_eq_false _ ▸ hSpace)
    simp [inNumber, hDigit] at hNumber
  · intro hMem
    have hNone : ∀ d ∈ ['n', 't', 'f', '-', '"', '[', ']', '\x7b'], isDigit d = false := by
      simp [isDigit]
    simp [hNone c hMem] at hDigit

variable {d : Document} {cs : List Char}

theorem Laid.begins (h : Laid d cs) : Begins cs := by
  cases h with
  | integer n =>
      unfold Decimal.integer
      split
      · exact ⟨'-', _, rfl, by decide⟩
      · obtain ⟨c, ds, hText, -, hSpace, hOther⟩ := exists_natural_cons n.val.natAbs
        exact ⟨c, ds, hText, hSpace, fun hc => hOther (by simp [hc])⟩
  | _ => exact ⟨_, _, rfl, by decide⟩

theorem valueWith_blank {gap : List Char} (hGap : Blank gap)
    (inner : Option (List Piece → Result Document)) (rest : List Piece) :
    valueWith inner (gap.map .char ++ rest) = valueWith inner rest := by
  simp only [valueWith, skipSpace_blank hGap]

/-- A value that is no container is read wherever one may stand. -/
theorem Laid.reads_scalar (h : Laid d cs) (hDepth : d.depth = 0)
    (inner : Option (List Piece → Result Document)) : Reads (valueWith inner) d cs := by
  intro gap rest hGap hEnds
  rw [List.map_append, List.append_assoc, valueWith_blank hGap]
  cases h with
  | null =>
      have hSpace : isSpace 'n' = false := by decide
      have hLiteral := literal_map ['u', 'l', 'l'] rest
      simp only [List.map_cons, List.map_nil, List.cons_append, List.nil_append] at hLiteral ⊢
      simp [valueWith, skipSpace_char hSpace, hLiteral, Result.map]
  | yes =>
      have hSpace : isSpace 't' = false := by decide
      have hLiteral := literal_map ['r', 'u', 'e'] rest
      simp only [List.map_cons, List.map_nil, List.cons_append, List.nil_append] at hLiteral ⊢
      simp [valueWith, skipSpace_char hSpace, hLiteral, Result.map]
  | no =>
      have hSpace : isSpace 'f' = false := by decide
      have hLiteral := literal_map ['a', 'l', 's', 'e'] rest
      simp only [List.map_cons, List.map_nil, List.cons_append, List.nil_append] at hLiteral ⊢
      simp [valueWith, skipSpace_char hSpace, hLiteral, Result.map]
  | integer n =>
      have hHigh := n.le_high
      have hLow := n.low_le
      have hLimit : n.val.natAbs ≤ significandLimit := by
        simp only [significandLimit]
        omega
      have hNumber := number_natural (decide (n.val < 0)) hLimit hEnds
      rw [wholeNumber_natAbs] at hNumber
      unfold Decimal.integer
      split
      · rename_i hNeg
        have hSpace : isSpace '-' = false := by decide
        rw [decide_eq_true hNeg] at hNumber
        rw [List.map_cons, List.cons_append]
        simp [valueWith, skipSpace_char hSpace, hNumber, Result.map]
      · rename_i hPos
        obtain ⟨c, ds, hText, hDigit, hSpace, hOther⟩ := exists_natural_cons n.val.natAbs
        rw [decide_eq_false hPos] at hNumber
        simp only [List.mem_cons, List.not_mem_nil, or_false, not_or] at hOther
        rw [hText, List.map_cons, List.cons_append] at hNumber ⊢
        simp [valueWith, skipSpace_char hSpace, hOther, hDigit, hNumber, Result.map]
  | string s =>
      have hSpace : isSpace '"' = false ∧ isDigit '"' = false := by decide
      simp [quote, valueWith, skipSpace_char hSpace.1, hSpace.2, string_quoted, Result.map]
  | array => simp [Document.depth] at hDepth
  | object => simp [Document.depth] at hDepth

theorem valueWith_array (read : List Piece → Result Document) (text : List Piece) :
    valueWith (some read) (.char '[' :: text) =
      (elements read (text.length + 1) true [] text).map .array := by
  have hSpace : isSpace '[' = false ∧ isDigit '[' = false := by decide
  simp [valueWith, skipSpace_char hSpace.1, hSpace.2]

theorem valueWith_object (read : List Piece → Result Document) (text : List Piece) :
    valueWith (some read) (.char '\x7b' :: text) =
      (members read (text.length + 1) true [] text).map fun ms => .object (Members.ofList ms) := by
  have hSpace : isSpace '\x7b' = false ∧ isDigit '\x7b' = false := by decide
  simp [valueWith, skipSpace_char hSpace.1, hSpace.2]

variable {text : Document → List Char} {before between after : List Char}

theorem reads_array {es : List Document} (hBefore : Blank before) (hBetween : Blank between)
    (hAfter : Blank after) (h : ∀ e ∈ es, Begins (text e) ∧ Reads read e (text e)) :
    Reads (valueWith (some read)) (.array es)
      ('[' :: before ++ separate (',' :: between) (es.map text) ++ after ++ [']']) := by
  intro gap rest hGap hEnds
  have hItems := (collects_elements h).all (by decide) hBefore hBetween hAfter rest rfl
  rw [← List.append_assoc] at hItems
  rw [List.map_append, List.append_assoc, valueWith_blank hGap]
  simp only [List.cons_append, List.map_cons]
  rw [valueWith_array, hItems]
  rfl

theorem reads_object {ms : Members} {colon : List Char} (hKeys : (Members.keys ms).Nodup)
    (hBefore : Blank before) (hBetween : Blank between) (hColon : Blank colon)
    (hAfter : Blank after) (h : ∀ m ∈ ms, Reads read m.2 (text m.2)) :
    Reads (valueWith (some read)) (.object ms)
      ('\x7b' :: before ++
        separate (',' :: between) (ms.map fun m => quote m.1 ++ ':' :: (colon ++ text m.2)) ++
        after ++ ['\x7d']) := by
  intro gap rest hGap hEnds
  have hItems := (collects_members hColon h).all (by decide) hBefore hBetween hAfter
    rest rfl
  rw [← List.append_assoc] at hItems
  rw [List.map_append, List.append_assoc, valueWith_blank hGap]
  simp only [List.cons_append, List.map_cons]
  rw [valueWith_object, hItems, Result.map, Members.ofList_eq_self hKeys]

theorem Laid.reads_value_scalar (h : Laid d cs) (hDepth : d.depth = 0) (limit : Nat) :
    Reads (value limit) d cs := by
  cases limit <;> exact h.reads_scalar hDepth _

/-- Every layout of a document is read as the document, by a reader that may open as many containers
as lie in each other. -/
theorem Laid.reads (h : Laid d cs) (hKeys : d.UniqueKeys) {limit : Nat} (hDepth : d.depth ≤ limit) :
    Reads (value limit) d cs := by
  induction h generalizing limit with
  | null => exact Laid.null.reads_value_scalar rfl limit
  | yes => exact Laid.yes.reads_value_scalar rfl limit
  | no => exact Laid.no.reads_value_scalar rfl limit
  | integer n => exact (Laid.integer n).reads_value_scalar rfl limit
  | string s => exact (Laid.string s).reads_value_scalar rfl limit
  | @array es text _ _ _ hBefore hBetween hAfter hItems ih =>
      obtain ⟨limit, rfl⟩ := Nat.exists_eq_add_of_le' (Nat.le_trans (Nat.le_add_left 1 _) hDepth)
      have hElements := Document.uniqueKeys_array_iff.mp hKeys
      have hInner := Document.depthElements_le_iff.mp (Nat.le_of_add_le_add_right hDepth)
      exact reads_array hBefore hBetween hAfter fun e he =>
        ⟨(hItems e he).begins, ih e he (hElements e he) (hInner e he)⟩
  | @object ms text _ _ _ _ hBefore hBetween hColon hAfter hItems ih =>
      obtain ⟨limit, rfl⟩ := Nat.exists_eq_add_of_le' (Nat.le_trans (Nat.le_add_left 1 _) hDepth)
      obtain ⟨hNodup, hMembers⟩ := Document.uniqueKeys_object_iff.mp hKeys
      have hInner := Document.depthMembers_le_iff.mp (Nat.le_of_add_le_add_right hDepth)
      exact reads_object hNodup hBefore hBetween hColon hAfter fun m hm =>
        ih m hm (hMembers m hm) (hInner m hm)

end Cabinet.Json
