import Cabinet.Binder.Basic
import Cabinet.Proofs.Json.Layout
import Cabinet.Proofs.Text.Utf8

/-! Documents and their JSON text. The compact and the pretty text are layouts of a document, so both
are read as the document, from characters and from bytes, as long as no more than 127 containers lie
in each other. Floating-point numbers are left out: their digits are not read with exact rounding. -/

namespace Cabinet

namespace Document

theorem compactElements_eq (es : List Document) : compactElements es = es.map compact := by
  induction es with
  | nil => rfl
  | cons e es ih => rw [compactElements, ih, List.map_cons]

theorem compactMembers_eq (ms : Members) :
    compactMembers ms = ms.map fun m => quote m.1 ++ ':' :: m.2.compact := by
  induction ms with
  | nil => rfl
  | cons m ms ih => rw [compactMembers, ih, List.map_cons]

theorem prettyElements_eq (level : Nat) (es : List Document) :
    prettyElements level es = es.map (prettyAt level) := by
  induction es with
  | nil => rfl
  | cons e es ih => rw [prettyElements, ih, List.map_cons]

theorem prettyMembers_eq (level : Nat) (ms : Members) :
    prettyMembers level ms = ms.map fun m => quote m.1 ++ ':' :: ' ' :: m.2.prettyAt level := by
  induction ms with
  | nil => rfl
  | cons m ms ih => rw [prettyMembers, ih, List.map_cons]

theorem blank_newline (level : Nat) : Json.Blank (newline level) := by
  intro c hc
  rcases List.mem_cons.mp hc with rfl | hc
  · decide
  · rw [List.eq_of_mem_replicate hc]
    decide

/-- A block puts blanks between its brackets and items. -/
theorem exists_block_eq (level : Nat) (left right : Char) (items : List (List Char)) :
    ∃ before between after, Json.Blank before ∧ Json.Blank between ∧ Json.Blank after ∧
      block level left right items =
        left :: before ++ separate (',' :: between) items ++ after ++ [right] := by
  cases items with
  | nil => exact ⟨[], [], [], by simp [Json.Blank], by simp [Json.Blank], by simp [Json.Blank], rfl⟩
  | cons cs items =>
      exact ⟨_, _, _, blank_newline (level + 1), blank_newline (level + 1), blank_newline level, rfl⟩

end Document

namespace Json

open Document (compact prettyAt)

theorem blank_nil : Blank [] := by simp [Blank]

/-- The compact text is the layout without blanks. -/
theorem laid_compact {d : Document} (h : d.Exact) : Laid d d.compact := by
  induction d using Document.induction_kinds with
  | null => exact .null
  | boolean b => cases b with
    | true => exact .yes
    | false => exact .no
  | number n => cases n with
    | integer n => exact .integer n
    | float x => exact absurd h (Document.not_exact_float x)
  | string s => exact .string s
  | array es ih =>
      have hElements := Document.exact_array_iff.mp h
      have hLaid := Laid.array blank_nil blank_nil blank_nil fun e he => ih e he (hElements e he)
      simpa [compact, Document.compactElements_eq] using hLaid
  | object ms ih =>
      have hMembers := Document.exact_object_iff.mp h
      have hLaid := Laid.object blank_nil blank_nil blank_nil blank_nil fun m hm =>
        ih m hm (hMembers m hm)
      simpa [compact, Document.compactMembers_eq] using hLaid

/-- So is the pretty text, on any level of indentation. -/
theorem laid_pretty {d : Document} (h : d.Exact) (level : Nat) : Laid d (d.prettyAt level) := by
  induction d using Document.induction_kinds generalizing level with
  | null => exact .null
  | boolean b => cases b with
    | true => exact .yes
    | false => exact .no
  | number n => cases n with
    | integer n => exact .integer n
    | float x => exact absurd h (Document.not_exact_float x)
  | string s => exact .string s
  | array es ih =>
      have hElements := Document.exact_array_iff.mp h
      obtain ⟨before, between, after, hBefore, hBetween, hAfter, hText⟩ :=
        Document.exists_block_eq level '[' ']' (es.map (prettyAt (level + 1)))
      rw [prettyAt, Document.prettyElements_eq, hText]
      exact .array hBefore hBetween hAfter fun e he => ih e he (hElements e he) (level + 1)
  | object ms ih =>
      have hMembers := Document.exact_object_iff.mp h
      have hColon : Blank [' '] := by simp [Blank, isSpace]
      obtain ⟨before, between, after, hBefore, hBetween, hAfter, hText⟩ :=
        Document.exists_block_eq level '\x7b' '\x7d'
          (ms.map fun m => Document.quote m.1 ++ ':' :: ' ' :: m.2.prettyAt (level + 1))
      rw [prettyAt, Document.prettyMembers_eq, hText]
      have hLaid := Laid.object hBefore hBetween hColon hAfter fun m hm =>
        ih m hm (hMembers m hm) (level + 1)
      exact hLaid

/-- A layout is read as a whole text. -/
theorem Laid.ofPieces_eq {d : Document} {cs : List Char} (h : Laid d cs) (hKeys : d.UniqueKeys)
    (hDepth : d.depth ≤ depthLimit) : ofPieces (cs.map .char) = .ok d := by
  have hRead := h.reads hKeys hDepth [] [] blank_nil (by simp [Ends])
  rw [List.nil_append, List.append_nil] at hRead
  simp only [ofPieces, document, hRead]
  rfl

end Json

/-- What is written is read back: the compact and the pretty text of a document, as characters, as
bytes, and through a binder for JSON. -/
theorem Document.parse_written {d : Document} (hExact : d.Exact) (hKeys : d.UniqueKeys)
    (hDepth : d.depth ≤ 127) :
    parse d.text = .ok d ∧ parse d.prettyText = .ok d ∧
    ofBytes (Utf8.encode d.compact) = .ok d ∧ ofBytes (Utf8.encode d.pretty) = .ok d ∧
    ∀ (style reading : JsonStyle) (f : Format), style ≠ .strict → f.isJson →
      ∃ bytes, (Binder.json style).encode d f = .ok bytes ∧
        (Binder.json reading).decode bytes f = .ok d := by
  have hCompact := (Json.laid_compact hExact).ofPieces_eq hKeys hDepth
  have hPretty := (Json.laid_pretty hExact 0).ofPieces_eq hKeys hDepth
  have hCompactBytes : ofBytes (Utf8.encode d.compact) = .ok d := by
    rw [ofBytes, Utf8.pieces_encode, hCompact]
  have hPrettyBytes : ofBytes (Utf8.encode d.pretty) = .ok d := by
    rw [ofBytes, Utf8.pieces_encode, pretty, hPretty]
  refine ⟨?_, ?_, hCompactBytes, hPrettyBytes, fun style reading f hStyle hFormat => ?_⟩
  · rw [parse, text, String.toList_ofList, hCompact]
  · rw [parse, prettyText, pretty, String.toList_ofList, hPretty]
  · have hRead : ofBytes (Utf8.encode (style.write d)) = .ok d := by
      cases style with
      | compact => exact hCompactBytes
      | pretty => exact hPrettyBytes
      | strict => exact absurd rfl hStyle
    refine ⟨Utf8.encode (style.write d), by rw [Binder.encode, if_pos hFormat], ?_⟩
    rw [Binder.decode, if_pos hFormat, Binder.decodeJson, hRead]

/-- Empty containers, characters that are escaped or take more than two bytes, the least and the
greatest integer, and members out of order, written on many lines and read. -/
theorem Document.parse_written_nested :
    let least : Document := .number (.integer ⟨-9223372036854775808, by decide, by decide⟩)
    let greatest : Document := .number (.integer ⟨18446744073709551615, by decide, by decide⟩)
    let d : Document := .object [("b", .array [.array [], .object [], least, greatest]),
      ("", .string "\"\\\n\x01é😀"), ("a", .boolean false)]
    d.Exact ∧ d.UniqueKeys ∧ d.depth ≤ 127 ∧ JsonStyle.pretty ≠ .strict ∧ Format.json.isJson ∧
      parse d.text = .ok d ∧ ofBytes (Utf8.encode d.pretty) = .ok d ∧
      ∃ bytes, (Binder.json .pretty).encode d .json = .ok bytes ∧
        (Binder.json .compact).decode bytes .json = .ok d := by
  intro least greatest d
  have hExact : d.Exact := by decide
  have hKeys : d.UniqueKeys := by decide
  have hDepth : d.depth ≤ 127 := by decide
  have hFormat : Format.json.isJson := by decide
  obtain ⟨hText, -, -, hBytes, hBinder⟩ := parse_written hExact hKeys hDepth
  exact ⟨hExact, hKeys, hDepth, by decide, hFormat, hText, hBytes,
    hBinder .pretty .compact .json (by decide) hFormat⟩

end Cabinet
