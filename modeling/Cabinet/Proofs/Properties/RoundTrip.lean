import Cabinet.Binder.Basic
import Cabinet.Proofs.Path.Addressing
import Cabinet.Proofs.Properties.Blanks
import Cabinet.Proofs.Text.Utf8

/-! Properties text loses nothing but types, exactly as long as blanks are kept. The line of a leaf
then begins with its name, is cut where the key ends and stores the leaf again, so that reading all
lines comes to storing all leaves. A name that holds a bare blank, or a text that begins with one, does
not come back. -/

namespace Cabinet

namespace Properties

variable {d d' : Document} {key : Key} {e : Leaf} {es : List Leaf} {c : Char}

/-! ### Lines of leaves -/

/-- A leaf that comes back from its line. -/
structure Readable (e : Leaf) : Prop where
  field : ∃ name rest, e.1 = .field name :: rest
  spellable : ∀ p ∈ e.1, p.Spellable
  parts : ∀ p ∈ e.1, p.KeepsBlanks
  text : (Document.string e.2).KeepsBlanks

/-- The line of a leaf, without its end. -/
def leafLine (e : Leaf) : List Char :=
  spell false e.1 ++ '=' :: escapeValue e.2.toList

theorem flatMap_leafEntry (es : List Leaf) :
    es.flatMap (leafEntry []) = (es.map leafLine).flatMap fun line => line ++ ['\n'] := by
  rw [List.flatMap_map]
  exact List.flatMap_congr fun e _ => by simp [leafEntry, entry, leafLine]

theorem inSpelling_inline : InSpelling Inline := by
  refine ⟨fun c hc => ?_, fun c hc => inline_structural ?_⟩
  · refine ⟨?_, ?_, ?_⟩ <;> (rintro rfl; revert hc; decide)
  · have hMarks : ['.', '[', ']'].all isStructural := by decide
    exact List.all_eq_true.mp hMarks c hc

/-- Whatever the leaf, its line is written on one line. -/
theorem spelled_leafLine (e : Leaf) : Spelled Marked Inline (leafLine e) := by
  have hKey : Spelled Marked Inline (spell false e.1) :=
    spelled_spell inSpelling_inline (fun _ _ _ _ hShown => hShown.2) false
  exact hKey.append (.plain (by decide) (inline_structural (by decide)) (spelled_escapeValue _))

theorem inSpelling_not_endsKey : InSpelling (¬EndsKey ·) := by
  refine ⟨fun c hc => ?_, fun c hc => ?_⟩
  · rintro (rfl | rfl | hBlank)
    · exact absurd hc (by decide)
    · exact absurd hc (by decide)
    · exact absurd hBlank (by simp [isBlank_of_isDigit hc])
  · have hMarks : ['.', '[', ']'].all fun c => c != '=' && c != ':' && !isBlank c := by decide
    simpa [EndsKey, and_assoc] using List.all_eq_true.mp hMarks c hc

theorem isBlank_of_shown (hShown : Shown c) (hBare : isBareBlank c = false) : isBlank c = false := by
  obtain ⟨hStructural, hInline⟩ := hShown
  refine isBlank_of_not_bare hBare ?_ hInline
  rintro rfl
  exact absurd hStructural (by decide)

theorem not_endsKey_of_shown (hShown : Shown c) (hBare : isBareBlank c = false) : ¬EndsKey c := by
  rintro (rfl | rfl | hBlank)
  · exact absurd hShown.1 (by decide)
  · exact absurd hShown.1 (by decide)
  · exact absurd hBlank (by simp [isBlank_of_shown hShown hBare])

/-- Nothing in a key that keeps its blanks ends it too early. -/
theorem spelled_key (h : ∀ p ∈ key, p.KeepsBlanks) :
    Spelled Marked (¬EndsKey ·) (spell false key) :=
  spelled_spell inSpelling_not_endsKey
    (fun name hName c hc hShown => not_endsKey_of_shown hShown (h (.field name) hName c hc)) false

/-- The line begins with the name, which looks neither like a blank nor like a comment. -/
theorem entry_leafLine (h : Readable e) :
    trimStart (leafLine e) = leafLine e ∧ isIdle (leafLine e) = false := by
  obtain ⟨name, rest, hKey⟩ := h.field
  have hMem : Part.field name ∈ e.1 := hKey ▸ List.mem_cons_self ..
  have hName : name ≠ "" := h.spellable _ hMem
  have hSpelled : Spelled Marked (fun c => isBlank c = false ∧ c ≠ '#' ∧ c ≠ '!')
      (escapeKey name.toList) := by
    refine spelled_escapeKey fun c hc hShown =>
      ⟨isBlank_of_shown hShown (h.parts _ hMem c hc), ?_, ?_⟩ <;>
      (rintro rfl; exact absurd hShown.1 (by decide))
  obtain ⟨c, tail, hText, hc⟩ := hSpelled.exists_head (escapeKey_ne_nil (by simpa using hName))
  have hLine : leafLine e = c :: (tail ++ spell true rest ++ '=' :: escapeValue e.2.toList) := by
    simp [leafLine, hKey, spell, hText]
  obtain ⟨hBlank, hHash, hBang⟩ : isBlank c = false ∧ c ≠ '#' ∧ c ≠ '!' := by
    rcases hc with rfl | hc
    · decide
    · exact hc
  rw [hLine]
  refine ⟨trimStart_eq_self ?_, by simp [isIdle, hHash, hBang]⟩
  rintro c ⟨⟩
  exact hBlank

/-- The entries of the lines are the lines. -/
theorem logicalLines_leafLines (h : ∀ e ∈ es, Readable e) :
    (logicalLines (es.flatMap (leafEntry []))).map Prod.snd = es.map leafLine := by
  have hTrimmed : (es.map leafLine).map trimStart = es.map leafLine := by
    rw [List.map_map]
    exact List.map_congr_left fun e he => (entry_leafLine (h e he)).1
  rw [flatMap_leafEntry, logicalLines_written, hTrimmed, List.filter_eq_self]
  · intro line hLine
    obtain ⟨e, he, rfl⟩ := List.mem_map.mp hLine
    simp [(entry_leafLine (h e he)).2]
  · intro line hLine
    obtain ⟨e, -, rfl⟩ := List.mem_map.mp hLine
    exact spelled_leafLine e

/-- The line of a leaf stores the leaf. -/
theorem readEntry_leafLine (h : Readable e) (n : Nat)
    (hStored : insert (.string e.2) e.1 d = .ok d') : readEntry (n, leafLine e) d = .ok d' := by
  obtain ⟨name, rest, hKey⟩ := h.field
  have hSplit : splitEntry [] false (leafLine e) = (spell false e.1, escapeValue e.2.toList) := by
    rw [leafLine, splitEntry_mark [] (spelled_key h.parts),
      trimStart_escapeValue (Document.keepsBlanks_string_iff.mp h.text)]
    rfl
  have hParts : parse? (spell false e.1) = some e.1 := by
    rw [hKey, parse?_spell (hKey ▸ h.spellable)]
  simp only [readEntry, hSplit, hParts, unescape_escapeValue, String.ofList_toList, hStored,
    Except.mapError]

theorem readEntries_leafLines {lines : List (Nat × List Char)}
    (hLines : lines.map Prod.snd = es.map leafLine) (hReadable : ∀ e ∈ es, Readable e)
    (h : storeAll es d = .ok d') : readEntries lines d = .ok d' := by
  induction es generalizing lines d with
  | nil =>
      obtain rfl := List.map_eq_nil_iff.mp hLines
      obtain rfl := Except.ok.inj h
      rfl
  | cons e es ih =>
      obtain ⟨hHead, hTail⟩ := List.forall_mem_cons.mp hReadable
      obtain ⟨⟨n, line⟩, lines, rfl, rfl, hRest⟩ := List.map_eq_cons_iff.mp hLines
      rw [storeAll] at h
      cases hInsert : insert (.string e.2) e.1 d with
      | error c => simp [hInsert] at h
      | ok made =>
          rw [hInsert] at h
          rw [readEntries, readEntry_leafLine hHead n hInsert]
          exact ih hRest hTail h

/-- The text of leaves is read by storing them. -/
theorem read_leaves (hReadable : ∀ e ∈ es, Readable e) (h : storeAll es (.object []) = .ok d') :
    read (es.flatMap (leafEntry [])) = .ok d' :=
  readEntries_leafLines (logicalLines_leafLines hReadable) hReadable h

/-! ### Documents that come back -/

/-- A step to a child can be spelled, and keeps the blanks of its name. -/
theorem spellable_ofStep {c : Step × Document} (hNamed : d.NamedKeys) (hShort : d.ShortArrays)
    (hKept : d.KeepsBlanks) (hc : c ∈ d.children) :
    (Part.ofStep c.1).Spellable ∧ (Part.ofStep c.1).KeepsBlanks := by
  cases d with
  | array es =>
      obtain ⟨n, hStep, hn⟩ := Document.mem_children_array.mp hc
      have hLength : es.length < Nat.pow 2 63 := of_decide_eq_true (Document.all_iff.mp hShort).1
      have hIndex : n < es.length := (List.getElem?_eq_some_iff.mp hn).1
      rw [hStep]
      exact ⟨Nat.lt_trans (Nat.lt_trans hIndex hLength) (by decide), trivial⟩
  | object ms =>
      obtain ⟨name, hStep, hMember⟩ := Document.mem_children_object.mp hc
      rw [hStep]
      exact ⟨(Document.namedKeys_object_iff.mp hNamed).1 _ hMember,
        (Document.keepsBlanks_object_iff.mp hKept).1 _ hMember⟩
  | _ => exact nomatch hc

/-- What leads to a leaf and what stands there come back. -/
theorem spellable_leaves (hNamed : d.NamedKeys) (hShort : d.ShortArrays) (hKept : d.KeepsBlanks) :
    ∀ e ∈ leaves d, (∀ p ∈ e.1, p.Spellable ∧ p.KeepsBlanks) ∧
      (Document.string e.2).KeepsBlanks := by
  induction d using Document.induction_children with
  | step d ih =>
      by_cases hContainer : isContainer d
      · rw [leaves_container hContainer]
        intro e he
        obtain ⟨c, hc, hBelow⟩ := List.mem_flatMap.mp he
        obtain ⟨leaf, hLeaf, rfl⟩ := List.mem_map.mp hBelow
        obtain ⟨hParts, hText⟩ := ih c hc ((Document.all_iff.mp hNamed).2 c hc)
          ((Document.all_iff.mp hShort).2 c hc) ((Document.all_iff.mp hKept).2 c hc) leaf hLeaf
        exact ⟨List.forall_mem_cons.mpr ⟨spellable_ofStep hNamed hShort hKept hc, hParts⟩, hText⟩
      · have hScalar : isContainer d = false := Bool.not_eq_true _ ▸ hContainer
        rw [leaves_scalar hScalar]
        intro e he
        rw [List.mem_singleton.mp he]
        exact ⟨List.forall_mem_nil _, keepsBlanks_plainText hScalar hKept⟩

/-- The text of an object is read as the object without its types, exactly if it keeps its blanks. -/
theorem read_leaves_object_iff {ms : Members} (hKeys : (Document.object ms).UniqueKeys)
    (hShort : (Document.object ms).ShortArrays) (hNamed : (Document.object ms).NamedKeys)
    (hFilled : ∀ m ∈ ms, m.2.Filled) :
    read ((leavesMembers ms).flatMap (leafEntry [])) = .ok (Document.object ms).untyped ↔
      (Document.object ms).KeepsBlanks := by
  constructor
  · intro hRead
    rw [flatMap_leafEntry] at hRead
    refine Document.keepsBlanks_of_untyped (keepsBlanks_read (fun line hLine => ?_) hRead)
    obtain ⟨e, -, rfl⟩ := List.mem_map.mp hLine
    exact spelled_leafLine e
  · intro hKept
    refine read_leaves (fun e he => ?_) (storeAll_object hKeys hFilled)
    obtain ⟨hParts, hText⟩ := spellable_leaves hNamed hShort hKept e he
    exact ⟨exists_field_of_mem he, fun p hp => (hParts p hp).1, fun p hp => (hParts p hp).2, hText⟩

end Properties

open Properties

/-- Properties text loses nothing but types, exactly as long as blanks are kept: then every scalar
comes back as its text, and all keys, their order, the lengths of arrays and the nesting are as they
were. -/
theorem Binder.properties_decode_encode {ms : Members} {f : Format} (hFormat : f.isProperties)
    (hKeys : (Document.object ms).UniqueKeys) (hShort : (Document.object ms).ShortArrays)
    (hNamed : (Document.object ms).NamedKeys) (hFilled : ∀ m ∈ ms, m.2.Filled) :
    ∃ bytes, Binder.properties.encode (.object ms) f = .ok bytes ∧
      (Binder.properties.decode bytes f = .ok (Document.object ms).untyped ↔
        (Document.object ms).KeepsBlanks) := by
  have hWritten := writesLeaves hNamed []
  rw [write, leaves] at hWritten
  refine ⟨_, by rw [encode, if_pos hFormat, encodeProperties, hWritten], ?_⟩
  rw [decode, if_pos hFormat, decodeProperties, Utf8.decode_encode]
  dsimp only
  rw [mapError_eq_ok]
  exact read_leaves_object_iff hKeys hShort hNamed hFilled

/-- Names that look like structure, a text of blanks and breaks, and every kind of scalar. -/
theorem Binder.properties_decode_encode_nested :
    let scalars : List Document := [.null, .boolean true, .number (.integer (Integer.clamp (-5)))]
    let texts : List Document := [.string "", .string "true", .string "-5"]
    let ms : Members := [("a.b[0]", .object [(" x=\t", .array scalars)]), ("#", .string " \\\n:y ")]
    Document.UniqueKeys (.object ms) ∧ Document.ShortArrays (.object ms) ∧
      Document.NamedKeys (.object ms) ∧ (∀ m ∈ ms, m.2.Filled) ∧ Document.KeepsBlanks (.object ms) ∧
      ∃ bytes, Binder.properties.encode (.object ms) .properties = .ok bytes ∧
        Binder.properties.decode bytes .properties = .ok (.object
          [("a.b[0]", .object [(" x=\t", .array texts)]), ("#", .string " \\\n:y ")]) := by
  intro scalars texts ms
  have hKeys : Document.UniqueKeys (.object ms) := by decide
  have hShort : Document.ShortArrays (.object ms) := by decide
  have hNamed : Document.NamedKeys (.object ms) := by decide
  have hFilled : ∀ m ∈ ms, m.2.Filled := by
    refine List.forall_mem_cons.mpr ⟨by decide, List.forall_mem_cons.mpr ⟨by decide, ?_⟩⟩
    exact fun m hm => nomatch hm
  have hKept : Document.KeepsBlanks (.object ms) := by decide
  obtain ⟨bytes, hWritten, hRead⟩ :=
    Binder.properties_decode_encode (f := .properties) (by decide) hKeys hShort hNamed hFilled
  exact ⟨hKeys, hShort, hNamed, hFilled, hKept, bytes, hWritten, hRead.mpr hKept⟩

/-- A no-break space at the start of a name is written without a backslash, and the reader drops it. -/
theorem Binder.not_properties_decode_encode_blank :
    let ms : Members := [("\u00a0k", .string "v")]
    Document.UniqueKeys (.object ms) ∧ Document.ShortArrays (.object ms) ∧
      Document.NamedKeys (.object ms) ∧ (∀ m ∈ ms, m.2.Filled) ∧
      ¬∃ bytes, Binder.properties.encode (.object ms) .properties = .ok bytes ∧
        Binder.properties.decode bytes .properties = .ok (Document.object ms).untyped := by
  intro ms
  have hFilled : ∀ m ∈ ms, m.2.Filled :=
    List.forall_mem_cons.mpr ⟨by decide, fun m hm => nomatch hm⟩
  refine ⟨by decide, by decide, by decide, hFilled, ?_⟩
  rintro ⟨bytes, hWritten, hRead⟩
  have hText : Binder.properties.encode (.object ms) .properties =
      .ok (Utf8.encode ['\u00a0', 'k', '=', 'v', '\n']) := by
    simp only [ms]
    rfl
  obtain rfl := Except.ok.inj (hText.symm.trans hWritten)
  have hDropped : Properties.read ['\u00a0', 'k', '=', 'v', '\n'] =
      .ok (.object [("k", .string "v")]) := by rfl
  rw [Binder.decode, if_pos (by decide), Binder.decodeProperties, Utf8.decode_encode] at hRead
  dsimp only at hRead
  rw [hDropped] at hRead
  simp [Except.mapError, ms, Document.untyped, Document.untypedMembers] at hRead

end Cabinet
