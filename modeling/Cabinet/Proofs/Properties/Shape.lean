import Cabinet.Binder.Basic
import Cabinet.Proofs.Properties.Leaves
import Cabinet.Proofs.Properties.Reading

/-! The shape of documents that are read from properties text. A container is made just before
something is stored in it, and an array is filled up with nulls just before the element behind them
is stored, so that none of these is left over. A member without a name would need a backslash without
its character. Such a document can always be written again. -/

namespace Cabinet

/-- A document that has grown by storing strings: no container is empty, no name is empty, and a null
stands only before another element. -/
inductive Document.Grown : Document → Prop where
  | string (s : String) : Grown (.string s)
  | array {es : List Document} (hNonempty : es ≠ []) (hLast : es.getLast? ≠ some .null)
      (hElements : ∀ e ∈ es, e ≠ .null → Grown e) : Grown (.array es)
  | object {ms : Members} (hNonempty : ms ≠ []) (hNames : ∀ m ∈ ms, m.1 ≠ "")
      (hMembers : ∀ m ∈ ms, Grown m.2) : Grown (.object ms)

namespace Properties

variable {d d' : Document} {name : String} {n : Nat}

/-! ### What grows -/

open Document (Grown)

/-- A container that things are stored in: as it is afterwards, but for being empty at first. -/
def Growing : Document → Prop
  | .array es => es.getLast? ≠ some .null ∧ ∀ e ∈ es, e ≠ .null → e.Grown
  | .object ms => ∀ m ∈ ms, m.1 ≠ "" ∧ m.2.Grown
  | _ => True

theorem Growing.of_grown (h : d.Grown) : Growing d := by
  cases h with
  | string s => trivial
  | array _ hLast hElements => exact ⟨hLast, hElements⟩
  | object _ hNames hMembers => exact fun m hm => ⟨hNames m hm, hMembers m hm⟩

theorem growing_containerFor (p : Part) : Growing (containerFor p) := by
  cases p with
  | field name => exact fun m hm => nomatch hm
  | index n => exact ⟨by simp, fun e he => nomatch he⟩

theorem grown_put {ms : Members} {c : Document} (hms : Growing (.object ms)) (hName : name ≠ "")
    (hc : c.Grown) : (Document.object (Members.put name c ms)).Grown := by
  have hStored : ∀ m ∈ Members.put name c ms, m.1 ≠ "" ∧ m.2.Grown := by
    intro m hm
    rcases Members.mem_put hm with rfl | hm
    · exact ⟨hName, hc⟩
    · exact hms m hm
  have hNonempty : Members.put name c ms ≠ [] :=
    List.ne_nil_of_mem (Members.mem_of_get? (Members.get?_put name c ms))
  exact .object hNonempty (fun m hm => (hStored m hm).1) fun m hm => (hStored m hm).2

theorem grown_set {es : List Document} {c : Document} (hes : Growing (.array es)) (hc : c.Grown) :
    (Document.array (Elements.set n c es)).Grown := by
  refine .array (Elements.set_ne_nil n c es) ?_ fun e he hNull => ?_
  · rcases Elements.getLast?_set n c es with hLast | hLast
    · rw [hLast]
      rintro ⟨⟩
      cases hc
    · exact hLast ▸ hes.1
  · rcases Elements.mem_set he with rfl | he | rfl
    · exact hc
    · exact hes.2 e he hNull
    · exact absurd rfl hNull

/-- Storing under keys with names leaves nothing empty behind. -/
theorem stores_grown : Stores Part.Named Growing Grown where
  weaken := .of_grown
  fresh := growing_containerFor
  member h hc := .of_grown (h _ hc).2
  element h hc hNull := .of_grown (h.2 _ hc hNull)
  put := grown_put
  set _ := grown_set

theorem reads_grown {behind bare : Char → Prop} : Reads behind bare Part.Named Growing Grown where
  parts := makes_named
  value _ _ := .string _
  stores := stores_grown

theorem growing_read {text : List Char} (h : read text = .ok d) :
    ∃ ms, d = .object ms ∧ Growing (.object ms) := by
  obtain ⟨ms, rfl⟩ := exists_object_of_readEntries h
  exact ⟨ms, rfl, reads_grown.before_readEntries (fun _ => whole_of_mem_logicalLines)
    (growing_containerFor (.field "")) h⟩

theorem namedKeys_of_grown (h : d.Grown) : d.NamedKeys := by
  induction h with
  | string s => rfl
  | @array es _ _ _ ih =>
      refine Document.namedKeys_array_iff.mpr fun e he => ?_
      by_cases hNull : e = .null
      · exact hNull ▸ rfl
      · exact ih e he hNull
  | object _ hNames _ ih => exact Document.namedKeys_object_iff.mpr ⟨hNames, ih⟩

end Properties

open Properties

/-- A document that is read from properties text is an object with names for all its members. Its
leaves are strings, and nulls in front of other elements; nothing in it is empty. It can be written
again. -/
theorem Binder.properties_decode_grown {bytes : List UInt8} {f : Format} {d : Document}
    (h : Binder.properties.decode bytes f = .ok d) :
    (∃ ms, d = .object ms ∧ ∀ m ∈ ms, m.1 ≠ "" ∧ m.2.Grown) ∧
      ∀ g : Format, g.isProperties → ∃ out, Binder.properties.encode d g = .ok out := by
  rw [decode] at h
  split at h
  · rw [decodeProperties] at h
    split at h
    · exact absurd h (by simp)
    · obtain ⟨ms, rfl, hMembers⟩ := growing_read (mapError_eq_ok.mp h)
      refine ⟨⟨ms, rfl, hMembers⟩, fun g hg => ?_⟩
      have hNamed : (Document.object ms).NamedKeys := Document.namedKeys_object_iff.mpr
        ⟨fun m hm => (hMembers m hm).1, fun m hm => namedKeys_of_grown (hMembers m hm).2⟩
      have hWritten := writesLeaves hNamed []
      rw [write] at hWritten
      rw [encode, if_pos hg, encodeProperties, hWritten]
      exact ⟨_, rfl⟩
  · exact absurd h (by simp)

/-- Comments, blank lines, a line that goes on, escapes, a position past the end and a key that comes
twice. -/
theorem Binder.properties_decode_grown_nested :
    let text := "# settings\n\n ! none\nlist[2] = c\nlist[0].a\\ b = one \\\n  two\nlist[0].a\\ b:\\u0041"
    let bytes := Utf8.encode text.toList
    let list : Document := .array [.object [("a b", .string "A")], .null, .string "c"]
    let d : Document := .object [("list", list)]
    Binder.properties.decode bytes .properties = .ok d ∧ list.Grown ∧
      ∃ out, Binder.properties.encode d .properties = .ok out := by
  intro text bytes list d
  have hRead : Binder.properties.decode bytes .properties = .ok d := by
    simp only [bytes, text, d, list]
    rfl
  obtain ⟨⟨ms, hObject, hMembers⟩, hWritten⟩ := Binder.properties_decode_grown hRead
  obtain rfl := Document.object.inj hObject
  exact ⟨hRead, (hMembers ("list", list) (List.mem_singleton.mpr rfl)).2,
    hWritten .properties (by decide)⟩

end Cabinet
