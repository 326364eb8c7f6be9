import Cabinet.Properties.Basic
import Cabinet.Proofs.Properties.Key

/-! Keys as the writer spells them, part by part on its way down to a leaf. Every spelling is read as
the key that it was made from, and so is every value. -/

namespace Cabinet.Properties

variable {key : Key}

/-- Make a key longer by one part, as the writer does with the name of a member or the position of an
element. -/
def extendKey (pre : List Char) : Part → List Char
  | .field name => memberKey pre name
  | .index n => elementKey pre n

theorem extendKey_ne_nil (pre : List Char) {p : Part} (hPart : p.Spellable) : extendKey pre p ≠ [] := by
  cases p with
  | field name =>
      have hNamed : name ≠ "" := hPart
      have hName : escapeKey name.toList ≠ [] := escapeKey_ne_nil (by simpa using hNamed)
      cases pre with
      | nil => simpa [extendKey, memberKey] using hName
      | cons c pre => simp [extendKey, memberKey]
  | index n => simp [extendKey, elementKey]

/-- A point stands before a name, unless the name comes first. -/
theorem extendKey_eq (pre : List Char) (p : Part) (rest : Key) :
    pre ++ spell (!pre.isEmpty) (p :: rest) = extendKey pre p ++ spell true rest := by
  cases p with
  | field name => cases pre <;> simp [extendKey, memberKey, spell]
  | index n => simp [extendKey, elementKey, spell]

/-- Spelled part by part, a key is the same text. -/
theorem foldl_extendKey (pre : List Char) (hKey : ∀ p ∈ key, p.Spellable) :
    key.foldl extendKey pre = pre ++ spell (!pre.isEmpty) key := by
  induction key generalizing pre with
  | nil => simp [spell]
  | cons p rest ih =>
      obtain ⟨hPart, hRest⟩ := List.forall_mem_cons.mp hKey
      have hDotted : (!(extendKey pre p).isEmpty) = true := by simpa using extendKey_ne_nil pre hPart
      rw [List.foldl_cons, ih _ hRest, extendKey_eq, hDotted]

/-- A key that begins with a name is read back as the writer spells it, whatever characters its names
hold, and a value is read back as it is escaped. -/
theorem spelling_inverse {name : String} {rest : Key}
    (hKey : ∀ p ∈ Part.field name :: rest, p.Spellable) :
    parse? ((Part.field name :: rest).foldl extendKey []) = some (.field name :: rest) ∧
      ∀ s : String, String.ofList (unescape (escapeValue s.toList)) = s := by
  refine ⟨?_, fun s => by rw [unescape_escapeValue, String.ofList_toList]⟩
  rw [foldl_extendKey [] hKey, List.nil_append]
  exact parse?_spell hKey

/-- Names that look like structure or like escapes, the greatest index, and a name behind it. -/
theorem spelling_inverse_marks :
    let key : Key := [.field "a.b[0]\\", .index 0, .index 18446744073709551615, .field "\\u0041 \n=é"]
    (∀ p ∈ key, p.Spellable) ∧ parse? (key.foldl extendKey []) = some key ∧
      String.ofList (key.foldl extendKey []) =
        "a\\.b\\[0\\]\\\\[0][18446744073709551615].\\\\u0041\\ \\n\\=é" := by
  intro key
  have hKey : ∀ p ∈ key, p.Spellable := by
    simp [key, Part.Spellable]
  exact ⟨hKey, (spelling_inverse hKey).1, by decide⟩

end Cabinet.Properties
