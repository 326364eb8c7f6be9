import Cabinet.Json.Parser

/-! The text of an object lists members, and a key may stand there more than once. The object that is read
has put them one by one, as the entries of any list are put. -/

namespace Cabinet

namespace Json

open Utf8 (Piece)

variable {text rest : List Piece} {read : List Piece → Result Document} {ms : Members}

/-- The members that the text of an object lists, each as often as it stands there; none if the text is not
the text of an object. -/
def listed? (text : List Piece) : Option (List (String × Document)) :=
  match skipSpace text with
  | .char '\x7b' :: after =>
    match members (value (depthLimit - 1)) (after.length + 1) true [] after with
    | .ok (entries, rest) => if skipSpace rest = [] then some entries else none
    | .error _ => none
  | _ => none

theorem Result.map_eq_ok {α β : Type} {f : α → β} {r : Result α} {b : β}
    (h : r.map f = .ok (b, rest)) : ∃ a, r = .ok (a, rest) ∧ f a = b := by
  cases r with
  | error e => exact absurd h (by simp [Result.map])
  | ok r =>
      cases h
      exact ⟨_, rfl, rfl⟩

/-- A text that is read as an object begins with a brace. -/
theorem exists_brace (h : valueWith (some read) text = .ok (.object ms, rest)) :
    ∃ after, skipSpace text = .char '\x7b' :: after := by
  unfold valueWith at h
  dsimp only at h
  split at h
  · cases h
  · rename_i c after hHere
    by_cases hBrace : c = '\x7b'
    · exact ⟨after, hBrace ▸ hHere⟩
    · -- every other character begins a value of another kind or none
      simp only [if_neg hBrace] at h
      repeat' split at h
      all_goals first
        | cases h
        | (obtain ⟨a, -, hKind⟩ := Result.map_eq_ok h; cases hKind)
  · cases h

theorem valueWith_brace {after : List Piece} (h : skipSpace text = .char '\x7b' :: after) :
    valueWith (some read) text =
      (members read (after.length + 1) true [] after).map fun entries => .object (Members.ofList entries) := by
  have hSpace : isDigit '\x7b' = false := by decide
  simp [valueWith, h, hSpace]

theorem listed?_eq_some_iff {entries : List (String × Document)} : listed? text = some entries ↔
    ∃ after rest, skipSpace text = .char '\x7b' :: after ∧
      members (value (depthLimit - 1)) (after.length + 1) true [] after = .ok (entries, rest) ∧
      skipSpace rest = [] := by
  constructor
  · intro h
    unfold listed? at h
    split at h
    · rename_i after hBrace
      split at h
      · rename_i read rest hMembers
        split at h
        · rename_i hEnd
          cases h
          exact ⟨after, rest, hBrace, hMembers, hEnd⟩
        · cases h
      · cases h
    · cases h
  · rintro ⟨after, rest, hBrace, hMembers, hEnd⟩
    simp only [listed?, hBrace, hMembers, hEnd, if_true]

theorem document_eq_ok_iff {d : Document} : document text = .ok d ↔
    ∃ rest, value depthLimit text = .ok (d, rest) ∧ skipSpace rest = [] := by
  constructor
  · intro h
    unfold document at h
    split at h
    · cases h
    · rename_i e rest hRead
      split at h
      · rename_i hEnd
        cases h
        exact ⟨rest, hRead, hEnd⟩
      · cases h
  · rintro ⟨rest, hRead, hEnd⟩
    simp only [document, hRead, hEnd]

/-- A text is read as an object if it lists members, and then its members are put one by one. -/
theorem document_eq_object_iff : document text = .ok (.object ms) ↔
    ∃ entries, listed? text = some entries ∧ Members.ofList entries = ms := by
  have hValue : value depthLimit = valueWith (some (value (depthLimit - 1))) := rfl
  rw [document_eq_ok_iff, hValue]
  constructor
  · rintro ⟨rest, hRead, hEnd⟩
    obtain ⟨after, hBrace⟩ := exists_brace hRead
    obtain ⟨entries, hMembers, hMade⟩ := Result.map_eq_ok (valueWith_brace hBrace ▸ hRead)
    cases hMade
    exact ⟨entries, listed?_eq_some_iff.mpr ⟨after, rest, hBrace, hMembers, hEnd⟩, rfl⟩
  · rintro ⟨entries, hListed, rfl⟩
    obtain ⟨after, rest, hBrace, hMembers, hEnd⟩ := listed?_eq_some_iff.mp hListed
    refine ⟨rest, ?_, hEnd⟩
    rw [valueWith_brace hBrace, hMembers]
    rfl

theorem ofPieces_eq_ok_iff {d : Document} : ofPieces text = .ok d ↔ document text = .ok d := by
  rw [ofPieces]
  cases document text with
  | error f => exact iff_of_false nofun nofun
  | ok e => constructor <;> (rintro ⟨⟩; rfl)

end Json

theorem Document.parseObject_eq_ok_iff {text : List Utf8.Piece} {ms : Members} :
    parseObject text = .ok (.object ms) ↔
      ∃ entries, Json.listed? text = some entries ∧ Members.ofList entries = ms := by
  rw [← Json.document_eq_object_iff, ← Json.ofPieces_eq_ok_iff, parseObject, parseAs]
  constructor
  · intro h
    split at h
    · split at h
      · exact h
      · cases h
    · cases h
  · intro h
    obtain ⟨rest, hRead, -⟩ := Json.document_eq_ok_iff.mp (Json.ofPieces_eq_ok_iff.mp h)
    have hKind : (Document.object ms).is .object = true := rfl
    simp only [hRead, hKind, if_true, h]

end Cabinet
