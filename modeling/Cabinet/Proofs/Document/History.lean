import Cabinet.Proofs.Document.Merging
import Cabinet.Proofs.Json.MemberList
import Cabinet.Proofs.Json.RoundTrip
import Mathlib.Data.List.Induction
import Mathlib.Data.Set.Card

/-! Objects over their whole history. An edit comes down to events, each of which stores one value, removes
one key or removes them all. Which keys an object has, with which values and in which order can then be told
from the events alone: a key is there as long as it has not been removed since it was stored, it holds what
was stored last, and it stands where it was put when it came. Bulk edits and texts are no exception, since
they store their entries one by one. -/

namespace Cabinet.Members

section Since

variable {α : Type} {now : List α → α → Prop} {after : α → Prop} {past : List α} {e : α}

/-- Something has happened, told by what had happened before, and whatever has happened after it is of
some kind. -/
def Since (now : List α → α → Prop) (after : α → Prop) (past : List α) : Prop :=
  ∃ older e newer, past = older ++ e :: newer ∧ now older e ∧ ∀ f ∈ newer, after f

theorem not_since_nil : ¬Since now after [] := by
  rintro ⟨older, e, newer, h, -⟩
  simp at h

theorem since_concat : Since now after (past ++ [e]) ↔ now past e ∨ Since now after past ∧ after e := by
  constructor
  · rintro ⟨older, f, newer, hPast, hNow, hAfter⟩
    rcases List.eq_nil_or_concat' newer with rfl | ⟨newer, g, rfl⟩
    · obtain ⟨rfl, hLast⟩ := List.append_inj' hPast rfl
      cases hLast
      exact .inl hNow
    · rw [← List.cons_append, ← List.append_assoc] at hPast
      obtain ⟨rfl, hLast⟩ := List.append_inj' hPast rfl
      cases hLast
      exact .inr ⟨⟨older, f, newer, rfl, hNow, fun x hx => hAfter x (by simp [hx])⟩, hAfter e (by simp)⟩
  · rintro (hNow | ⟨⟨older, f, newer, rfl, hNow, hAfter⟩, he⟩)
    · exact ⟨past, e, [], rfl, hNow, by simp⟩
    · refine ⟨older, f, newer ++ [e], by simp, hNow, fun x hx => ?_⟩
      rcases List.mem_append.mp hx with hx | hx
      · exact hAfter x hx
      · exact List.mem_singleton.mp hx ▸ he

end Since

/-- What an edit does to an object in the end. -/
inductive Event
  | store (key : String) (value : Document)
  /-- A value is written over the one that is found under a key, if there is one. -/
  | replace (key : String) (value : Document)
  | remove (key : String)
  | clear

namespace Event

def apply (ms : Members) : Event → Members
  | store key value => put key value ms
  | replace key value => modify key (fun _ => value) ms
  | remove key => Members.remove key ms
  | clear => []

def Stores (key : String) : Event → Prop
  | store k _ => k = key
  | _ => False

def Writes (key : String) : Event → Prop
  | store k _ | replace k _ => k = key
  | _ => False

def Removes (key : String) : Event → Prop
  | remove k => k = key
  | clear => True
  | _ => False

theorem Stores.not_removes {key : String} {e : Event} (h : e.Stores key) : ¬e.Removes key := by
  cases e with
  | store => exact id
  | replace | remove | clear => exact h.elim

end Event

variable {past : List Event} {e : Event} {key k l : String} {value : Document} {time : Nat} {ms : Members}

/-- A key is there: it was stored and has not been removed since. -/
def Live (key : String) : List Event → Prop :=
  Since (fun _ e => e.Stores key) fun e => ¬e.Removes key

/-- A value is what was stored last under a key, which has not been removed since. Writing over a value
stores only if there is one. -/
def Latest (key : String) (value : Document) : List Event → Prop :=
  Since (fun older e => e = .store key value ∨ e = .replace key value ∧ Live key older)
    fun e => ¬e.Writes key ∧ ¬e.Removes key

/-- The time at which a key was stored first since it was last removed. -/
def Entered (key : String) (time : Nat) : List Event → Prop :=
  Since (fun older e => e.Stores key ∧ ¬Live key older ∧ older.length = time) fun e => ¬e.Removes key

/-- Of two keys the first one came first. -/
def Precedes (past : List Event) (k l : String) : Prop :=
  ∃ s t, Entered k s past ∧ Entered l t past ∧ s < t

theorem live_concat : Live key (past ++ [e]) ↔ e.Stores key ∨ Live key past ∧ ¬e.Removes key :=
  since_concat

theorem latest_concat : Latest key value (past ++ [e]) ↔
    (e = .store key value ∨ e = .replace key value ∧ Live key past) ∨
      Latest key value past ∧ ¬e.Writes key ∧ ¬e.Removes key :=
  since_concat

theorem entered_concat : Entered key time (past ++ [e]) ↔
    (e.Stores key ∧ ¬Live key past ∧ past.length = time) ∨ Entered key time past ∧ ¬e.Removes key :=
  since_concat

theorem Entered.live (h : Entered key time past) : Live key past :=
  let ⟨older, e, newer, hPast, hNow, hAfter⟩ := h
  ⟨older, e, newer, hPast, hNow.1, hAfter⟩

theorem Entered.lt_length (h : Entered key time past) : time < past.length := by
  obtain ⟨older, e, newer, rfl, ⟨-, -, rfl⟩, -⟩ := h
  simp

/-- A key that is there has come at one time. -/
theorem existsUnique_entered (h : Live key past) : ∃! time, Entered key time past := by
  induction past using List.reverseRecOn with
  | nil => exact absurd h not_since_nil
  | append_singleton past e ih =>
      by_cases hBefore : Live key past
      · obtain ⟨time, hTime, hOnly⟩ := ih hBefore
        have hKept : ¬e.Removes key := by
          rcases live_concat.mp h with hStores | ⟨-, hKept⟩
          · exact hStores.not_removes
          · exact hKept
        refine ⟨time, entered_concat.mpr (.inr ⟨hTime, hKept⟩), fun s hs => ?_⟩
        rcases entered_concat.mp hs with ⟨-, hFresh, -⟩ | ⟨hEarlier, -⟩
        · exact absurd hBefore hFresh
        · exact hOnly s hEarlier
      · have hStores := (live_concat.mp h).resolve_right fun hOld => hBefore hOld.1
        refine ⟨past.length, entered_concat.mpr (.inl ⟨hStores, hBefore, rfl⟩), fun s hs => ?_⟩
        rcases entered_concat.mp hs with ⟨-, -, rfl⟩ | ⟨hEarlier, -⟩
        · rfl
        · exact absurd hEarlier.live hBefore

theorem Precedes.concat (h : Precedes past k l) (hk : ¬e.Removes k) (hl : ¬e.Removes l) :
    Precedes (past ++ [e]) k l :=
  let ⟨s, t, hs, ht, hLess⟩ := h
  ⟨s, t, entered_concat.mpr (.inr ⟨hs, hk⟩), entered_concat.mpr (.inr ⟨ht, hl⟩), hLess⟩

/-- A key that comes now comes after those that are there and stay. -/
theorem precedes_new (hk : Live k past) (hKept : ¬e.Removes k) (hNew : ¬Live l past) (hStores : e.Stores l) :
    Precedes (past ++ [e]) k l := by
  obtain ⟨s, hs, -⟩ := existsUnique_entered hk
  exact ⟨s, past.length, entered_concat.mpr (.inr ⟨hs, hKept⟩),
    entered_concat.mpr (.inl ⟨hStores, hNew, rfl⟩), hs.lt_length⟩

/-- An object is what its history tells: it lists the keys that are there, each once and in the order in which
they came, and has the latest value of each. -/
structure Records (past : List Event) (ms : Members) : Prop where
  once : (keys ms).Nodup
  live : ∀ key, key ∈ keys ms ↔ Live key past
  latest : ∀ key value, get? key ms = some value ↔ Latest key value past
  order : (keys ms).Pairwise (Precedes past)

namespace Records

theorem nil : Records [] [] where
  once := List.nodup_nil
  live _ := iff_of_false List.not_mem_nil not_since_nil
  latest _ _ := iff_of_false (Option.some_ne_none _).symm not_since_nil
  order := List.Pairwise.nil

theorem store (h : Records past ms) (key : String) (value : Document) :
    Records (past ++ [.store key value]) (put key value ms) where
  once := nodup_keys_put key value h.once
  live k := by
    rw [live_concat, ← h.live k, keys_put]
    split <;> grind [Event.Stores, Event.Removes]
  latest k v := by
    rw [latest_concat, ← h.latest k v]
    by_cases hKey : k = key
    · subst k
      simp [get?_put, Event.Writes]
    · simp [get?_put_of_ne hKey, Event.Writes, Event.Removes, Ne.symm hKey]
  order := by
    have hOld : (keys ms).Pairwise (Precedes (past ++ [.store key value])) :=
      h.order.imp fun hOrder => hOrder.concat id id
    rw [keys_put]
    split
    · exact hOld
    · rename_i hFresh
      refine List.pairwise_append.mpr ⟨hOld, List.pairwise_singleton _ _, fun k hk l hl => ?_⟩
      rw [List.mem_singleton.mp hl]
      exact precedes_new ((h.live k).mp hk) id (mt (h.live key).mpr hFresh) rfl

theorem replace (h : Records past ms) (key : String) (value : Document) :
    Records (past ++ [.replace key value]) (modify key (fun _ => value) ms) where
  once := keys_modify key _ ms ▸ h.once
  live k := by
    rw [live_concat, ← h.live k, keys_modify]
    simp [Event.Stores, Event.Removes]
  latest k v := by
    rw [latest_concat, ← h.latest k v]
    by_cases hKey : k = key
    · subst k
      rw [get?_modify, ← h.live key, ← get?_isSome_iff]
      cases get? key ms <;> simp [Event.Writes]
    · simp [get?_modify_of_ne hKey, Event.Writes, Event.Removes, Ne.symm hKey]
  order := by
    rw [keys_modify]
    exact h.order.imp fun hOrder => hOrder.concat id id

theorem remove (h : Records past ms) (key : String) :
    Records (past ++ [.remove key]) (Members.remove key ms) where
  once := keys_remove key ms ▸ h.once.erase key
  live k := by
    rw [live_concat, ← h.live k, keys_remove, h.once.mem_erase_iff]
    simp [Event.Stores, Event.Removes, and_comm, eq_comm]
  latest k v := by
    rw [latest_concat, ← h.latest k v]
    by_cases hKey : k = key
    · subst k
      simp [get?_remove h.once, Event.Removes]
    · simp [get?_remove_of_ne hKey, Event.Writes, Event.Removes, Ne.symm hKey]
  order := by
    rw [keys_remove]
    refine (h.order.sublist (List.erase_sublist ..)).imp_of_mem fun hk hl hOrder => hOrder.concat ?_ ?_
    · exact fun hGone => (h.once.mem_erase_iff.mp hk).1 hGone.symm
    · exact fun hGone => (h.once.mem_erase_iff.mp hl).1 hGone.symm

theorem clear (past : List Event) : Records (past ++ [.clear]) [] where
  once := List.nodup_nil
  live k := by simp [live_concat, keys, Event.Stores, Event.Removes]
  latest k v := by simp [latest_concat, get?, Event.Removes]
  order := List.Pairwise.nil

/-- One event keeps an object what its history tells. -/
theorem step (h : Records past ms) (e : Event) : Records (past ++ [e]) (e.apply ms) := by
  cases e with
  | store key value => exact h.store key value
  | replace key value => exact h.replace key value
  | remove key => exact h.remove key
  | clear => exact clear past

theorem run (h : Records past ms) (events : List Event) :
    Records (past ++ events) (events.foldl Event.apply ms) := by
  induction events generalizing past ms with
  | nil => simpa using h
  | cons e events ih => simpa using ih (h.step e)

/-- There are as many members as keys that have not been removed since they were stored. -/
theorem length_eq (h : Records past ms) : ms.length = {key | Live key past}.ncard := by
  have hSet : {key | Live key past} = ((keys ms).toFinset : Set String) := by
    ext key
    simp [h.live key]
  rw [hSet, Set.ncard_coe_finset, List.toFinset_card_of_nodup h.once, keys, List.length_map]

theorem get?_eq_none_iff (h : Records past ms) (key : String) : get? key ms = none ↔ ¬Live key past := by
  rw [← h.live key, ← get?_isSome_iff, Option.not_isSome_iff_eq_none]

end Records

/-- The values stand in the order of their keys. -/
theorem map_get?_keys (hKeys : (keys ms).Nodup) : (keys ms).map (get? · ms) = (values ms).map some := by
  simp only [keys, values, List.map_map]
  exact List.map_congr_left fun m hm => (get?_eq_some_iff_mem hKeys).mpr hm

theorem zip_keys_values (ms : Members) : (keys ms).zip (values ms) = ms := by
  rw [keys, values, List.zip_map', List.map_id']

/-- The canonical text gives the members in the order of their keys. -/
theorem compact_eq (ms : Members) : (Document.object ms).compact =
    '\x7b' :: [','].intercalate
      (List.zipWith (fun k d => Document.quote k ++ ':' :: d.compact) (keys ms) (values ms)) ++ ['\x7d'] := by
  rw [Document.compact, Json.separate_eq_intercalate, Document.compactMembers_eq, keys, values,
    List.zipWith_map, List.zipWith_self]

/-- What a caller does to an object. A text that is not read as an object leaves the one at hand. -/
inductive Edit
  /-- Whether the object is passed on or not. -/
  | put (key : String) (value : Document)
  | remove (key : String)
  /-- A value is written through a reference to the one under a key. -/
  | replace (key : String) (value : Document)
  | extend (entries : List (String × Document))
  | merge (other : Members)
  | collect (entries : List (String × Document))
  | parse (text : List Utf8.Piece)

namespace Edit

def apply (ms : Members) : Edit → Members
  | put key value => Members.put key value ms
  | remove key => Members.remove key ms
  | replace key value => modify key (fun _ => value) ms
  | extend entries => Members.extend ms entries
  | merge other => Members.extend ms other
  | collect entries => ofList entries
  | parse text =>
    match Document.parseObject text with
    | .ok (.object made) => made
    | _ => ms

def stores (entries : List (String × Document)) : List Event :=
  entries.map fun m => .store m.1 m.2

/-- What the edit does, event by event. Members that make a new object come after all others are gone. -/
def events : Edit → List Event
  | put key value => [.store key value]
  | remove key => [.remove key]
  | replace key value => [.replace key value]
  | extend entries => stores entries
  | merge other => stores other
  | collect entries => .clear :: stores entries
  | parse text =>
    match Json.listed? text with
    | some entries => .clear :: stores entries
    | none => []

theorem foldl_stores (entries : List (String × Document)) (ms : Members) :
    (stores entries).foldl Event.apply ms = Members.extend ms entries :=
  List.foldl_map

theorem apply_eq (ms : Members) (edit : Edit) : edit.apply ms = edit.events.foldl Event.apply ms := by
  cases edit with
  | put | remove | replace => rfl
  | extend entries => exact (foldl_stores entries ms).symm
  | merge other => exact (foldl_stores other ms).symm
  | collect entries => exact (foldl_stores entries []).symm
  | parse text =>
      simp only [apply, events]
      cases hListed : Json.listed? text with
      | some entries =>
          rw [Document.parseObject_eq_ok_iff.mpr ⟨entries, hListed, rfl⟩]
          exact (foldl_stores entries []).symm
      | none =>
          split
          · rename_i made hParse
            obtain ⟨entries, hSome, -⟩ := Document.parseObject_eq_ok_iff.mp hParse
            cases hListed.symm.trans hSome
          · rfl

end Edit

/-- The object that edits make of the empty one. -/
def edited (edits : List Edit) : Members :=
  edits.foldl Edit.apply []

/-- All that happens while the edits are made. -/
def history (edits : List Edit) : List Event :=
  edits.flatMap Edit.events

theorem records_edited (edits : List Edit) : Records (history edits) (edited edits) := by
  have hEvents : edited edits = (history edits).foldl Event.apply [] := by
    rw [edited, history, List.foldl_flatMap]
    exact congrArg (List.foldl · [] edits) (funext₂ Edit.apply_eq)
  exact hEvents ▸ Records.nil.run (history edits)

/-- An object is an ordered map over its whole history, and objects are merged as such maps are. -/
theorem edited_follows_history (edits others more : List Edit) :
    let past := history edits
    let a := edited edits
    let b := edited others
    let c := edited more
    -- each key once, the latest values, in the order of their coming
    Records past a ∧
    (∀ key, get? key a = none ↔ ¬Live key past) ∧
    (∀ key, Live key past ↔ ∃! time, Entered key time past) ∧
    a.length = {key | Live key past}.ncard ∧
    -- all listings have that order
    (keys a).map (get? · a) = (values a).map some ∧
    a = (keys a).zip (values a) ∧
    (Document.object a).compact = '\x7b' :: [','].intercalate
      (List.zipWith (fun k d => Document.quote k ++ ':' :: d.compact) (keys a) (values a)) ++ ['\x7d'] ∧
    -- merging
    (Edit.merge b).apply a = (Edit.extend ((keys b).zip (values b))).apply a ∧
    keys ((Edit.merge b).apply a) = keys a ++ (keys b).filter (· ∉ keys a) ∧
    (∀ key, get? key ((Edit.merge b).apply a) = (get? key b).or (get? key a)) ∧
    (Edit.merge c).apply ((Edit.merge b).apply a) = (Edit.merge ((Edit.merge c).apply b)).apply a ∧
    (Edit.merge []).apply a = a ∧
    (Edit.merge a).apply [] = a ∧
    (Edit.merge a).apply a = a := by
  intro past a b c
  have ha := records_edited edits
  have hb := (records_edited others).once
  have hc := (records_edited more).once
  have hCame (key : String) : Live key (history edits) ↔ ∃! time, Entered key time (history edits) :=
    ⟨existsUnique_entered, fun h => h.exists.choose_spec.live⟩
  have hEntries : Members.extend a b = Members.extend a ((keys b).zip (values b)) :=
    congrArg (Members.extend a) (zip_keys_values b).symm
  exact ⟨ha, ha.get?_eq_none_iff, hCame, ha.length_eq, map_get?_keys ha.once, (zip_keys_values a).symm,
    compact_eq a, hEntries, keys_extend hb a, fun key => get?_extend hb key a, extend_assoc ha.once hb hc, rfl,
    nil_extend ha.once, extend_self ha.once⟩

/-- A key that is stored again keeps its place, and one that comes again goes to the end of the text. -/
theorem edited_follows_history_again :
    let edits : List Edit := [.collect [("a", .null), ("b", .null), ("a", .boolean true)], .put "c" .null,
      .remove "b", .merge [("b", .null), ("c", .null)]]
    keys (edited edits) = ["a", "c", "b"] ∧ Latest "a" (.boolean true) (history edits) ∧
      {key | Live key (history edits)}.ncard = 3 ∧
      (Document.object (edited edits)).text = "\x7b\"a\":true,\"c\":null,\"b\":null\x7d" := by
  intro edits
  have hEdited : edited edits = [("a", .boolean true), ("c", .null), ("b", .null)] := by rfl
  obtain ⟨hRecords, -, -, hLength, -, -, hText, -⟩ := edited_follows_history edits [] []
  rw [hEdited] at hRecords hLength hText
  refine ⟨congrArg keys hEdited, (hRecords.latest _ _).mp rfl, hLength.symm, ?_⟩
  rw [Document.text, hEdited, hText]
  rfl

end Cabinet.Members
