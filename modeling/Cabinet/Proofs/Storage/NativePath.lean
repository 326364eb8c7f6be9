import Cabinet.Proofs.Storage.Resolution
import Cabinet.Proofs.Text.Utf8
import Cabinet.Storage.NativePath

/-! File names of paths. What a file name stands for is its components, and a name that is added to it is
one component more. So the file name of a path has the root's components and then the path's segments, and
only such a file name has a path. The path can be named by its text, as long as no segment has a backslash:
to the system that is a character like others, but in a name it separates. -/

namespace Cabinet

namespace FileName

variable {s t : String} {name native : List UInt8}

theorem text?_eq_some_iff : text? name = some s ↔ ofText s = name := by
  rw [text?, ofText]
  cases hRead : Utf8.decode name with
  | ok cs =>
      obtain rfl := Utf8.decode_eq_ok_iff.mp hRead
      dsimp only
      constructor
      · intro h
        rw [← Option.some.inj h, String.toList_ofList]
      · intro h
        rw [← Utf8.encode_injective h, String.ofList_toList]
  | error e =>
      refine iff_of_false nofun fun h => ?_
      cases hRead.symm.trans (Utf8.decode_eq_ok_iff.mpr h)

theorem ofText_inj : ofText s = ofText t ↔ s = t := by
  refine ⟨fun h => ?_, congrArg ofText⟩
  exact String.toList_injective (Utf8.encode_injective h)

theorem slash_mem_ofText : slash ∈ ofText s ↔ '/' ∈ s.toList := Utf8.mem_encode_iff (by decide)

/-- A name that stands for an entry of a directory. -/
structure IsEntry (name : List UInt8) : Prop where
  whole : slash ∉ name
  nonempty : name ≠ []
  notHere : name ≠ [dot]
  notUp : name ≠ [dot, dot]

theorem isEntry_ofText_iff : IsEntry (ofText s) ↔ '/' ∉ s.toList ∧ StoragePath.IsOrdinary s := by
  have hNone : ofText s ≠ [] ↔ s ≠ "" := not_congr (ofText_inj (t := ""))
  have hDot : ofText s ≠ [dot] ↔ s ≠ "." := not_congr (ofText_inj (t := "."))
  have hDots : ofText s ≠ [dot, dot] ↔ s ≠ ".." := not_congr (ofText_inj (t := ".."))
  rw [← slash_mem_ofText, StoragePath.IsOrdinary, ← hNone, ← hDot, ← hDots]
  exact ⟨fun h => ⟨h.whole, h.nonempty, h.notHere, h.notUp⟩, fun h => ⟨h.1, h.2.1, h.2.2.1, h.2.2.2⟩⟩

theorem parts_append (native rest : List UInt8) : parts (native ++ slash :: rest) = parts native ++ parts rest := by
  simp only [parts, StoragePath.cut_eq_splitOnP]
  exact List.splitOnP_append_cons native rest (beq_self_eq_true slash)

theorem parts_entry (h : slash ∉ name) : parts name = [name] := by
  rw [parts, StoragePath.cut_eq_splitOnP]
  refine List.splitOnP_eq_singleton fun b hb => beq_eq_false_iff_ne.mpr ?_
  rintro rfl
  exact h hb

theorem slash_not_mem_parts (h : name ∈ parts native) : slash ∉ name := fun hSlash =>
  absurd (StoragePath.separates_of_mem_cut h hSlash) (by decide)

/-! ### Texts as file names -/

theorem ofText_append (s t : String) : ofText (s ++ t) = ofText s ++ ofText t := by
  rw [ofText, String.toList_append]
  exact List.flatMap_append

/-- The bytes of a file name that is text. -/
theorem ofText_join (native segment : String) :
    ofText (StoragePath.join native segment) = extend (ofText native) (ofText segment) := by
  have hNone : native = "" ↔ ofText native = [] := (ofText_inj (t := "")).symm
  have hEnds : native.endsWith "/" = ((ofText native).getLast? == some slash) := by
    rw [Bool.eq_iff_iff, beq_iff_eq, ofText, Utf8.getLast?_encode_iff (by decide), String.endsWith,
      String.Slice.endsWith_string_iff, String.copy_toSlice]
    exact List.singleton_suffix_iff_getLast?_eq_some
  simp only [StoragePath.join, extend, hNone, hEnds]
  split_ifs
  · exact ofText_append native segment
  · rw [ofText_append, ofText_append, List.append_assoc]
    rfl

theorem ofText_native (root : String) (p : StoragePath) :
    ofText (p.native root) = p.fileName (ofText root) := by
  rw [StoragePath.native, StoragePath.fileName, List.foldl_map]
  exact (List.foldl_hom ofText fun native segment => (ofText_join native segment).symm).symm

end FileName

namespace Component

open FileName

variable {name native part : List UInt8} {c : Component} {cs : List Component} {ss : List String}

/-- The component that a segment of a path is in file names. -/
def ofSegment (s : String) : Component := named (ofText s)

theorem ofPart?_entry (h : IsEntry name) : ofPart? name = some (named name) := by
  simp [ofPart?, h.nonempty, h.notHere, h.notUp]

theorem ofPart?_cases (h : ofPart? part = some c) :
    c = up ∨ c = named part ∧ part ≠ [] ∧ part ≠ [dot] ∧ part ≠ [dot, dot] := by
  rw [ofPart?] at h
  split_ifs at h with hNothing hUp
  · exact Or.inl (Option.some.inj h).symm
  · simp only [Bool.or_eq_true, decide_eq_true_eq, not_or] at hNothing
    exact Or.inr ⟨(Option.some.inj h).symm, hNothing.1, hNothing.2, hUp⟩

theorem start?_entry (h : IsEntry name) : start? name = none := by
  obtain ⟨hWhole, hSome, hDot, -⟩ := h
  rcases name with _ | ⟨b, _ | ⟨c, rest⟩⟩
  · exact absurd rfl hSome
  · simp_all [start?, eq_comm]
  · simp_all [start?, eq_comm]

theorem filterMap_parts_entry (h : IsEntry name) : (parts name).filterMap ofPart? = [named name] := by
  rw [parts_entry h.whole, List.filterMap_cons_some (ofPart?_entry h), List.filterMap_nil]

theorem filterMap_parts_nil : (parts []).filterMap ofPart? = [] := rfl

/-- What comes behind a slash has no part in how a file name begins. -/
theorem ofFileName_append (front rest : List UInt8) :
    ofFileName (front ++ slash :: rest) =
      ofFileName (front ++ [slash]) ++ (parts rest).filterMap ofPart? := by
  have hStart : start? (front ++ slash :: rest) = start? (front ++ [slash]) := by
    rcases front with _ | ⟨b, _ | ⟨c, front⟩⟩
    · cases rest <;> rfl
    · rfl
    · rfl
  rw [ofFileName, ofFileName, hStart, parts_append, parts_append, List.filterMap_append,
    List.filterMap_append, filterMap_parts_nil, List.append_nil, List.append_assoc]

/-- Neither a slash right behind another one nor a dot between two slashes matters. -/
theorem ofFileName_skip (h : part = [] ∨ part = [dot]) (front rest : List UInt8) :
    ofFileName (front ++ slash :: (part ++ slash :: rest)) = ofFileName (front ++ slash :: rest) := by
  have hNothing : (parts part).filterMap ofPart? = [] := by rcases h with rfl | rfl <;> rfl
  rw [ofFileName_append, ofFileName_append front rest, parts_append, List.filterMap_append, hNothing,
    List.nil_append]

/-- A slash at the end of a file name does not matter. -/
theorem ofFileName_concat (h : native ≠ []) : ofFileName (native ++ [slash]) = ofFileName native := by
  have hStart : start? (native ++ [slash]) = start? native := by
    rcases native with _ | ⟨b, _ | ⟨c, native⟩⟩
    · exact absurd rfl h
    · simp [start?]
    · rfl
  rw [ofFileName, ofFileName, hStart, parts_append, List.filterMap_append, filterMap_parts_nil,
    List.append_nil]

/-- A name that is added is one component more. -/
theorem ofFileName_extend (h : IsEntry name) (native : List UInt8) :
    ofFileName (extend native name) = ofFileName native ++ [named name] := by
  by_cases hNone : native = []
  · have hAdded : extend native name = name := by simp [extend, hNone]
    rw [hAdded, hNone, ofFileName, start?_entry h, filterMap_parts_entry h]
    rfl
  by_cases hEnds : native.getLast? = some slash
  · obtain ⟨front, rfl⟩ := List.getLast?_eq_some_iff.mp hEnds
    have hAdded : extend (front ++ [slash]) name = front ++ slash :: name := by simp [extend]
    rw [hAdded, ofFileName_append, filterMap_parts_entry h]
  · have hAdded : extend native name = native ++ slash :: name := by simp [extend, hNone, hEnds]
    rw [hAdded, ofFileName_append, ofFileName_concat hNone, filterMap_parts_entry h]

/-- The component that a file name begins with is not one of its parts. -/
theorem start?_cases (h : start? native = some c) : c = root ∨ c = here := by
  rcases native with _ | ⟨b, _ | ⟨d, native⟩⟩ <;> simp only [start?] at h
  · cases h
  all_goals split_ifs at h <;> simp_all

/-- A name among the components is one of an entry. -/
theorem isEntry_of_mem (h : named name ∈ ofFileName native) : IsEntry name := by
  rcases List.mem_append.mp h with hStart | hPart
  · rcases start?_cases (Option.mem_toList.mp hStart) with hNever | hNever <;> cases hNever
  · obtain ⟨part, hPart, hName⟩ := List.mem_filterMap.mp hPart
    rcases ofPart?_cases hName with hUp | ⟨hSame, hSome, hDot, hDots⟩
    · cases hUp
    · obtain rfl := Component.named.inj hSame
      exact ⟨slash_not_mem_parts hPart, hSome, hDot, hDots⟩

theorem start?_absolute (h : native.head? = some slash) : start? native = some root := by
  rcases native with _ | ⟨b, _ | ⟨d, native⟩⟩ <;> simp_all [start?]

theorem mem_start?_of_mem (h : c ∈ ofFileName native) (hc : c = root ∨ c = here) : start? native = some c := by
  rcases List.mem_append.mp h with hStart | hPart
  · exact Option.mem_toList.mp hStart
  · obtain ⟨part, -, hName⟩ := List.mem_filterMap.mp hPart
    rcases hc with rfl | rfl <;> rcases ofPart?_cases hName with hNever | ⟨hNever, -⟩ <;> cases hNever

/-- A file name that begins with a slash has no dot among its components. -/
theorem here_not_mem (h : root ∈ ofFileName native) : here ∉ ofFileName native := by
  intro hHere
  have hRoot := mem_start?_of_mem h (Or.inl rfl)
  cases hRoot.symm.trans (mem_start?_of_mem hHere (Or.inr rfl))

theorem segments?_eq_some_iff : segments? cs = some ss ↔ cs.filter (· ≠ here) = ss.map ofSegment := by
  induction cs generalizing ss with
  | nil => cases ss <;> simp [segments?]
  | cons c cs ih =>
      cases c with
      | root => cases ss <;> simp [segments?, ofSegment]
      | here => simp [segments?, ih]
      | up => cases ss <;> simp [segments?, ofSegment]
      | named name =>
          rw [segments?, Option.bind_eq_some_iff]
          simp only [Option.map_eq_some_iff, text?_eq_some_iff, ih]
          cases ss with
          | nil => simp
          | cons s ss => simp [ofSegment, eq_comm]

end Component

namespace StoragePath

open FileName (slash ofText IsEntry)
open Component (ofSegment named up)

variable {p q source : StoragePath} {root native : List UInt8}

/-- The components of the file name of a path are those of the root and the segments. -/
theorem ofFileName_fileName (hp : ∀ s ∈ p.segments, IsEntry (ofText s)) (root : List UInt8) :
    Component.ofFileName (p.fileName root) = Component.ofFileName root ++ p.segments.map ofSegment := by
  rw [fileName]
  generalize p.segments = segments at hp ⊢
  induction segments generalizing root with
  | nil => simp
  | cons s rest ih =>
      obtain ⟨hs, hRest⟩ := List.forall_mem_cons.mp hp
      rw [List.map_cons, List.foldl_cons, ih _ hRest, Component.ofFileName_extend hs, List.map_cons,
        List.append_assoc]
      rfl

theorem ofFileName?_eq_some_iff : ofFileName? root native = some q ↔
    ∃ rest, Component.ofFileName native = Component.ofFileName root ++ rest ∧
      rest.filter (· ≠ .here) = q.segments.map ofSegment := by
  rw [ofFileName?, Option.map_eq_some_iff]
  simp only [Option.bind_eq_some_iff, stripPrefix?_eq_some_iff, Component.segments?_eq_some_iff]
  constructor
  · rintro ⟨segments, ⟨rest, hNative, hRest⟩, rfl⟩
    exact ⟨rest, hNative, hRest⟩
  · rintro ⟨rest, hNative, hRest⟩
    exact ⟨q.segments, ⟨rest, hNative, hRest⟩, rfl⟩

theorem filter_ofSegment (segments : List String) :
    (segments.map ofSegment).filter (· ≠ .here) = segments.map ofSegment := by
  refine List.filter_eq_self.mpr fun c hc => ?_
  obtain ⟨s, -, rfl⟩ := List.mem_map.mp hc
  exact decide_eq_true nofun

theorem ofSegment_injective : Function.Injective ofSegment := fun _ _ h =>
  FileName.ofText_inj.mp (Component.named.inj h)

/-- The file names of paths below one directory are to each other as the paths are. -/
theorem ofFileName?_fileName (hp : ∀ s ∈ p.segments, IsEntry (ofText s))
    (hSource : ∀ s ∈ source.segments, IsEntry (ofText s)) (top : List UInt8) :
    ofFileName? (source.fileName top) (p.fileName top) = p.rebase? source .root := by
  apply Option.ext
  intro q
  rw [ofFileName?_eq_some_iff, rebase?_eq_some_iff, ofFileName_fileName hp, ofFileName_fileName hSource]
  simp only [List.append_assoc, List.append_cancel_left_eq]
  constructor
  · rintro ⟨rest, hSegments, hRest⟩
    obtain ⟨front, back, hSplit, hFront, rfl⟩ := List.map_eq_append_iff.mp hSegments
    rw [filter_ofSegment] at hRest
    obtain rfl := List.map_injective_iff.mpr ofSegment_injective hFront
    exact ⟨back, hSplit, congrArg mk (List.map_injective_iff.mpr ofSegment_injective hRest)⟩
  · rintro ⟨rest, hSegments, rfl⟩
    exact ⟨rest.map ofSegment, by rw [hSegments, List.map_append], filter_ofSegment rest⟩

/-- What lies in a directory can be told by where it is, without spelling its file name. -/
theorem ofNative?_native (hp : ∀ s ∈ p.segments, IsEntry (ofText s))
    (hSource : ∀ s ∈ source.segments, IsEntry (ofText s)) (top : String) :
    ofNative? (source.native top) (p.native top) = p.rebase? source .root := by
  rw [ofNative?, FileName.ofText_native, FileName.ofText_native]
  exact ofFileName?_fileName hp hSource (ofText top)

/-- Below a root that begins with a slash, nothing is left out between the root and the segments. -/
theorem ofFileName?_absolute (hRoot : root.head? = some slash) : ofFileName? root native = some q ↔
    Component.ofFileName native = Component.ofFileName root ++ q.segments.map ofSegment := by
  have hTop : Component.root ∈ Component.ofFileName root :=
    List.mem_append_left _ (Option.mem_toList.mpr (Component.start?_absolute hRoot))
  rw [ofFileName?_eq_some_iff]
  constructor
  · rintro ⟨rest, hNative, hRest⟩
    -- A dot that comes first would be passed over, but a slash comes first.
    have hHere : .here ∉ Component.ofFileName native :=
      Component.here_not_mem (hNative ▸ List.mem_append_left _ hTop)
    have hAll : rest.filter (· ≠ .here) = rest := List.filter_eq_self.mpr fun c hc =>
      decide_eq_true fun hc' => hHere (hNative ▸ List.mem_append_right _ (hc' ▸ hc))
    rw [hNative, ← hRest, hAll]
  · intro hNative
    exact ⟨_, hNative, filter_ofSegment q.segments⟩

/-- A file name has a path exactly if its components are those of the root and names that are text, which are
the segments. The file name of a path has that path, whether it is put together as bytes or as text. One that
leads beside the root, however alike the names are, or to above it, or up again from below it has none. -/
theorem native_by_component (hRoot : root.head? = some slash) :
    (∀ p : StoragePath, (∀ s ∈ p.segments, s ≠ "" ∧ '/' ∉ s.toList ∧ s ≠ "." ∧ s ≠ "..") →
      ofFileName? root (p.fileName root) = some p ∧
        ∀ top, ofText top = root → ofNative? top (p.native top) = some p) ∧
      (∀ native q, ofFileName? root native = some q ↔
        Component.ofFileName native = Component.ofFileName root ++ q.segments.map ofSegment) ∧
      (∀ native front a b rest, Component.ofFileName root = front ++ [named a] →
        Component.ofFileName native = front ++ named b :: rest → a ≠ b → ofFileName? root native = none) ∧
      (∀ native rest, rest ≠ [] → Component.ofFileName root = Component.ofFileName native ++ rest →
        ofFileName? root native = none) ∧
      ∀ native rest, up ∈ rest → Component.ofFileName native = Component.ofFileName root ++ rest →
        ofFileName? root native = none := by
  have hNone {native : List UInt8} (h : ∀ q : StoragePath,
      Component.ofFileName native ≠ Component.ofFileName root ++ q.segments.map ofSegment) :
      ofFileName? root native = none := by
    apply Option.eq_none_iff_forall_ne_some.mpr
    intro q hq
    exact h q ((ofFileName?_absolute hRoot).mp hq)
  refine ⟨fun p hp => ?_, fun native q => ofFileName?_absolute hRoot, ?_, ?_, ?_⟩
  · have hEntries : ∀ s ∈ p.segments, IsEntry (ofText s) := fun s hs =>
      FileName.isEntry_ofText_iff.mpr ⟨(hp s hs).2.1, (hp s hs).1, (hp s hs).2.2⟩
    have hTop : ∀ s ∈ StoragePath.root.segments, IsEntry (ofText s) := nofun
    have hAll : p.rebase? .root .root = some p := rebase?_eq_some_iff.mpr ⟨p.segments, rfl, rfl⟩
    exact ⟨(ofFileName?_fileName hEntries hTop root).trans hAll,
      fun top _ => (ofNative?_native hEntries hTop top).trans hAll⟩
  · intro native front a b rest hFront hBeside hne
    refine hNone fun q hq => ?_
    rw [hBeside, hFront, List.append_assoc, List.append_cancel_left_eq] at hq
    exact hne (Component.named.inj (List.cons.inj hq).1).symm
  · intro native rest hMore hAbove
    refine hNone fun q hq => ?_
    rw [hAbove, List.append_assoc] at hq
    exact hMore (List.append_eq_nil_iff.mp (List.append_right_eq_self.mp hq.symm)).1
  · intro native rest hUp hBelow
    refine hNone fun q hq => ?_
    rw [hBelow, List.append_cancel_left_eq] at hq
    obtain ⟨s, -, hs⟩ := List.mem_map.mp (hq ▸ hUp)
    cases hs

/-- Slashes and dots that do not matter; a directory beside the root, the one above it, and a way up. -/
theorem native_by_component_alike :
    let root := ofText "/data//store/"
    let p : StoragePath := ⟨["x", "y"]⟩
    root.head? = some slash ∧ ofFileName? root (p.fileName root) = some p ∧
      ofNative? "/data//store/" (p.native "/data//store/") = some p ∧
      ofFileName? root (ofText "//data/./store/x//y/.") = some p ∧
      ofFileName? root (ofText "/data/store2/x") = none ∧ ofFileName? root (ofText "/data/.") = none ∧
      ofFileName? root (ofText "/data/store/../store/x") = none ∧
      ofFileName? root (ofText "/data/store/" ++ [0xFF]) = none := by
  intro root p
  have hRoot : root.head? = some slash := by decide
  obtain ⟨hBack, hPath, hBeside, hAbove, hUp⟩ := native_by_component hRoot
  obtain ⟨hBytes, hTexts⟩ := hBack p (by decide)
  refine ⟨hRoot, hBytes, hTexts _ rfl, (hPath _ _).mpr (by decide), ?_, ?_, ?_, by decide⟩
  · exact hBeside _ [.root, ofSegment "data"] (ofText "store") (ofText "store2") [ofSegment "x"] (by decide)
      (by decide) (by decide)
  · exact hAbove _ [ofSegment "store"] (by decide) (by decide)
  · exact hUp _ [.up, ofSegment "store", ofSegment "x"] (by decide) (by decide)

/-! ### Names of what is found -/

theorem isEntry_of_ofFileName? (h : ofFileName? root native = some q) {s : String} (hs : s ∈ q.segments) :
    IsEntry (ofText s) := by
  obtain ⟨rest, hNative, hRest⟩ := ofFileName?_eq_some_iff.mp h
  have hSegment : ofSegment s ∈ rest.filter (· ≠ .here) := hRest ▸ List.mem_map_of_mem hs
  exact Component.isEntry_of_mem (hNative ▸ List.mem_append_right _ (List.mem_of_mem_filter hSegment))

/-- The path of a file name is found by its own text exactly if none of its segments has a backslash. -/
theorem parse_text_iff (h : ofFileName? root native = some q) :
    StoragePath.parse q.text = .ok q ↔ ∀ s ∈ q.segments, '\\' ∉ s.toList := by
  constructor
  · intro hParse s hs hBackslash
    exact absurd ((plain_root.resolve hParse s hs).2 _ hBackslash) (by decide)
  · intro hNone
    refine parse_text fun s hs => ?_
    obtain ⟨hSlash, hOrdinary⟩ := FileName.isEntry_ofText_iff.mp (isEntry_of_ofFileName? h hs)
    refine ⟨hOrdinary, fun c hc => ?_⟩
    rw [isSeparator, Bool.or_eq_false_iff, beq_eq_false_iff_ne, beq_eq_false_iff_ne]
    exact ⟨fun hc' => hSlash (hc' ▸ hc), fun hc' => hNone s hs (hc' ▸ hc)⟩

theorem parse_text_iff_spaced :
    let p : StoragePath := ⟨["a b", "ü.txt"]⟩
    ofNative? "/r" "/r/a b/ü.txt" = some p ∧ StoragePath.parse p.text = .ok p := by
  intro p
  have hPath : ofNative? "/r" "/r/a b/ü.txt" = some p := by decide
  exact ⟨hPath, (parse_text_iff hPath).mpr (by decide)⟩

/-- A file whose name has a backslash is found in the storage, but not under its own path. -/
theorem not_parse_text_backslash : ¬∀ (root native : String) (q : StoragePath),
    root.toList.head? = some '/' → ofNative? root native = some q → StoragePath.parse q.text = .ok q := by
  intro hFound
  have hPath : ofNative? "/r" "/r/a\\b" = some ⟨["a\\b"]⟩ := by decide
  exact absurd (hFound _ _ _ (by decide) hPath) (by decide)

end StoragePath

end Cabinet
