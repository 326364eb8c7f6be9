import Cabinet.Proofs.Storage.PathOrder
import Cabinet.Storage.Error

/-! Resolving names. A name is followed part by part, so that what counts is how far each beginning of
it has gone down and up: it fails when one of them has gone up further than there was to go, even if
later parts come down again. What it leads to has plain segments only, and such a path is found again
by its text. -/

namespace Cabinet.StoragePath

variable {p q : StoragePath} {name part s : String} {segments rest : List String} {depth : Nat}

/-! ### Parts of names -/

theorem cut_eq_splitOnP {α : Type} (separates : α → Bool) (cs : List α) :
    cut separates cs = cs.splitOnP separates := by
  induction cs with
  | nil => rw [cut, List.splitOnP_nil]
  | cons c cs ih =>
      rw [cut, List.splitOnP_cons_eq_if_modifyHead, ih]
      split
      · rfl
      · cases hParts : cs.splitOnP separates with
        | nil => exact absurd hParts (List.splitOnP_ne_nil _ _)
        | cons part parts => rfl

/-- The parts of a name are what stands between its slashes. -/
theorem parts_eq_splitOnP (name : String) :
    parts name = (name.toList.splitOnP isSeparator).map String.ofList := by
  rw [parts, cut_eq_splitOnP]

theorem separates_of_mem_cut {α : Type} {separates : α → Bool} {cs part : List α} {c : α}
    (hPart : part ∈ cut separates cs) (hc : c ∈ part) : separates c = false := by
  induction cs generalizing part with
  | nil =>
      obtain rfl : part = [] := by simpa [cut] using hPart
      exact absurd hc (List.not_mem_nil)
  | cons d cs ih =>
      rw [cut] at hPart
      split at hPart
      · rcases List.mem_cons.mp hPart with rfl | hPart
        · exact absurd hc (List.not_mem_nil)
        · exact ih hPart hc
      · rename_i hd
        split at hPart
        · obtain rfl := List.mem_singleton.mp hPart
          obtain rfl := List.mem_singleton.mp hc
          exact Bool.eq_false_iff.mpr hd
        · rename_i first others hParts
          rcases List.mem_cons.mp hPart with rfl | hPart
          · rcases List.mem_cons.mp hc with rfl | hc
            · exact Bool.eq_false_iff.mpr hd
            · exact ih (hParts ▸ List.mem_cons_self) hc
          · exact ih (hParts ▸ List.mem_cons_of_mem _ hPart) hc

theorem isSeparator_of_mem_parts (hPart : part ∈ parts name) :
    ∀ c ∈ part.toList, isSeparator c = false := by
  obtain ⟨cs, hcs, rfl⟩ := List.mem_map.mp hPart
  rw [String.toList_ofList]
  exact fun c hc => separates_of_mem_cut hcs hc

/-! ### Going down and up -/

/-- A part that leads to an entry below. -/
def IsOrdinary (part : String) : Prop := part ≠ "" ∧ part ≠ "." ∧ part ≠ ".."

instance : DecidablePred IsOrdinary := fun _ => inferInstanceAs (Decidable (_ ∧ _ ∧ _))

theorem follow?_stays (h : part = "" ∨ part = ".") : follow? segments part = some segments := by
  rcases h with rfl | rfl <;> rfl

theorem follow?_ordinary (h : IsOrdinary part) : follow? segments part = some (segments ++ [part]) := by
  simp [follow?, h.1, h.2.1, h.2.2]

theorem follow?_up (above : List String) (s : String) : follow? (above ++ [s]) ".." = some above := by
  simp [follow?]

/-- A part leads nowhere, up or down. -/
theorem stays_or_up_or_ordinary (part : String) :
    (part = "" ∨ part = ".") ∨ part = ".." ∨ IsOrdinary part := by
  by_cases hStays : part = "" ∨ part = "."
  · exact Or.inl hStays
  · by_cases hUp : part = ".."
    · exact Or.inr (Or.inl hUp)
    · obtain ⟨hEmpty, hDot⟩ := not_or.mp hStays
      exact Or.inr (Or.inr ⟨hEmpty, hDot, hUp⟩)

/-- How often parts lead down. -/
def downs (parts : List String) : Nat := parts.countP fun part => decide (IsOrdinary part)

/-- How often parts lead up. -/
def ups (parts : List String) : Nat := parts.count ".."

/-- Followed from a depth, some beginning of the parts leads up more often than there is to go. -/
def Climbs (depth : Nat) (parts : List String) : Prop :=
  ∃ front, front <+: parts ∧ downs front + depth < ups front

theorem not_climbs_nil : ¬Climbs depth [] := by
  rintro ⟨front, hFront, hMore⟩
  obtain rfl := List.prefix_nil.mp hFront
  exact absurd hMore (Nat.not_lt_zero _)

/-- A climb begins with the first part. -/
theorem climbs_cons_iff : Climbs depth (part :: rest) ↔
    ∃ front, front <+: rest ∧ downs [part] + downs front + depth < ups [part] + ups front := by
  have hDowns (front : List String) : downs (part :: front) = downs [part] + downs front := by
    rw [← List.singleton_append, downs, List.countP_append, downs, downs]
  have hUps (front : List String) : ups (part :: front) = ups [part] + ups front := by
    rw [← List.singleton_append, ups, List.count_append, ups, ups]
  constructor
  · rintro ⟨front, hFront, hMore⟩
    rcases List.prefix_cons_iff.mp hFront with rfl | ⟨tail, rfl, hTail⟩
    · exact absurd hMore (Nat.not_lt_zero _)
    · exact ⟨tail, hTail, by rwa [← hDowns, ← hUps]⟩
  · rintro ⟨front, hFront, hMore⟩
    exact ⟨part :: front, (List.prefix_cons_inj part).mpr hFront, by rwa [hDowns, hUps]⟩

theorem climbs_stays_iff (h : part = "" ∨ part = ".") :
    Climbs depth (part :: rest) ↔ Climbs depth rest := by
  have hDowns : downs [part] = 0 := by rcases h with rfl | rfl <;> decide
  have hUps : ups [part] = 0 := by rcases h with rfl | rfl <;> decide
  rw [climbs_cons_iff, hDowns, hUps]
  simp only [Nat.zero_add, Climbs]

theorem climbs_ordinary_iff (h : IsOrdinary part) :
    Climbs depth (part :: rest) ↔ Climbs (depth + 1) rest := by
  have hDowns : downs [part] = 1 := by simp [downs, h]
  have hUps : ups [part] = 0 := by simp [ups, h.2.2]
  rw [climbs_cons_iff, hDowns, hUps]
  refine exists_congr fun front => and_congr_right fun _ => ?_
  omega

/-- From the root one cannot go up. -/
theorem climbs_zero_up : Climbs 0 (".." :: rest) :=
  climbs_cons_iff.mpr ⟨[], List.nil_prefix, by decide⟩

theorem climbs_succ_up_iff : Climbs (depth + 1) (".." :: rest) ↔ Climbs depth rest := by
  have hDowns : downs [".."] = 0 := by decide
  have hUps : ups [".."] = 1 := by decide
  rw [climbs_cons_iff, hDowns, hUps]
  refine exists_congr fun front => and_congr_right fun _ => ?_
  omega

/-- Following parts fails exactly if they climb above the root on the way. -/
theorem followAll?_eq_none_iff {parts : List String} :
    followAll? segments parts = none ↔ Climbs segments.length parts := by
  induction parts generalizing segments with
  | nil => simp [followAll?, not_climbs_nil]
  | cons part rest ih =>
      rw [followAll?]
      rcases stays_or_up_or_ordinary part with hStays | rfl | hOrdinary
      · rw [follow?_stays hStays, Option.bind_some, ih, climbs_stays_iff hStays]
      · rcases List.eq_nil_or_concat segments with rfl | ⟨above, s, rfl⟩
        · exact iff_of_true rfl climbs_zero_up
        · rw [List.concat_eq_append, follow?_up, Option.bind_some, ih, List.length_append,
            List.length_singleton, climbs_succ_up_iff]
      · rw [follow?_ordinary hOrdinary, Option.bind_some, ih, List.length_append,
          List.length_singleton, climbs_ordinary_iff hOrdinary]

/-- The depth that a name starts from at a path. -/
def startDepth (p : StoragePath) (name : String) : Nat := if isAbsolute name then 0 else p.depth

theorem resolve?_eq_none_iff : p.resolve? name = none ↔ Climbs (p.startDepth name) (parts name) := by
  rw [resolve?, Option.map_eq_none_iff, followAll?_eq_none_iff, startDepth, depth]
  split <;> rfl

theorem resolve_eq_ok_iff : p.resolve name = .ok q ↔ p.resolve? name = some q := by
  rw [resolve]
  cases p.resolve? name <;> simp

theorem resolve_eq_error_iff {e : FileError} :
    p.resolve name = .error e ↔ p.resolve? name = none ∧ e = .escape name := by
  rw [resolve]
  cases p.resolve? name with
  | none => simp [eq_comm]
  | some q => simp

/-! ### Plain segments -/

/-- A segment that a name can lead to. -/
def IsSegment (s : String) : Prop :=
  IsOrdinary s ∧ ∀ c ∈ s.toList, isSeparator c = false

-- The instance is named because the characters, a finite type, could all be gone through instead.
instance : DecidablePred IsSegment := fun s =>
  haveI : Decidable (∀ c ∈ s.toList, isSeparator c = false) := List.decidableBAll _ s.toList
  inferInstanceAs (Decidable (IsOrdinary s ∧ ∀ c ∈ s.toList, isSeparator c = false))

/-- A path whose segments are all plain. -/
def Plain (p : StoragePath) : Prop := ∀ s ∈ p.segments, IsSegment s

instance : DecidablePred Plain := fun p => inferInstanceAs (Decidable (∀ s ∈ p.segments, IsSegment s))

theorem plain_root : root.Plain := fun _ hs => nomatch hs

theorem Plain.of_subset (hp : p.Plain) (hq : q.segments ⊆ p.segments) : q.Plain :=
  fun s hs => hp s (hq hs)

theorem mem_of_follow? {next : List String} (h : follow? segments part = some next) (hs : s ∈ next) :
    s ∈ segments ∨ s = part ∧ IsOrdinary part := by
  rcases stays_or_up_or_ordinary part with hStays | rfl | hOrdinary
  · obtain rfl := Option.some.inj ((follow?_stays hStays).symm.trans h)
    exact Or.inl hs
  · rcases List.eq_nil_or_concat segments with rfl | ⟨above, last, rfl⟩
    · exact absurd h (by simp [follow?])
    · rw [List.concat_eq_append] at h ⊢
      obtain rfl := Option.some.inj ((follow?_up above last).symm.trans h)
      exact Or.inl (List.mem_append_left _ hs)
  · obtain rfl := Option.some.inj ((follow?_ordinary hOrdinary).symm.trans h)
    rcases List.mem_append.mp hs with hs | hs
    · exact Or.inl hs
    · exact Or.inr ⟨List.mem_singleton.mp hs, hOrdinary⟩

/-- Following parts adds nothing but ordinary ones. -/
theorem mem_of_followAll? {parts result : List String} (h : followAll? segments parts = some result)
    (hs : s ∈ result) : s ∈ segments ∨ s ∈ parts ∧ IsOrdinary s := by
  induction parts generalizing segments with
  | nil =>
      obtain rfl := Option.some.inj h
      exact Or.inl hs
  | cons part rest ih =>
      obtain ⟨next, hNext, hRest⟩ := Option.bind_eq_some_iff.mp h
      rcases ih hRest with hs | ⟨hs, hOrdinary⟩
      · rcases mem_of_follow? hNext hs with hs | ⟨rfl, hOrdinary⟩
        · exact Or.inl hs
        · exact Or.inr ⟨List.mem_cons_self, hOrdinary⟩
      · exact Or.inr ⟨List.mem_cons_of_mem _ hs, hOrdinary⟩

theorem Plain.resolve? (hp : p.Plain) (h : p.resolve? name = some q) : q.Plain := by
  obtain ⟨segments, hFollowed, rfl⟩ := Option.map_eq_some_iff.mp h
  intro s hs
  rcases mem_of_followAll? hFollowed hs with hs | ⟨hs, hOrdinary⟩
  · split at hs
    · exact absurd hs (List.not_mem_nil)
    · exact hp s hs
  · exact ⟨hOrdinary, isSeparator_of_mem_parts hs⟩

theorem Plain.resolve (hp : p.Plain) (h : p.resolve name = .ok q) : q.Plain :=
  hp.resolve? (resolve_eq_ok_iff.mp h)

theorem Plain.parent? (hp : p.Plain) (h : p.parent? = some q) : q.Plain := by
  rw [StoragePath.parent?] at h
  split at h
  · exact absurd h (by simp)
  · obtain rfl := Option.some.inj h
    exact hp.of_subset (List.dropLast_subset _)

theorem Plain.ancestor (hp : p.Plain) (h : q ∈ p.ancestors) : q.Plain :=
  hp.of_subset (startsWith_iff.mp (mem_ancestors_iff.mp h).1).subset

theorem Plain.rebase? {source target : StoragePath} (hp : p.Plain) (hTarget : target.Plain)
    (h : p.rebase? source target = some q) : q.Plain := by
  obtain ⟨rest, hSegments, rfl⟩ := rebase?_eq_some_iff.mp h
  intro s hs
  rcases List.mem_append.mp hs with hs | hs
  · exact hTarget s hs
  · exact hp s (hSegments ▸ List.mem_append_right _ hs)

theorem Plain.child (hp : p.Plain) (hs : IsSegment s) : (p.child s).Plain := fun t ht =>
  (List.mem_append.mp ht).elim (hp t) fun h => List.mem_singleton.mp h ▸ hs

theorem Plain.of_startsWith (hp : p.Plain) (h : p.startsWith q = true) : q.Plain :=
  hp.of_subset (startsWith_iff.mp h).subset

/-- The last segment of a plain path is one that a name can lead to. -/
theorem Plain.isSegment_name (hp : p.Plain) (h : p.isRoot = false) : IsSegment p.name := by
  refine hp _ ?_
  rw [StoragePath.name, List.getLastD_eq_getLast?, List.getLast?_eq_some_getLast (segments_ne_nil h),
    Option.getD_some]
  exact List.getLast_mem _

theorem Plain.under (hp : p.Plain) (hq : q.Plain) : (p.under q).Plain := by
  rw [StoragePath.under]
  split
  · exact hq
  · rename_i hRoot
    exact hq.child (hp.isSegment_name (Bool.eq_false_iff.mpr hRoot))

/-- What leads down from a path that can be named can be named below another one. -/
theorem Plain.down (hp : p.Plain) {rest : List String} (h : (q.down rest).Plain) : (p.down rest).Plain :=
  h.rebase? hp (rebase?_eq_some_iff_down.mpr ⟨rest, rfl, rfl⟩)

theorem resolve_segment (hs : IsSegment s) : p.resolve s = .ok (p.child s) := by
  have hParts : parts s = [s] := by
    rw [parts_eq_splitOnP, List.splitOnP_eq_singleton hs.2, List.map_singleton, String.ofList_toList]
  have hRelative : isAbsolute s = false := by
    rw [isAbsolute]
    split
    · rfl
    · rename_i c cs hChars
      exact hs.2 c (hChars ▸ List.mem_cons_self)
  rw [resolve_eq_ok_iff, StoragePath.resolve?, hParts, hRelative, if_neg Bool.false_ne_true, followAll?,
    follow?_ordinary hs.1]
  rfl

/-- The name of a plain path leads from a folder to where the path is copied to. -/
theorem Plain.resolve_name (hp : p.Plain) (q : StoragePath) : q.resolve p.name = .ok (p.under q) := by
  cases hRoot : p.isRoot with
  | true =>
      rw [isRoot_iff.mp hRoot]
      rfl
  | false =>
      rw [resolve_segment (hp.isSegment_name hRoot), StoragePath.under, hRoot, if_neg Bool.false_ne_true]

/-! ### Paths and their texts -/

theorem toList_text (h : p.isRoot = false) :
    p.text.toList = p.segments.flatMap fun s => '/' :: s.toList := by
  rw [text, h, if_neg Bool.false_ne_true, String.toList_join, List.flatMap_map]
  simp only [String.toList_append]
  rfl

/-- A slash in front of every segment separates exactly the segments, behind an empty part. -/
theorem splitOnP_flatMap (h : ∀ s ∈ segments, ∀ c ∈ s.toList, isSeparator c = false)
    (hNonempty : segments ≠ []) :
    (segments.flatMap fun s => '/' :: s.toList).splitOnP isSeparator =
      [] :: segments.map String.toList := by
  induction segments with
  | nil => exact absurd rfl hNonempty
  | cons s rest ih =>
      obtain ⟨hs, hRest⟩ := List.forall_mem_cons.mp h
      rw [List.flatMap_cons, List.cons_append, List.splitOnP_cons_eq_if_modifyHead,
        if_pos (by decide), List.map_cons]
      congr 1
      cases rest with
      | nil => rw [List.flatMap_nil, List.append_nil, List.splitOnP_eq_singleton hs, List.map_nil]
      | cons t rest =>
          have hTail := ih hRest (List.cons_ne_nil t rest)
          rw [List.flatMap_cons, List.cons_append, List.splitOnP_cons_eq_if_modifyHead,
            if_pos (by decide)] at hTail
          rw [List.flatMap_cons, List.cons_append,
            List.splitOnP_append_cons_of_forall_mem hs _ (by decide), (List.cons.inj hTail).2]

theorem parts_text (hp : p.Plain) (h : p.isRoot = false) : parts p.text = "" :: p.segments := by
  have hNonempty : p.segments ≠ [] := fun hNil => by simp [isRoot, hNil] at h
  rw [parts_eq_splitOnP, toList_text h, splitOnP_flatMap (fun s hs => (hp s hs).2) hNonempty,
    List.map_cons, List.map_map]
  congr 1
  exact List.map_id'' (fun s => String.ofList_toList) _

/-- Ordinary parts lead down one after the other. -/
theorem followAll?_ordinary (h : ∀ s ∈ rest, IsOrdinary s) :
    followAll? segments rest = some (segments ++ rest) := by
  induction rest generalizing segments with
  | nil => rw [followAll?, List.append_nil]
  | cons s rest ih =>
      obtain ⟨hOrdinary, hRest⟩ := List.forall_mem_cons.mp h
      rw [followAll?, follow?_ordinary hOrdinary, Option.bind_some, ih hRest, List.append_assoc,
        List.singleton_append]

/-- The text of a plain path means that path. -/
theorem parse_text (hp : p.Plain) : parse p.text = .ok p := by
  rw [parse, resolve_eq_ok_iff, StoragePath.resolve?]
  have hBase : (if isAbsolute p.text then ([] : List String) else root.segments) = [] := by
    split <;> rfl
  rw [hBase]
  cases hRoot : p.isRoot with
  | true =>
      have hp : p = root := by
        cases p with
        | mk segments => exact congrArg mk (List.isEmpty_iff.mp hRoot)
      subst hp
      rfl
  | false =>
      have hFirst : follow? [] "" = some [] := rfl
      rw [parts_text hp hRoot, followAll?, hFirst, Option.bind_some,
        followAll?_ordinary fun s hs => (hp s hs).1]
      rfl

/-! ### Paths that are made -/

/-- The paths that come of names and of other such paths. -/
inductive Made : StoragePath → Prop where
  | root : Made root
  | parse {name : String} {q : StoragePath} (h : parse name = .ok q) : Made q
  | resolve {p q : StoragePath} {name : String} (hp : Made p) (h : p.resolve name = .ok q) : Made q
  | parent {p q : StoragePath} (hp : Made p) (h : p.parent? = some q) : Made q
  | ancestor {p q : StoragePath} (hp : Made p) (h : q ∈ p.ancestors) : Made q
  | rebase {p source target q : StoragePath} (hp : Made p) (hSource : Made source)
      (hTarget : Made target) (h : p.rebase? source target = some q) : Made q

theorem Made.plain (h : Made p) : p.Plain := by
  induction h with
  | root => exact plain_root
  | parse h => exact plain_root.resolve h
  | resolve _ h ih => exact ih.resolve h
  | parent _ h ih => exact ih.parent? h
  | ancestor _ h ih => exact ih.ancestor h
  | rebase _ _ _ h ih _ ihTarget => exact ih.rebase? ihTarget h

/-- A name fails at a path exactly if some beginning of it leads above the root, and leads somewhere
otherwise. No path that is made has a segment that a name would read as anything but one way down, so
that its text leads back to it. -/
theorem resolve_confined (hp : Made p) (name : String) :
    (p.resolve name = .error (.escape name) ↔ Climbs (p.startDepth name) (parts name)) ∧
      (¬Climbs (p.startDepth name) (parts name) → ∃ q, p.resolve name = .ok q ∧ Made q) ∧
      (∀ s ∈ p.segments, s ≠ "" ∧ s ≠ "." ∧ s ≠ ".." ∧ '/' ∉ s.toList ∧ '\\' ∉ s.toList) ∧
      StoragePath.parse p.text = .ok p := by
  refine ⟨?_, fun hStays => ?_, fun s hs => ?_, parse_text hp.plain⟩
  · rw [resolve_eq_error_iff, resolve?_eq_none_iff, and_iff_left rfl]
  · rw [← resolve?_eq_none_iff] at hStays
    obtain ⟨q, hq⟩ := Option.ne_none_iff_exists'.mp hStays
    have hResolved := resolve_eq_ok_iff.mpr hq
    exact ⟨q, hResolved, hp.resolve hResolved⟩
  · obtain ⟨⟨hEmpty, hDot, hDots⟩, hSeparators⟩ := hp.plain s hs
    exact ⟨hEmpty, hDot, hDots, fun hc => absurd (hSeparators _ hc) (by decide),
      fun hc => absurd (hSeparators _ hc) (by decide)⟩

/-- A name with both slashes, empty parts and dots that goes up as far as the root, and one that goes
up once more before it comes down again. -/
theorem resolve_confined_nested :
    let p : StoragePath := ⟨["a", "b"]⟩
    Made p ∧ p.resolve "..//.\\x\\../../c" = .ok ⟨["c"]⟩ ∧
      p.resolve "..\\../../c/d/e" = .error (.escape "..\\../../c/d/e") ∧
      p.resolve "/../c" = .error (.escape "/../c") ∧ StoragePath.parse "/a/b" = .ok p := by
  intro p
  have hParse : StoragePath.parse "a\\.//b/" = .ok p := rfl
  have hp : Made p := .parse hParse
  obtain ⟨-, -, -, hParsed⟩ := resolve_confined hp ""
  refine ⟨hp, rfl, (resolve_confined hp _).1.mpr ⟨["..", "..", ".."], by decide, by decide⟩,
    (resolve_confined hp _).1.mpr ⟨["", ".."], by decide, by decide⟩, hParsed⟩

end Cabinet.StoragePath
