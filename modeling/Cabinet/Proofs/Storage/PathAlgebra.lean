import Cabinet.Proofs.Storage.Resolution

/-! How the operations on paths go together. A name that is put together of two leads where the second
one leads from the end of the first. Moving a subtree exchanges the beginning of every path in it and
can be undone, and it leaves the order of the paths alone. -/

namespace Cabinet.StoragePath

variable {p q r f t : StoragePath} {front back s : String} {c : Char} {segments parts rest : List String}

/-! ### Names that are put together -/

/-- A slash between two names keeps their parts apart, whatever slashes they begin or end with. -/
theorem parts_push_append (hSeparator : isSeparator c = true) (front back : String) :
    StoragePath.parts (front.push c ++ back) = StoragePath.parts front ++ StoragePath.parts back := by
  rw [parts_eq_splitOnP, parts_eq_splitOnP, parts_eq_splitOnP, String.toList_append, String.toList_push,
    List.append_assoc, List.singleton_append, List.splitOnP_append_cons _ _ hSeparator, List.map_append]

/-- The first part of a name decides where it starts. -/
theorem isAbsolute_push_append (hFront : front ≠ "") (c : Char) (back : String) :
    isAbsolute (front.push c ++ back) = isAbsolute front := by
  have hChars : front.toList ≠ [] := fun h => hFront (String.toList_eq_nil_iff.mp h)
  obtain ⟨first, others, hFirst⟩ := List.exists_cons_of_ne_nil hChars
  rw [isAbsolute, isAbsolute, String.toList_append, String.toList_push, hFirst]
  rfl

theorem followAll?_append (segments parts rest : List String) : followAll? segments (parts ++ rest) =
    (followAll? segments parts).bind fun next => followAll? next rest := by
  induction parts generalizing segments with
  | nil => rfl
  | cons part parts ih =>
      rw [List.cons_append, followAll?, followAll?, Option.bind_assoc]
      exact Option.bind_congr fun next _ => ih next

theorem resolve?_push_append (hSeparator : isSeparator c = true) (hFront : front ≠ "")
    (hBack : isAbsolute back = false) (p : StoragePath) :
    p.resolve? (front.push c ++ back) = (p.resolve? front).bind fun q => q.resolve? back := by
  rw [resolve?, isAbsolute_push_append hFront, parts_push_append hSeparator, followAll?_append, resolve?,
    Option.map_bind, Option.bind_map]
  refine Option.bind_congr fun segments _ => ?_
  rw [Function.comp_apply, Function.comp_apply, resolve?, hBack, if_neg Bool.false_ne_true]

/-- A name of two names with a slash between them leads where the second leads from where the first
leads to. It fails exactly if one of these steps does. -/
theorem resolve_push_append (p : StoragePath) (hSeparator : c = '/' ∨ c = '\\') (hFront : front ≠ "")
    (hBack : isAbsolute back = false) :
    (∀ r, p.resolve (front.push c ++ back) = .ok r ↔
      ∃ q, p.resolve front = .ok q ∧ q.resolve back = .ok r) ∧
    (p.resolve (front.push c ++ back) = .error (.escape (front.push c ++ back)) ↔
      p.resolve front = .error (.escape front) ∨
        ∃ q, p.resolve front = .ok q ∧ q.resolve back = .error (.escape back)) := by
  have hSeparates : isSeparator c = true := by rcases hSeparator with rfl | rfl <;> rfl
  have hJoined := resolve?_push_append hSeparates hFront hBack p
  refine ⟨fun r => ?_, ?_⟩
  · rw [resolve_eq_ok_iff, hJoined, Option.bind_eq_some_iff]
    simp only [resolve_eq_ok_iff]
  · rw [resolve_eq_error_iff, hJoined, Option.bind_eq_none_iff]
    simp only [resolve_eq_error_iff, resolve_eq_ok_iff, and_true]
    cases p.resolve? front with
    | none => simp
    | some q => simp

/-- A name that ends in a slash before another one that goes up, and two names of which the first goes up
as far as the root, and the second further; or the first already, though the second comes down again. -/
theorem resolve_push_append_climbs :
    let p : StoragePath := ⟨["a", "b"]⟩
    p.resolve ("..\\x/".push '\\' ++ "../y/.") = .ok ⟨["a", "y"]⟩ ∧
      p.resolve ("../..".push '/' ++ "./../c") = .error (.escape ("../..".push '/' ++ "./../c")) ∧
      p.resolve ("../../..".push '/' ++ "c/d") = .error (.escape ("../../..".push '/' ++ "c/d")) := by
  intro p
  refine ⟨?_, ?_, ?_⟩
  · exact ((resolve_push_append p (Or.inr rfl) (by decide) rfl).1 _).mpr ⟨⟨["a", "x"]⟩, rfl, rfl⟩
  · exact (resolve_push_append p (Or.inl rfl) (by decide) rfl).2.mpr (Or.inr ⟨root, rfl, rfl⟩)
  · exact (resolve_push_append p (Or.inl rfl) (by decide) rfl).2.mpr (Or.inl rfl)

/-! ### Ancestors -/

/-- The path that so many steps up lead to. -/
def above? : StoragePath → Nat → Option StoragePath
  | p, 0 => some p
  | p, n + 1 => p.parent?.bind fun q => above? q n

theorem shorter_concat (segments : List String) (s : String) :
    shorter (segments ++ [s]) = segments :: shorter segments := by
  induction segments with
  | nil => rfl
  | cons a segments ih => rw [List.cons_append, shorter, ih, shorter, List.map_cons, List.cons_append]

theorem ancestors_child : (p.child s).ancestors = p :: p.ancestors :=
  congrArg (List.map mk) (shorter_concat p.segments s)

theorem parent?_child : (p.child s).parent? = some p := by
  rw [parent?_eq isRoot_child, folder_child]

/-- Every path is made from the root by going down. -/
@[elab_as_elim] theorem induction_child {motive : StoragePath → Prop} (root : motive root)
    (child : ∀ p s, motive p → motive (p.child s)) (p : StoragePath) : motive p := by
  obtain ⟨segments⟩ := p
  induction segments using List.reverseRecOn with
  | nil => exact root
  | append_singleton front s ih => exact child ⟨front⟩ s ih

/-- The ancestors of a path are those that one comes by when going up to the root. -/
theorem getElem?_ancestors (p : StoragePath) (n : Nat) : p.ancestors[n]? = p.above? (n + 1) := by
  induction p using induction_child generalizing n with
  | root => cases n <;> rfl
  | child p s ih =>
      rw [ancestors_child, above?, parent?_child, Option.bind_some]
      cases n with
      | zero => rfl
      | succ n => rw [List.getElem?_cons_succ, ih]

theorem depth_lt_of_mem_ancestors (h : q ∈ p.ancestors) : q.depth < p.depth := by
  obtain ⟨hBelow, hne⟩ := mem_ancestors_iff.mp h
  refine lt_of_le_of_ne (depth_le_of_startsWith hBelow) fun hDepth => hne ?_
  exact congrArg mk ((startsWith_iff.mp hBelow).eq_of_length hDepth)

/-- The ancestors of a path get less deep one by one. -/
theorem pairwise_depth_ancestors (p : StoragePath) :
    p.ancestors.Pairwise fun a b => b.depth < a.depth := by
  induction p using induction_child with
  | root => exact List.Pairwise.nil
  | child p s ih =>
      rw [ancestors_child]
      exact List.pairwise_cons.mpr ⟨fun q hq => depth_lt_of_mem_ancestors hq, ih⟩

/-! ### Subtrees that move -/

theorem rebase?_isSome_iff : (p.rebase? f t).isSome ↔ p.startsWith f := by
  rw [Option.isSome_iff_exists, startsWith_iff_down]
  simp only [rebase?_eq_some_iff_down]
  exact ⟨fun ⟨_, rest, hRest, _⟩ => ⟨rest, hRest⟩, fun ⟨rest, hRest⟩ => ⟨_, rest, hRest, rfl⟩⟩

theorem rebase?_down (f t : StoragePath) (rest : List String) :
    (f.down rest).rebase? f t = some (t.down rest) := rebase?_eq_some_iff_down.mpr ⟨rest, rfl, rfl⟩

theorem startsWith_iff_mem_ancestors : p.startsWith f ↔ f = p ∨ f ∈ p.ancestors := by
  rw [← mem_ancestors_append_iff, List.mem_append, List.mem_reverse, List.mem_singleton, or_comm]

/-- Paths below one path are compared by what leads down to them. -/
theorem compare_down (p : StoragePath) (rest tail : List String) :
    compare (p.down rest) (p.down tail) = compareSegments rest tail :=
  compareSegments_append p.segments rest tail

/-- Being below a path, being that path or having it above, and having a place elsewhere that
corresponds are one. A path that is moved is below the new place, it can be moved back, and it can be
moved on from there as from the beginning; and moved paths are compared as before. The ancestors of a
path are its proper beginnings, the longest first, as one comes by them when going up to the root. -/
theorem rebase_coherent (p f t : StoragePath) :
    ((p.rebase? f t).isSome ↔ p.startsWith f) ∧ (p.startsWith f ↔ f = p ∨ f ∈ p.ancestors) ∧
      (∀ r, p.rebase? f t = some r →
        r.startsWith t ∧ r.rebase? t f = some p ∧ (∀ u, r.rebase? t u = p.rebase? f u) ∧
          ∀ q s, q.rebase? f t = some s → compare r s = compare p q) ∧
      (∀ a : StoragePath, a ∈ p.ancestors ↔ a.segments <+: p.segments ∧ a ≠ p) ∧
      (p.ancestors.Pairwise fun a b => b.depth < a.depth) ∧
      ∀ n, p.ancestors[n]? = p.above? (n + 1) := by
  refine ⟨rebase?_isSome_iff, startsWith_iff_mem_ancestors, fun r hr => ?_, fun a => ?_,
    pairwise_depth_ancestors p, getElem?_ancestors p⟩
  · obtain ⟨rest, rfl, rfl⟩ := rebase?_eq_some_iff_down.mp hr
    refine ⟨startsWith_down, rebase?_down t f rest, fun u => ?_, fun q s hs => ?_⟩
    · rw [rebase?_down, rebase?_down]
    · obtain ⟨tail, rfl, rfl⟩ := rebase?_eq_some_iff_down.mp hs
      rw [compare_down, compare_down]
  · rw [mem_ancestors_iff, startsWith_iff]

/-- Two paths below `/a` that are moved below `/x/y`, and one whose first segment only begins with the
same letter. -/
theorem rebase_coherent_siblings :
    let p : StoragePath := ⟨["a", "b", "c"]⟩
    let q : StoragePath := ⟨["a", "b-c"]⟩
    let source : StoragePath := ⟨["a"]⟩
    let target : StoragePath := ⟨["x", "y"]⟩
    p.rebase? source target = some ⟨["x", "y", "b", "c"]⟩ ∧
      (⟨["x", "y", "b", "c"]⟩ : StoragePath).rebase? target source = some p ∧
      compare (⟨["x", "y", "b", "c"]⟩ : StoragePath) ⟨["x", "y", "b-c"]⟩ = compare p q ∧
      p.before q = true ∧ p.ancestors[1]? = some source ∧
      ((⟨["ab", "c"]⟩ : StoragePath).rebase? source target).isSome = false := by
  intro p q source target
  have hp : p.rebase? source target = some ⟨["x", "y", "b", "c"]⟩ := by decide
  have hq : q.rebase? source target = some ⟨["x", "y", "b-c"]⟩ := by decide
  obtain ⟨-, -, hMoved, -, -, hAbove⟩ := rebase_coherent p source target
  obtain ⟨-, hBack, -, hOrder⟩ := hMoved _ hp
  have hAside : ¬((⟨["ab", "c"]⟩ : StoragePath).rebase? source target).isSome :=
    mt (rebase_coherent _ source target).1.mp (by decide)
  exact ⟨hp, hBack, hOrder q _ hq, by decide, hAbove 1, Bool.eq_false_iff.mpr hAside⟩

end Cabinet.StoragePath
