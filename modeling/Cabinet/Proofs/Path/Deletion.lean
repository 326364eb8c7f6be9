import Cabinet.Proofs.Document.Prune
import Cabinet.Proofs.Path.Mutation

/-! Deleting all that a path selects. The places are found before the first one is taken out, and
taken out from the last to the first, so that none of them has moved when its turn comes. What
remains is the document without these places, as if all had been taken out at once. -/

namespace Cabinet

/-- Places of a document that are still to be taken out after those in `S`. They were there to begin
with, below the root, they come in descending order, and all in `S` come after them. -/
structure Due (d : Document) (S : Location → Bool) (ls : List Location) : Prop where
  below : ∀ l ∈ ls, l ≠ []
  resolves : ∀ l ∈ ls, (d.at? l).isSome
  descending : ls.Pairwise fun a b => Location.compare b a = .lt
  precedes : ∀ l ∈ ls, l.Precedes S

namespace Due

variable {d : Document} {S : Location → Bool} {l : Location} {ls : List Location}

/-- All the places found are due when nothing has been taken out. -/
theorem deepestFirst (hNodup : ls.Nodup) (hBelow : ∀ l ∈ ls, l ≠ [])
    (hResolves : ∀ l ∈ ls, (d.at? l).isSome) : Due d (fun _ => false) (deepestFirst ls) where
  below l hl := hBelow l ((perm_deepestFirst ls).mem_iff.mp hl)
  resolves l hl := hResolves l ((perm_deepestFirst ls).mem_iff.mp hl)
  descending := pairwise_lt_deepestFirst hNodup
  precedes _ _ _ hk := nomatch hk

/-- Taking out the first place leaves the others due. -/
theorem tail (h : Due d S (l :: ls)) : Due d (fun k => S k || decide (k = l)) ls where
  below k hk := h.below k (List.mem_cons_of_mem _ hk)
  resolves k hk := h.resolves k (List.mem_cons_of_mem _ hk)
  descending := (List.pairwise_cons.mp h.descending).2
  precedes k hk a ha := by
    rcases Bool.or_eq_true_iff.mp ha with ha | ha
    · exact h.precedes k (List.mem_cons_of_mem _ hk) a ha
    · rw [of_decide_eq_true ha]
      exact (List.pairwise_cons.mp h.descending).1 k hk

/-- The first place is met where it was found, and to take it out there is to prune the document
with one more place to take out. -/
theorem step (h : Due d S (l :: ls)) (hd : d.UniqueKeys) :
    ∃ parent s e changed, l = parent ++ [s] ∧ (d.prune S).at? parent = some e ∧
      e.removeChild? s = some changed ∧
      (d.prune S).replaceAt parent changed = d.prune fun k => S k || decide (k = l) := by
  have hPrecedes := h.precedes l (List.mem_cons_self ..)
  obtain ⟨v, hv⟩ := Option.isSome_iff_exists.mp (h.resolves l (List.mem_cons_self ..))
  obtain ⟨parent, s, rfl⟩ :=
    (List.eq_nil_or_concat' l).resolve_left (h.below l (List.mem_cons_self ..))
  rw [Document.at?_append, Option.bind_eq_some_iff] at hv
  obtain ⟨e, he, hs⟩ := hv
  obtain ⟨c, hc, -⟩ := Document.at?_cons_eq_some.mp hs
  have hParent := hPrecedes.of_isPrefix (List.prefix_append parent [s])
  have hHere : Location.Precedes [s] fun k => S (parent ++ k) := hPrecedes.of_append
  exact ⟨parent, s, _, _, rfl, Document.at?_prune hd he hParent,
    Document.removeChild?_prune (hd.at he) hc hHere, Document.replaceAt_prune hd he hPrecedes⟩

end Due

theorem Location.splitLast?_concat (parent : Location) (s : Step) :
    splitLast? (parent ++ [s]) = some (parent, s) := by
  simp [splitLast?]

variable {d : Document} {S : Location → Bool} {ls : List Location}

/-- A run of removals of the places that are due prunes the document, and counts every place
once. -/
theorem removeAll_prune (h : Due d S ls) (hd : d.UniqueKeys) (count : Nat) :
    removeAll count ls (d.prune S) =
      (count + ls.length, d.prune fun k => S k || decide (k ∈ ls)) := by
  induction ls generalizing S count with
  | nil => simp [removeAll]
  | cons l ls ih =>
      obtain ⟨parent, s, e, changed, rfl, hMet, hRemoved, hPruned⟩ := h.step hd
      rw [removeAll, Location.splitLast?_concat]
      simp only [hMet, Option.bind_some, hRemoved, hPruned]
      rw [ih h.tail, changed_cons, List.length_cons, Nat.add_right_comm, Nat.add_assoc]

namespace Path

variable {p : Path}

/-- Only the path without segments selects the root. -/
theorem ne_nil_of_mem_locate (hd : d.UniqueKeys) (hp : p ≠ []) {l : Location}
    (hl : l ∈ p.locate d) : l ≠ [] := by
  obtain ⟨⟨l, v⟩, hm, rfl⟩ := List.mem_map.mp hl
  cases ((mem_matchesIn_iff hd).mp hm).2 with
  | done => exact absurd rfl hp
  | block hb _ _ => exact List.append_ne_nil_of_left_ne_nil hb.ne_nil _

/-- Deleting what a path selects takes all of it out at once: what remains is the document without
the members and elements that the path selects in it before anything is taken out, and each of these
counts once, also where one of them lies below another. -/
theorem delete_eq_prune (hd : d.UniqueKeys) (hp : p ≠ []) :
    p.delete d = ((p.locate d).length, d.prune fun l => decide (l ∈ p.locate d)) := by
  have hDue : Due d (fun _ => false) (deepestFirst (p.locate d)) :=
    .deepestFirst (nodup_locate p d) (fun _ => ne_nil_of_mem_locate hd hp)
      (resolves_of_mem_locate hd p)
  have hRun := removeAll_prune hDue hd 0
  rw [Document.prune_none, Nat.zero_add, (perm_deepestFirst _).length_eq] at hRun
  rw [delete, if_neg (by simpa using hp), hRun]
  simp only [Bool.false_or, (perm_deepestFirst _).mem_iff]

/-- The first element of every array, at every depth: one of them lies below another, and the
elements behind them close up. -/
theorem delete_eq_prune_nested :
    let d := Document.object [("k", .array [.array [.null, .null], .array [.null, .boolean true]])]
    let p : Path := [.descendant (.index 0)]
    d.UniqueKeys ∧ p ≠ [] ∧
      p.delete d = (3, .object [("k", .array [.array [.boolean true]])]) := by
  intro d p
  have hd : d.UniqueKeys := by decide
  have hp : p ≠ [] := by decide
  exact ⟨hd, hp, (delete_eq_prune hd hp).trans rfl⟩

end Path

end Cabinet
