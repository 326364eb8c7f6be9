import Cabinet.Proofs.Document.Tree
import Cabinet.Proofs.Path.Order
import Mathlib.Data.List.ReduceOption

/-! Taking many places out of a document at once. Every place is named by where it stood in the
beginning; what is kept stays in order, and the elements of an array close up. Whoever takes one
place out at a time comes to the same document, as long as later places go first: then neither a
place that is still to go nor an element in front of it has moved. -/

namespace Cabinet

namespace Elements

variable {α β : Type}

/-- Around one position, the list of what is kept of a list falls into what is kept in front of it,
what is kept there, and what is kept behind it. Only the middle part depends on that position, and
the front part is as long as it was when nothing of it is dropped. -/
theorem exists_reduceOption_mapIdx_eq {es : List α} {n : Nat} {e : α} (he : es[n]? = some e)
    {f : Nat → α → Option β} (hFront : ∀ i < n, ∀ c, es[i]? = some c → (f i c).isSome) :
    ∃ front back : List β, front.length = n ∧ ∀ g : Nat → α → Option β, (∀ i, i ≠ n → g i = f i) →
      (es.mapIdx g).reduceOption = front ++ ((g n e).toList ++ back) := by
  induction n generalizing es f with
  | zero =>
      obtain ⟨es, rfl⟩ : ∃ rest, es = e :: rest := by
        cases es with
        | nil => simp at he
        | cons c rest => exact ⟨rest, by simpa using he⟩
      refine ⟨[], (es.mapIdx fun i => f (i + 1)).reduceOption, rfl, fun g hg => ?_⟩
      have hBehind : (fun i => g (i + 1)) = fun i => f (i + 1) :=
        funext fun i => hg (i + 1) (Nat.succ_ne_zero i)
      rw [List.mapIdx_cons, hBehind]
      cases g 0 e <;> simp
  | succ n ih =>
      cases es with
      | nil => simp at he
      | cons c es =>
          obtain ⟨b, hb⟩ := Option.isSome_iff_exists.mp (hFront 0 (Nat.succ_pos n) c rfl)
          have he : es[n]? = some e := by simpa using he
          obtain ⟨front, back, hLength, hKept⟩ := ih he (f := fun i => f (i + 1)) fun i hi d hd =>
            hFront (i + 1) (Nat.succ_lt_succ hi) d (by simpa using hd)
          refine ⟨b :: front, back, by simp [hLength], fun g hg => ?_⟩
          have hHead : g 0 c = some b := by rw [hg 0 (Nat.succ_ne_zero n).symm, hb]
          have hTail := hKept (fun i => g (i + 1)) fun i hi => hg (i + 1) (by omega)
          rw [List.mapIdx_cons, hHead, List.reduceOption_cons_of_some, hTail, List.cons_append]

end Elements

namespace Members

variable {key : String} {front back : Members} {d : Document}

/-- The members that are kept of an object, with their new values. -/
def filterMap (f : String → Document → Option Document) (ms : Members) : Members :=
  List.filterMap (fun m => (f m.1 m.2).map (m.1, ·)) ms

/-- Around one key, what is kept of an object falls into what is kept in front of the key, what is
kept under it, and what is kept behind it. Only the middle part depends on that key. -/
theorem exists_filterMap_eq {ms : Members} (hKeys : (keys ms).Nodup) (hd : get? key ms = some d)
    (f : String → Document → Option Document) :
    ∃ front back : Members, key ∉ keys front ∧
      ∀ g : String → Document → Option Document, (∀ k, k ≠ key → g k = f k) →
        filterMap g ms = front ++ (((g key d).map (key, ·)).toList ++ back) := by
  induction ms with
  | nil => simp [get?] at hd
  | cons m ms ih =>
      obtain ⟨k, e⟩ := m
      obtain ⟨hFresh, hRest⟩ := List.nodup_cons.mp hKeys
      by_cases hk : k = key
      · subst k
        obtain rfl : e = d := by simpa [get?] using hd
        refine ⟨[], filterMap f ms, by simp [keys], fun g hg => ?_⟩
        have hBehind : filterMap g ms = filterMap f ms := by
          refine List.filterMap_congr fun m hm => ?_
          have hne : m.1 ≠ key := fun h => hFresh (List.mem_map.mpr ⟨m, hm, h⟩)
          rw [hg m.1 hne]
        rw [← hBehind]
        cases hv : g key e <;> simp [filterMap, hv]
      · obtain ⟨front, back, hFront, hKept⟩ := ih hRest (by simpa [get?, hk] using hd)
        refine ⟨((f k e).map (k, ·)).toList ++ front, back, ?_, fun g hg => ?_⟩
        · have hne : key ≠ k := fun h => hk h.symm
          cases f k e <;> simp_all [keys]
        · have hTail := hKept g hg
          have hHead := congrFun (hg k hk) e
          cases hv : f k e <;> simp_all [filterMap]

theorem get?_append_cons (hFront : key ∉ keys front) :
    get? key (front ++ (key, d) :: back) = some d := by
  induction front with
  | nil => simp [get?]
  | cons m front ih =>
      obtain ⟨hne, hRest⟩ := not_or.mp (mt List.mem_cons.mpr hFront)
      rw [List.cons_append, get?, if_neg (Ne.symm hne), ih hRest]

theorem modify_append_cons (hFront : key ∉ keys front) (f : Document → Document) :
    modify key f (front ++ (key, d) :: back) = front ++ (key, f d) :: back := by
  induction front with
  | nil => simp [modify]
  | cons m front ih =>
      obtain ⟨hne, hRest⟩ := not_or.mp (mt List.mem_cons.mpr hFront)
      rw [List.cons_append, modify, if_neg (Ne.symm hne), ih hRest, List.cons_append]

theorem remove_append_cons (hFront : key ∉ keys front) :
    remove key (front ++ (key, d) :: back) = front ++ back := by
  induction front with
  | nil => simp [remove]
  | cons m front ih =>
      obtain ⟨hne, hRest⟩ := not_or.mp (mt List.mem_cons.mpr hFront)
      rw [List.cons_append, remove, if_neg (Ne.symm hne), ih hRest, List.cons_append]

end Members

namespace Document

/-- Keep some of the children, each changed, and drop the others. What happens to a child depends on
the step that leads to it in the beginning. -/
def filterChildren (f : Step → Document → Option Document) : Document → Document
  | array es => array (es.mapIdx fun n e => f (.index n) e).reduceOption
  | object ms => object (Members.filterMap (fun k => f (.key k)) ms)
  | d => d

mutual

/-- A document without the places in `S`, all taken out at once. Locations are counted from this
document on, and are those from before anything is taken out. -/
def prune (S : Location → Bool) : Document → Document
  | array es => array (pruneElements S 0 es)
  | object ms => object (pruneMembers S ms)
  | d => d

def pruneElements (S : Location → Bool) (n : Nat) : List Document → List Document
  | [] => []
  | d :: ds =>
    if S [.index n] then pruneElements S (n + 1) ds
    else d.prune (fun l => S (.index n :: l)) :: pruneElements S (n + 1) ds

def pruneMembers (S : Location → Bool) : List (String × Document) → List (String × Document)
  | [] => []
  | (k, d) :: ms =>
    if S [.key k] then pruneMembers S ms
    else (k, d.prune fun l => S (.key k :: l)) :: pruneMembers S ms

end

/-- What becomes of one child when the places in `S` are taken out. -/
def pruneChild (S : Location → Bool) (s : Step) (d : Document) : Option Document :=
  if S [s] then none else some (d.prune fun l => S (s :: l))

variable {d e : Document} {S : Location → Bool} {s : Step} {l : Location}

/-- Pruning arrays and objects alike. -/
theorem prune_eq (S : Location → Bool) (d : Document) :
    d.prune S = d.filterChildren (pruneChild S) := by
  have hElements (es : List Document) (n : Nat) : pruneElements S n es =
      (es.mapIdx fun i e => pruneChild S (.index (n + i)) e).reduceOption := by
    induction es generalizing n with
    | nil => rfl
    | cons e es ih =>
        rw [pruneElements, ih, List.mapIdx_cons]
        simp only [Nat.add_zero, Nat.add_right_comm, Nat.add_assoc, pruneChild]
        split <;> simp
  have hMembers (ms : Members) : pruneMembers S ms =
      Members.filterMap (fun k => pruneChild S (.key k)) ms := by
    induction ms with
    | nil => rfl
    | cons m ms ih =>
        rw [pruneMembers, ih]
        simp only [Members.filterMap, List.filterMap_cons, pruneChild]
        split <;> simp
  cases d with
  | array es => simp only [prune, filterChildren, hElements, Nat.zero_add]
  | object ms => simp only [prune, filterChildren, hMembers]
  | _ => rfl

/-- Only what happens to the children that are there counts. -/
theorem filterChildren_congr {f g : Step → Document → Option Document}
    (hSame : ∀ c ∈ d.children, f c.1 c.2 = g c.1 c.2) :
    d.filterChildren f = d.filterChildren g := by
  cases d with
  | array es =>
      refine congrArg (fun cs => array cs.reduceOption) (List.mapIdx_eq_mapIdx_iff.mpr fun n hn => ?_)
      exact hSame (.index n, es[n]) (mem_children_array.mpr ⟨n, rfl, List.getElem?_eq_getElem hn⟩)
  | object ms =>
      refine congrArg object (List.filterMap_congr fun m hm => ?_)
      have hChild := hSame (.key m.1, m.2) (mem_children_object.mpr ⟨m.1, rfl, hm⟩)
      exact congrArg (Option.map (m.1, ·)) hChild
  | _ => rfl

theorem filterChildren_some (d : Document) : d.filterChildren (fun _ => some) = d := by
  cases d with
  | array es =>
      have hList : (es.mapIdx fun _ e => some e).reduceOption = es := by
        simp [List.mapIdx_eq_zipIdx_map, List.reduceOption, List.filterMap_map]
      exact congrArg array hList
  | object ms => exact congrArg object (by simp [Members.filterMap])
  | _ => rfl

/-- With nothing to take out, a document stays as it was. -/
theorem prune_none (d : Document) : d.prune (fun _ => false) = d := by
  induction d using induction_children with
  | step d ih =>
      rw [prune_eq, filterChildren_congr (g := fun _ => some), filterChildren_some]
      intro c hc
      simp [pruneChild, ih c hc]

/-- No element in front of a child is dropped, so that the child keeps its position. -/
def StaysAt (d : Document) (f : Step → Document → Option Document) (s : Step) : Prop :=
  ∀ n, s = .index n → ∀ i < n, ∀ c, d.child? (.index i) = some c → (f (.index i) c).isSome

/-- What is kept of a document around a child that keeps its position: a document with a hole. What
is put into the hole is met one step down, and may be changed or taken out there. -/
theorem exists_hole (hd : d.UniqueKeys) (he : d.child? s = some e)
    {f : Step → Document → Option Document} (hStays : d.StaysAt f s) :
    ∃ around : Option Document → Document,
      (∀ g : Step → Document → Option Document, (∀ t, t ≠ s → g t = f t) →
        d.filterChildren g = around (g s e)) ∧
      ∀ c, (around (some c)).child? s = some c ∧
        (∀ h, (around (some c)).modifyChild h s = around (some (h c))) ∧
        (around (some c)).removeChild? s = some (around none) := by
  cases d with
  | array es =>
      cases s with
      | key k => simp [child?] at he
      | index n =>
          obtain ⟨front, back, rfl, hKept⟩ := Elements.exists_reduceOption_mapIdx_eq he
            (f := fun i => f (.index i)) (hStays n rfl)
          refine ⟨fun c => array (front ++ (c.toList ++ back)), fun g hg => ?_, fun c => ⟨?_, ?_, ?_⟩⟩
          · refine congrArg array (hKept (fun i => g (.index i)) fun i hi => hg (.index i) ?_)
            simpa using hi
          · simp [child?]
          · intro h
            simp [modifyChild, List.modify_eq_take_cons_drop]
          · simp [removeChild?, List.eraseIdx_append_of_length_le]
  | object ms =>
      cases s with
      | index n => simp [child?] at he
      | key k =>
          obtain ⟨front, back, hFront, hKept⟩ := Members.exists_filterMap_eq hd.nodup_keys he
            fun k => f (.key k)
          refine ⟨fun c => object (front ++ ((c.map (k, ·)).toList ++ back)), fun g hg => ?_,
            fun c => ⟨?_, ?_, ?_⟩⟩
          · refine congrArg object (hKept (fun k => g (.key k)) fun t ht => hg (.key t) ?_)
            simpa using ht
          · exact Members.get?_append_cons hFront
          · intro h
            exact congrArg object (Members.modify_append_cons hFront h)
          · have hThere : Members.contains k (front ++ (k, c) :: back) := by
              simp [Members.contains, Members.get?_append_cons hFront]
            simp [removeChild?, hThere, Members.remove_append_cons hFront]
  | _ => simp [child?] at he

end Document

/-- All places in a set come after a location in the order of locations. -/
def Location.Precedes (l : Location) (S : Location → Bool) : Prop :=
  ∀ k, S k → l.compare k = .lt

namespace Location.Precedes

open Std

variable {S : Location → Bool} {s : Step} {l k : Location}

theorem eq_false (h : l.Precedes S) (hk : (k.compare l).isLE) : S k = false := by
  refine Bool.eq_false_iff.mpr fun hMem => ?_
  have hSame := OrientedCmp.isLE_antisymm hk (Ordering.isLE_of_eq_lt (h k hMem))
  have hSwap : l.compare k = (k.compare l).swap := OrientedCmp.eq_swap
  rw [h k hMem, hSame] at hSwap
  cases hSwap

theorem of_isPrefix (h : l.Precedes S) (hk : k <+: l) : k.Precedes S :=
  fun a ha => TransCmp.lt_of_isLE_of_lt (isLE_compare_of_isPrefix hk) (h a ha)

theorem below (h : Precedes (s :: l) S) : l.Precedes fun k => S (s :: k) := by
  intro k hk
  have hStep : s.compare s = .eq := ReflCmp.compare_self
  simpa [compare, hStep] using h _ hk

theorem of_append (h : Precedes (l ++ k) S) : k.Precedes fun a => S (l ++ a) := by
  induction l generalizing S with
  | nil => exact h
  | cons s l ih => exact ih h.below

/-- Elements in front of the way to the location are not in the set. -/
theorem eq_false_of_le {n i : Nat} (h : Precedes (.index n :: l) S) (hi : i ≤ n) :
    S [.index i] = false := by
  refine h.eq_false ?_
  rcases Nat.lt_or_eq_of_le hi with hi | rfl
  · have hStep : (Step.index i).compare (.index n) = .lt := Nat.compare_eq_lt.mpr hi
    rw [compare, hStep]
    rfl
  · exact isLE_compare_of_isPrefix (List.cons_prefix_cons.mpr ⟨rfl, List.nil_prefix⟩)

end Location.Precedes

namespace Document

variable {d e : Document} {S : Location → Bool} {s : Step} {l : Location}

theorem staysAt_pruneChild (h : Location.Precedes (s :: l) S) : d.StaysAt (pruneChild S) s := by
  rintro n rfl i hi c -
  rw [pruneChild, h.eq_false_of_le (Nat.le_of_lt hi)]
  rfl

theorem pruneChild_eq_some (h : Location.Precedes (s :: l) S) (c : Document) :
    pruneChild S s c = some (c.prune fun k => S (s :: k)) := by
  have hKept : S [s] = false :=
    h.eq_false (Location.isLE_compare_of_isPrefix
      (List.cons_prefix_cons.mpr ⟨rfl, List.nil_prefix⟩))
  rw [pruneChild, hKept]
  rfl

/-- A place with all that is taken out behind it is still there, and has been pruned. -/
theorem at?_prune (hd : d.UniqueKeys) (hl : d.at? l = some e) (h : l.Precedes S) :
    (d.prune S).at? l = some (e.prune fun k => S (l ++ k)) := by
  induction l generalizing d S with
  | nil =>
      cases hl
      rfl
  | cons s l ih =>
      obtain ⟨c, hc, hl⟩ := at?_cons_eq_some.mp hl
      obtain ⟨around, hAround, hHole⟩ := exists_hole hd hc (staysAt_pruneChild h)
      rw [prune_eq, hAround _ fun _ _ => rfl, pruneChild_eq_some h, at?_cons, (hHole _).1]
      exact ih (hd.child hc) hl h.below

/-- Taking out one more child of a pruned document is pruning with one more place to take out. -/
theorem removeChild?_prune (hd : d.UniqueKeys) (hs : d.child? s = some e)
    (h : Location.Precedes [s] S) :
    (d.prune S).removeChild? s = some (d.prune fun k => S k || decide (k = [s])) := by
  obtain ⟨around, hAround, hHole⟩ := exists_hole hd hs (staysAt_pruneChild h)
  have hOthers (t : Step) (ht : t ≠ s) :
      pruneChild (fun k => S k || decide (k = [s])) t = pruneChild S t := by
    funext c
    simp [pruneChild, ht]
  have hOut : pruneChild (fun k => S k || decide (k = [s])) s e = none := by
    simp [pruneChild]
  rw [prune_eq S, hAround _ fun _ _ => rfl, pruneChild_eq_some h, (hHole _).2.2, prune_eq,
    hAround _ hOthers, hOut]

/-- Pruning a place of a pruned document further is pruning the document further. -/
theorem replaceAt_prune (hd : d.UniqueKeys) (hl : d.at? l = some e)
    (h : Location.Precedes (l ++ [s]) S) :
    (d.prune S).replaceAt l (e.prune fun k => S (l ++ k) || decide (k = [s])) =
      d.prune fun k => S k || decide (k = l ++ [s]) := by
  induction l generalizing d S with
  | nil =>
      cases hl
      rfl
  | cons t l ih =>
      obtain ⟨c, hc, hl⟩ := at?_cons_eq_some.mp hl
      obtain ⟨around, hAround, hHole⟩ := exists_hole hd hc (staysAt_pruneChild h)
      have hOthers (u : Step) (hu : u ≠ t) :
          pruneChild (fun k => S k || decide (k = t :: l ++ [s])) u = pruneChild S u := by
        funext c
        simp [pruneChild, hu]
      have hThere : pruneChild (fun k => S k || decide (k = t :: l ++ [s])) t c =
          some (c.prune fun k => S (t :: k) || decide (k = l ++ [s])) := by
        have hKept := pruneChild_eq_some h c
        rw [pruneChild] at hKept ⊢
        simp_all
      have hBefore : d.prune S = around (some (c.prune fun k => S (t :: k))) := by
        rw [prune_eq, hAround _ fun _ _ => rfl, pruneChild_eq_some h]
      have hAfter : (d.prune fun k => S k || decide (k = t :: l ++ [s])) =
          around (some (c.prune fun k => S (t :: k) || decide (k = l ++ [s]))) := by
        rw [prune_eq, hAround _ hOthers, hThere]
      rw [hBefore, hAfter, ← ih (hd.child hc) hl h.below]
      exact (hHole _).2.1 _

end Document

end Cabinet
