import Cabinet.Proofs.Document.Tree

/-! Changing many places of a document at once. Every node is rebuilt from its rebuilt children, and
then changed itself if its location is one of those to change. Whoever changes one place at a time
comes to the same document, as long as no place is changed before the places below it: the changes
made so far leave every place that is still to come where it was, with its children rebuilt. -/

namespace Cabinet.Document

/-- Change all children, each by what is to be done after the step to it. Keys, their order and all
positions stay. -/
def mapChildren (f : Step → Document → Document) : Document → Document
  | array es => array (es.mapIdx fun n e => f (.index n) e)
  | object ms => object (ms.map fun m => (m.1, f (.key m.1) m.2))
  | d => d

/-- Make a change if there is one to make. -/
def changeIf (change : Bool) (g : Document → Document) (d : Document) : Document :=
  if change then g d else d

mutual

/-- Rebuild a document, children first, and then change by `g` what stands at the locations `S`,
which are counted from this document on. -/
def rebuild (g : Document → Document) (S : Location → Bool) : Document → Document
  | array es => changeIf (S []) g (array (rebuildElements g S 0 es))
  | object ms => changeIf (S []) g (object (rebuildMembers g S ms))
  | d => changeIf (S []) g d

def rebuildElements (g : Document → Document) (S : Location → Bool) (n : Nat) :
    List Document → List Document
  | [] => []
  | d :: ds => d.rebuild g (fun l => S (.index n :: l)) :: rebuildElements g S (n + 1) ds

def rebuildMembers (g : Document → Document) (S : Location → Bool) :
    List (String × Document) → List (String × Document)
  | [] => []
  | (k, d) :: ms => (k, d.rebuild g fun l => S (.key k :: l)) :: rebuildMembers g S ms

end

variable {d e : Document} {g : Document → Document} {S : Location → Bool} {l : Location}

/-- Rebuilding arrays and objects alike. -/
theorem rebuild_eq (g : Document → Document) (S : Location → Bool) (d : Document) :
    d.rebuild g S =
      changeIf (S []) g (d.mapChildren fun s c => c.rebuild g fun l => S (s :: l)) := by
  have hElements (es : List Document) (n : Nat) : rebuildElements g S n es =
      es.mapIdx fun i e => e.rebuild g fun l => S (.index (n + i) :: l) := by
    induction es generalizing n with
    | nil => rfl
    | cons e es ih =>
        rw [rebuildElements, ih, List.mapIdx_cons]
        simp only [Nat.add_zero, Nat.add_right_comm, Nat.add_assoc]
  have hMembers (ms : Members) : rebuildMembers g S ms =
      ms.map fun m => (m.1, m.2.rebuild g fun l => S (.key m.1 :: l)) := by
    induction ms with
    | nil => rfl
    | cons m ms ih => rw [rebuildMembers, ih, List.map_cons]
  cases d with
  | array es => simp only [rebuild, mapChildren, hElements, Nat.zero_add]
  | object ms => simp only [rebuild, mapChildren, hMembers]
  | _ => simp only [rebuild, mapChildren]

/-- The children are found where they were. -/
theorem child?_mapChildren (f : Step → Document → Document) (d : Document) (s : Step) :
    (d.mapChildren f).child? s = (d.child? s).map (f s) := by
  cases d <;> cases s <;> simp only [mapChildren, child?, Option.map_none]
  · exact List.getElem?_mapIdx
  · exact Members.get?_map (fun k => f (.key k)) _ _

/-- Only what happens to the children that are there counts. -/
theorem mapChildren_congr {f h : Step → Document → Document} (hd : d.UniqueKeys)
    (hSame : ∀ s c, d.child? s = some c → f s c = h s c) : d.mapChildren f = d.mapChildren h := by
  cases d with
  | array es =>
      refine congrArg array (List.mapIdx_eq_mapIdx_iff.mpr fun n hn => ?_)
      exact hSame (.index n) _ (List.getElem?_eq_getElem hn)
  | object ms =>
      refine congrArg object (List.map_congr_left fun m hm => ?_)
      have hGet := (Members.get?_eq_some_iff_mem hd.nodup_keys).mpr hm
      rw [hSame (.key m.1) m.2 hGet]
  | _ => rfl

theorem mapChildren_id (hd : d.UniqueKeys) {f : Step → Document → Document}
    (hSame : ∀ s c, d.child? s = some c → f s c = c) : d.mapChildren f = d := by
  rw [mapChildren_congr hd hSame]
  cases d with
  | array es => exact congrArg array (List.ext_getElem? fun n => by simp)
  | _ => simp [mapChildren]

/-- Changing one child after all of them. -/
theorem modifyChild_mapChildren (hd : d.UniqueKeys) (f : Step → Document → Document)
    (h : Document → Document) (s : Step) : (d.mapChildren f).modifyChild h s =
      d.mapChildren fun t c => if t = s then h (f t c) else f t c := by
  cases d with
  | array es =>
      cases s with
      | key k => simp [mapChildren, modifyChild]
      | index n =>
          refine congrArg array (List.ext_getElem? fun i => ?_)
          rw [List.getElem?_modify]
          simp only [List.getElem?_mapIdx, Step.index.injEq]
          by_cases hi : i = n
          · simp [hi, Function.comp_def]
          · simp [hi, Ne.symm hi]
  | object ms =>
      cases s with
      | index n => simp [mapChildren, modifyChild]
      | key k =>
          have hKeys : (Members.keys (ms.map fun m => (m.1, f (.key m.1) m.2))).Nodup := by
            rw [Members.keys_map fun k => f (.key k)]
            exact hd.nodup_keys
          refine congrArg object ?_
          rw [Members.modify_eq_map k h hKeys, List.map_map]
          refine List.map_congr_left fun m _ => ?_
          simp only [Function.comp_apply, Step.key.injEq]
  | _ => cases s <;> rfl

/-- With nothing to change, a document is rebuilt as it was. -/
theorem rebuild_none (hd : d.UniqueKeys) : d.rebuild g (fun _ => false) = d := by
  induction d using induction_children with
  | step d ih =>
      rw [rebuild_eq]
      exact mapChildren_id hd fun s c hc => ih (s, c) (mem_children_of_child? hc) (hd.child hc)

/-- A place above which nothing has been changed is still there, and has been rebuilt. -/
theorem at?_rebuild (hl : d.at? l = some e) (hClear : ∀ k, k <+: l → S k = false) :
    (d.rebuild g S).at? l =
      some (e.mapChildren fun s c => c.rebuild g fun k => S (l ++ s :: k)) := by
  induction l generalizing d S with
  | nil =>
      cases hl
      rw [rebuild_eq, hClear [] (List.prefix_refl [])]
      rfl
  | cons s l ih =>
      obtain ⟨c, hc, hl⟩ := at?_cons_eq_some.mp hl
      have hBelow := ih hl (S := fun k => S (s :: k)) fun k hk =>
        hClear (s :: k) (List.cons_prefix_cons.mpr ⟨rfl, hk⟩)
      rw [rebuild_eq, hClear [] List.nil_prefix, changeIf, if_neg (by decide), at?_cons,
        child?_mapChildren, hc]
      exact hBelow

/-- Changing one more place of a rebuilt document is rebuilding with one more place to change. -/
theorem modifyAt_rebuild (hd : d.UniqueKeys) (hl : (d.at? l).isSome)
    (hClear : ∀ k, k <+: l → S k = false) :
    modifyAt g l (d.rebuild g S) = d.rebuild g fun k => S k || decide (k = l) := by
  induction l generalizing d S with
  | nil =>
      have hBelow (s : Step) (c : Document) :
          (c.rebuild g fun k => S (s :: k) || decide (s :: k = [])) =
            c.rebuild g fun k => S (s :: k) := by
        simp
      rw [modifyAt, rebuild_eq, rebuild_eq, hClear [] (List.prefix_refl [])]
      simp only [hBelow, changeIf, Bool.false_eq_true, if_false, Bool.false_or, decide_true,
        if_true]
  | cons s l ih =>
      have hHere : S [] = false := hClear [] List.nil_prefix
      rw [modifyAt, rebuild_eq g S, rebuild_eq, hHere]
      simp only [changeIf, Bool.false_eq_true, if_false, Bool.false_or, List.nil_eq, reduceCtorEq,
        decide_false]
      rw [modifyChild_mapChildren hd]
      refine mapChildren_congr hd fun t c hc => ?_
      -- the change goes on below the child on the way, and the others have no place to change
      by_cases hts : t = s
      · subst t
        have hSome : (c.at? l).isSome := by simpa [hc] using hl
        have hBelow := ih (hd.child hc) hSome (S := fun k => S (s :: k)) fun k hk =>
          hClear (s :: k) (List.cons_prefix_cons.mpr ⟨rfl, hk⟩)
        simpa using hBelow
      · simp [hts]

/-- Children with unique keys may take the place of others. -/
theorem UniqueKeys.mapChildren {f : Step → Document → Document} (hd : d.UniqueKeys)
    (hf : ∀ s c, d.child? s = some c → (f s c).UniqueKeys) : (d.mapChildren f).UniqueKeys := by
  cases d with
  | array es =>
      refine uniqueKeys_array_iff.mpr fun e he => ?_
      obtain ⟨n, hn, rfl⟩ := List.mem_mapIdx.mp he
      exact hf (.index n) _ (List.getElem?_eq_getElem hn)
  | object ms =>
      refine uniqueKeys_object_iff.mpr ⟨?_, fun m hm => ?_⟩
      · rw [Members.keys_map fun k => f (.key k)]
        exact hd.nodup_keys
      · obtain ⟨n, hn, rfl⟩ := List.mem_map.mp hm
        exact hf (.key n.1) n.2 ((Members.get?_eq_some_iff_mem hd.nodup_keys).mpr hn)
  | _ => exact hd

/-- Rebuilding keeps keys unique if the change does. -/
theorem UniqueKeys.rebuild (hd : d.UniqueKeys) (hg : ∀ e, e.UniqueKeys → (g e).UniqueKeys) :
    (d.rebuild g S).UniqueKeys := by
  induction d using induction_children generalizing S with
  | step d ih =>
      have hChildren := hd.mapChildren fun s c hc =>
        ih (s, c) (mem_children_of_child? hc) (S := fun l => S (s :: l)) (hd.child hc)
      rw [rebuild_eq, changeIf]
      split
      · exact hg _ hChildren
      · exact hChildren

theorem modifyChild_congr {f h : Document → Document} {s : Step}
    (hSame : ∀ c, d.child? s = some c → f c = h c) : d.modifyChild f s = d.modifyChild h s := by
  cases d with
  | array es =>
      cases s with
      | key k => rfl
      | index n =>
          refine congrArg array (List.ext_getElem? fun i => ?_)
          rw [List.getElem?_modify, List.getElem?_modify]
          by_cases hi : n = i
          · subst i
            cases hn : es[n]? with
            | none => rfl
            | some c => simp [hSame c hn]
          · simp [hi]
  | object ms =>
      cases s with
      | key k => exact congrArg object (Members.modify_congr hSame)
      | index n => rfl
  | _ => cases s <;> rfl

/-- A change at a place depends only on what it does to the document that is there. -/
theorem replaceAt_eq_modifyAt (hl : d.at? l = some e) : d.replaceAt l (g e) = modifyAt g l d := by
  rw [replaceAt]
  induction l generalizing d with
  | nil =>
      cases hl
      rfl
  | cons s l ih =>
      obtain ⟨c, hc, hl⟩ := at?_cons_eq_some.mp hl
      refine modifyChild_congr fun b hb => ?_
      obtain rfl : b = c := Option.some.inj (hb.symm.trans hc)
      exact ih hl

theorem child?_modifyChild (f : Document → Document) (d : Document) (s : Step) :
    (d.modifyChild f s).child? s = (d.child? s).map f := by
  cases d <;> cases s <;> simp only [modifyChild, child?, Option.map_none]
  · simp
  · exact Members.get?_modify _ f _

end Cabinet.Document
