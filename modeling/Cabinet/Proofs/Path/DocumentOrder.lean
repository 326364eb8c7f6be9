import Cabinet.Proofs.Path.Selection
import Mathlib.Data.List.Nodup

/-! The order in which a path lists what it selects. Document order is said apart from the evaluator:
a place comes before the places below it, and what lies in an earlier child of a container before
what lies in a later one. A path without descents lists its matches in this order. A descent takes
what is selected at a place before it goes on to the children, so it may list a late child before
what lies below an early one: it lists its matches in the order of the containers that they are
children of. With any number of descents, of two matches one of which lies above the other, and of
two children of one container, the one that is first in the document comes first. -/

namespace Cabinet

namespace Document

/-- One child of a document comes before another. -/
def StepBefore (d : Document) (s t : Step) : Prop :=
  List.Sublist [s, t] (d.children.map Prod.fst)

/-- Two places lie in different children of one container, the first one in the earlier child. -/
def Beside (d : Document) (l k : Location) : Prop :=
  ∃ q s t e, d.at? q = some e ∧ e.StepBefore s t ∧ q ++ [s] <+: l ∧ q ++ [t] <+: k

/-- Document order: a place comes before another one that lies below it, or in a later child of a
container that both of them lie in. -/
def Precedes (d : Document) (l k : Location) : Prop :=
  (l <+: k ∧ l ≠ k) ∨ d.Beside l k

/-- A place leads another one when the other lies below it, or is a later child of the container that
both of them are children of. -/
def Leads (d : Document) (l k : Location) : Prop :=
  (l <+: k ∧ l ≠ k) ∨
    ∃ q s t e, d.at? q = some e ∧ e.StepBefore s t ∧ l = q ++ [s] ∧ k = q ++ [t]

/-- Two places come in the order of the containers that they are children of. -/
def ByContainer (d : Document) (l k : Location) : Prop :=
  ∃ q s r t, l = q ++ [s] ∧ k = r ++ [t] ∧
    (d.Precedes q r ∨ ∃ e, q = r ∧ d.at? q = some e ∧ e.StepBefore s t)

variable {d e : Document} {l k m : Location} {s t : Step}

theorem nodup_steps (hd : d.UniqueKeys) : (d.children.map Prod.fst).Nodup := by
  cases d with
  | array es =>
      have hSteps : (array es).children.map Prod.fst = (es.zipIdx.map Prod.snd).map Step.index := by
        simp only [children, List.map_map, Function.comp_def]
      rw [hSteps, List.zipIdx_map_snd]
      exact List.Nodup.map (fun _ _ h => Step.index.inj h) List.nodup_range'
  | object ms =>
      have hSteps : (object ms).children.map Prod.fst = (Members.keys ms).map Step.key := by
        simp only [children, Members.keys, List.map_map, Function.comp_def]
      rw [hSteps]
      exact List.Nodup.map (fun _ _ h => Step.key.inj h) hd.nodup_keys
  | _ => exact List.nodup_nil

/-- The children of a document are listed in their order. -/
theorem pairwise_stepBefore (d : Document) :
    d.children.Pairwise fun c w => d.StepBefore c.1 w.1 :=
  List.pairwise_map.mp (List.pairwise_iff_forall_sublist.mpr fun h => h)

theorem StepBefore.asymm (h : d.StepBefore s t) (hd : d.UniqueKeys) : ¬d.StepBefore t s := by
  intro hBack
  have hOrder : (d.children.map Prod.fst).Pairwise fun a b =>
      (d.children.map Prod.fst).idxOf a < (d.children.map Prod.fst).idxOf b := by
    rw [List.pairwise_iff_getElem]
    intro i j hi hj hij
    rwa [(nodup_steps hd).idxOf_getElem, (nodup_steps hd).idxOf_getElem]
  rw [List.pairwise_iff_forall_sublist] at hOrder
  exact Nat.lt_asymm (hOrder h) (hOrder hBack)

theorem StepBefore.ne (h : d.StepBefore s t) (hd : d.UniqueKeys) : s ≠ t := by
  rintro rfl
  exact h.asymm hd h

/-- The step that a location takes out of a place is the only one. -/
theorem step_unique {q : Location} (hs : q ++ [s] <+: l) (ht : q ++ [t] <+: l) : s = t := by
  have hSame : q ++ [s] = q ++ [t] :=
    (List.prefix_of_prefix_length_le hs ht (by simp)).eq_of_length (by simp)
  simpa using hSame

/-- Where two locations take different steps, all that they have in common lies behind them. -/
theorem isPrefix_of_fork {q : Location} (hl : q ++ [s] <+: l) (hk : q ++ [t] <+: k) (hne : s ≠ t)
    (hl' : m <+: l) (hk' : m <+: k) : m <+: q := by
  rcases List.prefix_or_prefix_of_prefix hl' ((List.prefix_append q [s]).trans hl) with h | ⟨r, rfl⟩
  · exact h
  · cases r with
    | nil => simp
    | cons u r =>
        have hStep : q ++ [u] <+: q ++ u :: r := by simp
        exact absurd ((step_unique hl (hStep.trans hl')).trans
          (step_unique (hStep.trans hk') hk)) hne

theorem Beside.asymm (h : d.Beside l k) (hd : d.UniqueKeys) : ¬d.Beside k l := by
  obtain ⟨q, s, t, e, he, hst, hl, hk⟩ := h
  rintro ⟨q', t', s', e', he', hts, hk', hl'⟩
  have hne := hst.ne (hd.at he)
  have hne' := hts.ne (hd.at he')
  have hq : q = q' := by
    have hFirst := isPrefix_of_fork hk' hl' hne' ((List.prefix_append q [t]).trans hk)
      ((List.prefix_append q [s]).trans hl)
    have hSecond := isPrefix_of_fork hl hk hne ((List.prefix_append q' [s']).trans hl')
      ((List.prefix_append q' [t']).trans hk')
    exact hFirst.eq_of_length_le hSecond.length_le
  subst hq
  obtain rfl : e = e' := Option.some.inj (he.symm.trans he')
  rw [← step_unique hl hl', ← step_unique hk hk'] at hts
  exact hst.asymm (hd.at he) hts

/-- No place comes both before and after another one. -/
theorem Precedes.asymm (h : d.Precedes l k) (hd : d.UniqueKeys) : ¬d.Precedes k l := by
  have hFork {l k : Location} (hPrefix : l <+: k) (hBeside : d.Beside k l) : False := by
    obtain ⟨q, s, t, e, he, hst, hk, hl⟩ := hBeside
    exact hst.ne (hd.at he) (step_unique hk (hl.trans hPrefix))
  rcases h with ⟨hPrefix, hne⟩ | hBeside
  · rintro (⟨hBack, -⟩ | hBeside)
    · exact hne (hPrefix.eq_of_length_le hBack.length_le)
    · exact hFork hPrefix hBeside
  · rintro (⟨hPrefix, -⟩ | hBack)
    · exact hFork hPrefix hBeside
    · exact hBeside.asymm hd hBack

/-- Whatever lies below two places beside each other is beside each other. -/
theorem Beside.append (h : d.Beside l k) (a b : Location) : d.Beside (l ++ a) (k ++ b) := by
  obtain ⟨q, s, t, e, he, hst, hl, hk⟩ := h
  exact ⟨q, s, t, e, he, hst, hl.trans (List.prefix_append l a), hk.trans (List.prefix_append k b)⟩

/-- What is beside something else inside a place is so in the whole document. -/
theorem Beside.inside (h : e.Beside l k) (hm : d.at? m = some e) : d.Beside (m ++ l) (m ++ k) := by
  obtain ⟨q, s, t, c, hc, hst, hl, hk⟩ := h
  refine ⟨m ++ q, s, t, c, by rw [at?_append, hm]; exact hc, hst, ?_, ?_⟩
  · rw [List.append_assoc]
    exact (List.prefix_append_right_inj m).mpr hl
  · rw [List.append_assoc]
    exact (List.prefix_append_right_inj m).mpr hk

theorem ByContainer.inside (h : e.ByContainer l k) (hm : d.at? m = some e) :
    d.ByContainer (m ++ l) (m ++ k) := by
  obtain ⟨q, s, r, t, rfl, rfl, hOrder⟩ := h
  refine ⟨m ++ q, s, m ++ r, t, (List.append_assoc ..).symm, (List.append_assoc ..).symm, ?_⟩
  rcases hOrder with (⟨hPrefix, hne⟩ | hBeside) | ⟨c, rfl, hc, hst⟩
  · exact Or.inl (Or.inl ⟨(List.prefix_append_right_inj m).mpr hPrefix,
      fun h => hne (List.append_cancel_left h)⟩)
  · exact Or.inl (Or.inr (hBeside.inside hm))
  · exact Or.inr ⟨c, rfl, by rw [at?_append, hm]; exact hc, hst⟩

/-- Below places beside each other, all containers come in their order. -/
theorem Beside.byContainer {a b : Location} (h : d.Beside l k) (ha : a ≠ []) (hb : b ≠ []) :
    d.ByContainer (l ++ a) (k ++ b) := by
  obtain ⟨a, s, rfl⟩ := (List.eq_nil_or_concat' a).resolve_left ha
  obtain ⟨b, t, rfl⟩ := (List.eq_nil_or_concat' b).resolve_left hb
  exact ⟨l ++ a, s, k ++ b, t, (List.append_assoc ..).symm, (List.append_assoc ..).symm,
    Or.inl (Or.inr (h.append a b))⟩

/-- Inside a place, one place leads another as it does seen from there. -/
theorem Leads.of_append (hm : d.at? m = some e) (hl : l ≠ []) (hk : k ≠ [])
    (h : d.Leads (m ++ l) (m ++ k)) : e.Leads l k := by
  rcases h with ⟨hPrefix, hne⟩ | ⟨q, s, t, c, hc, hst, hLeft, hRight⟩
  · exact Or.inl ⟨(List.prefix_append_right_inj m).mp hPrefix, fun h => hne (by rw [h])⟩
  · obtain ⟨l, u, rfl⟩ := (List.eq_nil_or_concat' l).resolve_left hl
    obtain ⟨k, v, rfl⟩ := (List.eq_nil_or_concat' k).resolve_left hk
    rw [← List.append_assoc] at hLeft hRight
    obtain ⟨rfl, hu⟩ := List.append_inj' hLeft rfl
    obtain ⟨hq, hv⟩ := List.append_inj' hRight rfl
    obtain rfl : k = l := List.append_cancel_left hq
    rw [at?_append, hm] at hc
    exact Or.inr ⟨k, s, t, c, hc, hst, by rw [hu], by rw [hv]⟩

/-- What lies above a place that leads another one lies above that one too. -/
theorem Leads.isPrefix (h : d.Leads (m ++ l) k) (hl : l ≠ []) : m <+: k := by
  rcases h with ⟨hPrefix, -⟩ | ⟨q, s, t, e, -, -, hLeft, rfl⟩
  · exact (List.prefix_append m l).trans hPrefix
  · obtain ⟨l, u, rfl⟩ := (List.eq_nil_or_concat' l).resolve_left hl
    rw [← List.append_assoc] at hLeft
    obtain ⟨rfl, -⟩ := List.append_inj' hLeft rfl
    rw [List.append_assoc]
    exact List.prefix_append m _

theorem Leads.length_le (h : d.Leads l k) : l.length ≤ k.length := by
  rcases h with ⟨hPrefix, -⟩ | ⟨q, s, t, e, -, -, rfl, rfl⟩
  · exact hPrefix.length_le
  · simp

end Document

/-- Each front part of a list holds all entries of the list that come before one of its own. -/
def Heeds {α : Type} (R : α → α → Prop) (xs : List α) : Prop :=
  ∀ as bs, xs = as ++ bs → ∀ y ∈ as, ∀ x ∈ bs, R x y → x ∈ as

namespace Heeds

variable {α β : Type} {R : α → α → Prop} {xs ys : List α}

theorem of_pairwise (h : xs.Pairwise fun y x => ¬R x y) : Heeds R xs := by
  rintro as bs rfl y hy x hx hR
  exact absurd hR ((List.pairwise_append.mp h).2.2 y hy x hx)

theorem append (hxs : Heeds R xs) (hys : Heeds R ys)
    (hCross : ∀ y ∈ xs, ∀ x ∈ ys, R x y → x ∈ xs) : Heeds R (xs ++ ys) := by
  intro as bs hSplit y hy x hx hR
  rcases List.append_eq_append_iff.mp hSplit with ⟨cs, rfl, rfl⟩ | ⟨cs, rfl, rfl⟩
  · rcases List.mem_append.mp hy with hy | hy
    · exact List.mem_append_left cs (hCross y hy x (List.mem_append_right cs hx) hR)
    · exact List.mem_append_right xs (hys cs bs rfl y hy x hx hR)
  · rcases List.mem_append.mp hx with hx | hx
    · exact hxs as cs rfl y hy x hx hR
    · have hMem := hCross y (List.mem_append_left cs hy) x hx hR
      rcases List.mem_append.mp hMem with hMem | hMem
      · exact hMem
      · exact hxs as cs rfl y hy x hMem hR

theorem flatMap {zs : List β} {f : β → List α} (hParts : ∀ z ∈ zs, Heeds R (f z))
    (hCross : zs.Pairwise fun z w => ∀ y ∈ f z, ∀ x ∈ f w, R x y → x ∈ f z) :
    Heeds R (zs.flatMap f) := by
  induction zs with
  | nil => exact of_pairwise List.Pairwise.nil
  | cons z zs ih =>
      obtain ⟨hHead, hTail⟩ := List.pairwise_cons.mp hCross
      obtain ⟨hFirst, hRest⟩ := List.forall_mem_cons.mp hParts
      rw [List.flatMap_cons]
      refine hFirst.append (ih hRest hTail) fun y hy x hx hR => ?_
      obtain ⟨w, hw, hx⟩ := List.mem_flatMap.mp hx
      exact hHead w hw y hy x hx hR

theorem map {S : β → β → Prop} {zs : List β} {f : β → α} (h : Heeds S zs)
    (hf : ∀ x ∈ zs, ∀ y ∈ zs, R (f x) (f y) → S x y) : Heeds R (zs.map f) := by
  intro as bs hSplit y hy x hx hR
  obtain ⟨cs, ds, rfl, rfl, rfl⟩ := List.map_eq_append_iff.mp hSplit
  obtain ⟨w, hw, rfl⟩ := List.mem_map.mp hy
  obtain ⟨z, hz, rfl⟩ := List.mem_map.mp hx
  have hBefore := hf z (List.mem_append_right cs hz) w (List.mem_append_left ds hw) hR
  exact List.mem_map_of_mem (h cs ds rfl w hw z hz hBefore)

end Heeds

namespace Segment

variable {s inner : Segment} {d e : Document} {b c l : Location}

/-- Does the segment look for its places at every depth? -/
def isDescent : Segment → Bool
  | descendant _ => true
  | _ => false

/-- The places a segment selects from a document, as seen from there. -/
def places (s : Segment) (d : Document) : List Location :=
  (s.select d).map Prod.fst

theorem Block.length_eq_one (h : s.Block d b) (hs : s.isDescent = false) : b.length = 1 := by
  cases h with
  | deep => cases hs
  | _ => rfl

theorem Block.isSome_at? (h : s.Block d b) : (d.at? b).isSome := by
  induction h with
  | member hName => simpa [Document.child?] using Members.get?_isSome_iff.mpr hName
  | position _ hn => simp [Document.child?, hn]
  | fromStart _ hn => simp [Document.child?, hn]
  | @fromEnd i es hi hn =>
      have hLt : es.length - i.natAbs < es.length := by omega
      simp [Document.child?, hLt]
  | child hs => simpa using hs
  | deep hl _ ih => simpa [Document.at?_append, hl] using ih

theorem mem_places_iff (hd : d.UniqueKeys) : b ∈ s.places d ↔ s.Block d b := by
  rw [places, List.mem_map]
  constructor
  · rintro ⟨⟨b, v⟩, hm, rfl⟩
    exact ((mem_select_iff hd).mp hm).1
  · intro h
    obtain ⟨v, hv⟩ := Option.isSome_iff_exists.mp h.isSome_at?
    exact ⟨(b, v), (mem_select_iff hd).mpr ⟨h, hv⟩, rfl⟩

theorem places_descendant (inner : Segment) (d : Document) :
    (descendant inner).places d = inner.places d ++
      d.children.flatMap fun c => ((descendant inner).places c.2).map (c.1 :: ·) := by
  simp only [places, select]
  rw [descend_eq]
  simp [List.map_flatMap, Function.comp_def]

/-- What a segment selects below some place, and what leads there a place that it selects from
here, it selects from here as well. -/
theorem Block.of_leads (hl : d.at? l = some e) (hne : l ≠ []) (h : s.Block e b)
    (hc : s.Block d c) (hLeads : d.Leads (l ++ b) c) : s.Block d (l ++ b) := by
  cases hs : s.isDescent with
  | false =>
      have hLength := hLeads.length_le
      have hPos := List.length_pos_of_ne_nil hne
      rw [List.length_append, h.length_eq_one hs, hc.length_eq_one hs] at hLength
      omega
  | true =>
      cases h with
      | @deep inner e e' k b hk h =>
          rw [← List.append_assoc]
          exact .deep (by rw [Document.at?_append, hl]; exact hk) h
      | _ => cases hs

/-- Without a descent, what a segment selects are children, in their order. -/
theorem pairwise_places (hs : s.isDescent = false) (d : Document) :
    (s.places d).Pairwise fun b c => ∃ t u, b = [t] ∧ c = [u] ∧ d.StepBefore t u := by
  have hDefinite (h : s.isDefinite) :
      (s.places d).Pairwise fun b c => ∃ t u, b = [t] ∧ c = [u] ∧ d.StepBefore t u := by
    rw [places, select_of_isDefinite h]
    cases (s.step? d).bind fun t => (d.child? t).map fun c => ([t], c) <;> simp
  cases s with
  | field name => exact hDefinite rfl
  | index i => exact hDefinite rfl
  | wildcard =>
      have hChildren : places .wildcard d = d.children.map fun c => [c.1] := by
        simp [places, select, Function.comp_def]
      rw [hChildren, List.pairwise_map]
      exact (Document.pairwise_stepBefore d).imp fun h => ⟨_, _, rfl, rfl, h⟩
  | descendant inner => cases hs

/-- A descent to children takes them in the order of their containers. -/
theorem pairwise_places_descendant (hs : s.isDescent = false) (hd : d.UniqueKeys) :
    ((descendant s).places d).Pairwise d.ByContainer := by
  induction d using Document.induction_children with
  | step d ih =>
      rw [places_descendant, List.pairwise_append, List.pairwise_flatMap]
      refine ⟨?_, ⟨fun c hc => ?_, ?_⟩, fun b hb l hl => ?_⟩
      · refine (pairwise_places hs d).imp ?_
        rintro _ _ ⟨t, u, rfl, rfl, htu⟩
        exact ⟨[], t, [], u, rfl, rfl, Or.inr ⟨d, rfl, rfl, htu⟩⟩
      · have hAt : d.at? [c.1] = some c.2 := by simpa using (Document.mem_children_iff hd).mp hc
        exact List.pairwise_map.mpr
          ((ih c hc (hd.of_mem_children hc)).imp fun hOrder => hOrder.inside hAt)
      · refine (Document.pairwise_stepBefore d).imp_of_mem ?_
        intro c w hc hw hBefore l hl k hk
        obtain ⟨a, ha, rfl⟩ := List.mem_map.mp hl
        obtain ⟨b, hb, rfl⟩ := List.mem_map.mp hk
        rw [mem_places_iff (hd.of_mem_children hc)] at ha
        rw [mem_places_iff (hd.of_mem_children hw)] at hb
        have hBeside : d.Beside [c.1] [w.1] :=
          ⟨[], c.1, w.1, d, rfl, hBefore, List.prefix_refl _, List.prefix_refl _⟩
        exact hBeside.byContainer ha.ne_nil hb.ne_nil
      · obtain ⟨c, hc, hl⟩ := List.mem_flatMap.mp hl
        obtain ⟨k, hk, rfl⟩ := List.mem_map.mp hl
        rw [mem_places_iff (hd.of_mem_children hc)] at hk
        rw [mem_places_iff hd] at hb
        obtain ⟨t, rfl⟩ := List.length_eq_one_iff.mp (hb.length_eq_one hs)
        obtain ⟨k, u, rfl⟩ := (List.eq_nil_or_concat' k).resolve_left hk.ne_nil
        exact ⟨[], t, c.1 :: k, u, rfl, rfl,
          Or.inl (Or.inl ⟨List.nil_prefix, (List.cons_ne_nil _ _).symm⟩)⟩

theorem heeds_places_of_not_isDescent (hs : s.isDescent = false) (hd : d.UniqueKeys) :
    Heeds d.Leads (s.places d) := by
  refine Heeds.of_pairwise ((pairwise_places hs d).imp ?_)
  rintro _ _ ⟨t, u, rfl, rfl, htu⟩ (⟨hPrefix, hne⟩ | ⟨q, v, w, e, he, hvw, hLeft, hRight⟩)
  · exact hne (hPrefix.eq_of_length rfl)
  · have hRoot : [] ++ [u] = q ++ [v] := hLeft
    obtain ⟨rfl, hStep⟩ := List.append_inj' hRoot rfl
    cases hStep
    cases hRight
    cases he
    exact htu.asymm hd hvw

/-- What a segment selects from a document has, in front of each place, all that leads it. -/
theorem heeds_places (s : Segment) (hd : d.UniqueKeys) : Heeds d.Leads (s.places d) := by
  induction s generalizing d with
  | descendant inner ih =>
      induction d using Document.induction_children with
      | step d ihChild =>
          rw [places_descendant]
          refine (ih hd).append (.flatMap (fun c hc => ?_) ?_) ?_
          · have hStep := (Document.mem_children_iff hd).mp hc
            have hc' := hd.of_mem_children hc
            have hAt : d.at? [c.1] = some c.2 := by simpa using hStep
            refine (ihChild c hc hc').map fun x hx y hy hLeads => ?_
            exact hLeads.of_append hAt ((mem_places_iff hc').mp hx).ne_nil
              ((mem_places_iff hc').mp hy).ne_nil
          · refine (List.pairwise_map.mp (Document.nodup_steps hd)).imp_of_mem ?_
            intro c w _ hw hne y hy x hx hLeads
            obtain ⟨k, -, rfl⟩ := List.mem_map.mp hy
            obtain ⟨l, hl, rfl⟩ := List.mem_map.mp hx
            rw [mem_places_iff (hd.of_mem_children hw)] at hl
            have hPrefix : [w.1] <+: c.1 :: k := hLeads.isPrefix (m := [w.1]) hl.ne_nil
            exact absurd (List.cons_prefix_cons.mp hPrefix).1.symm hne
          · intro y hy x hx hLeads
            obtain ⟨c, hc, hx⟩ := List.mem_flatMap.mp hx
            obtain ⟨b, hb, rfl⟩ := List.mem_map.mp hx
            have hStep := (Document.mem_children_iff hd).mp hc
            rw [mem_places_iff (hd.of_mem_children hc)] at hb
            rw [mem_places_iff hd] at hy ⊢
            cases hb with
            | @deep _ _ e l b hl h =>
                have hAt : d.at? (c.1 :: l) = some e := by
                  rw [Document.at?_cons, hStep]
                  exact hl
                exact h.of_leads hAt (List.cons_ne_nil _ _) hy hLeads
  | _ => exact heeds_places_of_not_isDescent rfl hd

end Segment

theorem firstMatches_sublist (seen : List Location) (ms : List Match) :
    (firstMatches seen ms).Sublist ms := by
  induction ms generalizing seen with
  | nil => exact List.Sublist.refl _
  | cons m ms ih =>
      rw [firstMatches]
      split
      · exact (ih seen).cons m
      · exact (ih _).cons_cons m

/-- Places that have been seen stand in front of the list, and are heeded there. -/
theorem pairwise_firstMatches_of_seen {R : Location → Location → Prop} {seen : List Location}
    {ms : List Match} (h : ∀ as bs, ms.map Prod.fst = as ++ bs →
      ∀ y ∈ as, ∀ x ∈ bs, R x y → x ∈ as ∨ x ∈ seen) :
    ((firstMatches seen ms).map Prod.fst).Pairwise fun y x => ¬R x y := by
  induction ms generalizing seen with
  | nil => exact List.Pairwise.nil
  | cons m ms ih =>
      have hTail (as bs : List Location) (hSplit : ms.map Prod.fst = as ++ bs) :
          ∀ y ∈ as, ∀ x ∈ bs, R x y → x = m.1 ∨ x ∈ as ∨ x ∈ seen := by
        intro y hy x hx hR
        simpa [or_assoc] using h (m.1 :: as) bs (by simp [hSplit]) y
          (List.mem_cons_of_mem _ hy) x hx hR
      rw [firstMatches]
      split
      · rename_i hOld
        refine ih fun as bs hSplit y hy x hx hR => ?_
        rcases hTail as bs hSplit y hy x hx hR with rfl | hx
        · exact Or.inr (by simpa using hOld)
        · exact hx
      · refine List.pairwise_cons.mpr ⟨?_, ih fun as bs hSplit y hy x hx hR => ?_⟩
        · intro x hx hR
          obtain ⟨n, hn, rfl⟩ := List.mem_map.mp hx
          obtain ⟨hMem, hNew⟩ := mem_of_mem_firstMatches hn
          have hBefore := h [m.1] (ms.map Prod.fst) rfl m.1 (List.mem_singleton_self _) n.1
            (List.mem_map_of_mem hMem) hR
          exact hNew (by simpa using hBefore)
        · rcases hTail as bs hSplit y hy x hx hR with rfl | hx | hx
          · exact Or.inr (List.mem_cons_self ..)
          · exact Or.inl hx
          · exact Or.inr (List.mem_cons_of_mem _ hx)

/-- When repeated places are dropped, each stays where it was first, behind all that it heeds. -/
theorem pairwise_firstMatches {R : Location → Location → Prop} {ms : List Match}
    (h : Heeds R (ms.map Prod.fst)) :
    ((firstMatches [] ms).map Prod.fst).Pairwise fun y x => ¬R x y :=
  pairwise_firstMatches_of_seen fun as bs hSplit y hy x hx hR =>
    Or.inl (h as bs hSplit y hy x hx hR)

namespace Path

variable {d : Document} {reached : List Match} {s : Segment}

theorem map_fst_extend (reached : List Match) (s : Segment) :
    (extend reached s).map Prod.fst =
      reached.flatMap fun m => (s.places m.2).map (m.1 ++ ·) := by
  simp [extend, Segment.places, List.map_flatMap, Function.comp_def]

/-- A segment that is no descent leads from places beside each other to places beside each other. -/
theorem pairwise_beside_advance (hs : s.isDescent = false) (hReached : Located d reached)
    (h : (reached.map Prod.fst).Pairwise d.Beside) :
    ((advance reached s).map Prod.fst).Pairwise d.Beside := by
  have hExtend : ((extend reached s).map Prod.fst).Pairwise d.Beside := by
    rw [map_fst_extend, List.pairwise_flatMap]
    refine ⟨fun m hm => ?_, (List.pairwise_map.mp h).imp fun hBeside l hl k hk => ?_⟩
    · refine List.pairwise_map.mpr ((Segment.pairwise_places hs m.2).imp ?_)
      rintro _ _ ⟨t, u, rfl, rfl, htu⟩
      exact ⟨m.1, t, u, m.2, hReached m hm, htu, List.prefix_refl _, List.prefix_refl _⟩
    · obtain ⟨b, -, rfl⟩ := List.mem_map.mp hl
      obtain ⟨c, -, rfl⟩ := List.mem_map.mp hk
      exact hBeside.append b c
  exact hExtend.sublist ((firstMatches_sublist [] _).map Prod.fst)

/-- From places beside each other, a descent to children leads to them in the order of their
containers. -/
theorem pairwise_byContainer_advance (hs : s.isDescent = false) (hd : d.UniqueKeys)
    (hReached : Located d reached) (h : (reached.map Prod.fst).Pairwise d.Beside) :
    ((advance reached (.descendant s)).map Prod.fst).Pairwise d.ByContainer := by
  have hExtend : ((extend reached (.descendant s)).map Prod.fst).Pairwise d.ByContainer := by
    rw [map_fst_extend, List.pairwise_flatMap]
    refine ⟨fun m hm => ?_, (List.pairwise_map.mp h).imp_of_mem ?_⟩
    · exact List.pairwise_map.mpr ((Segment.pairwise_places_descendant hs
        (hd.at (hReached m hm))).imp fun hOrder => hOrder.inside (hReached m hm))
    · intro m n hm hn hBeside l hl k hk
      obtain ⟨b, hb, rfl⟩ := List.mem_map.mp hl
      obtain ⟨c, hc, rfl⟩ := List.mem_map.mp hk
      rw [Segment.mem_places_iff (hd.at (hReached m hm))] at hb
      rw [Segment.mem_places_iff (hd.at (hReached n hn))] at hc
      exact hBeside.byContainer hb.ne_nil hc.ne_nil
  exact hExtend.sublist ((firstMatches_sublist [] _).map Prod.fst)

/-- A segment keeps every place behind those that lead it. -/
theorem pairwise_leads_advance (s : Segment) (hd : d.UniqueKeys) (hReached : Located d reached)
    (hNodup : (reached.map Prod.fst).Nodup)
    (h : (reached.map Prod.fst).Pairwise fun l k => ¬d.Leads k l) :
    ((advance reached s).map Prod.fst).Pairwise fun l k => ¬d.Leads k l := by
  refine pairwise_firstMatches ?_
  change Heeds d.Leads ((extend reached s).map Prod.fst)
  rw [map_fst_extend]
  refine .flatMap (fun m hm => ?_) ?_
  · have hm' := hd.at (hReached m hm)
    refine (Segment.heeds_places s hm').map fun x hx y hy hLeads => ?_
    exact hLeads.of_append (hReached m hm) ((Segment.mem_places_iff hm').mp hx).ne_nil
      ((Segment.mem_places_iff hm').mp hy).ne_nil
  · refine (List.pairwise_map.mp (hNodup.and h)).imp_of_mem ?_
    rintro m n hm hn ⟨hne, hNot⟩ y hy x hx hLeads
    have hm' := hd.at (hReached m hm)
    obtain ⟨c, hc, rfl⟩ := List.mem_map.mp hy
    obtain ⟨b, hb, rfl⟩ := List.mem_map.mp hx
    rw [Segment.mem_places_iff hm'] at hc
    rw [Segment.mem_places_iff (hd.at (hReached n hn))] at hb
    -- Both places reached lie above the later result, hence one of them above the other.
    rcases List.prefix_or_prefix_of_prefix (hLeads.isPrefix hb.ne_nil)
      (List.prefix_append m.1 c) with hPrefix | ⟨l, hl⟩
    · exact absurd (Or.inl ⟨hPrefix, hne.symm⟩) hNot
    · have hl' : l ≠ [] := by
        rintro rfl
        exact hne (by simpa using hl)
      have hAt : m.2.at? l = some n.2 := by
        have hn := hReached n hn
        rwa [← hl, Document.at?_append, hReached m hm] at hn
      rw [← hl, List.append_assoc] at hLeads ⊢
      have hInside := hLeads.of_append (hReached m hm) (List.append_ne_nil_of_left_ne_nil hl' b)
        hc.ne_nil
      exact List.mem_map_of_mem
        ((Segment.mem_places_iff hm').mpr (hb.of_leads hAt hl' hc hInside))

theorem pairwise_beside_foldl {p : Path} (hd : d.UniqueKeys) (hp : ∀ s ∈ p, s.isDescent = false)
    (hReached : Located d reached) (h : (reached.map Prod.fst).Pairwise d.Beside) :
    ((p.foldl advance reached).map Prod.fst).Pairwise d.Beside := by
  induction p generalizing reached with
  | nil => exact h
  | cons s p ih =>
      obtain ⟨hs, hp⟩ := List.forall_mem_cons.mp hp
      exact ih hp (located_advance hd hReached) (pairwise_beside_advance hs hReached h)

theorem pairwise_leads_foldl (hd : d.UniqueKeys) (p : Path) (hReached : Located d reached)
    (hNodup : (reached.map Prod.fst).Nodup)
    (h : (reached.map Prod.fst).Pairwise fun l k => ¬d.Leads k l) :
    ((p.foldl advance reached).map Prod.fst).Pairwise fun l k => ¬d.Leads k l := by
  induction p generalizing reached with
  | nil => exact h
  | cons s p ih =>
      exact ih (located_advance hd hReached) (nodup_firstMatches [] _)
        (pairwise_leads_advance s hd hReached hNodup h)

/-- Without descents, a path lists its matches in document order. A descent to children at the end of
it lists them in the order of their containers. With any descents, a match comes before the matches
below it and before later children of the container that it is a child of. A limit takes the matches
listed first. -/
theorem locate_ordered (hd : d.UniqueKeys) (p : Path) :
    ((∀ s ∈ p, s.isDescent = false) → (p.locate d).Pairwise d.Precedes ∧
        ∀ s : Segment, s.isDescent = false →
          (locate (p ++ [.descendant s]) d).Pairwise d.ByContainer) ∧
      ((p.locate d).Pairwise fun l k => ¬d.Leads k l) ∧
      (∀ n, p.queryLimit d n = ((p.matchesIn d).take n).map Prod.snd) ∧
      p.queryFirst? d = (p.matchesIn d).head?.map Prod.snd := by
  have hStart : Located d [([], d)] := by simp [Located]
  refine ⟨fun hp => ?_, ?_, fun n => ?_, ?_⟩
  · have hBeside := pairwise_beside_foldl hd hp hStart (by simp)
    refine ⟨hBeside.imp Or.inr, fun s hs => ?_⟩
    rw [locate, matchesIn, List.foldl_append]
    exact pairwise_byContainer_advance hs hd (located_matchesIn hd p) hBeside
  · exact pairwise_leads_foldl hd p hStart (by simp) (by simp)
  · rw [queryLimit, query, List.map_take]
  · rw [queryFirst?, query, List.head?_map]

/-- In a list of lists, the elements of an early list come before those of a later one, and a descent
comes to the lists before it comes to what is in them. -/
theorem locate_ordered_nested :
    let d := Document.array [.array [.null, .null], .array [.null]]
    let p : Path := [.wildcard, .wildcard]
    d.UniqueKeys ∧ (∀ s ∈ p, s.isDescent = false) ∧ Segment.wildcard.isDescent = false ∧
      (p.locate d).Pairwise d.Precedes ∧
      (locate [.descendant .wildcard] d).Pairwise d.ByContainer ∧
      (locate [.descendant .wildcard] d).Pairwise (fun l k => ¬d.Leads k l) := by
  intro d p
  have hd : d.UniqueKeys := by decide
  have hp : ∀ s ∈ p, s.isDescent = false := by decide
  exact ⟨hd, hp, rfl, ((locate_ordered hd p).1 hp).1,
    ((locate_ordered hd []).1 (by simp)).2 .wildcard rfl,
    (locate_ordered hd [.descendant .wildcard]).2.1⟩

/-- A descent lists a member of the document before the member of the same name that lies in an
earlier one. -/
theorem not_pairwise_precedes_descent :
    ¬∀ (p : Path) (d : Document), d.UniqueKeys → (p.locate d).Pairwise d.Precedes := by
  intro h
  let d := Document.object [("b", .object [("a", .null)]), ("a", .null)]
  have hd : d.UniqueKeys := by decide
  have hListed : locate [.descendant (.field "a")] d = [[.key "a"], [.key "b", .key "a"]] := rfl
  have hOrder : d.Precedes [.key "a"] [.key "b", .key "a"] := by
    have hPairwise := h [.descendant (.field "a")] d hd
    rw [hListed] at hPairwise
    simpa using hPairwise
  have hBeside : d.Beside [.key "b", .key "a"] [.key "a"] :=
    ⟨[], .key "b", .key "a", d, rfl, by unfold Document.StepBefore; decide, by simp, by simp⟩
  exact hOrder.asymm hd (Or.inr hBeside)

end Path

end Cabinet
