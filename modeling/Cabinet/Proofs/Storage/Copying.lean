import Cabinet.Proofs.Storage.Failing
import Cabinet.Proofs.Storage.Listing

/-! Running a copy. One level of it is a file that is created, or a folder whose children are listed
before its copy is made and copied into it one after the other. A copy that is not cut off is the same
with more levels to go down. -/

namespace Cabinet.Item

open Cabinet.Action

variable {i folder j : Item} {w w' : World} {levels more : Nat} {E : FileError → Prop}
  {Q : Item → World → Prop}

/-- The children that a copy takes along. -/
def copyEach (levels : Nat) (copy : Item) (children : List Item) : Action FileError PUnit :=
  children.forM fun child => discard (copyDown levels child copy)

/-- A copy ends as it should if the file does that it creates, or every turn of its loop. -/
theorem copyDown_ends (hE : ∀ e, e.IsOrdinary → E e)
    (hFile : ∀ m j w', i.requireEntry w = .ok m → m.isFile = true →
      folder.create i.name (.item i) w = (.ok j, w') → Q j w')
    (hFolder : ∀ m children copy w₁, i.requireEntry w = .ok m → m.isFile = false →
      (folder.storage.same i.storage && folder.path.startsWith i.path) = false →
      i.list .all w = .ok children → folder.createFolder i.name w = (.ok copy, w₁) →
      Ends E (fun _ => Q copy) (copyEach levels copy children w₁)) :
    Ends E Q (copyDown (levels + 1) i folder w) := by
  rw [copyDown]
  apply (((Fails.query (fails_requireEntry i)).ends w).widen hE).bind
  intro m w₁ hAsk _
  obtain ⟨hEntry, rfl⟩ := query_eq_ok_iff.mp hAsk
  cases hKind : m.isFile with
  | true =>
      rw [if_pos rfl]
      exact ((fails_create folder i.name (.item i)).ends w).mono hE fun j w' hRun _ =>
        hFile m j w' hEntry hKind hRun
  | false =>
      rw [if_neg Bool.false_ne_true]
      cases hInto : folder.storage.same i.storage && folder.path.startsWith i.path with
      | true => exact hE _ nofun
      | false =>
          rw [if_neg Bool.false_ne_true]
          apply (((Fails.query (fails_list i .all)).ends w).widen hE).bind
          intro children w₁ hAsked _
          obtain ⟨hListed, rfl⟩ := query_eq_ok_iff.mp hAsked
          apply (((fails_createFolder folder i.name).ends w).widen hE).bind
          intro copy w₁ hMade _
          exact (hFolder m children copy w₁ hEntry hKind hInto hListed hMade).bind fun _ _ _ h => h

/-- The copy of a folder is made and filled with what was listed. -/
theorem copyDown_of_folder {m : EntryMeta} {children : List Item} (hEntry : i.requireEntry w = .ok m)
    (hKind : m.isFile = false)
    (hInto : (folder.storage.same i.storage && folder.path.startsWith i.path) = false)
    (hListed : i.list .all w = .ok children) (hMade : folder.createFolder i.name w = (.ok j, w')) :
    copyDown (levels + 1) i folder w = (copyEach levels j children >>= fun _ => pure j) w' := by
  rw [copyDown, bind_ok (query_eq_ok_iff.mpr ⟨hEntry, rfl⟩), hKind, if_neg Bool.false_ne_true, hInto,
    if_neg Bool.false_ne_true]
  dsimp only
  rw [bind_ok (query_eq_ok_iff.mpr ⟨hListed, rfl⟩), bind_ok hMade]
  rfl

/-- What carries an induction over a copy: a property of the world that each file and folder of the copy
keeps, and one of the levels, the item and the folder, which goes on to the children that are listed. -/
structure Descent (E : FileError → Prop) (I : World → Prop) (G : Nat → Item → Item → Prop) : Prop where
  ordinary {e : FileError} (h : e.IsOrdinary) : E e
  cut {i folder : Item} (hG : G 0 i folder) : E (.endless i.path)
  file {levels : Nat} {i folder j : Item} {m : EntryMeta} {w w' : World} (hG : G (levels + 1) i folder)
    (h : I w) (hEntry : i.requireEntry w = .ok m) (hFile : m.isFile = true)
    (hRun : folder.create i.name (.item i) w = (.ok j, w')) : I w'
  folder {levels : Nat} {i folder copy : Item} {m : EntryMeta} {children : List Item} {w w' : World}
    (hG : G (levels + 1) i folder) (h : I w) (hEntry : i.requireEntry w = .ok m)
    (hKind : m.isFile = false) (hListed : i.list .all w = .ok children) (hMade : folder.createFolder i.name w = (.ok copy, w')) :
    I w' ∧ ∀ child ∈ children, G levels child copy

theorem Descent.ends {I : World → Prop} {G : Nat → Item → Item → Prop} (h : Descent E I G)
    (hG : G levels i folder) (hw : I w) : Ends E (fun _ => I) (copyDown levels i folder w) := by
  induction levels generalizing i folder w with
  | zero => exact h.cut hG
  | succ levels ih =>
      apply copyDown_ends fun _ => h.ordinary
      · intro m j w' hEntry hFile hRun
        exact h.file hG hw hEntry hFile hRun
      · intro m children copy w₁ hEntry hKind _ hListed hMade
        obtain ⟨hMadeHere, hChildren⟩ := h.folder hG hw hEntry hKind hListed hMade
        apply Ends.forM (P := fun _ => I) hMadeHere
        intro child rest hSuffix w₂ hNow
        exact (ih (hChildren child (hSuffix.subset List.mem_cons_self)) hNow).discard

theorem copyTo_apply (i folder : Item) (w : World) :
    i.copyTo folder w = copyDown (i.storage.backend.levels w) i folder w := rfl

/-- What is copied is there. -/
theorem requireEntry_of_copyDown (hRun : copyDown levels i folder w = (.ok j, w')) :
    ∃ m, i.requireEntry w = .ok m := by
  cases levels with
  | zero => cases congrArg Prod.fst hRun
  | succ levels =>
      obtain ⟨m, w₁, hAsk, -⟩ := bind_eq_ok_iff.mp hRun
      exact ⟨m, (query_eq_ok_iff.mp hAsk).1⟩

/-! ### Levels -/

/-- A run comes to its end: it has not been cut off. -/
def Completes {α : Type} (run : Except FileError α × World) : Prop :=
  Ends FileError.IsOrdinary (fun _ _ => True) run

theorem completes_of_ends {α : Type} {R : α → World → Prop} {run : Except FileError α × World}
    (h : Ends FileError.IsOrdinary R run) : Completes run :=
  h.imp fun _ _ _ => trivial

instance (run : Except FileError Item × World) : Decidable (Completes run) :=
  match run with
  | (.ok _, _) => isTrue trivial
  | (.error e, _) => inferInstanceAs (Decidable e.IsOrdinary)

theorem copyEach_cons (levels : Nat) (copy child : Item) (children : List Item) :
    copyEach levels copy (child :: children) =
      (discard (copyDown levels child copy) >>= fun _ => copyEach levels copy children) := List.forM_cons

theorem copyEach_more {copy : Item} {children : List Item}
    (hEach : ∀ child w, Completes (copyDown levels child copy w) →
      copyDown more child copy w = copyDown levels child copy w)
    (h : Completes (copyEach levels copy children w)) :
    copyEach more copy children w = copyEach levels copy children w := by
  induction children generalizing w with
  | nil => rfl
  | cons child children ih =>
      rw [copyEach_cons] at h ⊢
      rw [copyEach_cons]
      symm
      have hChild := h.first
      apply bind_eq_bind
      · have hRun := hEach child w (completes_of_ends hChild.first)
        exact bind_eq_bind hRun.symm fun _ _ _ => rfl
      · intro _ w' hFirst
        exact (ih (hChild.of_ok hFirst)).symm

/-- With more levels a copy goes on in the same way, unless it has been cut off. -/
theorem copyDown_more (h : Completes (copyDown levels i folder w)) (hMore : levels ≤ more) :
    copyDown more i folder w = copyDown levels i folder w := by
  induction levels generalizing more i folder w with
  | zero => exact absurd rfl (h i.path)
  | succ levels ih =>
      obtain ⟨extra, rfl⟩ := Nat.exists_eq_add_of_le hMore
      obtain ⟨more, hLevels⟩ : ∃ more, levels + 1 + extra = more + 1 := ⟨levels + extra, by omega⟩
      rw [hLevels]
      rw [copyDown] at h ⊢
      rw [copyDown]
      symm
      apply bind_eq_bind rfl
      intro m w₁ hEntry
      have hRest := h.first.of_ok hEntry
      split
      · rfl
      · rename_i hKind
        rw [if_neg hKind] at hRest
        split
        · rfl
        · rename_i hInto
          rw [if_neg hInto] at hRest
          apply bind_eq_bind rfl
          intro children w₂ hListed
          apply bind_eq_bind rfl
          intro copy w₃ hMade
          have hEach := ((hRest.first.of_ok hListed).first.of_ok hMade).first
          have hSame := copyEach_more (fun child w hChild => ih hChild (by omega : levels ≤ more))
            (completes_of_ends hEach)
          exact bind_eq_bind hSame.symm fun _ _ _ => rfl

theorem copyDown_eq_copyDown (h : Completes (copyDown levels i folder w))
    (hMore : Completes (copyDown more i folder w)) :
    copyDown levels i folder w = copyDown more i folder w := by
  rcases Nat.le_total levels more with hLevels | hLevels
  · exact (copyDown_more h hLevels).symm
  · exact copyDown_more hMore hLevels

/-! ### Steps in memory -/

variable {t tA : Tree} {m : EntryMeta}

theorem entry_of_requireEntry (h : i.storage.Holds w t) (hEntry : i.requireEntry w = .ok m) :
    i.storage.hides i.path = false ∧ ∃ n, t.get? i.path = some n ∧ n.metadata = m := by
  obtain ⟨-, hShown, hFound⟩ := requireEntry_eq_ok_iff.mp hEntry
  exact ⟨hShown, Option.map_eq_some_iff.mp (Except.ok.inj ((h.entry i.path).symm.trans hFound))⟩

/-- A file that is copied comes to be in the folder, under its own name. -/
theorem create_copy_ok (hA : i.storage.Holds w tA) (hB : folder.storage.Holds w t) (hT : t.WellFormed)
    (hOne : i.storage.same folder.storage = true → i.storage.backend = folder.storage.backend)
    (hPlain : i.path.Plain) (hEntry : i.requireEntry w = .ok m) (hFile : m.isFile = true)
    (hRun : folder.create i.name (.item i) w = (.ok j, w')) :
    ∃ contents t', j = ⟨folder.storage, i.path.under folder.path⟩ ∧
      folder.storage.hides (i.path.under folder.path) = false ∧ tA.get? i.path = some (.file contents) ∧
      folder.storage.Holds w' t' ∧ t.Gains (i.path.under folder.path) (.file contents) t' := by
  obtain ⟨-, n, hFound, rfl⟩ := entry_of_requireEntry hA hEntry
  rcases create_cases folder i.name (.item i) w with ⟨e, hError⟩ | ⟨p, hName, hWrite⟩
  · cases hError.symm.trans hRun
  · obtain rfl : i.path.under folder.path = p :=
      Except.ok.inj ((hPlain.resolve_name folder.path).symm.trans hName)
    have hTarget : (⟨folder.storage, i.path.under folder.path⟩ : Item).storage.Holds w t := hB
    obtain ⟨rfl, -, hShown, ⟨hItself, rfl⟩ | ⟨-, t', contents, hAfter, hStands, hGains⟩⟩ :=
      write_ok hTarget hT (hWrite.symm.trans hRun)
    · obtain ⟨hStorage, hPath⟩ := Bool.and_eq_true_iff.mp hItself
      have hPath : i.path = i.path.under folder.path := beq_iff_eq.mp hPath
      obtain ⟨k, hBackend, hTree⟩ := hA
      obtain rfl : tA = t := Option.some.inj
        (hTree.symm.trans (hB.getElem?_eq ((hOne hStorage).symm.trans hBackend)))
      cases n with
      | folder => cases hFile
      | file contents =>
          refine ⟨contents, tA, rfl, hShown, hFound, hB, .refl hT ?_⟩
          rw [← hPath, hFound]
    · obtain ⟨-, -, hRead⟩ := hA.readBytes_eq_ok_iff.mp hStands
      exact ⟨contents, t', rfl, hShown, Tree.file?_eq_some_iff.mp hRead, hAfter, hGains⟩

/-- A folder that is copied comes to be in the folder, under its own name. -/
theorem createFolder_copy_ok (hB : folder.storage.Holds w t) (hT : t.WellFormed) (hPlain : i.path.Plain)
    (hRun : folder.createFolder i.name w = (.ok j, w')) :
    ∃ t', j = ⟨folder.storage, i.path.under folder.path⟩ ∧
      folder.storage.hides (i.path.under folder.path) = false ∧ folder.storage.Holds w' t' ∧
      t.Gains (i.path.under folder.path) .folder t' := by
  obtain ⟨p, t', hName, rfl, hShown, hAfter, hGains⟩ := createFolder_ok hB hT hRun
  obtain rfl : i.path.under folder.path = p :=
    Except.ok.inj ((hPlain.resolve_name folder.path).symm.trans hName)
  exact ⟨t', rfl, hShown, hAfter, hGains⟩

end Cabinet.Item
