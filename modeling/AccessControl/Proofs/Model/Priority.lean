import AccessControl.Model.Priority
import AccessControl.Proofs.Model.Shape

/-!
# Ordering

Ordering by priority only ever puts rows in another order: it makes a permutation of the rows
of a definition, and it leaves every definition without a priority field as it is.
-/

namespace AccessControl

namespace Ranked

theorem ascending_append (last : Ranked) (rows : List Ranked) :
  (ascending last rows).1 ++ (ascending last rows).2 = rows
  := by
  induction rows generalizing last with
  | nil => rfl
  | cons a rest ih =>
      rw [ascending]
      split
      · rfl
      · apply congrArg (a :: ·) (ih a)

theorem descending_append (last : Ranked) (rows : List Ranked) :
  (descending last rows).1 ++ (descending last rows).2 = rows
  := by
  induction rows generalizing last with
  | nil => rfl
  | cons a rest ih =>
      rw [descending]
      split
      · apply congrArg (a :: ·) (ih a)
      · rfl

/-- The first run and the rest have all rows. -/
theorem firstRun_perm (rows : List Ranked) :
  ((firstRun rows).1 ++ (firstRun rows).2).Perm rows
  := by
  rw [firstRun.eq_def]
  split
  · apply List.Perm.refl
  · apply List.Perm.refl
  case h_3 a b rest =>
    split
    · have happend := congrArg (a :: b :: ·) (descending_append b rest)
      rw [← happend]
      apply (List.reverse_perm (a :: b :: (descending b rest).1)).append_right
    · apply List.Perm.of_eq
      apply congrArg (a :: b :: ·) (ascending_append b rest)

theorem insert_perm (sorted : List Ranked) (a : Ranked) :
  (insert sorted a).Perm (a :: sorted)
  := by
  rw [insert]
  apply List.perm_middle.trans
  rw [List.take_append_drop]

theorem foldl_insert_perm (rows sorted : List Ranked) :
  (rows.foldl insert sorted).Perm (sorted ++ rows)
  := by
  induction rows generalizing sorted with
  | nil => rw [List.append_nil, List.foldl_nil]
  | cons a rest ih =>
      apply (ih (insert sorted a)).trans
      apply ((insert_perm sorted a).append_right rest).trans
      apply List.perm_middle.symm

/-- Ordering gives the rows in some order. -/
theorem sort_perm (rows : List Ranked) :
  (sort rows).Perm rows
  := by
  rw [sort]
  split
  · apply (foldl_insert_perm (firstRun rows).2 (firstRun rows).1).trans
    apply firstRun_perm
  · apply List.mergeSort_perm

end Ranked

namespace Definition

/-- The rows of a definition are ordered by priority. -/
def isRanked (d : Definition) : Bool :=
  d.kind == .policy && (d.fieldIndex? priorityField).isSome

/-- A definition is another with its rows in some order, and in the same order unless they are
ordered by priority. -/
structure Reorders (d d' : Definition) : Prop where
  key : d'.key = d.key
  text : d'.text = d.text
  meaning : d'.meaning = d.meaning
  perm : d'.rows.Perm d.rows
  same : d.isRanked = false → d'.rows = d.rows

theorem Reorders.refl (d : Definition) : Reorders d d :=
  ⟨rfl, rfl, rfl, List.Perm.refl _, fun _ => rfl⟩

theorem sortedRows_perm {d : Definition} {i : Nat} {rows : List Row}
    (h : d.sortedRows i = .ok rows) :
  rows.Perm d.rows
  := by
  rw [sortedRows] at h
  split at h
  case h_1 ranked hranked =>
    cases h
    have hrows : ranked.map (·.2) = d.rows := by
      have hall := mapM_eq_ok.mp hranked
      clear hranked
      generalize d.rows = rows at hall
      induction hall with
      | nil => rfl
      | cons hrow _ ih =>
          obtain ⟨x, hx, h⟩ := bind_eq_ok.mp hrow
          cases h
          apply congrArg _ ih
    rw [← hrows]
    apply (Ranked.sort_perm ranked).map
  case h_2 => cases h

theorem sortByPriority_reorders {d d' : Definition} (h : d.sortByPriority = .ok d') :
  Reorders d d'
  := by
  rw [sortByPriority] at h
  split at h
  case isTrue hkind =>
    split at h
    case h_1 =>
      cases h
      apply Reorders.refl
    case h_2 i hi =>
      obtain ⟨rows, hrows, rfl⟩ := map_eq_ok.mp h
      constructor
      · rfl
      · rfl
      · rfl
      · apply sortedRows_perm hrows
      · simp [isRanked, hkind, hi]
  case isFalse =>
    cases h
    apply Reorders.refl

theorem sortByPriority_of_not_ranked {d : Definition} (h : d.isRanked = false) :
  d.sortByPriority = .ok d
  := by
  rw [sortByPriority]
  split
  case isTrue hkind =>
    rw [isRanked, hkind, Bool.true_and, Option.isSome_eq_false_iff, Option.isNone_iff_eq_none] at h
    rw [h]
  case isFalse => rfl

end Definition

theorem sortDefinitions_reorders (ds : List Definition) :
  List.Forall₂ Definition.Reorders ds (sortDefinitions ds).2
  := by
  induction ds with
  | nil => apply List.Forall₂.nil
  | cons d rest ih =>
      rw [sortDefinitions]
      split
      case h_1 =>
        rw [List.forall₂_cons]
        use Definition.Reorders.refl d
        apply List.forall₂_same.mpr
        intro d' _
        apply Definition.Reorders.refl
      case h_2 d' hd' =>
        rw [List.forall₂_cons]
        use Definition.sortByPriority_reorders hd', ih

/-- Definitions that are left as they are one by one are left as they are together. -/
theorem sortDefinitions_eq_self {ds : List Definition} (h : ∀ d ∈ ds, d.sortByPriority = .ok d) :
  sortDefinitions ds = (.ok (), ds)
  := by
  induction ds with
  | nil => rfl
  | cons d rest ih =>
      obtain ⟨hd, hrest⟩ := List.forall_mem_cons.mp h
      rw [sortDefinitions, hd]
      simp only [ih hrest]

/-- Related lists have related elements where a test that respects the relation succeeds
first. -/
theorem find?_forall₂
    {α : Type} {R : α → α → Prop} {p : α → Bool} {xs ys : List α} (h : List.Forall₂ R xs ys)
    (hp : ∀ x y, R x y → p y = p x) {x : α} (hx : xs.find? p = some x) :
  ∃ y, ys.find? p = some y ∧ R x y
  := by
  induction h with
  | nil => cases hx
  | @cons a b as bs hab _ ih =>
      rw [List.find?_cons] at hx ⊢
      rw [hp a b hab]
      cases hpa : p a with
      | true =>
          rw [hpa, Option.some.injEq] at hx
          subst hx
          use b
      | false =>
          rw [hpa] at hx
          apply ih hx

namespace Model

theorem find?_sortByPriority
    {m : Model} {kind : SectionKind} {key : String} {d : Definition}
    (h : m.find? kind key = some d) :
  ∃ d', m.sortByPriority.2.find? kind key = some d' ∧ d.Reorders d'
  := by
  apply find?_forall₂ (sortDefinitions_reorders m.definitions) _ h
  intro a b hab
  rw [Definition.kind, Definition.kind, hab.meaning, hab.key]

theorem SameShape.sortByPriority (m : Model) :
  SameShape m.sortByPriority.2 m
  := by
  rw [SameShape, Model.clearRows, Model.clearRows, Model.mk.injEq]
  change (sortDefinitions m.definitions).2.map _ = _
  have h := sortDefinitions_reorders m.definitions
  generalize (sortDefinitions m.definitions).2 = ds at h
  generalize m.definitions = cs at h
  induction h with
  | nil => rfl
  | @cons a b as bs hab _ ih =>
      rw [List.map_cons, List.map_cons, ih]
      congr 1
      have hkind : b.kind = a.kind := congrArg Meaning.kind hab.meaning
      have hb : b = { a with rows := b.rows } := by
        rw [← hab.key, ← hab.text, ← hab.meaning]
      rw [hkind]
      by_cases hranked : a.isRanked = false
      · rw [hb, hab.same hranked]
      · rw [Definition.isRanked, Bool.not_eq_false, Bool.and_eq_true] at hranked
        rw [hranked.1, Bool.true_or, hb]
        rfl

theorem RowsFit.sortByPriority {m : Model} (hm : RowsFit m) :
  RowsFit m.sortByPriority.2
  := by
  intro kind key d' hd' row hrow
  obtain ⟨rows, hd⟩ := (SameShape.sortByPriority m).find? hd'
  obtain ⟨d'', hd'', hperm⟩ := find?_sortByPriority hd
  rw [hd', Option.some.injEq] at hd''
  subst hd''
  apply hm kind key _ hd row
  apply hperm.perm.mem_iff.mp hrow

theorem sortByPriority_of_not_ranked {m : Model} (h : ∀ d ∈ m.definitions, d.isRanked = false) :
  m.sortByPriority = (.ok (), m)
  := by
  rw [sortByPriority, sortDefinitions_eq_self]
  intro d hd
  apply Definition.sortByPriority_of_not_ranked (h d hd)

/-- A model with the shape of one without priorities is not reordered. -/
theorem SameShape.sortByPriority_eq
    {m m₀ : Model} (h : SameShape m m₀) (hranked : ∀ d ∈ m₀.definitions, d.isRanked = false) :
  m.sortByPriority = (.ok (), m)
  := by
  apply sortByPriority_of_not_ranked
  have halike := h.alike
  generalize m.definitions = ds at halike
  generalize m₀.definitions = ds₀ at halike hranked
  induction halike with
  | nil => apply List.forall_mem_nil
  | @cons d d₀ rest rest₀ hd _ ih =>
      obtain ⟨hd₀, hrest⟩ := List.forall_mem_cons.mp hranked
      rw [List.forall_mem_cons]
      refine ⟨?_, ih hrest⟩
      rw [hd.eq_rows]
      apply hd₀

end Model

end AccessControl
