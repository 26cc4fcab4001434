import AccessControl.Model.Links
import AccessControl.Policy.Source
import AccessControl.Proofs.Failure.Results
import Mathlib.Tactic

/-!
# Shapes of models

Two models have the same shape when they differ in their policy rows and role rows only.
Whatever happens to rows keeps the shape of a model, and with it the definitions that are
found under a key, their fields, and the fact that a model is well formed.
-/

namespace AccessControl

/-- The kinds of definition that hold rows. -/
inductive RowKind where
  | policy
  | role
  deriving DecidableEq

/-- A kind with rows as a kind of definition. -/
def RowKind.kind : RowKind → SectionKind
  | .policy => .policy
  | .role => .role

theorem RowKind.kind_injective : Function.Injective RowKind.kind := by
  intro a b h
  cases a <;> cases b <;> first | rfl | cases h

namespace Model

/-! ### Finding definitions -/

/-- A definition that is found has the kind and the key that were looked for. -/
theorem of_find? {m : Model} {kind : SectionKind} {key : String} {d : Definition}
    (h : m.find? kind key = some d) :
  d ∈ m.definitions ∧ d.kind = kind ∧ d.key = key
  := by
  have hd := List.find?_some h
  rw [Bool.and_eq_true, beq_iff_eq, beq_iff_eq] at hd
  use List.mem_of_find?_eq_some h, hd.1, hd.2

theorem get_eq {m : Model} {kind : SectionKind} {key : String} {d : Definition}
    (h : m.find? kind key = some d) :
  m.get kind key = .ok d
  := by
  rw [get, h]

theorem get_eq_ok {m : Model} {kind : SectionKind} {key : String} {d : Definition}
    (h : m.get kind key = .ok d) :
  m.find? kind key = some d
  := by
  rw [get] at h
  split at h
  case h_1 d' hd' =>
    cases h
    apply hd'
  case h_2 => cases h

/-- A change of definitions that keeps their kinds and keys changes what is found. -/
theorem find?_map
    (m : Model) (f : Definition → Definition) (hkind : ∀ d, (f d).kind = d.kind)
    (hkey : ∀ d, (f d).key = d.key) (kind : SectionKind) (key : String) :
  Model.find? ⟨m.definitions.map f⟩ kind key = (m.find? kind key).map f
  := by
  rw [find?, find?, List.find?_map]
  congr 2
  funext d
  rw [Function.comp, hkind, hkey]

theorem find?_withRows_same (m : Model) (kind : SectionKind) (key : String) (rows : List Row) :
  (m.withRows kind key rows).find? kind key = (m.find? kind key).map fun d => { d with rows }
  := by
  rw [withRows, update, find?_map]
  · cases h : m.find? kind key with
    | none => rfl
    | some d =>
        obtain ⟨-, hkind, hkey⟩ := of_find? h
        simp [hkind, hkey]
  · intro d
    split <;> rfl
  · intro d
    split <;> rfl

theorem find?_withRows_other
    (m : Model) {kind kind' : SectionKind} {key key' : String} (rows : List Row)
    (h : ¬ (kind' = kind ∧ key' = key)) :
  (m.withRows kind key rows).find? kind' key' = m.find? kind' key'
  := by
  rw [withRows, update, find?_map]
  · cases hd : m.find? kind' key' with
    | none => rfl
    | some d =>
        obtain ⟨-, hkind, hkey⟩ := of_find? hd
        simp [hkind, hkey, h]
  · intro d
    split <;> rfl
  · intro d
    split <;> rfl

/-- Of the rows that a definition is given, the last stay. -/
theorem withRows_withRows (m : Model) (kind : SectionKind) (key : String) (rows rows' : List Row) :
  (m.withRows kind key rows).withRows kind key rows' = m.withRows kind key rows'
  := by
  rw [withRows, withRows, withRows, update, update, update, List.map_map, Model.mk.injEq]
  apply List.map_congr_left
  intro d _
  rw [Function.comp]
  by_cases h : d.kind == kind && d.key == key
  · rw [if_pos h, if_pos h]
    exact if_pos h
  · rw [if_neg h, if_neg h]

/-! ### Shapes -/

/-- Two models differ in their policy rows and role rows only. -/
def SameShape (m m' : Model) : Prop := m.clearRows = m'.clearRows

theorem find?_clearRows (m : Model) (kind : RowKind) (key : String) :
  m.clearRows.find? kind.kind key = (m.find? kind.kind key).map fun d => { d with rows := [] }
  := by
  rw [clearRows, find?_map]
  · cases h : m.find? kind.kind key with
    | none => rfl
    | some d =>
        obtain ⟨-, hkind, -⟩ := of_find? h
        cases kind <;> simp [hkind, RowKind.kind]
  · intro d
    split <;> rfl
  · intro d
    split <;> rfl

/-- Definitions of the other kinds hold no rows to clear. -/
theorem find?_clearRows_other
    (m : Model) {kind : SectionKind} (hpolicy : kind ≠ .policy) (hrole : kind ≠ .role)
    (key : String) :
  m.clearRows.find? kind key = m.find? kind key
  := by
  rw [clearRows, find?_map]
  · cases h : m.find? kind key with
    | none => rfl
    | some d =>
        obtain ⟨-, hkind, -⟩ := of_find? h
        simp [hkind, hpolicy, hrole]
  · intro d
    split <;> rfl
  · intro d
    split <;> rfl

namespace SameShape

variable {m m' m'' : Model}

theorem refl (m : Model) : SameShape m m := rfl

theorem symm (h : SameShape m m') : SameShape m' m := Eq.symm h

theorem trans (h : SameShape m m') (h' : SameShape m' m'') : SameShape m m'' := Eq.trans h h'

theorem clearRows (m : Model) :
  SameShape m.clearRows m
  := by
  rw [SameShape, Model.clearRows, Model.clearRows, List.map_map, Model.mk.injEq]
  apply List.map_congr_left
  intro d _
  simp only [Function.comp]
  split
  case isTrue h => exact if_pos h
  case isFalse h => rfl

theorem withRows (m : Model) (kind : RowKind) (key : String) (rows : List Row) :
  SameShape (m.withRows kind.kind key rows) m
  := by
  rw [SameShape, Model.clearRows, Model.clearRows, Model.withRows, update, List.map_map,
    Model.mk.injEq]
  apply List.map_congr_left
  intro d _
  simp only [Function.comp]
  by_cases h : d.kind == kind.kind && d.key == key
  · rw [if_pos h]
    rw [Bool.and_eq_true, beq_iff_eq] at h
    have hkind : (d.kind == .policy || d.kind == .role) = true := by
      rw [h.1]
      cases kind <;> rfl
    rw [if_pos hkind]
    exact if_pos hkind
  · rw [if_neg h]

/-- A definition is another, but for its rows if it is one that holds rows. -/
structure Alike (d d' : Definition) : Prop where
  eq_rows : d = { d' with rows := d.rows }
  eq : d'.kind ≠ .policy → d'.kind ≠ .role → d = d'

/-- Models of one shape have definitions that are alike, one by one. -/
theorem alike (h : SameShape m m') :
  List.Forall₂ Alike m.definitions m'.definitions
  := by
  have hmap := (Model.mk.injEq _ _).mp h
  rw [← List.forall₂_eq_eq_eq, List.forall₂_map_left_iff, List.forall₂_map_right_iff] at hmap
  apply hmap.imp
  intro d d' hd
  constructor
  · obtain ⟨key, text, meaning, rows⟩ := d
    obtain ⟨key', text', meaning', rows'⟩ := d'
    split at hd <;> split at hd <;>
      · obtain ⟨rfl, rfl, rfl, -⟩ := (Definition.mk.injEq _ _ _ _ _ _ _ _).mp hd
        rfl
  · intro hpolicy hrole
    have hnot : ¬ (d'.kind == .policy || d'.kind == .role) = true := by
      simp [hpolicy, hrole]
    rw [if_neg hnot] at hd
    split at hd
    case isTrue hkind =>
      have hsame : d'.kind = d.kind := by
        rw [← hd]
        rfl
      rw [hsame] at hnot
      exact absurd hkind hnot
    case isFalse => apply hd

/-- A model with the shape of a model of one definition of each kind is this model with other
rows. -/
theorem exists_rows
    {r p g e k : Definition} (h : SameShape m ⟨[r, p, g, e, k]⟩) (hr : r.kind = .request)
    (he : e.kind = .effect) (hk : k.kind = .matcher) :
  ∃ permissions roles, m = ⟨[r, { p with rows := permissions }, { g with rows := roles }, e, k]⟩
  := by
  have halike := h.alike
  obtain ⟨ds⟩ := m
  rcases halike with _ | ⟨hr', _ | ⟨hp, _ | ⟨hg, _ | ⟨he', _ | ⟨hk', ⟨⟩⟩⟩⟩⟩⟩
  rw [hr'.eq (by rw [hr]; decide) (by rw [hr]; decide), hp.eq_rows, hg.eq_rows,
    he'.eq (by rw [he]; decide) (by rw [he]; decide),
    hk'.eq (by rw [hk]; decide) (by rw [hk]; decide)]
  exact ⟨_, _, rfl⟩

/-- Models of one shape have the same definitions but for rows. -/
theorem find? (h : SameShape m m') {kind : RowKind} {key : String} {d : Definition}
    (hd : m.find? kind.kind key = some d) :
  ∃ rows, m'.find? kind.kind key = some { d with rows }
  := by
  have hd' : (m'.find? kind.kind key).map (fun d => { d with rows := [] })
      = some { d with rows := [] } := by
    rw [← find?_clearRows, ← h, find?_clearRows, hd]
    rfl
  obtain ⟨d', hd', heq⟩ := Option.map_eq_some_iff.mp hd'
  use d'.rows
  rw [hd', Option.some.injEq]
  obtain ⟨key', text', meaning', rows'⟩ := d'
  cases heq
  rfl

/-- Models of one shape have the same definitions without rows. -/
theorem find?_eq
    (h : SameShape m m') {kind : SectionKind} (hpolicy : kind ≠ .policy) (hrole : kind ≠ .role)
    (key : String) :
  m.find? kind key = m'.find? kind key
  := by
  rw [← find?_clearRows_other m hpolicy hrole, h, find?_clearRows_other m' hpolicy hrole]

theorem has (h : SameShape m m') (kind : RowKind) (key : String) :
  m.has kind.kind key = m'.has kind.kind key
  := by
  have hmap : ∀ m : Model, m.has kind.kind key = (m.clearRows.find? kind.kind key).isSome := by
    intro m
    rw [Model.has, find?_clearRows, Option.isSome_map]
  rw [hmap, hmap, h]

end SameShape

/-! ### Well-formed models -/

/-- The key of every definition with rows tells its kind, and its rows have a field. -/
structure WellFormed (m : Model) : Prop where
  kindOfKey : ∀ (kind : RowKind) (key : String) (d : Definition),
    m.find? kind.kind key = some d → Source.kindOfKey key = .ok kind.kind
  arity_pos : ∀ (kind : RowKind) (key : String) (d : Definition),
    m.find? kind.kind key = some d → 0 < d.arity

theorem WellFormed.of_sameShape {m m' : Model} (hm : WellFormed m) (h : SameShape m m') :
  WellFormed m'
  := by
  constructor
  · intro kind key d hd
    obtain ⟨rows, hrows⟩ := h.symm.find? hd
    apply hm.kindOfKey kind key _ hrows
  · intro kind key d hd
    obtain ⟨rows, hrows⟩ := h.symm.find? hd
    apply hm.arity_pos kind key _ hrows

/-- Under a key there is a definition of at most one kind with rows. -/
theorem WellFormed.kind_unique
    {m : Model} (hm : WellFormed m) {kind kind' : RowKind} {key : String} {d d' : Definition}
    (hd : m.find? kind.kind key = some d) (hd' : m.find? kind'.kind key = some d') :
  kind = kind' ∧ d = d'
  := by
  have h := hm.kindOfKey kind key d hd
  rw [hm.kindOfKey kind' key d' hd', Except.ok.injEq] at h
  obtain rfl := RowKind.kind_injective h
  rw [hd, Option.some.injEq] at hd'
  use rfl, hd'

/-- The rows of a model fit their definitions. -/
def RowsFit (m : Model) : Prop :=
  ∀ (kind : RowKind) (key : String) (d : Definition), m.find? kind.kind key = some d →
    ∀ row ∈ d.rows, row.length = d.arity

theorem rowsFit_clearRows (m : Model) :
  RowsFit m.clearRows
  := by
  intro kind key d hd row hrow
  rw [find?_clearRows, Option.map_eq_some_iff] at hd
  obtain ⟨d, -, rfl⟩ := hd
  cases hrow

theorem RowsFit.withRows
    {m : Model} (hm : RowsFit m) {kind : RowKind} {key : String} {d : Definition}
    (hd : m.find? kind.kind key = some d) {rows : List Row}
    (hrows : ∀ row ∈ rows, row.length = d.arity) :
  RowsFit (m.withRows kind.kind key rows)
  := by
  intro kind' key' d' hd' row hrow
  by_cases h : kind'.kind = kind.kind ∧ key' = key
  · obtain ⟨hkind, rfl⟩ := h
    rw [hkind, find?_withRows_same, hd, Option.map_some, Option.some.injEq] at hd'
    subst hd'
    apply hrows row hrow
  · rw [find?_withRows_other _ _ h] at hd'
    apply hm kind' key' d' hd' row hrow

end Model

end AccessControl
