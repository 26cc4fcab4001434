import AccessControl.Proofs.Enforcer.Cache
import AccessControl.Proofs.Enforcer.Deletion

/-!
# Removals

What is gone after rows were removed that have a text in some place, and what is still there.
Nothing else is lost, also where the source refuses a removal.  The main result is
`Enforcer.deletion_exact`, about the deletions of whatever a name stands for.
-/

namespace AccessControl

open AccessControl.Action

/-! ### Models without some rows -/

/-- A model is another without the rows that a test picks: the rows that stay are in their order,
and all else is the same. -/
structure Model.Without (p : RowKind → String → Row → Bool) (m m' : Model) : Prop where
  shape : m'.SameShape m
  rows : ∀ (kind : RowKind) (key : String), m'.find? kind.kind key
    = (m.find? kind.kind key).map fun d => { d with rows := d.rows.filter (!p kind key ·) }

namespace Model.Without

variable {m m' m'' : Model} {p q : RowKind → String → Row → Bool}

/-- A model is without rows that it does not hold. -/
theorem refl (h : ∀ kind key row, m.Holds kind key row → p kind key row = false) :
  m.Without p m
  := by
  use SameShape.refl m
  intro kind key
  cases hd : m.find? kind.kind key with
  | none => rfl
  | some d =>
      have hrows : d.rows.filter (!p kind key ·) = d.rows := by
        rw [List.filter_eq_self]
        intro row hrow
        rw [h kind key row ⟨d, hd, hrow⟩]
        rfl
      rw [Option.map_some, hrows]

/-- Rows are removed one test after the other. -/
theorem trans (h : m.Without p m') (h' : m'.Without q m'') :
  m.Without (fun kind key row => p kind key row || q kind key row) m''
  := by
  use h'.shape.trans h.shape
  intro kind key
  rw [h'.rows, h.rows, Option.map_map]
  congr 1
  funext d
  simp only [Function.comp, List.filter_filter, Bool.not_or]
  congr 2
  funext row
  apply Bool.and_comm

/-- The rows that a model still holds. -/
theorem holds_iff (h : m.Without p m') (kind : RowKind) (key : String) (row : Row) :
  m'.Holds kind key row ↔ m.Holds kind key row ∧ p kind key row = false
  := by
  rw [Holds, h.rows]
  constructor
  · rintro ⟨d', hd', hrow⟩
    obtain ⟨d, hd, rfl⟩ := Option.map_eq_some_iff.mp hd'
    obtain ⟨hmem, hpick⟩ := List.mem_filter.mp hrow
    exact ⟨⟨d, hd, hmem⟩, by simpa using hpick⟩
  · rintro ⟨⟨d, hd, hmem⟩, hpick⟩
    refine ⟨_, Option.map_eq_some_iff.mpr ⟨d, hd, rfl⟩, List.mem_filter.mpr ⟨hmem, ?_⟩⟩
    rw [hpick]
    rfl

theorem has (h : m.Without p m') (kind : RowKind) (key : String) :
  m'.has kind.kind key = m.has kind.kind key
  := by
  rw [Model.has, Model.has, h.rows, Option.isSome_map]

end Model.Without

/-! ### Places -/

/-- A place in rows: their kind, their key, and a position in each of them. -/
structure RowPlace where
  kind : RowKind
  key : String
  position : Nat

namespace RowPlace

/-- Rows that have the place. -/
def covers (x : RowPlace) (kind : RowKind) (key : String) : Bool := kind == x.kind && key == x.key

/-- A row has a text in a place. -/
def names (x : RowPlace) (s : String) (kind : RowKind) (key : String) (row : Row) : Bool :=
  x.covers kind key && row[x.position]? == some s

/-- A row is picked for a text in a place: it has the text there, or the text is empty. -/
def picks (x : RowPlace) (s : String) (kind : RowKind) (key : String) (row : Row) : Bool :=
  x.covers kind key && (s == "" || row[x.position]? == some s)

theorem picks_eq_names (x : RowPlace) {s : String} (hs : s ≠ "") :
  x.picks s = x.names s
  := by
  funext kind key row
  rw [picks, names, beq_eq_false_iff_ne.mpr hs, Bool.false_or]

/-- The empty text picks all rows that have the place. -/
theorem picks_empty (x : RowPlace) :
  x.picks "" = fun kind key _ => x.covers kind key
  := by
  funext kind key row
  rw [picks, beq_self_eq_true, Bool.true_or, Bool.and_true]

/-- The rows with a text in a place are taken from a definition. -/
theorem without_withRows
    (x : RowPlace) (s : String) {m : Model} {d : Definition}
    (hd : m.find? x.kind.kind x.key = some d) :
  m.Without (x.picks s) (m.withRows x.kind.kind x.key
    (d.rows.filter fun row => !(s == "" || row[x.position]? == some s)))
  := by
  use Model.SameShape.withRows m x.kind x.key _
  intro kind key
  by_cases hsame : kind.kind = x.kind.kind ∧ key = x.key
  · obtain ⟨hkind, rfl⟩ := hsame
    obtain rfl := RowKind.kind_injective hkind
    rw [Model.find?_withRows_same, hd, Option.map_some, Option.map_some]
    simp [picks, covers]
  · rw [Model.find?_withRows_other _ _ hsame]
    have hcovers : x.covers kind key = false := by
      rw [covers, Bool.and_eq_false_iff, beq_eq_false_iff_ne, beq_eq_false_iff_ne, ← not_and_or]
      rintro ⟨rfl, rfl⟩
      exact hsame ⟨rfl, rfl⟩
    cases m.find? kind.kind key with
    | none => rfl
    | some d' => simp [picks, hcovers]

/-- Rows with a text in a place are those of a definition. -/
theorem exists_picks_iff
    (x : RowPlace) (s : String) {m : Model} {d : Definition}
    (hd : m.find? x.kind.kind x.key = some d) :
  (∃ kind key row, m.Holds kind key row ∧ x.picks s kind key row = true) ↔
    (d.rows.filter fun row => s == "" || row[x.position]? == some s).isEmpty = false
  := by
  rw [List.isEmpty_eq_false_iff_exists_mem]
  simp only [List.mem_filter, picks, Bool.and_eq_true (x.covers _ _)]
  constructor
  · rintro ⟨kind, key, row, ⟨d', hd', hrow⟩, hcovers, hpick⟩
    rw [covers, Bool.and_eq_true, beq_iff_eq, beq_iff_eq] at hcovers
    obtain ⟨rfl, rfl⟩ := hcovers
    rw [hd, Option.some.injEq] at hd'
    subst hd'
    exact ⟨row, hrow, hpick⟩
  · rintro ⟨row, hrow, hpick⟩
    exact ⟨x.kind, x.key, row, ⟨d, hd, hrow⟩, by simp [covers], hpick⟩

/-- Removes the rows that have a text in a place. -/
def remove (x : RowPlace) (s : String) : Action Bool :=
  Enforcer.removeWhere x.kind.kind x.key (Enforcer.filterAt x.position [.text s])

end RowPlace

/-! ### Sources that refuse -/

namespace Source

/-- A source refuses to have rows removed: it is a value that cannot be asked for anything, or it
keeps a row without a key. -/
def Refuses : Source → Prop
  | .memory rows => [] ∈ rows
  | .foreign _ => True
  | .file _ | .bare => False

/-- A row without a key cannot be asked. -/
theorem keep_of_nil
    (key : Value) {f : RowFilter} (hf : ∀ values, ∃ pass, f.holds values = .ok pass)
    {rows : List StoredRow} (hrows : [] ∈ rows) :
  keep key f rows = .error (.ofHost .index "list index out of range")
  := by
  induction rows with
  | nil => cases hrows
  | cons row rest ih =>
      cases row with
      | nil => rfl
      | cons k values =>
          obtain ⟨pass, hpass⟩ : ∃ pass, passes key f (k :: values) = .ok pass := by
            rw [passes]
            split
            · apply hf
            · exact ⟨false, rfl⟩
          rw [keep, hpass, ih (by simpa using hrows)]
          rfl

end Source

/-- A source that takes every edit does not refuse. -/
theorem Settled.not_refuses {source : Option Source} (h : Settled source) :
  ∀ s ∈ source, ¬ s.Refuses
  := by
  intro s hs hrefuses
  cases h with
  | none => cases hs
  | memory hrows =>
      cases hs
      exact hrows [] hrefuses rfl
  | file path =>
      cases hs
      exact hrefuses

namespace Enforcer

/-- An enforcer saves its rows to a source that refuses to have rows removed. -/
def Refuses (e : Enforcer) : Prop := e.autoSave = true ∧ ∃ s ∈ e.source, s.Refuses

theorem not_refuses_of_settled {e : Enforcer} (h : Settled e.source) :
  ¬ e.Refuses
  := fun ⟨_, s, hs, hrefuses⟩ => h.not_refuses s hs hrefuses

/-- A removal of rows is passed on to the source unless that refuses; then it fails. -/
theorem perform_persist_removal (key : String) (i : Nat) (values : List Value) (e : Enforcer) :
  let edit := RowEdit.removeWhere (filterAt i values)
  let persisted := (persist edit.operation (edit.onSource key)).perform e
  (e.Refuses ∧ ∃ failure, persisted = (.error failure, e)) ∨
    (¬ e.Refuses ∧ ∃ source log, persisted = (.ok (), { e with source, log }) ∧
      ¬ Refuses { e with source, log })
  := by
  intro edit persisted
  have hindexed : edit.Indexed := ⟨i, rfl, Int.natCast_nonneg i⟩
  have hsettled : Settled e.source → ¬ e.Refuses ∧ ∃ source log,
      persisted = (.ok (), { e with source, log }) ∧ ¬ Refuses { e with source, log } := by
    intro h
    obtain ⟨source, log, hsource, hpersist⟩ := h.perform_persist hindexed key
    exact ⟨not_refuses_of_settled h, source, log, hpersist, not_refuses_of_settled hsource⟩
  obtain hskip | ⟨s, hs, hsave⟩ := e.skips_or_saves
  · right
    have hnot : ¬ e.Refuses := by
      rintro ⟨hsave, s, hs, -⟩
      obtain hnone | hoff := hskip
      · rw [hnone] at hs
        cases hs
      · rw [hoff] at hsave
        cases hsave
    exact ⟨hnot, e.source, e.log, perform_persist_skip _ _ hskip, hnot⟩
  · cases s with
    | memory rows =>
        by_cases hrows : [] ∈ rows
        · left
          obtain ⟨j, hstart, hj⟩ := hindexed
          have hkeep := Source.keep_of_nil (.text key) (RowFilter.holds_ok_of_index hstart hj) hrows
          refine ⟨⟨hsave, _, hs, hrows⟩, .ofHost .index "list index out of range", ?_⟩
          simp only [persisted, persist, perform_bind, perform_get, hs, hsave, edit,
            RowEdit.onSource, Source.removeWhere, Source.edit, hkeep]
          rfl
        · right
          apply hsettled
          rw [hs]
          apply Settled.memory
          rintro row hrow rfl
          exact hrows hrow
    | file path =>
        right
        apply hsettled
        rw [hs]
        apply Settled.file
    | bare =>
        right
        have hnot : ¬ e.Refuses := by
          rintro ⟨-, s, hs', hrefuses⟩
          rw [hs] at hs'
          cases hs'
          exact hrefuses
        obtain ⟨log, hpersist⟩ := perform_persist_unsupported edit.operation
          (edit.onSource key) hs hsave rfl (by rintro _ ⟨⟩)
        exact ⟨hnot, e.source, log, hpersist, hnot⟩
    | foreign v =>
        left
        refine ⟨⟨hsave, _, hs, trivial⟩, v.noAttribute edit.operation, ?_⟩
        simp only [persisted, persist, perform_bind, perform_get, hs, hsave]
        rfl

/-! ### Removals -/

/-- What was performed removes rows that a test picks: it removes no other row, and if it
returns, it has removed all of them and tells whether there were any. -/
structure Removes (p : RowKind → String → Row → Bool) (e : Enforcer)
    (after : Except Failure Bool × Enforcer) : Prop where
  nothingElse : ∃ q : RowKind → String → Row → Bool,
    (∀ kind key row, q kind key row = true → p kind key row = true) ∧
      e.model.Without q after.2.model
  exact : ∀ removed, after.1 = .ok removed → e.model.Without p after.2.model ∧
    (removed = true ↔ ∃ kind key row, e.model.Holds kind key row ∧ p kind key row = true)

namespace Removes

variable {p q : RowKind → String → Row → Bool} {e e' : Enforcer}

/-- What changes no row and fails removes nothing. -/
theorem failed (failure : Failure) :
  Removes p e (.error failure, e)
  := by
  constructor
  · exact ⟨fun _ _ _ => false, nofun, .refl fun _ _ _ _ => rfl⟩
  · intro removed h
    cases h

/-- Where no row is picked, there is nothing to remove. -/
theorem nothing (h : ∀ kind key row, e.model.Holds kind key row → p kind key row = false) :
  Removes p e (.ok false, e)
  := by
  constructor
  · exact ⟨p, fun _ _ _ h => h, .refl h⟩
  · intro removed hremoved
    cases hremoved
    refine ⟨.refl h, iff_of_false Bool.false_ne_true ?_⟩
    rintro ⟨kind, key, row, hholds, hpick⟩
    rw [h kind key row hholds] at hpick
    cases hpick

/-- Some rows are picked and removed. -/
theorem some {result : Except Failure Bool} (h : e.model.Without p e'.model)
    (hsome : ∃ kind key row, e.model.Holds kind key row ∧ p kind key row = true)
    (hresult : ∀ removed, result = .ok removed → removed = true) :
  Removes p e (result, e')
  := by
  constructor
  · exact ⟨p, fun _ _ _ h => h, h⟩
  · intro removed hremoved
    exact ⟨h, iff_of_true (hresult removed hremoved) hsome⟩

/-- What fails after it has removed rows by one test has not removed all rows that two tests
pick. -/
theorem stopped {failure : Failure} (h : Removes p e (.error failure, e')) :
  Removes (fun kind key row => p kind key row || q kind key row) e (.error failure, e')
  := by
  obtain ⟨q', hq', hwithout⟩ := h.nothingElse
  constructor
  · refine ⟨q', ?_, hwithout⟩
    intro kind key row hpick
    rw [hq' kind key row hpick, Bool.true_or]
  · intro removed hremoved
    cases hremoved

/-- Rows are removed by two tests if they are removed by one and then by the other. -/
theorem both
    {here : Bool} {after : Except Failure Bool × Enforcer} (h : Removes p e (.ok here, e'))
    (h' : Removes q e' after) :
  Removes (fun kind key row => p kind key row || q kind key row) e
    (after.1.map (here || ·), after.2)
  := by
  obtain ⟨hwithout, hhere⟩ := h.exact here rfl
  constructor
  · obtain ⟨q', hq', hwithout'⟩ := h'.nothingElse
    refine ⟨_, ?_, hwithout.trans hwithout'⟩
    intro kind key row hpick
    obtain hpick | hpick := (Bool.or_eq_true _ _).mp hpick
    · rw [hpick, Bool.true_or]
    · rw [hq' kind key row hpick, Bool.or_true]
  · intro removed hremoved
    obtain ⟨there, hthere, rfl⟩ := map_eq_ok.mp hremoved
    obtain ⟨hwithout', htold⟩ := h'.exact there hthere
    use hwithout.trans hwithout'
    rw [Bool.or_eq_true, hhere, htold]
    constructor
    · rintro (⟨kind, key, row, hholds, hpick⟩ | ⟨kind, key, row, hholds, hpick⟩)
      · exact ⟨kind, key, row, hholds, by rw [hpick, Bool.true_or]⟩
      · obtain ⟨hholds, -⟩ := (hwithout.holds_iff kind key row).mp hholds
        exact ⟨kind, key, row, hholds, by rw [hpick, Bool.or_true]⟩
    · rintro ⟨kind, key, row, hholds, hpick⟩
      by_cases hp : p kind key row = true
      · exact .inl ⟨kind, key, row, hholds, hp⟩
      · right
        rw [Bool.not_eq_true] at hp
        rw [hp, Bool.false_or] at hpick
        exact ⟨kind, key, row, (hwithout.holds_iff kind key row).mpr ⟨hholds, hp⟩, hpick⟩

end Removes

end Enforcer

namespace RowPlace

variable (x : RowPlace) (s : String) (e : Enforcer)

/-- Rows are removed from a definition, which must exist, and then from the source, unless that
refuses. -/
theorem perform_remove :
  let after := (x.remove s).perform e
  Enforcer.Removes (x.picks s) e after ∧
    (e.model.has x.kind.kind x.key = true → ¬ e.Refuses →
      (∃ removed, after.1 = .ok removed) ∧ ¬ after.2.Refuses)
  := by
  intro after
  let edit := RowEdit.removeWhere (Enforcer.filterAt x.position [.text s])
  have hafter : after = (Enforcer.mutate x.kind.kind edit.operation (edit.onModel x.kind x.key)
      (edit.onSource x.key)).perform e := rfl
  rw [Enforcer.perform_mutate] at hafter
  cases hd : e.model.find? x.kind.kind x.key with
  | none =>
      have hmodel : edit.onModel x.kind x.key e.model
          = .error (.model (.noSection x.kind.kind.letter (.text x.key))) := by
        simp only [edit, RowEdit.onModel, Model.removeWhere, Model.rows, Model.get, hd]
        rfl
      rw [hmodel] at hafter
      rw [hafter]
      refine ⟨.failed _, ?_⟩
      rw [Model.has, hd]
      rintro ⟨⟩
  | some d =>
      let p : Row → Bool := fun row => s == "" || row[x.position]? == some s
      have hmodel : edit.onModel x.kind x.key e.model
          = .ok (e.model.withRows x.kind.kind x.key (d.rows.filter (!p ·)),
            !(d.rows.filter p).isEmpty) := by
        have hsplit := RowFilter.split_of_holds fun row (_ : row ∈ d.rows) =>
          RowFilter.holds_text x.position s row
        simp only [edit, RowEdit.onModel, Model.removeWhere, Model.rows, Model.get_eq hd,
          Enforcer.filterAt, List.map_singleton, Except.map, bind, Except.bind, hsplit]
        rfl
      have hwithout := x.without_withRows s hd
      rw [hmodel] at hafter
      cases hempty : (d.rows.filter p).isEmpty with
      | true =>
          rw [hempty] at hafter
          rw [hafter]
          refine ⟨.nothing ?_, fun _ hnot => ⟨⟨false, rfl⟩, hnot⟩⟩
          intro kind key row hholds
          by_contra hpick
          have hfalse := (x.exists_picks_iff s hd).mp
            ⟨kind, key, row, hholds, by simpa using hpick⟩
          rw [hempty] at hfalse
          cases hfalse
      | false =>
          have hsome := (x.exists_picks_iff s hd).mpr hempty
          rw [hempty] at hafter
          simp only [Bool.not_false] at hafter
          obtain ⟨hrefuses, failure, hpersist⟩ | ⟨hnot, source, log, hpersist, hnot'⟩ :=
            Enforcer.perform_persist_removal x.key x.position [.text s]
              { e with model := e.model.withRows x.kind.kind x.key (d.rows.filter (!p ·)) }
          · rw [hpersist] at hafter
            rw [hafter]
            exact ⟨.some hwithout hsome (by rintro _ ⟨⟩), fun _ hnot => absurd hrefuses hnot⟩
          · obtain ⟨log', hchanged⟩ := Enforcer.perform_rowsChanged x.kind.kind
              { e with
                model := e.model.withRows x.kind.kind x.key (d.rows.filter (!p ·)), source, log }
            rw [hpersist] at hafter
            simp only [hchanged] at hafter
            rw [hafter]
            refine ⟨.some hwithout hsome ?_, fun _ _ => ⟨⟨true, rfl⟩, hnot'⟩⟩
            rintro removed ⟨⟩
            rfl

end RowPlace

/-! ### Deletions by name -/

namespace Enforcer

/-- Removes the rows that have a text in one of some places, place by place, and tells whether
there were any. -/
def removeAt : List RowPlace → String → Action Bool
  | [], _ => return false
  | x :: rest, s => do
    let here ← x.remove s
    let there ← removeAt rest s
    return here || there

theorem perform_removeAt (places : List RowPlace) (s : String) (e : Enforcer) :
  let after := (removeAt places s).perform e
  Removes (fun kind key row => places.any (·.picks s kind key row)) e after ∧
    ((∀ x ∈ places, e.model.has x.kind.kind x.key = true) → ¬ e.Refuses →
      (∃ removed, after.1 = .ok removed) ∧ ¬ after.2.Refuses)
  := by
  induction places generalizing e with
  | nil => exact ⟨.nothing fun _ _ _ _ => rfl, fun _ hnot => ⟨⟨false, rfl⟩, hnot⟩⟩
  | cons x rest ih =>
      obtain ⟨hremoves, hreturns⟩ := x.perform_remove s e
      rw [removeAt, perform_bind]
      generalize (x.remove s).perform e = step at hremoves hreturns
      obtain ⟨failure | here, e'⟩ := step
      · refine ⟨hremoves.stopped, ?_⟩
        intro hhas hnot
        obtain ⟨⟨removed, hremoved⟩, -⟩ := hreturns (hhas x List.mem_cons_self) hnot
        cases hremoved
      · obtain ⟨hremoves', hreturns'⟩ := ih e'
        have hrest : (do
            let there ← removeAt rest s
            return here || there : Action Bool) = (here || ·) <$> removeAt rest s :=
          bind_pure_comp _ _
        simp only [hrest, perform_map]
        refine ⟨hremoves.both hremoves', ?_⟩
        intro hhas hnot
        obtain ⟨hwithout, -⟩ := hremoves.exact here rfl
        obtain ⟨-, hnot'⟩ := hreturns (hhas x List.mem_cons_self) hnot
        obtain ⟨⟨there, hthere⟩, hnot''⟩ := hreturns'
          (fun y hy => by rw [hwithout.has, hhas y (List.mem_cons_of_mem _ hy)]) hnot'
        rw [hthere]
        exact ⟨⟨here || there, rfl⟩, hnot''⟩

end Enforcer

/-- The deletions of all that a name stands for. -/
inductive NamedDeletion where
  /-- The roles and the permissions of a user. -/
  | user
  /-- The members and the permissions of a role. -/
  | role
  /-- The roles of a user. -/
  | roles
  /-- The permissions of a user. -/
  | permissions

namespace NamedDeletion

/-- The operation of an enforcer that makes a deletion. -/
def act (x : NamedDeletion) (name : String) : Action Bool :=
  match x with
  | .user => Enforcer.deleteUser (.text name)
  | .role => Enforcer.deleteRole (.text name)
  | .roles => Enforcer.deleteRolesOf (.text name) none
  | .permissions => Enforcer.deletePermissionsOf (.text name)

/-- The places in which a deletion looks for a name: role rows have the user first and the role
second, policy rows have a user or a role first. -/
def places : NamedDeletion → List RowPlace
  | .user => [⟨.role, Enforcer.roleKey, 0⟩, ⟨.policy, Enforcer.policyKey, 0⟩]
  | .role => [⟨.role, Enforcer.roleKey, 1⟩, ⟨.policy, Enforcer.policyKey, 0⟩]
  | .roles => [⟨.role, Enforcer.roleKey, 0⟩]
  | .permissions => [⟨.policy, Enforcer.policyKey, 0⟩]

/-- A row has a name where a deletion looks for it. -/
def names (x : NamedDeletion) (name : String) (kind : RowKind) (key : String) (row : Row) : Bool :=
  x.places.any (·.names name kind key row)

/-- Rows of a kind and a key are among those at which a deletion looks. -/
def covers (x : NamedDeletion) (kind : RowKind) (key : String) : Bool :=
  x.places.any (·.covers kind key)

/-- A deletion removes rows place by place. -/
theorem act_eq_removeAt (x : NamedDeletion) (name : String) :
  x.act name = Enforcer.removeAt x.places name
  := by
  cases x with
  | user =>
      simp [act, places, Enforcer.removeAt, Enforcer.deleteUser, RowPlace.remove, RowKind.kind]
  | role =>
      simp [act, places, Enforcer.removeAt, Enforcer.deleteRole, RowPlace.remove, RowKind.kind]
  | roles =>
      simp [act, places, Enforcer.removeAt, Enforcer.deleteRolesOf, RowPlace.remove, RowKind.kind]
  | permissions =>
      simp [act, places, Enforcer.removeAt, Enforcer.deletePermissionsOf, RowPlace.remove,
        RowKind.kind]

end NamedDeletion

namespace Enforcer

/-- A deletion by name removes exactly the rows that have the name where it looks for it, and
tells whether there were any.  The empty name stands for every name: then all the rows at which
the deletion looks are gone.  It returns if these rows have definitions and the source does not
refuse. -/
theorem deletion_exact (x : NamedDeletion) (name : String) (e : Enforcer) :
  let after := (x.act name).perform e
  (name ≠ "" → Removes (x.names name) e after) ∧
  (name = "" → Removes (fun kind key _ => x.covers kind key) e after) ∧
  ((∀ place ∈ x.places, e.model.has place.kind.kind place.key = true) → ¬ e.Refuses →
    ∃ removed, after.1 = .ok removed)
  := by
  intro after
  obtain ⟨hremoves, hreturns⟩ := perform_removeAt x.places name e
  rw [← x.act_eq_removeAt] at hremoves hreturns
  refine ⟨?_, ?_, fun hhas hnot => (hreturns hhas hnot).1⟩
  · intro hname
    simp only [RowPlace.picks_eq_names _ hname] at hremoves
    exact hremoves
  · rintro rfl
    simp only [RowPlace.picks_empty] at hremoves
    exact hremoves

/-- A role is deleted, and the rows of another role stay. -/
theorem deletion_exact_role :
  let e := ((start (Rbac.model [] []) (some (Source.ofRows
    [[.text "p", .text "admin", .text "data", .text "read"],
     [.text "p", .text "guest", .text "data", .text "read"],
     [.text "g", .text "alice", .text "admin"],
     [.text "g", .text "admin", .text "guest"]]))).perform
      (.initial .full {} none .none {})).2
  let after := (NamedDeletion.role.act "admin").perform e
  Removes (NamedDeletion.role.names "admin") e after ∧ after.1 = .ok true ∧
    after.2.model.rows .policy "p" = .ok [["guest", "data", "read"]] ∧
    after.2.model.rows .role "g" = .ok [["admin", "guest"]]
  := by
  intro e after
  refine ⟨(deletion_exact .role "admin" e).1 (by decide), ?_, ?_, ?_⟩
  · apply ok_of_toOption (by decide +kernel)
  · apply ok_of_toOption (by decide +kernel)
  · apply ok_of_toOption (by decide +kernel)

/-- The user without a name has no rows, but deleting it deletes the rows of all users. -/
theorem deletion_of_all :
  let e := ((start (Rbac.model [] []) (some (Source.ofRows
    [[.text "p", .text "alice", .text "data", .text "read"],
     [.text "g", .text "alice", .text "admin"]]))).perform
      (.initial .full {} none .none {})).2
  let after := (deleteUser (.text "")).perform e
  e.model.rows .policy "p" = .ok [["alice", "data", "read"]] ∧
    e.model.rows .role "g" = .ok [["alice", "admin"]] ∧
    after.1 = .ok true ∧
    after.2.model.rows .policy "p" = .ok [] ∧
    after.2.model.rows .role "g" = .ok []
  := by
  intro e after
  refine ⟨?_, ?_, ?_, ?_, ?_⟩
  · apply ok_of_toOption (by decide +kernel)
  · apply ok_of_toOption (by decide +kernel)
  · apply ok_of_toOption (by decide +kernel)
  · apply ok_of_toOption (by decide +kernel)
  · apply ok_of_toOption (by decide +kernel)

end Enforcer

end AccessControl
