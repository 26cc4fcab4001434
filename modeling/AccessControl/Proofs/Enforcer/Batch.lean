import AccessControl.Proofs.Enforcer.InStep
import AccessControl.Proofs.Enforcer.Linked

/-!
# Batches

Adding or removing several rows at once.  A batch that is refused changes nothing, and one that
is taken does what its rows do one after the other, each of which is taken.  The main result is
`Enforcer.batch_spec`.
-/

namespace AccessControl

open AccessControl.Action

/-! ### Rows -/

/-- To remove different rows is to remove the first and then the rest. -/
theorem Row.removeAll?_cons {row : Row} {rest : List Row} (hnodup : (row :: rest).Nodup)
    (rows : List Row) :
  Row.removeAll? rows (row :: rest) = (Row.remove? rows row).bind (Row.removeAll? · rest)
  := by
  obtain ⟨hrow, -⟩ := List.nodup_cons.mp hnodup
  have hrest : rest.all (rows.erase row).contains = rest.all rows.contains := by
    rw [Bool.eq_iff_iff, List.all_eq_true, List.all_eq_true]
    apply forall₂_congr
    intro row' hrow'
    have hne : row' ≠ row := fun h => hrow (h ▸ hrow')
    rw [List.contains_iff_mem, List.contains_iff_mem, List.mem_erase_of_ne hne]
  rw [removeAll?, remove?, List.all_cons]
  by_cases hmem : rows.contains row
  · rw [if_pos hmem, Option.bind_some, removeAll?, hrest, hmem, Bool.true_and, List.foldl_cons]
  · rw [if_neg hmem, Option.bind_none, if_neg]
    rw [Bool.and_eq_true]
    exact fun h => hmem h.1

theorem mapM_allTexts?_map_text (rows : List Row) :
  (rows.map (·.map Value.text)).mapM Value.allTexts? = some rows
  := by
  induction rows with
  | nil => rfl
  | cons row rest ih =>
      rw [List.map_cons, List.mapM_cons, allTexts?_map_text, ih]
      rfl

/-! ### Batches -/

/-- What a batch does with its rows. -/
inductive Batch where
  | add
  | remove
  deriving DecidableEq

namespace Batch

/-- The edit of a batch. -/
def all : Batch → List (List Value) → RowEdit
  | .add => .addAll
  | .remove => .removeAll

/-- The edit of one row of a batch. -/
def one : Batch → List Value → RowEdit
  | .add => .add
  | .remove => .remove

/-- The rows of a definition after one row of a batch. -/
def row? : Batch → List Row → Row → Option (List Row)
  | .add => Row.add?
  | .remove => Row.remove?

/-- The rows of a definition after a batch. -/
def rows? : Batch → List Row → List Row → Option (List Row)
  | .add => Row.addAll?
  | .remove => Row.removeAll?

/-- Stored rows after one stored row of a batch, and whether they changed. -/
def stored : Batch → List StoredRow → StoredRow → List StoredRow × Bool
  | .add => Source.appended
  | .remove => Source.erased

/-- A row that is added must fit. -/
def Fits (b : Batch) (d : Definition) (row : Row) : Prop := b = .add → row.length = d.arity

/-- A batch of different rows is its first row and then the rest. -/
theorem rows?_cons {row : Row} {rest : List Row} (b : Batch) (hnodup : (row :: rest).Nodup)
    (rows : List Row) :
  b.rows? rows (row :: rest) = (b.row? rows row).bind (b.rows? · rest)
  := by
  cases b with
  | add => rfl
  | remove => apply Row.removeAll?_cons hnodup

theorem rows?_nil (b : Batch) (rows : List Row) :
  b.rows? rows [] = some rows
  := by
  cases b <;> rfl

variable {b : Batch} {kind : RowKind} {key : String} {m m' : Model}

/-- One row of a batch is taken if it fits and the rows of the definition change. -/
theorem onModel_one
    {d : Definition} {row : Row} {rows : List Row} (hd : m.find? kind.kind key = some d)
    (hfits : b.Fits d row) (hrows : b.row? d.rows row = some rows) :
  (b.one (row.map .text)).onModel kind key m = .ok (m.withRows kind.kind key rows, true)
  := by
  cases b with
  | add =>
      have hcheck : d.checkRow (row.map .text) = .ok row := checkRow_eq_ok.mpr ⟨rfl, hfits rfl⟩
      change Row.add? d.rows row = some rows at hrows
      simp only [one, RowEdit.onModel, Model.addRow, Model.get_eq hd, hcheck, bind, Except.bind, pure,
        Except.pure, hrows]
      rfl
  | remove =>
      change Row.remove? d.rows row = some rows at hrows
      simp only [one, RowEdit.onModel, Model.removeRow, Model.get_eq hd, bind, Except.bind, pure,
        Except.pure, allTexts?_map_text, Option.bind, hrows]
      rfl

/-- A batch is taken if its rows fit and the rows of the definition change. -/
theorem onModel_all {values : List (List Value)} :
  (b.all values).onModel kind key m = .ok (m', true) ↔
    ∃ d rows rows', m.find? kind.kind key = some d ∧ values = rows.map (·.map .text) ∧
      (∀ row ∈ rows, b.Fits d row) ∧ b.rows? d.rows rows = some rows' ∧
      m' = m.withRows kind.kind key rows'
  := by
  cases b with
  | add =>
      constructor
      · intro h
        obtain ⟨d, hd, h⟩ := bind_eq_ok.mp h
        obtain ⟨rows, hrows, h⟩ := bind_eq_ok.mp h
        obtain ⟨rows', hrows', rfl⟩ := RowEdit.changed_eq_true (Except.ok.inj h)
        obtain ⟨rfl, hlength⟩ := mapM_checkRow hrows
        exact ⟨d, rows, rows', Model.get_eq_ok hd, rfl, fun row hrow _ => hlength row hrow, hrows', rfl⟩
      · rintro ⟨d, rows, rows', hd, rfl, hfits, hrows, rfl⟩
        have hcheck : (rows.map (·.map Value.text)).mapM d.checkRow = .ok rows := by
          rw [mapM_eq_ok, List.forall₂_map_left_iff, List.forall₂_same]
          intro row hrow
          exact checkRow_eq_ok.mpr ⟨rfl, hfits row hrow rfl⟩
        change Row.addAll? d.rows rows = some rows' at hrows
        simp only [all, RowEdit.onModel, Model.addRows, Model.get_eq hd, hcheck, bind, Except.bind,
          pure, Except.pure, hrows]
        rfl
  | remove =>
      constructor
      · intro h
        obtain ⟨d, hd, h⟩ := bind_eq_ok.mp h
        obtain ⟨rows', hrows', rfl⟩ := RowEdit.changed_eq_true (Except.ok.inj h)
        obtain ⟨rows, hrows, hrows'⟩ := Option.bind_eq_some_iff.mp hrows'
        exact ⟨d, rows, rows', Model.get_eq_ok hd, RowEdit.mapM_allTexts? hrows, fun _ _ => nofun,
          hrows', rfl⟩
      · rintro ⟨d, rows, rows', hd, rfl, -, hrows, rfl⟩
        change Row.removeAll? d.rows rows = some rows' at hrows
        simp only [all, RowEdit.onModel, Model.removeRows, Model.get_eq hd, bind, Except.bind, pure,
          Except.pure, mapM_allTexts?_map_text, Option.bind, hrows]
        rfl

/-- When a batch of different rows is taken, its first row is, and then the rest of it. -/
theorem onModel_cons
    {values : List Value} {rest : List (List Value)} (hnodup : (values :: rest).Nodup)
    (h : (b.all (values :: rest)).onModel kind key m = .ok (m', true)) :
  ∃ m₁, (b.one values).onModel kind key m = .ok (m₁, true) ∧
    (b.all rest).onModel kind key m₁ = .ok (m', true) ∧ (rest = [] → m' = m₁)
  := by
  obtain ⟨d, rows, rows', hd, hvalues, hfits, hrows, rfl⟩ := onModel_all.mp h
  obtain ⟨row, rows, rfl, rfl, rfl⟩ := List.map_eq_cons_iff.mp hvalues.symm
  have hnodup' : (row :: rows).Nodup := List.Nodup.of_map (List.map Value.text) hnodup
  obtain ⟨hrow, hrest⟩ := List.forall_mem_cons.mp hfits
  rw [b.rows?_cons hnodup'] at hrows
  obtain ⟨rows₁, hrows₁, hrows'⟩ := Option.bind_eq_some_iff.mp hrows
  refine ⟨_, onModel_one hd hrow hrows₁, ?_, ?_⟩
  · apply onModel_all.mpr
    refine ⟨{ d with rows := rows₁ }, rows, rows', ?_, rfl, hrest, hrows', ?_⟩
    · rw [Model.find?_withRows_same, hd]
      rfl
    · rw [Model.withRows_withRows]
  · intro hnil
    obtain rfl := List.map_eq_nil_iff.mp hnil
    rw [b.rows?_nil] at hrows'
    rw [Option.some.inj hrows']

/-- One row of a batch, in a source in memory. -/
theorem onSource_one (b : Batch) (key : String) (values : List Value) (rows : List StoredRow) :
  (b.one values).onSource key (.memory rows)
    = .ok (.memory (b.stored rows (.text key :: values)).1, (b.stored rows (.text key :: values)).2)
  := by
  cases b <;> rfl

/-- A batch changes a source in memory for one row after the other. -/
theorem onSource_all (b : Batch) (key : String) (values : List (List Value)) (rows : List StoredRow) :
  let stored := Source.each b.stored rows (values.map fun row => .text key :: row)
  (b.all values).onSource key (.memory rows) = .ok (.memory stored.1, stored.2)
  := by
  cases b <;> rfl

end Batch

namespace Enforcer

/-! ### Performing -/

/-- An enforcer whose rows are kept in memory, after rows of a kind have changed in its model and
in its source. -/
def reworked (kind : RowKind) (m : Model) (rows : List StoredRow) (e : Enforcer) : Enforcer :=
  { e with
    model := m
    source := some (.memory rows)
    graphs := graphsAfter kind.kind { e with model := m }
    cache := [] }

/-- Of several changes the last one counts. -/
theorem reworked_reworked
    (kind : RowKind) (m m' : Model) (rows rows' : List StoredRow) (log log' : List LogEvent)
    (e : Enforcer) :
  { ({ e.reworked kind m rows with log } : Enforcer).reworked kind m' rows' with log := log' }
    = { e.reworked kind m' rows' with log := log' }
  := by
  have hgraphs : graphsAfter kind.kind
      { ({ e.reworked kind m rows with log } : Enforcer) with model := m' }
        = graphsAfter kind.kind { e with model := m' } := by
    simp only [graphsAfter, reworked]
    split
    case isTrue h => rw [Model.link_link]
    case isFalse => rfl
  simp only [reworked] at hgraphs ⊢
  rw [hgraphs]

/-- An edit that changes the model changes a source in memory. -/
theorem perform_edit_memory
    {e : Enforcer} {rows rows' : List StoredRow} (hs : e.source = some (.memory rows))
    (hsave : e.autoSave = true) {kind : RowKind} {key : String} {edit : RowEdit} {m : Model}
    {changed : Bool} (hmodel : edit.onModel kind key e.model = .ok (m, true))
    (hsource : edit.onSource key (.memory rows) = .ok (.memory rows', changed)) :
  ∃ log, (edit.act kind key).perform e = (.ok true, { e.reworked kind m rows' with log })
  := by
  have hpersist := perform_persist_memory (e := { e with model := m }) edit.operation hs hsave hsource
  obtain ⟨log, hchanged⟩ := perform_rowsChanged kind.kind
    { e with model := m, source := some (.memory rows') }
  use log
  rw [RowEdit.act_eq_mutate, perform_mutate, hmodel]
  simp only [hpersist, hchanged]
  rfl

/-- Makes edits of one key, one after the other, and tells which of them changed something. -/
def editEach (kind : RowKind) (key : String) : List RowEdit → Action (List Bool)
  | [] => return []
  | edit :: rest => do
    let changed ← edit.act kind key
    let others ← editEach kind key rest
    return changed :: others

/-- When a batch of different rows is taken, each of its rows is, and together they change what
it changes. -/
theorem perform_editEach
    {b : Batch} {kind : RowKind} {key : String} {values : List Value} {rest : List (List Value)}
    (hnodup : (values :: rest).Nodup) {e : Enforcer} {rows : List StoredRow}
    (hs : e.source = some (.memory rows)) (hsave : e.autoSave = true) {m : Model}
    (h : (b.all (values :: rest)).onModel kind key e.model = .ok (m, true)) :
  ∃ log, (editEach kind key ((values :: rest).map b.one)).perform e
    = (.ok ((values :: rest).map fun _ => true),
      { e.reworked kind m
          (Source.each b.stored rows ((values :: rest).map fun row => .text key :: row)).1
        with log })
  := by
  induction rest generalizing values e rows with
  | nil =>
      obtain ⟨m₁, hone, -, hlast⟩ := Batch.onModel_cons hnodup h
      obtain rfl := hlast rfl
      obtain ⟨log, hperform⟩ :=
        perform_edit_memory hs hsave hone (b.onSource_one key values rows)
      use log
      rw [List.map_singleton, editEach, perform_bind, hperform]
      rfl
  | cons next rest ih =>
      obtain ⟨m₁, hone, hall, -⟩ := Batch.onModel_cons hnodup h
      obtain ⟨log, hperform⟩ :=
        perform_edit_memory hs hsave hone (b.onSource_one key values rows)
      obtain ⟨log', hrest⟩ := ih (List.nodup_cons.mp hnodup).2
        (e := { e.reworked kind m₁ (b.stored rows (.text key :: values)).1 with log }) rfl hsave hall
      use log'
      rw [List.map_cons, editEach, perform_bind, hperform]
      dsimp only
      rw [perform_bind, hrest, reworked_reworked]
      rfl

/-- A batch that does not change the model leaves the enforcer as it was. -/
theorem perform_act_unchanged
    {e : Enforcer} {kind : RowKind} {key : String} {edit : RowEdit}
    (h : ∀ m, edit.onModel kind key e.model ≠ .ok (m, true)) :
  ∃ result, result ≠ .ok true ∧ (edit.act kind key).perform e = (result, e)
  := by
  rw [RowEdit.act_eq_mutate, perform_mutate]
  cases hmodel : edit.onModel kind key e.model with
  | error failure => exact ⟨.error failure, nofun, rfl⟩
  | ok made =>
      obtain ⟨m, changed⟩ := made
      cases changed with
      | false => exact ⟨.ok false, by simp, rfl⟩
      | true => apply absurd hmodel (h m)

/-- A batch without rows leaves every definition as it was. -/
theorem find?_of_onModel_nil
    {b : Batch} {kind : RowKind} {key : String} {m m' : Model}
    (h : (b.all []).onModel kind key m = .ok (m', true)) (kind' : SectionKind) (key' : String) :
  m'.find? kind' key' = m.find? kind' key'
  := by
  obtain ⟨d, rows, rows', hd, hvalues, -, hrows, rfl⟩ := Batch.onModel_all.mp h
  obtain rfl := List.map_eq_nil_iff.mp hvalues.symm
  rw [b.rows?_nil] at hrows
  obtain rfl := Option.some.inj hrows
  by_cases hsame : kind' = kind.kind ∧ key' = key
  · obtain ⟨rfl, rfl⟩ := hsame
    rw [Model.find?_withRows_same, hd]
    rfl
  · rw [Model.find?_withRows_other _ _ hsame]

/-- What becomes of a batch.  Where rows are kept in memory and are saved automatically, a batch
that is refused or fails leaves the enforcer exactly as it was.  One of different rows that is
taken, if it has rows, leaves an enforcer that differs in its reports only from the one that its
rows leave, one after the other, each of which is taken.  One without rows leaves the rows as
they were, and builds role graphs from them if they are role rows and links are built
automatically. -/
theorem batch_spec
    {e : Enforcer} {rows : List StoredRow} (hs : e.source = some (.memory rows))
    (hsave : e.autoSave = true) (b : Batch) (kind : RowKind) (key : String)
    (values : List (List Value)) :
  let result := (((b.all values).act kind key).perform e).1
  let e' := (((b.all values).act kind key).perform e).2
  (result ≠ .ok true → e' = e) ∧
  (result = .ok true → values.Nodup → values ≠ [] →
    ∃ log, (editEach kind key (values.map b.one)).perform e
      = (.ok (values.map fun _ => true), { e' with log })) ∧
  (result = .ok true → values = [] →
    (∀ kind' key', e'.model.find? kind' key' = e.model.find? kind' key') ∧ e'.source = e.source ∧
    e'.graphs = if kind = .role ∧ e.autoBuild then e.model.link e.graphs else e.graphs)
  := by
  intro result e'
  by_cases htaken : ∃ m, (b.all values).onModel kind key e.model = .ok (m, true)
  case neg =>
    obtain ⟨r, hr, hperform⟩ := perform_act_unchanged (not_exists.mp htaken)
    have hresult : result = r := congrArg Prod.fst hperform
    have he' : e' = e := congrArg Prod.snd hperform
    refine ⟨fun _ => he', ?_, ?_⟩
    · intro hok
      exact absurd (hresult.symm.trans hok) hr
    · intro hok
      exact absurd (hresult.symm.trans hok) hr
  case pos =>
    obtain ⟨m, hmodel⟩ := htaken
    obtain ⟨log, hperform⟩ := perform_edit_memory hs hsave hmodel (b.onSource_all key values rows)
    have hresult : result = .ok true := congrArg Prod.fst hperform
    have he' : e' = _ := congrArg Prod.snd hperform
    refine ⟨fun hrefused => absurd hresult hrefused, ?_, ?_⟩
    · intro _ hnodup hsome
      obtain ⟨first, rest, rfl⟩ := List.exists_cons_of_ne_nil hsome
      obtain ⟨log', heach⟩ := perform_editEach hnodup hs hsave hmodel
      use log'
      rw [heach, he']
    · rintro _ rfl
      have hfind := find?_of_onModel_nil hmodel
      have hlink : m.link e.graphs = e.model.link e.graphs := by
        apply List.map_congr_left
        rintro ⟨key', g⟩ -
        dsimp only [Model.roleRows]
        rw [hfind]
      rw [he']
      refine ⟨hfind, hs.symm, ?_⟩
      cases kind with
      | policy => rfl
      | role => simp [reworked, graphsAfter, RowKind.kind, hlink]

/-- Two roles are added at once, and then one of them cannot be removed together with another
that was never given. -/
theorem batch_spec_roles :
  let pair := fun role => [.text "alice", .text role]
  let e := started (Rbac.model [] []) {} []
  let added := ((Batch.add.all [pair "staff", pair "admin"]).act .role "g").perform e
  let removed := ((Batch.remove.all [pair "admin", pair "guest"]).act .role "g").perform added.2
  e.source = some (.memory []) ∧ e.autoSave = true ∧ added.1 = .ok true ∧
    [pair "staff", pair "admin"].Nodup ∧
    (∃ log, (editEach .role "g" [.add (pair "staff"), .add (pair "admin")]).perform e
      = (.ok [true, true], { added.2 with log })) ∧
    removed.1 ≠ .ok true ∧ removed.2 = added.2
  := by
  intro pair e added removed
  have hs : e.source = some (.memory []) := rfl
  have hadded : added.1 = .ok true := ok_of_toOption (by decide +kernel)
  have hnodup : [pair "staff", pair "admin"].Nodup := by
    simp [pair]
  have hremoved : removed.1 = .ok false := ok_of_toOption (by decide +kernel)
  obtain ⟨-, htaken, -⟩ := batch_spec hs rfl .add .role "g" [pair "staff", pair "admin"]
  have hs' : added.2.source = some (.memory (Source.each Source.appended []
      [.text "g" :: pair "staff", .text "g" :: pair "admin"]).1) := rfl
  obtain ⟨hrefused, -⟩ := batch_spec hs' rfl .remove .role "g" [pair "admin", pair "guest"]
  have hne : removed.1 ≠ .ok true := by
    rw [hremoved]
    simp
  exact ⟨hs, rfl, hadded, hnodup, htaken hadded hnodup (List.cons_ne_nil _ _), hne, hrefused hne⟩

/-- A batch without rows shows a role whose row was in the model, and in the source, before its
link was built. -/
theorem batch_empty_relinks :
  let kept := [("g", ["alice", "admin"])]
  let made := (start (Rbac.model [] [["alice", "admin"]]) none).perform
    (initial .full {} none .none {})
  let e := { made.2 with source := some (.memory (kept.map KeptRow.stored)) }
  let batched := ((Batch.add.all []).act .role "g").perform e
  made.1 = .ok () ∧ InStep e.model kept ∧ e.autoSave = true ∧ e.autoBuild = true ∧
    batched.1 = .ok true ∧ (editEach .role "g" []).perform e = (.ok [], e) ∧
    ∃ g g', e.graphs.lookup "g" = some g ∧ batched.2.graphs.lookup "g" = some g' ∧
      g.hasLink (.text "alice") (.text "admin") defaultDomain = .ok false ∧
      g'.hasLink (.text "alice") (.text "admin") defaultDomain = .ok true
  := by
  intro kept made e batched
  have hstep : InStep e.model kept := by
    constructor
    · simp [kept]
    · intro x hx
      rw [List.mem_singleton.mp hx]
      exact ⟨.role, Rbac.roleDefinition [["alice", "admin"]], rfl, rfl⟩
    · intro kind key d hd
      have hmem : d ∈ e.model.definitions := (Model.of_find? hd).1
      obtain ⟨-, hkind, rfl⟩ := Model.of_find? hd
      have hmodel : e.model = Rbac.model [] [["alice", "admin"]] := rfl
      rw [hmodel, Rbac.model] at hmem
      simp only [List.mem_cons, List.not_mem_nil, or_false] at hmem
      obtain rfl | rfl | rfl | rfl | rfl := hmem <;> cases kind <;> cases hkind
      · rfl
      · rfl
  refine ⟨rfl, hstep, rfl, rfl, rfl, rfl, _, _, rfl, rfl, ?_, ?_⟩
  · apply ok_of_toOption (by decide +kernel)
  · apply ok_of_toOption (by decide +kernel)

end Enforcer

end AccessControl
