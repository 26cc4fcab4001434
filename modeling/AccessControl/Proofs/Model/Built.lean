import AccessControl.Proofs.Model.Priority
import AccessControl.Proofs.Model.Text
import AccessControl.Proofs.Policy.Stored
import AccessControl.Proofs.Model.Filter

/-!
# Models that can be built

The models that a host can reach from the empty one by definitions and changes of rows.  All of
them are sound, `Model.Built.sound`: no definition is made twice, every key belongs to the kind of
its definition, and the rows of a definition fit its fields and are not repeated.
-/

namespace AccessControl

/-! ### Rows without repetition -/

/-- A change of rows without repetition repeats none. -/
theorem RowChange.nodup_rework {c : RowChange} {rows : List Row} (hnodup : rows.Nodup)
    (h : c.Applies rows) :
  (c.rework rows).Nodup
  := by
  let kept : List KeptRow := rows.map fun row => ("", row)
  have hkept : kept.Nodup := hnodup.map fun _ _ hrow => (Prod.mk.inj hrow).2
  have hunder : KeptRow.under "" kept = rows := KeptRow.under_pairs_same "" rows
  rw [← hunder] at h ⊢
  rw [← under_onKept_same hkept h]
  apply KeptRow.under_nodup
  apply nodup_onKept hkept h

/-- A row that is there after a change was there before or is brought in. -/
theorem RowChange.of_mem_rework {c : RowChange} {rows : List Row} {row : Row}
    (h : row ∈ c.rework rows) :
  row ∈ rows ∨ row ∈ c.added
  := by
  cases c with
  | add new => apply List.mem_append.mp h
  | addAll new => apply List.mem_append.mp h
  | update old new =>
      obtain ⟨row', hrow', rfl⟩ := List.mem_map.mp h
      split
      · right
        apply List.mem_singleton_self
      · left
        apply hrow'
  | remove old =>
      left
      apply (List.mem_filter.mp h).1
  | removeAll old =>
      left
      apply (List.mem_filter.mp h).1
  | removeWhere p =>
      left
      apply (List.mem_filter.mp h).1

/-! ### Sound definitions -/

/-- The key of a definition belongs to its kind, a shape of rows has fields, and the rows fit
the fields and are not repeated. -/
structure Definition.Sound (d : Definition) : Prop where
  key : Model.isKeyOf d.kind d.key = true
  arity_pos : ∀ kind : RowKind, d.kind = kind.kind → 0 < d.arity
  fit : ∀ row ∈ d.rows, row.length = d.arity
  nodup : d.rows.Nodup

theorem Definition.Sound.withRows
    {d : Definition} (hd : d.Sound) {rows : List Row} (hfit : ∀ row ∈ rows, row.length = d.arity)
    (hnodup : rows.Nodup) :
  Definition.Sound { d with rows }
  := ⟨hd.key, hd.arity_pos, hfit, hnodup⟩

/-- A definition is as sound in another order of its rows. -/
theorem Definition.Sound.of_reorders {d d' : Definition} (hd : d.Sound) (h : d.Reorders d') :
  d'.Sound
  := by
  have hd' : d' = { d with rows := d'.rows } := by
    rw [← h.key, ← h.text, ← h.meaning]
  rw [hd']
  apply hd.withRows
  · intro row hrow
    apply hd.fit row (h.perm.mem_iff.mp hrow)
  · apply h.perm.nodup_iff.mpr hd.nodup

namespace Model

/-- The definitions of a model are sound, and no kind and key is defined twice. -/
structure Sound (m : Model) : Prop where
  definitions : ∀ d ∈ m.definitions, d.Sound
  distinct : (m.definitions.map fun d => (d.kind, d.key)).Nodup

namespace Sound

variable {m : Model} (hm : m.Sound)

include hm

theorem wellFormed :
  m.WellFormed
  := by
  constructor
  · intro kind key d hd
    obtain ⟨hmem, hkind, rfl⟩ := of_find? hd
    apply kindOfKey_of_isKeyOf
    rw [← hkind]
    apply (hm.definitions d hmem).key
  · intro kind key d hd
    obtain ⟨hmem, hkind, -⟩ := of_find? hd
    apply (hm.definitions d hmem).arity_pos kind hkind

theorem rowsFit :
  m.RowsFit
  := by
  intro kind key d hd
  apply (hm.definitions d (of_find? hd).1).fit

/-- A definition is found under its kind and key. -/
theorem find?_eq_some {d : Definition} (hd : d ∈ m.definitions) :
  m.find? d.kind d.key = some d
  := by
  cases hfind : m.find? d.kind d.key with
  | none =>
      have hnone := List.find?_eq_none.mp hfind d hd
      simp at hnone
  | some d' =>
      obtain ⟨hd', hkind, hkey⟩ := of_find? hfind
      rw [List.inj_on_of_nodup_map hm.distinct hd' hd (Prod.ext hkind hkey)]

/-- A change of definitions that keeps their kinds and keys and their soundness. -/
theorem map
    {f : Definition → Definition} (hkind : ∀ d, (f d).kind = d.kind) (hkey : ∀ d, (f d).key = d.key)
    (hf : ∀ d ∈ m.definitions, (f d).Sound) :
  Model.Sound ⟨m.definitions.map f⟩
  := by
  constructor
  · rw [List.forall_mem_map]
    apply hf
  · rw [List.map_map]
    have hsame : (fun d => (d.kind, d.key)) ∘ f = fun d : Definition => (d.kind, d.key) := by
      funext d
      rw [Function.comp, hkind, hkey]
    rw [hsame]
    apply hm.distinct

theorem withRows
    {kind : SectionKind} {key : String} {d : Definition} (hd : m.find? kind key = some d)
    {rows : List Row} (hfit : ∀ row ∈ rows, row.length = d.arity) (hnodup : rows.Nodup) :
  (m.withRows kind key rows).Sound
  := by
  obtain ⟨hmem, hkind, hkey⟩ := of_find? hd
  apply hm.map
  · intro d'
    split <;> rfl
  · intro d'
    split <;> rfl
  · intro d' hd'
    split
    case isTrue hsame =>
      rw [Bool.and_eq_true, beq_iff_eq, beq_iff_eq] at hsame
      have hfind := hm.find?_eq_some hd'
      rw [hsame.1, hsame.2, hd, Option.some.injEq] at hfind
      subst hfind
      apply (hm.definitions d hmem).withRows hfit hnodup
    case isFalse => apply hm.definitions d' hd'

/-- A change of the rows of a definition that brings in new rows that fit. -/
theorem rework
    {kind : SectionKind} {key : String} {d : Definition} (hd : m.find? kind key = some d)
    {c : RowChange} (happlies : c.Applies d.rows) (hadded : ∀ row ∈ c.added, row.length = d.arity) :
  (m.withRows kind key (c.rework d.rows)).Sound
  := by
  have hsound := hm.definitions d (of_find? hd).1
  apply hm.withRows hd
  · intro row hrow
    obtain hrow | hrow := RowChange.of_mem_rework hrow
    · apply hsound.fit row hrow
    · apply hadded row hrow
  · apply RowChange.nodup_rework hsound.nodup happlies

theorem clearRows :
  m.clearRows.Sound
  := by
  apply hm.map
  · intro d
    split <;> rfl
  · intro d
    split <;> rfl
  · intro d hd
    split
    · apply (hm.definitions d hd).withRows
      · simp
      · apply List.nodup_nil
    · apply hm.definitions d hd

theorem sortByPriority :
  m.sortByPriority.2.Sound
  := by
  have h := sortDefinitions_reorders m.definitions
  constructor
  · intro d' hd'
    obtain ⟨i, hi, rfl⟩ := List.mem_iff_getElem.mp hd'
    have hi' : i < m.definitions.length := h.length_eq ▸ hi
    apply (hm.definitions _ (List.getElem_mem hi')).of_reorders
    apply h.get hi' hi
  · have hkeys : (m.sortByPriority.2.definitions.map fun d => (d.kind, d.key))
        = m.definitions.map fun d => (d.kind, d.key) := by
      change ((sortDefinitions m.definitions).2.map _) = _
      generalize (sortDefinitions m.definitions).2 = ds at h
      generalize m.definitions = cs at h
      induction h with
      | nil => rfl
      | cons hab _ ih =>
          rw [List.map_cons, List.map_cons, ih, Definition.kind, Definition.kind, hab.meaning,
            hab.key]
    rw [hkeys]
    apply hm.distinct

/-- The rows that a new definition takes over fit its fields. -/
theorem of_inherited
    {d : Definition} {kind : SectionKind} {key : String} {rows : List Row}
    (h : inherited d (m.find? kind key) = .ok rows) :
  (∀ row ∈ rows, row.length = d.arity) ∧ rows.Nodup
  := by
  cases hold : m.find? kind key with
  | none =>
      rw [hold] at h
      cases h
      simp
  | some old =>
      have hsound := hm.definitions old (of_find? hold).1
      rw [hold, inherited.eq_def] at h
      dsimp only at h
      have htaken : (if old.arity = d.arity then Except.ok old.rows
          else Except.error (Failure.model (.redefined d.key d.arity old.arity))) = .ok rows →
          (∀ row ∈ rows, row.length = d.arity) ∧ rows.Nodup := by
        intro h
        split at h
        case isTrue harity =>
          cases h
          rw [← harity]
          use hsound.fit, hsound.nodup
        case isFalse => cases h
      split at h
      all_goals first
        | apply htaken h
        | cases h
          simp

/-- A definition that is put in takes the place of the one of its kind and key. -/
theorem put {d : Definition} (hd : d.Sound) :
  (m.put d).Sound
  := by
  constructor
  · intro d' hd'
    obtain rfl | hd' := mem_put hd'
    · apply hd
    · apply hm.definitions d' hd'
  · rw [Model.put]
    split
    case isTrue hhas =>
      rw [Model.update, List.map_map]
      have hsame : (fun d => (d.kind, d.key)) ∘
          (fun d' => if d'.kind == d.kind && d'.key == d.key then d else d')
            = fun d : Definition => (d.kind, d.key) := by
        funext d'
        rw [Function.comp]
        split
        case isTrue hkey =>
          rw [Bool.and_eq_true, beq_iff_eq, beq_iff_eq] at hkey
          rw [hkey.1, hkey.2]
        case isFalse => rfl
      rw [hsame]
      apply hm.distinct
    case isFalse hhas =>
      rw [Model.has, Bool.not_eq_true, Option.isSome_eq_false_iff, Option.isNone_iff_eq_none] at hhas
      have hnone := List.find?_eq_none.mp hhas
      rw [List.map_append, List.map_singleton, ← List.concat_eq_append]
      apply List.Nodup.concat _ hm.distinct
      intro hmem
      obtain ⟨d', hd', hsame⟩ := List.mem_map.mp hmem
      obtain ⟨hkind, hkey⟩ := Prod.mk.inj hsame
      have hd'' := hnone d' hd'
      simp [hkind, hkey] at hd''

theorem defineKind
    {kind : SectionKind} {key text : String} {made : Model × Option Definition}
    (h : m.defineKind kind key text = .ok made) :
  made.1.Sound
  := by
  obtain ⟨u, hkey, h⟩ := bind_eq_ok.mp h
  split at h
  · cases h
    apply hm
  · obtain ⟨meaning, hmeaning, h⟩ := bind_eq_ok.mp h
    obtain ⟨rows, hrows, h⟩ := bind_eq_ok.mp h
    cases h
    obtain ⟨hkind, harity⟩ := of_meaning hmeaning
    apply hm.put
    obtain ⟨hfit, hnodup⟩ := hm.of_inherited hrows
    constructor
    · rw [Definition.kind, hkind]
      by_contra hk
      rw [checkKeyOf, if_neg hk] at hkey
      cases hkey
    · intro rowKind hrowKind
      rw [Definition.kind, hkind] at hrowKind
      apply harity
      cases rowKind
      · left
        apply hrowKind
      · right
        apply hrowKind
    · apply hfit
    · apply hnodup

end Sound

/-! ### Steps -/

/-- What one call of a host, other than for order, can do to a model: nothing, a definition, a
change of the rows of one definition, or the removal of all rows. -/
inductive Step (m : Model) : Model → Prop
  | stay : Step m m
  | define {kind : SectionKind} {key text : String} {made : Model × Option Definition}
      (h : m.defineKind kind key text = .ok made) : Step m made.1
  | rework {kind : SectionKind} {key : String} {d : Definition} {c : RowChange}
      (hd : m.find? kind key = some d) (happlies : c.Applies d.rows)
      (hadded : ∀ row ∈ c.added, row.length = d.arity) :
      Step m (m.withRows kind key (c.rework d.rows))
  | clearRows : Step m m.clearRows

namespace Sound

variable {m : Model} (hm : m.Sound)

include hm

/-- Every step keeps a model sound. -/
theorem of_step {m' : Model} (h : Step m m') :
  m'.Sound
  := by
  cases h with
  | stay => apply hm
  | define h => apply hm.defineKind h
  | rework hd happlies hadded => apply hm.rework hd happlies hadded
  | clearRows => apply hm.clearRows

variable {kind : SectionKind} {key : String}

/-- A change of the rows of a definition that brings in rows that fit is a step. -/
theorem step_changed
    {d : Definition} (hd : m.find? kind key = some d) (c : RowChange)
    (hadded : ∀ row ∈ c.added, row.length = d.arity) :
  Step m (m.changed kind key (c.onRows d.rows)).1
  := by
  cases hrows : c.onRows d.rows with
  | none => apply Step.stay
  | some rows =>
      obtain ⟨happlies, rfl⟩ :=
        RowChange.of_onRows (hm.definitions d (of_find? hd).1).nodup hrows
      apply Step.rework hd happlies hadded

theorem step_addRow {row : List Value} {made : Model × Bool} (h : m.addRow kind key row = .ok made) :
  Step m made.1
  := by
  obtain ⟨d, hd, h⟩ := bind_eq_ok.mp h
  obtain ⟨row, hrow, h⟩ := bind_eq_ok.mp h
  rw [← Except.ok.inj h]
  apply hm.step_changed (get_eq_ok hd) (.add row)
  rw [RowChange.added, List.forall_mem_singleton]
  apply (checkRow_eq_ok.mp hrow).2

theorem step_addRows
    {rows : List (List Value)} {made : Model × Bool} (h : m.addRows kind key rows = .ok made) :
  Step m made.1
  := by
  obtain ⟨d, hd, h⟩ := bind_eq_ok.mp h
  obtain ⟨rows, hrows, h⟩ := bind_eq_ok.mp h
  rw [← Except.ok.inj h]
  apply hm.step_changed (get_eq_ok hd) (.addAll rows)
  apply (mapM_checkRow hrows).2

theorem step_updateRow
    {old new : List Value} {made : Model × Bool} (h : m.updateRow kind key old new = .ok made) :
  Step m made.1
  := by
  obtain ⟨d, hd, h⟩ := bind_eq_ok.mp h
  obtain ⟨newRow, hnew, h⟩ := bind_eq_ok.mp h
  rw [← Except.ok.inj h]
  cases Value.allTexts? old with
  | none => apply Step.stay
  | some oldRow =>
      apply hm.step_changed (get_eq_ok hd) (.update oldRow newRow)
      rw [RowChange.added, List.forall_mem_singleton]
      apply (checkRow_eq_ok.mp hnew).2

theorem step_removeRow
    {row : List Value} {made : Model × Bool} (h : m.removeRow kind key row = .ok made) :
  Step m made.1
  := by
  obtain ⟨d, hd, h⟩ := bind_eq_ok.mp h
  rw [← Except.ok.inj h]
  cases Value.allTexts? row with
  | none => apply Step.stay
  | some row => apply hm.step_changed (get_eq_ok hd) (.remove row) (List.forall_mem_nil _)

theorem step_removeRows
    {rows : List (List Value)} {made : Model × Bool} (h : m.removeRows kind key rows = .ok made) :
  Step m made.1
  := by
  obtain ⟨d, hd, h⟩ := bind_eq_ok.mp h
  rw [← Except.ok.inj h]
  cases rows.mapM Value.allTexts? with
  | none => apply Step.stay
  | some rows => apply hm.step_changed (get_eq_ok hd) (.removeAll rows) (List.forall_mem_nil _)

omit hm in
theorem step_removeWhere
    {f : RowFilter} {made : Model × List Row} (h : m.removeWhere kind key f = .ok made) :
  Step m made.1
  := by
  obtain ⟨rows, hrows, h⟩ := bind_eq_ok.mp h
  obtain ⟨⟨passing, failing⟩, hsplit, h⟩ := bind_eq_ok.mp h
  obtain ⟨d, hd, rfl⟩ := map_eq_ok.mp hrows
  obtain ⟨-, -, rfl⟩ := RowFilter.split_eq_ok hsplit
  rw [← Except.ok.inj h]
  exact Step.rework (c := .removeWhere f.passes) (get_eq_ok hd) trivial (List.forall_mem_nil _)

end Sound

/-! ### Building -/

/-- One call of a host that changes a model. -/
inductive Becomes (m : Model) : Model → Prop
  | define {kind : SectionKind} {key text : String} {made : Model × Option Definition}
      (h : m.defineKind kind key text = .ok made) : Becomes m made.1
  | addRow {kind : SectionKind} {key : String} {row : List Value} {made : Model × Bool}
      (h : m.addRow kind key row = .ok made) : Becomes m made.1
  | addRows {kind : SectionKind} {key : String} {rows : List (List Value)} {made : Model × Bool}
      (h : m.addRows kind key rows = .ok made) : Becomes m made.1
  | updateRow {kind : SectionKind} {key : String} {old new : List Value} {made : Model × Bool}
      (h : m.updateRow kind key old new = .ok made) : Becomes m made.1
  | removeRow {kind : SectionKind} {key : String} {row : List Value} {made : Model × Bool}
      (h : m.removeRow kind key row = .ok made) : Becomes m made.1
  | removeRows {kind : SectionKind} {key : String} {rows : List (List Value)} {made : Model × Bool}
      (h : m.removeRows kind key rows = .ok made) : Becomes m made.1
  | removeWhere {kind : SectionKind} {key : String} {f : RowFilter} {made : Model × List Row}
      (h : m.removeWhere kind key f = .ok made) : Becomes m made.1
  | clearRows : Becomes m m.clearRows
  | sortByPriority : Becomes m m.sortByPriority.2

/-- The model can be reached from the empty one. -/
def Built (m : Model) : Prop := Relation.ReflTransGen Becomes {} m

/-- Every call keeps a model sound. -/
theorem Sound.becomes {m m' : Model} (hm : m.Sound) (h : Becomes m m') :
  m'.Sound
  := by
  cases h with
  | define h => apply hm.defineKind h
  | addRow h => apply hm.of_step (hm.step_addRow h)
  | addRows h => apply hm.of_step (hm.step_addRows h)
  | updateRow h => apply hm.of_step (hm.step_updateRow h)
  | removeRow h => apply hm.of_step (hm.step_removeRow h)
  | removeRows h => apply hm.of_step (hm.step_removeRows h)
  | removeWhere h => apply hm.of_step (step_removeWhere h)
  | clearRows => apply hm.clearRows
  | sortByPriority => apply hm.sortByPriority

/-- Every model that can be built is sound. -/
theorem Built.sound {m : Model} (hm : m.Built) :
  m.Sound
  := by
  induction hm with
  | refl =>
      constructor
      · simp
      · apply List.nodup_nil
  | tail _ hstep ih => apply ih.becomes hstep

/-- What has been built stays built under the definitions of a text. -/
theorem Built.load {m : Model} (hm : m.Built) (text : String) :
  (m.load text).2.1.Built
  := by
  rw [Model.load]
  cases ModelText.entries text with
  | error e => apply hm
  | ok entries =>
      have hkeeps : (runSteps defineEntry (m, ModelText.warnings text) entries).2.1.Built := by
        apply runSteps_keeps (I := fun s : Model × List LogEvent => s.1.Built) _ entries hm
        intro s entry t hstep hs
        obtain ⟨made, hmade, hstep⟩ := bind_eq_ok.mp hstep
        cases hstep
        apply hs.tail (Becomes.define hmade)
      dsimp only
      generalize runSteps defineEntry (m, ModelText.warnings text) entries = r at hkeeps
      obtain ⟨failure | u, m', events⟩ := r <;> apply hkeeps

/-- The model of a text has been built. -/
theorem built_ofText {text : String} {m : Model} {events : List LogEvent}
    (h : Model.ofText text = (.ok m, events)) :
  m.Built
  := by
  have hbuilt := Built.load Relation.ReflTransGen.refl text
  rw [Model.ofText] at h
  generalize Model.load ⟨[]⟩ text = r at h hbuilt
  obtain ⟨failure | u, m', events'⟩ := r
  · cases h
  · cases h
    apply hbuilt

/-- A stored row that is loaded is added. -/
theorem addRow_of_loadRow {m m' : Model} {row : StoredRow} (h : Source.loadRow m row = .ok m') :
  ∃ kind key values made, m.addRow kind key values = .ok made ∧ m' = made.1
  := by
  rw [Source.loadRow.eq_def] at h
  split at h
  case h_1 first value rest =>
    obtain ⟨key, -, h⟩ := bind_eq_ok.mp h
    obtain ⟨kind, -, h⟩ := bind_eq_ok.mp h
    split at h
    · cases h
    · obtain ⟨made, hadd, h⟩ := bind_eq_ok.mp h
      cases h
      exact ⟨kind, key, _, made, hadd, rfl⟩
  case h_2 => cases h

/-- What has been built stays built when rows are loaded into it. -/
theorem Built.loadRow {m m' : Model} (hm : m.Built) {row : StoredRow}
    (h : Source.loadRow m row = .ok m') :
  m'.Built
  := by
  obtain ⟨kind, key, values, made, hadd, rfl⟩ := addRow_of_loadRow h
  apply hm.tail (Becomes.addRow hadd)

theorem Built.loadSource {m : Model} (hm : m.Built) (files : Files) (s : Source) :
  (s.load files m).2.1.Built
  := by
  apply load_invariant _ files hm s
  intro m row m' h hm
  apply hm.loadRow h

end Model

end AccessControl
