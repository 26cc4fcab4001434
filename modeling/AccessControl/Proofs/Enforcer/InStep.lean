import AccessControl.Proofs.Enforcer.Mutation
import AccessControl.Proofs.Rbac.Text

/-!
# Sources in step

An enforcer that saves rows automatically keeps its source in step with its model.  The rows
of the source under a key are those of the definition of that key, in the same order unless
the definition has its rows ordered by priority; and nothing else is kept.
-/

namespace AccessControl

open AccessControl.Action

/-- Some rows are those of a definition, in any order if the definition orders its own. -/
def Definition.Agrees (d : Definition) (rows : List Row) : Prop :=
  if d.isRanked then rows.Perm d.rows else rows = d.rows

namespace Definition.Agrees

variable {d : Definition} {rows : List Row}

theorem perm (h : d.Agrees rows) :
  rows.Perm d.rows
  := by
  rw [Definition.Agrees] at h
  split at h
  · apply h
  · rw [h]

/-- What reworks rows that agree reworks them in the same way. -/
theorem rework (h : d.Agrees rows) (c : RowChange) :
  Definition.Agrees { d with rows := c.rework d.rows } (c.rework rows)
  := by
  have hranked : Definition.isRanked { d with rows := c.rework d.rows } = d.isRanked := rfl
  rw [Definition.Agrees] at h ⊢
  rw [hranked]
  by_cases hd : d.isRanked = true
  · rw [if_pos hd] at h ⊢
    apply c.rework_perm h
  · rw [if_neg hd] at h ⊢
    rw [h]

/-- Rows agree with those that become of them when they are ordered. -/
theorem of_reorders {d' : Definition} (h : Definition.Reorders { d with rows } d') :
  d'.Agrees rows
  := by
  have hranked : d'.isRanked = d.isRanked := by
    rw [Definition.isRanked, Definition.isRanked, Definition.kind, Definition.kind,
      Definition.fieldIndex?, Definition.fieldIndex?, Definition.fields, Definition.fields, h.meaning]
  rw [Definition.Agrees, hranked]
  split
  · apply h.perm.symm
  case isFalse hnot => apply (h.same (by rwa [Bool.not_eq_true] at hnot)).symm

end Definition.Agrees

/-- Kept rows are in step with a model: none is kept twice, all fit, and under every key they
agree with the rows of its definition. -/
structure InStep (m : Model) (kept : List KeptRow) : Prop where
  nodup : kept.Nodup
  fits : ∀ x ∈ kept, m.Fits x
  agrees : ∀ (kind : RowKind) (key : String) (d : Definition), m.find? kind.kind key = some d →
    d.Agrees (KeptRow.under key kept)

namespace InStep

variable {m : Model} {kept : List KeptRow}

/-- A change of the rows of a definition and of the rows under its key stays in step. -/
theorem change
    (h : InStep m kept) (hm : m.WellFormed) {kind : RowKind} {key : String} {d : Definition}
    (hd : m.find? kind.kind key = some d) {c : RowChange} {rows : List Row}
    (hrows : c.onRows d.rows = some rows) (hadded : ∀ row ∈ c.added, row.length = d.arity) :
  InStep (m.withRows kind.kind key rows) (c.onKept key kept)
  := by
  have hagrees := h.agrees kind key d hd
  have hnodup : d.rows.Nodup := hagrees.perm.nodup_iff.mp (KeptRow.under_nodup h.nodup key)
  obtain ⟨happlies, rfl⟩ := RowChange.of_onRows hnodup hrows
  have happlies' := happlies.congr fun row => hagrees.perm.symm.mem_iff
  have hshape := Model.SameShape.withRows m kind key (c.rework d.rows)
  constructor
  · apply RowChange.nodup_onKept h.nodup happlies'
  · intro x hx
    refine Model.Fits.of_sameShape ?_ hshape.symm
    obtain hx | ⟨rfl, hx'⟩ := RowChange.of_mem_onKept hx
    · apply h.fits x hx
    · exact ⟨kind, d, hd, hadded x.2 hx'⟩
  · intro kind' key' d' hd'
    by_cases hsame : kind'.kind = kind.kind ∧ key' = key
    · obtain ⟨hkind, rfl⟩ := hsame
      rw [hkind, Model.find?_withRows_same, hd, Option.map_some, Option.some.injEq] at hd'
      subst hd'
      rw [RowChange.under_onKept_same h.nodup happlies']
      apply hagrees.rework
    · rw [Model.find?_withRows_other _ _ hsame] at hd'
      have hkey : key' ≠ key := by
        rintro rfl
        obtain ⟨rfl, -⟩ := hm.kind_unique hd hd'
        apply hsame ⟨rfl, rfl⟩
      rw [RowChange.under_onKept_other h.nodup hkey happlies']
      apply h.agrees kind' key' d' hd'

/-- Rows that are loaded and ordered are in step with where they are loaded from. -/
theorem load
    (hm : m.WellFormed) (hnodup : kept.Nodup) (hfits : ∀ x ∈ kept, m.Fits x) {m' : Model}
    (h : runSteps Source.loadRow m.clearRows (kept.map KeptRow.stored) = (.ok (), m'))
    (hshape : m'.SameShape m) :
  InStep m'.sortByPriority.2 kept
  := by
  have hsorted := (Model.SameShape.sortByPriority m').trans hshape
  have hclear := Model.SameShape.clearRows m
  constructor
  · apply hnodup
  · intro x hx
    apply (hfits x hx).of_sameShape hsorted.symm
  · intro kind key d' hd'
    obtain ⟨rows, hd⟩ := (hsorted.trans hclear.symm).find? hd'
    have hempty : rows = [] := by
      rw [Model.find?_clearRows, Option.map_eq_some_iff] at hd
      obtain ⟨d, -, hd⟩ := hd
      apply (congrArg Definition.rows hd).symm
    have hfresh : ∀ (kind : RowKind) (key : String) (d : Definition),
        m.clearRows.find? kind.kind key = some d → ∀ row ∈ d.rows, (key, row) ∉ kept := by
      intro kind key d hd row hrow
      rw [Model.find?_clearRows, Option.map_eq_some_iff] at hd
      obtain ⟨d, -, rfl⟩ := hd
      cases hrow
    have hloaded := Model.load_rows (hm.of_sameShape hclear.symm) hnodup h hfresh hd
    rw [hempty, List.nil_append] at hloaded
    obtain ⟨d'', hd'', hreorders⟩ := Model.find?_sortByPriority hloaded
    rw [hd', Option.some.injEq] at hd''
    subst hd''
    apply Definition.Agrees.of_reorders hreorders

end InStep

namespace Enforcer

/-- An enforcer saves automatically to a source that is in step with its model. -/
structure Mirrored (e : Enforcer) : Prop where
  orderly : Orderly e
  autoSave : e.autoSave = true
  inStep : ∃ kept : List KeptRow, e.source = some (.memory (kept.map KeptRow.stored)) ∧
    InStep e.model kept

namespace Mirrored

theorem keeps_edit (kind : RowKind) (key : String) (edit : RowEdit) :
  Keeps Mirrored (edit.act kind key)
  := by
  intro e he
  have horderly := Orderly.keeps_edit kind key edit e he.orderly
  obtain ⟨result, heq⟩ | ⟨d, c, rows, source, log, hd, hreads, honRows, hpasses, heq⟩ :=
    RowEdit.perform_act he.orderly.wellFormed he.orderly.rowsFit he.orderly.backed kind key edit
  · rw [heq]
    apply he
  · rw [heq] at horderly ⊢
    refine ⟨horderly, he.autoSave, ?_⟩
    obtain ⟨kept, hsource, hstep⟩ := he.inStep
    cases hpasses with
    | skip hskip =>
        rw [hsource, he.autoSave] at hskip
        simp at hskip
    | @save kept' _ hsource' =>
        rw [hsource, Option.some.injEq, Source.memory.injEq] at hsource'
        obtain rfl := List.map_injective_iff.mpr KeptRow.stored_injective hsource'
        use c.onKept key kept, rfl
        apply hstep.change he.orderly.wellFormed hd honRows
        intro row hrow
        apply hreads.length_of_added hrow

/-- After loading, the source is what it was, and the model is in step with it. -/
theorem inStep_loadPolicy
    {e : Enforcer} (he : Orderly e) {kept : List KeptRow}
    (hsource : e.source = some (.memory (kept.map KeptRow.stored))) (hnodup : kept.Nodup) :
  (Enforcer.loadPolicy.perform e).2.autoSave = e.autoSave ∧
    (Enforcer.loadPolicy.perform e).2.source = some (.memory (kept.map KeptRow.stored)) ∧
    InStep (Enforcer.loadPolicy.perform e).2.model kept ∧
    (Enforcer.loadPolicy.perform e).2.model.SameShape e.model
  := by
  obtain ⟨kept', hsource', hfits⟩ := he.backed.exists_kept (by rw [hsource]; simp)
  rw [hsource, Option.some.injEq, Source.memory.injEq] at hsource'
  obtain rfl := List.map_injective_iff.mpr KeptRow.stored_injective hsource'
  obtain ⟨m, log, hload, hshape, -, heq⟩ := he.perform_loadPolicy hsource
  have hstep := InStep.load he.wellFormed hnodup hfits hload hshape
  have hsorted := (Model.SameShape.sortByPriority m).trans hshape
  rw [heq]
  generalize m.sortByPriority = r at hstep hsorted
  obtain ⟨failure | u, m'⟩ := r
  · exact ⟨rfl, hsource, hstep, hsorted⟩
  · exact ⟨rfl, hsource, hstep, hsorted⟩

theorem keeps_loadPolicy : Keeps Mirrored Enforcer.loadPolicy := by
  intro e he
  obtain ⟨kept, hsource, hstep⟩ := he.inStep
  obtain ⟨hsave, hsource', hstep', -⟩ := inStep_loadPolicy he.orderly hsource hstep.nodup
  constructor
  · apply Orderly.keeps_loadPolicy e he.orderly
  · rw [hsave, he.autoSave]
  · exact ⟨kept, hsource', hstep'⟩

theorem keeps_buildLinks : Keeps Mirrored Enforcer.buildLinks := by
  intro e he
  have horderly := Orderly.keeps_buildLinks e he.orderly
  obtain ⟨log, heq⟩ := perform_buildLinks e
  rw [heq] at horderly ⊢
  exact ⟨horderly, he.autoSave, he.inStep⟩

/-- Mutations that do not clear a model behind the back of its source keep them in step. -/
theorem keeps_act {x : Mutation} (hx : x.clears = false) :
  Keeps Mirrored x.act
  := by
  apply Mutation.keeps_act keeps_edit keeps_loadPolicy keeps_buildLinks
  intro hclears
  rw [hx] at hclears
  cases hclears

/-- An enforcer that has loaded its rows from a source in memory starts in step with it. -/
theorem start
    {m : Model} (hm : m.WellFormed) (hrows : m.RowsFit) {rows : List StoredRow}
    {e₀ e : Enforcer} (hnone : e₀.source = none) (hsave : e₀.autoSave = true)
    (h : (Enforcer.start m (some (Source.ofRows rows))).perform e₀ = (.ok (), e)) :
  Mirrored e
  := by
  have horderly := orderly_start hm hrows (by
    rintro s ⟨⟩
    exact ⟨_, rfl⟩) hnone h
  obtain ⟨log, -, ⟨hcontra, -⟩ | ⟨s, hs, hload⟩⟩ := of_start hnone h
  · cases hcontra
  · obtain ⟨kept, hkept, hfits⟩ := of_loadPolicy rfl hload
    have hsource : Source.ofRows rows = .memory (kept.map KeptRow.stored) := by
      rw [Source.ofRows, hkept]
    rw [hsource] at hload
    have hstep := @inStep_loadPolicy
      { e₀ with
        model := m
        graphs := e₀.graphsFor m
        source := some (.memory (kept.map KeptRow.stored))
        cache := []
        log }
      ⟨hm, hrows, RowEdit.Backed.memory hfits⟩ kept rfl (Source.ofRows_nodup hsource)
    rw [hload] at hstep
    exact ⟨horderly, hstep.1.trans hsave, kept, hstep.2.1, hstep.2.2.1⟩

end Mirrored

/-- Automatic saving keeps a source in memory in step with the model, through every sequence
of mutations of rows that does not clear the model alone: the source holds no row twice and
only rows of definitions, and for every definition it holds the rows of the model, in the same
order unless they are ordered by priority.  Loading the source again changes no other
definition. -/
theorem source_in_step
    {text : String} {m : Model} {events : List LogEvent} (hm : Model.ofText text = (.ok m, events))
    {kind : EnforcerKind} {config : Config} {sink : Option Sink} {tag : Value} {files : Files}
    (hsave : config.autoSave = true) {rows : List StoredRow} {e : Enforcer}
    (hstart : (start m (some (Source.ofRows rows))).perform (initial kind config sink tag files)
      = (.ok (), e))
    {mutations : List Mutation} (hmutations : ∀ x ∈ mutations, x.clears = false) :
  let e' := Mutation.run mutations e
  ∃ kept : List KeptRow, e'.source = some (.memory (kept.map KeptRow.stored)) ∧ kept.Nodup ∧
    (∀ x ∈ kept, ∃ (kind : RowKind) (d : Definition), e'.model.find? kind.kind x.1 = some d) ∧
    (∀ (kind : RowKind) (key : String) (d : Definition), e'.model.find? kind.kind key = some d →
      if d.isRanked then (KeptRow.under key kept).Perm d.rows else KeptRow.under key kept = d.rows) ∧
    (∀ (kind : RowKind) (key : String) (d : Definition), e'.model.find? kind.kind key = some d →
      d.isRanked = false → (loadPolicy.perform e').2.model.find? kind.kind key = some d)
  := by
  intro e'
  have hrows : m.RowsFit := by
    rw [← Model.clearRows_ofText hm]
    apply Model.rowsFit_clearRows
  have hmirrored : Mirrored e' := by
    apply Mutation.run_keeps fun x hx => Mirrored.keeps_act (hmutations x hx)
    apply Mirrored.start (Model.wellFormed_ofText hm) hrows rfl hsave hstart
  obtain ⟨kept, hsource, hstep⟩ := hmirrored.inStep
  refine ⟨kept, hsource, hstep.nodup, ?_, hstep.agrees, ?_⟩
  · intro x hx
    obtain ⟨kind, d, hd, -⟩ := hstep.fits x hx
    exact ⟨kind, d, hd⟩
  · intro kind key d hd hranked
    obtain ⟨-, -, hstep', hshape⟩ :=
      Mirrored.inStep_loadPolicy hmirrored.orderly hsource hstep.nodup
    obtain ⟨rows', hd'⟩ := hshape.symm.find? hd
    have hbefore := hstep.agrees kind key d hd
    have hafter := hstep'.agrees kind key _ hd'
    have hranked' : Definition.isRanked { d with rows := rows' } = false := hranked
    rw [Definition.Agrees, if_neg (by rw [hranked]; simp)] at hbefore
    rw [Definition.Agrees, if_neg (by rw [hranked']; simp), hbefore] at hafter
    change d.rows = rows' at hafter
    rw [hd', ← hafter]

/-- A row that is changed and rows that are removed are changed and removed in the source. -/
theorem source_in_step_renamed :
  let rows := [[.text "p", .text "alice", .text "data", .text "read"],
    [.text "p", .text "bob", .text "data", .text "write"], [.text "g", .text "bob", .text "alice"]]
  let mutations := [.edit .policy "p" (.update [.text "alice", .text "data", .text "read"]
      [.text "alice", .text "data", .text "write"]), .deleteUser (.text "bob")]
  let start := (start (Rbac.model [] []) (some (Source.ofRows rows))).perform
    (initial .full {} none .none {})
  start.1 = .ok () ∧ ∃ kept : List KeptRow,
    (Mutation.run mutations start.2).source = some (.memory (kept.map KeptRow.stored)) ∧
      KeptRow.under "p" kept = [["alice", "data", "write"]]
  := by
  intro rows mutations start
  obtain ⟨events, hm⟩ := Rbac.ofText Rbac.entries_text
  have hstart : start.1 = .ok () := ok_of_toOption (by decide +kernel)
  have hstarted : start = (.ok (), start.2) := Prod.ext hstart rfl
  have hclears : ∀ x ∈ mutations, x.clears = false := by
    intro x hx
    simp only [mutations, List.mem_cons, List.not_mem_nil, or_false] at hx
    obtain rfl | rfl := hx <;> rfl
  obtain ⟨kept, hsource, -, -, hrows, -⟩ :=
    source_in_step (e := start.2) hm rfl hstarted hclears
  refine ⟨hstart, kept, hsource, ?_⟩
  have hfind : ((Mutation.run mutations start.2).model.find? .policy "p").map
      (fun d => (d.isRanked, d.rows)) = some (false, [["alice", "data", "write"]]) := by
    decide +kernel
  obtain ⟨d, hd, hd'⟩ := Option.map_eq_some_iff.mp hfind
  obtain ⟨hranked, hd'⟩ := Prod.mk.inj hd'
  have hagrees := hrows .policy "p" d hd
  rw [hranked, if_neg Bool.false_ne_true, hd'] at hagrees
  apply hagrees

end Enforcer

end AccessControl
