import AccessControl.Proofs.Enforcer.Action
import AccessControl.Proofs.Policy.Stored

/-!
# Edits

The ways in which an enforcer changes the rows under one key.  An edit is made of the model
and then passed on to the source.  Both read it as one and the same change of rows, and a
source of rows that fit the model never refuses it: this is `RowEdit.perform_act`.
-/

namespace AccessControl

/-- An edit of the rows under a key, as a host asks for it. -/
inductive RowEdit where
  | add (row : List Value)
  | addAll (rows : List (List Value))
  | update (old new : List Value)
  | remove (row : List Value)
  | removeAll (rows : List (List Value))
  | removeWhere (f : RowFilter)

namespace RowEdit

/-- The operation of an enforcer that makes an edit. -/
def act (kind : RowKind) (key : String) : RowEdit → Action Bool
  | .add row => Enforcer.addRow kind.kind key row
  | .addAll rows => Enforcer.addRows kind.kind key rows
  | .update old new => Enforcer.updateRow kind.kind key old new
  | .remove row => Enforcer.removeRow kind.kind key row
  | .removeAll rows => Enforcer.removeRows kind.kind key rows
  | .removeWhere f => Enforcer.removeWhere kind.kind key f

/-- The name of an edit in reports. -/
def operation : RowEdit → String
  | .add _ => "add_policy"
  | .addAll _ => "add_policies"
  | .update .. => "update_policy"
  | .remove _ => "remove_policy"
  | .removeAll _ => "remove_policies"
  | .removeWhere _ => "remove_filtered_policy"

/-- An edit of a model, and whether it changes anything. -/
def onModel (kind : RowKind) (key : String) : RowEdit → Model → Except Failure (Model × Bool)
  | .add row, m => m.addRow kind.kind key row
  | .addAll rows, m => m.addRows kind.kind key rows
  | .update old new, m => m.updateRow kind.kind key old new
  | .remove row, m => m.removeRow kind.kind key row
  | .removeAll rows, m => m.removeRows kind.kind key rows
  | .removeWhere f, m => do
    let (m, removed) ← m.removeWhere kind.kind key f
    return (m, !removed.isEmpty)

/-- An edit of a source, and whether it changes anything. -/
def onSource (key : String) : RowEdit → Source → Except Failure (Source × Bool)
  | .add row, s => s.addRow (.text key) row
  | .addAll rows, s => s.addRows (.text key) rows
  | .update old new, s => s.updateRow (.text key) old new
  | .remove row, s => s.removeRow (.text key) row
  | .removeAll rows, s => s.removeRows (.text key) rows
  | .removeWhere f, s => s.removeWhere (.text key) f

/-- An edit does not look for fields before the first. -/
def Indexed : RowEdit → Prop
  | .removeWhere f => ∃ i, f.start = .index i ∧ 0 ≤ i
  | _ => True

/-- Every edit is a change of the model that is passed on to the source. -/
theorem act_eq_mutate (kind : RowKind) (key : String) (edit : RowEdit) :
  edit.act kind key
    = Enforcer.mutate kind.kind edit.operation (edit.onModel kind key) (edit.onSource key)
  := by
  cases edit <;> rfl

/-! ### Reading -/

/-- An edit of rows of some length is read as a change. -/
inductive Reads (arity : Nat) : RowEdit → RowChange → Prop
  | add {row : Row} (h : row.length = arity) : Reads arity (.add (row.map .text)) (.add row)
  | addAll {rows : List Row} (h : ∀ row ∈ rows, row.length = arity) :
      Reads arity (.addAll (rows.map (·.map .text))) (.addAll rows)
  | update {old new : Row} (h : new.length = arity) :
      Reads arity (.update (old.map .text) (new.map .text)) (.update old new)
  | remove {row : Row} : Reads arity (.remove (row.map .text)) (.remove row)
  | removeAll {rows : List Row} : Reads arity (.removeAll (rows.map (·.map .text))) (.removeAll rows)
  | removeWhere {f : RowFilter}
      (h : ∀ row : Row, row.length = arity → f.holds (row.map .text) = .ok (f.passes row)) :
      Reads arity (.removeWhere f) (.removeWhere f.passes)

/-- The rows that an edit brings in have the length that is asked for. -/
theorem Reads.length_of_added
    {arity : Nat} {edit : RowEdit} {c : RowChange} (h : Reads arity edit c) {row : Row}
    (hrow : row ∈ c.added) :
  row.length = arity
  := by
  cases h with
  | add h =>
      rw [List.mem_singleton.mp hrow]
      apply h
  | addAll h => apply h row hrow
  | update h =>
      rw [List.mem_singleton.mp hrow]
      apply h
  | remove => cases hrow
  | removeAll => cases hrow
  | removeWhere h => cases hrow

theorem changed_eq_true
    {m m' : Model} {kind : SectionKind} {key : String} {rows : Option (List Row)}
    (h : m.changed kind key rows = (m', true)) :
  ∃ rows', rows = some rows' ∧ m' = m.withRows kind key rows'
  := by
  cases rows with
  | none => cases h
  | some rows' => exact ⟨rows', rfl, (congrArg Prod.fst h).symm⟩

theorem mapM_allTexts? {values : List (List Value)} {rows : List Row}
    (h : values.mapM Value.allTexts? = some rows) :
  values = rows.map (·.map .text)
  := by
  induction values generalizing rows with
  | nil =>
      cases h
      rfl
  | cons v rest ih =>
      rw [List.mapM_cons] at h
      obtain ⟨row, hrow, h⟩ := Option.bind_eq_some_iff.mp h
      obtain ⟨others, hothers, h⟩ := Option.bind_eq_some_iff.mp h
      cases h
      rw [allTexts?_eq_some.mp hrow, ih hothers]
      rfl

/-- An edit that changes a model changes the rows of one definition. -/
theorem of_onModel
    {kind : RowKind} {key : String} {edit : RowEdit} {m m' : Model} (hm : m.RowsFit)
    (h : edit.onModel kind key m = .ok (m', true)) :
  ∃ d c rows, m.find? kind.kind key = some d ∧ Reads d.arity edit c ∧
    c.onRows d.rows = some rows ∧ m' = m.withRows kind.kind key rows
  := by
  cases edit with
  | add values =>
      obtain ⟨d, hd, h⟩ := bind_eq_ok.mp h
      obtain ⟨row, hrow, h⟩ := bind_eq_ok.mp h
      obtain ⟨rows, hrows, rfl⟩ := changed_eq_true (Except.ok.inj h)
      obtain ⟨rfl, hlength⟩ := checkRow_eq_ok.mp hrow
      exact ⟨d, .add row, rows, Model.get_eq_ok hd, .add hlength, hrows, rfl⟩
  | addAll values =>
      obtain ⟨d, hd, h⟩ := bind_eq_ok.mp h
      obtain ⟨new, hnew, h⟩ := bind_eq_ok.mp h
      obtain ⟨rows, hrows, rfl⟩ := changed_eq_true (Except.ok.inj h)
      obtain ⟨rfl, hlength⟩ := mapM_checkRow hnew
      exact ⟨d, .addAll new, rows, Model.get_eq_ok hd, .addAll hlength, hrows, rfl⟩
  | update oldValues newValues =>
      obtain ⟨d, hd, h⟩ := bind_eq_ok.mp h
      obtain ⟨new, hnew, h⟩ := bind_eq_ok.mp h
      obtain ⟨rows, hrows, rfl⟩ := changed_eq_true (Except.ok.inj h)
      obtain ⟨rfl, hlength⟩ := checkRow_eq_ok.mp hnew
      obtain ⟨old, hold, hrows'⟩ := Option.bind_eq_some_iff.mp hrows
      obtain rfl := allTexts?_eq_some.mp hold
      exact ⟨d, .update old new, rows, Model.get_eq_ok hd, .update hlength, hrows', rfl⟩
  | remove values =>
      obtain ⟨d, hd, h⟩ := bind_eq_ok.mp h
      obtain ⟨rows, hrows, rfl⟩ := changed_eq_true (Except.ok.inj h)
      obtain ⟨row, hrow, hrows'⟩ := Option.bind_eq_some_iff.mp hrows
      obtain rfl := allTexts?_eq_some.mp hrow
      exact ⟨d, .remove row, rows, Model.get_eq_ok hd, .remove, hrows', rfl⟩
  | removeAll values =>
      obtain ⟨d, hd, h⟩ := bind_eq_ok.mp h
      obtain ⟨rows, hrows, rfl⟩ := changed_eq_true (Except.ok.inj h)
      obtain ⟨old, hold, hrows'⟩ := Option.bind_eq_some_iff.mp hrows
      obtain rfl := mapM_allTexts? hold
      exact ⟨d, .removeAll old, rows, Model.get_eq_ok hd, .removeAll, hrows', rfl⟩
  | removeWhere f =>
      obtain ⟨⟨m'', removed⟩, hremove, h⟩ := bind_eq_ok.mp h
      obtain ⟨rows, hrows, hremove⟩ := bind_eq_ok.mp hremove
      obtain ⟨⟨passing, failing⟩, hsplit, hremove⟩ := bind_eq_ok.mp hremove
      obtain ⟨d, hd, rfl⟩ := map_eq_ok.mp hrows
      obtain ⟨hholds, rfl, rfl⟩ := RowFilter.split_eq_ok hsplit
      have hd' := Model.get_eq_ok hd
      obtain ⟨rfl, rfl⟩ := Prod.mk.inj (Except.ok.inj hremove)
      obtain ⟨rfl, hany⟩ := Prod.mk.inj (Except.ok.inj h)
      have hsome : d.rows.any f.passes = true := by
        rw [List.any_eq_true]
        obtain ⟨row, hrow⟩ := List.exists_mem_of_ne_nil (d.rows.filter f.passes) (by simpa using hany)
        obtain ⟨hrow, hpass⟩ := List.mem_filter.mp hrow
        use row, hrow
      refine ⟨d, .removeWhere f.passes, _, hd', .removeWhere ?_, if_pos hsome, rfl⟩
      -- the filter was asked about some row, and so it can be asked about all of this length
      obtain ⟨row, hrow, -⟩ := List.any_eq_true.mp hsome
      intro row' hlength
      have hsame : (row'.map Value.text).length = (row.map Value.text).length := by
        rw [List.length_map, List.length_map, hlength, hm kind key d hd' row hrow]
      obtain ⟨pass, hpass⟩ := f.holds_ok_of_length hsame (hholds row hrow)
      apply RowFilter.holds_eq_passes hpass

/-- A source in memory makes the change that an edit is read as. -/
theorem onSource_memory
    {arity : Nat} {edit : RowEdit} {c : RowChange} (h : Reads arity edit c) {key : String}
    {kept : List KeptRow} (hfit : ∀ x ∈ kept, x.1 = key → x.2.length = arity) :
  (edit.onSource key (.memory (kept.map KeptRow.stored))).map Prod.fst
    = .ok (.memory ((c.onKept key kept).map KeptRow.stored))
  := by
  have hpairs : ∀ rows : List Row,
      ((rows.map (·.map Value.text)).map fun row => Value.text key :: row)
        = (rows.map fun row => (key, row)).map KeptRow.stored := by
    intro rows
    rw [List.map_map, List.map_map]
    rfl
  cases h with
  | @add row h =>
      change Except.ok (Source.memory (Source.appended _ (KeptRow.stored (key, row))).1) = _
      rw [Source.appended_stored]
      rfl
  | @addAll rows h =>
      change Except.ok (Source.memory (Source.each Source.appended _ _).1) = _
      rw [hpairs, Source.each_stored Source.appended_stored]
      rfl
  | @update old new h =>
      change Except.ok (Source.memory (List.replace _ (KeptRow.stored (key, old))
        (KeptRow.stored (key, new)))) = _
      rw [replace_map KeptRow.stored_beq]
      rfl
  | @remove row =>
      change Except.ok (Source.memory (Source.erased _ (KeptRow.stored (key, row))).1) = _
      rw [Source.erased_stored]
      rfl
  | @removeAll rows =>
      change Except.ok (Source.memory (Source.each Source.erased _ _).1) = _
      rw [hpairs, Source.each_stored Source.erased_stored]
      rfl
  | @removeWhere f h =>
      have hkeep := Source.keep_stored fun x hx hkey => h x.2 (hfit x hx hkey)
      simp only [onSource, Source.removeWhere, Source.edit, hkeep, bind, Except.bind, pure,
        Except.pure, Except.map]
      rfl

/-! ### Performing -/

/-- The rows of a source in memory fit a model. -/
inductive Backed (m : Model) : Option Source → Prop
  | none : Backed m none
  | memory {kept : List KeptRow} (hfits : ∀ x ∈ kept, m.Fits x) :
      Backed m (some (.memory (kept.map KeptRow.stored)))

/-- A source whose rows fit a model keeps rows. -/
theorem Backed.exists_kept {m : Model} {source : Option Source} (h : Backed m source)
    (hsome : source ≠ Option.none) :
  ∃ kept : List KeptRow, source = some (.memory (kept.map KeptRow.stored)) ∧
    ∀ x ∈ kept, m.Fits x
  := by
  cases h with
  | none => exact absurd rfl hsome
  | @memory kept hfits => exact ⟨kept, rfl, hfits⟩

theorem Backed.of_sameShape {m m' : Model} {source : Option Source} (h : Backed m source)
    (hshape : m.SameShape m') :
  Backed m' source
  := by
  cases h with
  | none => apply Backed.none
  | memory hfits =>
      apply Backed.memory
      intro x hx
      apply (hfits x hx).of_sameShape hshape

/-- What becomes of the source of an enforcer after a change of the rows under a key. -/
inductive Passes (e : Enforcer) (key : String) (c : RowChange) : Option Source → Prop
  | skip (h : e.source = none ∨ e.autoSave = false) : Passes e key c e.source
  | save {kept : List KeptRow} (hsave : e.autoSave = true)
      (hsource : e.source = some (.memory (kept.map KeptRow.stored))) :
      Passes e key c (some (.memory ((c.onKept key kept).map KeptRow.stored)))

/-- A source whose rows fit a model takes every edit that the model does. -/
theorem Backed.persist
    {e : Enforcer} (hbacked : Backed e.model e.source) (hm : e.model.WellFormed) {kind : RowKind}
    {key : String} {edit : RowEdit} {d : Definition} {c : RowChange}
    (hd : e.model.find? kind.kind key = some d) (hreads : Reads d.arity edit c) (m : Model) :
  ∃ source, Passes e key c source ∧
    (Enforcer.persist edit.operation (edit.onSource key)).perform { e with model := m }
      = (.ok (), { e with model := m, source })
  := by
  obtain hskip | ⟨s, hsome, hsave⟩ := e.skips_or_saves
  · exact ⟨e.source, .skip hskip, Enforcer.perform_persist_skip _ _ hskip⟩
  · obtain ⟨kept, hs, hfits⟩ := hbacked.exists_kept (by rw [hsome]; simp)
    have hfit : ∀ x ∈ kept, x.1 = key → x.2.length = d.arity := by
      rintro x hx rfl
      apply (hfits x hx).length_eq hm hd
    obtain ⟨⟨s, changed⟩, hedit, rfl⟩ := map_eq_ok.mp (onSource_memory hreads hfit)
    exact ⟨_, .save hsave hs, Enforcer.perform_persist_memory _ hs hsave hedit⟩

/-- The rows of a source fit a model after a change that fits. -/
theorem Passes.backed
    {e : Enforcer} {kind : RowKind} {key : String} {c : RowChange} {source : Option Source}
    (h : Passes e key c source) (hbacked : Backed e.model e.source) {d : Definition}
    (hd : e.model.find? kind.kind key = some d) (hadded : ∀ row ∈ c.added, row.length = d.arity) :
  Backed e.model source
  := by
  cases h with
  | skip _ => apply hbacked
  | @save kept hsave hsource =>
      obtain ⟨kept', hsource', hfits⟩ := hbacked.exists_kept (by rw [hsource]; simp)
      rw [hsource, Option.some.injEq, Source.memory.injEq] at hsource'
      obtain rfl := List.map_injective_iff.mpr KeptRow.stored_injective hsource'
      apply Backed.memory
      intro x hx
      obtain hx | ⟨rfl, hx'⟩ := RowChange.of_mem_onKept hx
      · apply hfits x hx
      · exact ⟨kind, d, hd, hadded x.2 hx'⟩

/-- An edit either leaves an enforcer as it is, or makes one change of rows in the model and
passes it on; once it is passed on, the role graphs are brought up to date. -/
theorem perform_act_cases
    {e : Enforcer} (hrows : e.model.RowsFit) (kind : RowKind) (key : String) (edit : RowEdit) :
  (∃ result, (edit.act kind key).perform e = (result, e)) ∨
  ∃ d c rows, e.model.find? kind.kind key = some d ∧ Reads d.arity edit c ∧
    c.onRows d.rows = some rows ∧
    (edit.act kind key).perform e =
      match (Enforcer.persist edit.operation (edit.onSource key)).perform
        { e with model := e.model.withRows kind.kind key rows } with
      | (.error failure, e') => (.error failure, e')
      | (.ok (), e') => (.ok true, ((Enforcer.rowsChanged kind.kind).perform e').2)
  := by
  rw [act_eq_mutate, Enforcer.perform_mutate]
  cases hchange : edit.onModel kind key e.model with
  | error failure => exact Or.inl ⟨_, rfl⟩
  | ok made =>
      obtain ⟨m, changed⟩ := made
      cases changed with
      | false => exact Or.inl ⟨_, rfl⟩
      | true =>
          right
          obtain ⟨d, c, rows, hd, hreads, honRows, rfl⟩ := of_onModel hrows hchange
          exact ⟨d, c, rows, hd, hreads, honRows, rfl⟩

/-- An edit, also one that the source does not take, either leaves an enforcer as it is or makes
one change of rows in the model; what is remembered is at most what was. -/
theorem perform_act_any
    {e : Enforcer} (hrows : e.model.RowsFit) (kind : RowKind) (key : String) (edit : RowEdit) :
  (∃ result, (edit.act kind key).perform e = (result, e)) ∨
  ∃ d c rows result source graphs cache log, e.model.find? kind.kind key = some d ∧
    Reads d.arity edit c ∧ c.onRows d.rows = some rows ∧ cache ⊆ e.cache ∧
    (edit.act kind key).perform e = (result,
      { e with model := e.model.withRows kind.kind key rows, source, graphs, cache, log })
  := by
  obtain hsame | ⟨d, c, rows, hd, hreads, honRows, heq⟩ := perform_act_cases hrows kind key edit
  · left
    apply hsame
  · right
    obtain ⟨result, source, log, hpersist⟩ := Enforcer.perform_persist edit.operation
      (edit.onSource key) { e with model := e.model.withRows kind.kind key rows }
    rw [heq, hpersist]
    cases result with
    | error failure =>
        exact ⟨d, c, rows, _, source, _, _, log, hd, hreads, honRows, List.Subset.refl _, rfl⟩
    | ok u =>
        obtain ⟨log', hlog'⟩ := Enforcer.perform_rowsChanged kind.kind
          { e with model := e.model.withRows kind.kind key rows, source, log }
        simp only [hlog']
        exact ⟨d, c, rows, _, source, _, _, log', hd, hreads, honRows, List.nil_subset _, rfl⟩

/-- An edit either leaves an enforcer as it is, or makes one change of rows in the model and
brings the role graphs up to date, if what is passed on to the source is taken. -/
theorem perform_act_of
    {e : Enforcer} (hrows : e.model.RowsFit) (kind : RowKind) (key : String) (edit : RowEdit)
    (Taken : RowChange → Option Source → Prop)
    (htaken : ∀ m d c, e.model.find? kind.kind key = some d → Reads d.arity edit c →
      ∃ source log, Taken c source ∧
        (Enforcer.persist edit.operation (edit.onSource key)).perform { e with model := m }
          = (.ok (), { e with model := m, source, log })) :
  (∃ result, (edit.act kind key).perform e = (result, e)) ∨
  ∃ d c rows source log, e.model.find? kind.kind key = some d ∧ Reads d.arity edit c ∧
    c.onRows d.rows = some rows ∧ Taken c source ∧
    (edit.act kind key).perform e = (.ok true,
      { e with
        model := e.model.withRows kind.kind key rows
        source
        graphs := Enforcer.graphsAfter kind.kind
          { e with model := e.model.withRows kind.kind key rows }
        cache := []
        log })
  := by
  obtain hsame | ⟨d, c, rows, hd, hreads, honRows, heq⟩ := perform_act_cases hrows kind key edit
  · left
    apply hsame
  · right
    obtain ⟨source, log, hsource, hpersist⟩ :=
      htaken (e.model.withRows kind.kind key rows) d c hd hreads
    obtain ⟨log', hlog'⟩ := Enforcer.perform_rowsChanged kind.kind
      { e with model := e.model.withRows kind.kind key rows, source, log }
    refine ⟨d, c, rows, source, log', hd, hreads, honRows, hsource, ?_⟩
    simp only [heq, hpersist, hlog']
    rfl

/-- An edit either leaves an enforcer as it is, or makes one change of rows in the model and in
the source, and brings the role graphs up to date. -/
theorem perform_act
    {e : Enforcer} (hm : e.model.WellFormed) (hrows : e.model.RowsFit)
    (hbacked : Backed e.model e.source) (kind : RowKind) (key : String) (edit : RowEdit) :
  (∃ result, (edit.act kind key).perform e = (result, e)) ∨
  ∃ d c rows source log, e.model.find? kind.kind key = some d ∧ Reads d.arity edit c ∧
    c.onRows d.rows = some rows ∧ Passes e key c source ∧
    (edit.act kind key).perform e = (.ok true,
      { e with
        model := e.model.withRows kind.kind key rows
        source
        graphs := Enforcer.graphsAfter kind.kind
          { e with model := e.model.withRows kind.kind key rows }
        cache := []
        log })
  := by
  apply perform_act_of hrows kind key edit (Passes e key)
  intro m d c hd hreads
  obtain ⟨source, hpasses, hperform⟩ := hbacked.persist hm hd hreads m
  exact ⟨source, e.log, hpasses, hperform⟩

end RowEdit

end AccessControl
