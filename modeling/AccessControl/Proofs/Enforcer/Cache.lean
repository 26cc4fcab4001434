import AccessControl.Proofs.Enforcer.Decision
import AccessControl.Proofs.Enforcer.Mutation
import AccessControl.Proofs.Policy.Line

/-!
# Remembered decisions

An enforcer is sound when what it remembers is what it would answer, and when its source takes
every edit.  Every operation that can change an answer forgets all of them, so that a sound
enforcer stays sound.
-/

namespace AccessControl

open AccessControl.Action

/-! ### Requests -/

/-- The values that hosts put into requests: truth values, integers, texts, no value at all,
and selections of definitions by their names. -/
inductive Value.Plain : Value → Prop
  | none : Plain .none
  | bool (b : Bool) : Plain (.bool b)
  | int (n : Int) : Plain (.int n)
  | text (s : String) : Plain (.text s)
  | selection (r p e m : String) : Plain (.selection (.text r) (.text p) (.text e) (.text m))

/-- Plain values of one kind that are equal are the same. -/
theorem eq_of_sameValue {v w : Value} (hv : v.Plain) (hw : w.Plain)
    (h : Enforcer.sameValue v w = true) :
  v = w
  := by
  obtain ⟨hkind, hequals⟩ := (Bool.and_eq_true _ _).mp h
  -- values of different kinds are told apart before they are compared
  cases hv <;> cases hw <;> cases hkind
  case none.none.refl => rfl
  case bool.bool.refl b c =>
    cases b <;> cases c <;> first | rfl | cases hequals
  case int.int.refl m n =>
    change (m == n) = true at hequals
    rw [beq_iff_eq.mp hequals]
  case text.text.refl s t =>
    change (s == t) = true at hequals
    rw [beq_iff_eq.mp hequals]
  case selection.selection.refl r p e m r' p' e' m' =>
    change (r == r' && p == p' && e == e' && m == m') = true at hequals
    simp only [Bool.and_eq_true, beq_iff_eq] at hequals
    obtain ⟨⟨⟨rfl, rfl⟩, rfl⟩, rfl⟩ := hequals
    rfl

/-- Plain requests that a cache does not tell apart are the same. -/
theorem eq_of_sameRequest {request request' : List Value} (h : ∀ v ∈ request, v.Plain)
    (h' : ∀ v ∈ request', v.Plain) (hsame : Enforcer.sameRequest request request' = true) :
  request = request'
  := by
  induction request generalizing request' with
  | nil =>
      cases request' with
      | nil => rfl
      | cons w others => cases hsame
  | cons v rest ih =>
      cases request' with
      | nil => cases hsame
      | cons w others =>
          obtain ⟨hv, hrest⟩ := List.forall_mem_cons.mp h
          obtain ⟨hw, hothers⟩ := List.forall_mem_cons.mp h'
          obtain ⟨hvalue, hsame⟩ := (Bool.and_eq_true _ _).mp hsame
          rw [eq_of_sameValue hv hw hvalue, ih hrest hothers hsame]

/-! ### Sources -/

/-- A source that takes every edit, as its rows have keys, or refuses every edit as a file
does. -/
inductive Settled : Option Source → Prop
  | none : Settled none
  | memory {rows : List StoredRow} (h : ∀ row ∈ rows, row ≠ []) : Settled (some (.memory rows))
  | file (path : Location) : Settled (some (.file path))

namespace Settled

/-- A source that could be loaded is settled. -/
theorem of_load {s : Source} {files : Files} {m : Model} (h : (s.load files m).1 = .ok ()) :
  Settled (some s)
  := by
  cases s with
  | memory rows =>
      have hsteps : (runSteps Source.loadRow m rows).1 = .ok () := by
        rw [Source.load] at h
        generalize runSteps Source.loadRow m rows = r at h
        obtain ⟨failure | u, m'⟩ := r
        · cases h
        · rfl
      apply Settled.memory
      rintro row hrow rfl
      obtain ⟨m, m', hstep⟩ := of_runSteps hsteps [] hrow
      cases hstep
  | file path => apply Settled.file
  | bare => cases h
  | foreign v => cases h

/-- A source that was saved to is settled. -/
theorem of_save
    {s s' : Source} (hs : Settled (some s)) {files files' : Files} {m : Model}
    {events : List LogEvent} (h : s.save files m = .ok (files', s', events)) :
  Settled (some s')
  := by
  cases hs with
  | memory _ =>
      obtain ⟨rows, hrows, h⟩ := bind_eq_ok.mp h
      cases h
      obtain ⟨parsed, hparsed, hrows⟩ := bind_eq_ok.mp hrows
      cases hrows
      apply Settled.memory
      intro row hrow
      obtain ⟨texts, htexts, rfl⟩ := List.mem_map.mp hrow
      obtain ⟨found, hfound, rfl : found = some texts⟩ := List.mem_filterMap.mp htexts
      obtain ⟨line, -, hline⟩ := of_mapM_eq_ok hparsed (some texts) hfound
      rw [Ne, List.map_eq_nil_iff]
      apply PolicyLine.parse_ne_nil hline
  | file path =>
      rw [Source.save] at h
      split at h
      · cases h
        apply Settled.file
      · split at h <;> cases h

/-- What every change of one row keeps, changes of several rows keep. -/
theorem each_keeps
    {P : StoredRow → Prop} {f : List StoredRow → StoredRow → List StoredRow × Bool}
    (hf : ∀ rows row, P row → (∀ r ∈ rows, P r) → ∀ r ∈ (f rows row).1, P r)
    {new rows : List StoredRow} (hnew : ∀ r ∈ new, P r) (hrows : ∀ r ∈ rows, P r) :
  ∀ r ∈ (Source.each f rows new).1, P r
  := by
  induction new generalizing rows with
  | nil => apply hrows
  | cons row rest ih =>
      obtain ⟨hrow, hrest⟩ := List.forall_mem_cons.mp hnew
      apply ih hrest (hf rows row hrow hrows)

/-- A filter that can be asked about all rows leaves some rows with keys. -/
theorem keep_ok
    (key : Value) {f : RowFilter} (hf : ∀ values, ∃ pass, f.holds values = .ok pass)
    {rows : List StoredRow} (h : ∀ row ∈ rows, row ≠ []) :
  ∃ kept, Source.keep key f rows = .ok kept ∧ ∀ row ∈ kept, row ≠ []
  := by
  induction rows with
  | nil => exact ⟨[], rfl, h⟩
  | cons row rest ih =>
      obtain ⟨hrow, hrest⟩ := List.forall_mem_cons.mp h
      obtain ⟨kept, hkept, hne⟩ := ih hrest
      obtain ⟨k, values, rfl⟩ := List.exists_cons_of_ne_nil hrow
      obtain ⟨pass, hpass⟩ : ∃ pass, Source.passes key f (k :: values) = .ok pass := by
        rw [Source.passes]
        split
        · apply hf
        · exact ⟨false, rfl⟩
      rw [Source.keep, hpass, hkept]
      cases pass with
      | true => exact ⟨kept, rfl, hne⟩
      | false => exact ⟨_, rfl, List.forall_mem_cons.mpr ⟨hrow, hne⟩⟩

/-- Appending a row that has a key leaves rows with keys. -/
theorem appended
    (rows : List StoredRow) (row : StoredRow) (hrow : row ≠ []) (h : ∀ r ∈ rows, r ≠ []) :
  ∀ r ∈ (Source.appended rows row).1, r ≠ []
  := by
  intro r hr
  rw [Source.appended, Source.append] at hr
  split at hr
  · apply h r hr
  · obtain hr | hr := List.mem_append.mp hr
    · apply h r hr
    · rw [List.mem_singleton.mp hr]
      apply hrow

/-- Erasing a row leaves rows with keys. -/
theorem erased
    (rows : List StoredRow) (row : StoredRow) (_ : row ≠ []) (h : ∀ r ∈ rows, r ≠ []) :
  ∀ r ∈ (Source.erased rows row).1, r ≠ []
  := by
  intro r hr
  apply h r (List.mem_of_mem_erase hr)

/-- A source in memory takes every edit that does not look for fields before the first. -/
theorem edit
    {edit : RowEdit} (hedit : edit.Indexed) {rows : List StoredRow}
    (h : ∀ row ∈ rows, row ≠ []) (key : String) :
  ∃ s changed, edit.onSource key (.memory rows) = .ok (s, changed) ∧ Settled (some s)
  := by
  have hkeyed : ∀ new : List (List Value), ∀ r ∈ new.map (Value.text key :: ·), r ≠ [] := by
    intro new r hr
    obtain ⟨row, -, rfl⟩ := List.mem_map.mp hr
    apply List.cons_ne_nil
  cases edit with
  | add row => exact ⟨_, _, rfl, Settled.memory (appended rows _ (List.cons_ne_nil _ _) h)⟩
  | addAll new => exact ⟨_, _, rfl, Settled.memory (each_keeps appended (hkeyed new) h)⟩
  | update old new =>
      refine ⟨_, _, rfl, Settled.memory ?_⟩
      intro r hr
      obtain hr | rfl := RowChange.mem_of_mem_replace hr
      · apply h r hr
      · apply List.cons_ne_nil
  | remove row => exact ⟨_, _, rfl, Settled.memory (erased rows _ (List.cons_ne_nil _ _) h)⟩
  | removeAll old => exact ⟨_, _, rfl, Settled.memory (each_keeps erased (hkeyed old) h)⟩
  | removeWhere f =>
      obtain ⟨i, hstart, hi⟩ := hedit
      obtain ⟨kept, hkept, hne⟩ := keep_ok (.text key)
        (fun values => RowFilter.holds_ok_of_index hstart hi values) h
      refine ⟨.memory kept, kept.length != rows.length, ?_, Settled.memory hne⟩
      simp only [RowEdit.onSource, Source.removeWhere, Source.edit, hkept, bind, Except.bind, pure,
        Except.pure, Except.map]

/-- A settled source lets an edit pass, and stays settled. -/
theorem perform_persist
    {e : Enforcer} (h : Settled e.source) {edit : RowEdit} (hedit : edit.Indexed) (key : String) :
  ∃ source log, Settled source ∧ (Enforcer.persist edit.operation (edit.onSource key)).perform e
    = (.ok (), { e with source, log })
  := by
  obtain hskip | ⟨source, hs, hsave⟩ := e.skips_or_saves
  · exact ⟨e.source, e.log, h, Enforcer.perform_persist_skip _ _ hskip⟩
  · rw [hs] at h
    cases h with
    | memory hrows =>
        obtain ⟨s, changed, hs', hsettled⟩ := Settled.edit hedit hrows key
        exact ⟨_, e.log, hsettled, Enforcer.perform_persist_memory _ hs hsave hs'⟩
    | file path =>
        obtain ⟨log, hlog⟩ := Enforcer.perform_persist_unsupported edit.operation
          (edit.onSource key) hs hsave (by cases edit <;> rfl) nofun
        refine ⟨e.source, log, ?_, hlog⟩
        rw [hs]
        apply Settled.file

end Settled

/-! ### Sound enforcers -/

namespace Enforcer

/-- What an enforcer remembers is what it would answer, and its source takes every edit. -/
structure Sound (e : Enforcer) : Prop where
  recalls : ∀ entry ∈ e.cache, (∀ v ∈ entry.1, v.Plain) ∧
    (e.verdict entry.1).map Prod.fst = .ok entry.2
  settled : Settled e.source

namespace Sound

/-- Who remembers nothing remembers nothing wrong. -/
theorem of_empty {e : Enforcer} (hcache : e.cache = []) (hsettled : Settled e.source) :
  Sound e
  := by
  constructor
  · rw [hcache]
    simp
  · apply hsettled

/-- A remembered answer is the one that would be given. -/
theorem verdict_of_cached
    {e : Enforcer} (he : Sound e) {request : List Value} (hrequest : ∀ v ∈ request, v.Plain)
    {allowed : Bool} (hcached : e.cached? request = some allowed) :
  (e.verdict request).map Prod.fst = .ok allowed
  := by
  obtain ⟨entry, hfind, rfl⟩ := Option.map_eq_some_iff.mp hcached
  obtain ⟨hentry, hverdict⟩ := he.recalls entry (List.mem_of_find?_eq_some hfind)
  have hfound := List.find?_some hfind
  rw [← eq_of_sameRequest hentry hrequest hfound, hverdict]

/-- An answer that was given may be remembered. -/
theorem remember
    {e : Enforcer} (he : Sound e) {request : List Value} (hrequest : ∀ v ∈ request, v.Plain)
    {allowed : Bool} {explain : Row} (hverdict : e.verdict request = .ok (allowed, explain))
    (log : List LogEvent) (traces : List Trace) :
  Sound { e with cache := e.cache ++ [(request, allowed)], log, traces }
  := by
  refine ⟨?_, he.settled⟩
  intro entry hentry
  obtain hentry | hentry := List.mem_append.mp hentry
  · apply he.recalls entry hentry
  · rw [List.mem_singleton.mp hentry]
    exact ⟨hrequest, congrArg (Except.map Prod.fst) hverdict⟩

theorem keeps_edit {edit : RowEdit} (hedit : edit.Indexed) (kind : RowKind) (key : String) :
  Keeps Sound (edit.act kind key)
  := by
  intro e he
  rw [RowEdit.act_eq_mutate, perform_mutate]
  rcases edit.onModel kind key e.model with failure | ⟨m, _ | _⟩
  · apply he
  · apply he
  · obtain ⟨source, log, hsettled, hpersist⟩ :=
      Settled.perform_persist (e := { e with model := m }) he.settled hedit key
    simp only [hpersist]
    obtain ⟨log', hchanged⟩ := perform_rowsChanged kind.kind { e with model := m, source, log }
    rw [hchanged]
    exact of_empty rfl hsettled

theorem keeps_buildLinks : Keeps Sound buildLinks := by
  intro e he
  obtain ⟨log, heq⟩ := perform_buildLinks e
  rw [heq]
  exact of_empty rfl he.settled

theorem keeps_clearPolicy : Keeps Sound clearPolicy := by
  intro e he
  obtain ⟨log, heq⟩ := perform_clearPolicy e
  rw [heq]
  exact of_empty rfl he.settled

theorem keeps_setModel (m : Model) : Keeps Sound (setModel m) := by
  intro e he
  rw [perform_setModel]
  cases m.validate with
  | error failure => apply he
  | ok u => exact of_empty rfl he.settled

theorem keeps_setGraph (key : String) (g : RoleGraph) : Keeps Sound (setGraph key g) := by
  intro e he
  obtain ⟨graphs, log, heq⟩ := perform_setGraph key g e
  rw [heq]
  exact of_empty rfl he.settled

theorem keeps_register (name : String) (f : MatcherFunction) : Keeps Sound (register name f) := by
  intro e he
  rw [perform_register]
  cases e.functions.register name f with
  | error failure => apply he
  | ok functions => exact of_empty rfl he.settled

theorem keeps_enable (switch : Value) : Keeps Sound (enable switch) := by
  intro e he
  obtain ⟨log, heq⟩ := perform_enable switch e
  rw [heq]
  exact of_empty rfl he.settled

/-- Saving forgets nothing, as no answer depends on the source. -/
theorem keeps_savePolicy : Keeps Sound savePolicy := by
  intro e he
  obtain hs | ⟨s, hs⟩ := Option.eq_none_or_eq_some e.source
  · rw [perform_savePolicy_none hs]
    apply he
  · rw [perform_savePolicy hs]
    have hsettled := he.settled
    rw [hs] at hsettled
    cases hsave : s.save e.files e.model with
    | error failure => apply he
    | ok saved =>
        obtain ⟨files, s', events⟩ := saved
        exact ⟨he.recalls, hsettled.of_save hsave⟩

/-- Loading that succeeds forgets all answers; loading that fails may change rows and forget
none. -/
theorem of_loadPolicy {e e' : Enforcer} (h : loadPolicy.perform e = (.ok (), e')) :
  Sound e'
  := by
  obtain ⟨s', m, events, m', log, hs', hload, -, rfl⟩ := loadPolicy_eq_ok h
  apply of_empty rfl
  simp only [hs']
  apply Settled.of_load (congrArg Prod.fst hload)

/-- A new enforcer is sound. -/
theorem start
    {m : Model} {source : Option Source} {e₀ e : Enforcer} (hnone : e₀.source = none)
    (h : (Enforcer.start m source).perform e₀ = (.ok (), e)) :
  Sound e
  := by
  obtain ⟨log, -, ⟨rfl, rfl⟩ | ⟨s, rfl, hload⟩⟩ := of_start hnone h
  · exact of_empty rfl Settled.none
  · exact of_loadPolicy hload

end Sound

end Enforcer

end AccessControl
