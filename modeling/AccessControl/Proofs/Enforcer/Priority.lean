import AccessControl.Proofs.Enforcer.Edit
import AccessControl.Proofs.Enforcer.Scan
import AccessControl.Proofs.Model.Order

/-!
# Decisions by priority

Loading puts the rows of a policy with priorities in order.  Edits do not order rows, and leave
them in order as long as they put new rows in their places.  While they do, a decision by
priority is that of a row which matches and has the least priority of those that match.  The
main result is `Enforcer.enforce_by_priority`.
-/

namespace AccessControl

/-! ### Edits -/

namespace RowEdit

/-- An edit of rows of some length puts new rows in their places, if it changes the rows. -/
def InPlace (i arity : Nat) (rows : List Row) (edit : RowEdit) : Prop :=
  ∀ c rows', Reads arity edit c → c.onRows rows = some rows' → c.InPlace i rows

/-- It does not matter how an edit is read. -/
theorem inPlace_of_reads
    {i arity : Nat} {rows : List Row} {edit : RowEdit} {c : RowChange}
    (hreads : Reads arity edit c) (hc : c.InPlace i rows) :
  edit.InPlace i arity rows
  := by
  have htext := KeptRow.map_text_injective
  intro c' rows' hreads' _
  cases hreads with
  | @add row h =>
      generalize hvalues : row.map Value.text = values at hreads'
      cases hreads' with
      | add h' =>
          rw [← htext hvalues]
          apply hc
  | @addAll new h =>
      generalize hvalues : new.map (·.map Value.text) = values at hreads'
      cases hreads' with
      | addAll h' =>
          rw [← List.map_injective_iff.mpr htext hvalues]
          apply hc
  | @update old new h =>
      generalize hold : old.map Value.text = oldValues at hreads'
      generalize hnew : new.map Value.text = newValues at hreads'
      cases hreads' with
      | update h' =>
          rw [← htext hold, ← htext hnew]
          apply hc
  | @remove row =>
      generalize row.map Value.text = values at hreads'
      cases hreads'
      trivial
  | @removeAll old =>
      generalize old.map (·.map Value.text) = values at hreads'
      cases hreads'
      trivial
  | removeWhere h =>
      cases hreads'
      trivial

end RowEdit

namespace Enforcer

/-- What becomes of an enforcer by edits of any definitions, of which those of the policy rows
under a key put new rows in their places. -/
inductive Arranged (key : String) (i : Nat) (e₀ : Enforcer) : Enforcer → Prop
  | start : Arranged key i e₀ e₀
  | edit {e : Enforcer} (h : Arranged key i e₀ e) (kind : RowKind) (key' : String) (edit : RowEdit)
      (hplace : kind = .policy → key' = key → ∀ d, e.model.find? .policy key = some d →
        edit.InPlace i d.arity d.rows) :
      Arranged key i e₀ ((edit.act kind key').perform e).2

/-- An enforcer has the model of another but for rows, and the policy rows under a key are in
order. -/
structure Ordered (key : String) (i : Nat) (e₀ e : Enforcer) : Prop where
  shape : e₀.model.SameShape e.model
  fit : e.model.RowsFit
  forgetful : e.cache = []
  inOrder : ∀ d, e.model.find? .policy key = some d → InOrder i d.rows

namespace Ordered

variable {key : String} {i : Nat} {e₀ e : Enforcer}

/-- Loading puts rows in order. -/
theorem of_loadPolicy
    (hload : loadPolicy.perform e = (.ok (), e₀))
    {d : Definition} (hd : e₀.model.find? .policy key = some d)
    (hi : d.fieldIndex? priorityField = some i) (hnumbered : ∀ row ∈ d.rows, row.IsNumbered i) :
  Ordered key i e₀ e₀
  := by
  obtain ⟨s, m, events, m', log, -, hread, hsort, rfl⟩ := loadPolicy_eq_ok hload
  obtain ⟨-, hfit⟩ := Model.load_keeps e.files (Model.SameShape.refl _)
    (Model.rowsFit_clearRows e.model) s
  rw [hread] at hfit
  constructor
  · apply Model.SameShape.refl
  · have hsorted := hfit.sortByPriority
    rw [hsort] at hsorted
    apply hsorted
  · rfl
  · intro d' hd'
    obtain rfl := Option.some.inj (hd.symm.trans hd')
    apply Model.inOrder_of_sortByPriority hsort hd hi hnumbered

/-- An edit that puts new rows in their places keeps rows in order. -/
theorem edit
    (he : Ordered key i e₀ e) (kind : RowKind) (key' : String) (edit : RowEdit)
    (hplace : kind = .policy → key' = key → ∀ d, e.model.find? .policy key = some d →
      edit.InPlace i d.arity d.rows) :
  Ordered key i e₀ ((edit.act kind key').perform e).2
  := by
  obtain ⟨result, heq⟩ | ⟨d, c, rows, result, source, graphs, cache, log, hd, hreads, honRows,
    hcache, heq⟩ := RowEdit.perform_act_any he.fit kind key' edit
  · rw [heq]
    apply he
  · rw [heq]
    constructor
    · apply he.shape.trans (Model.SameShape.withRows _ _ _ _).symm
    · apply he.fit.withRows hd
      intro row hrow
      obtain hrow | hrow := RowChange.of_mem_onRows honRows hrow
      · apply he.fit kind key' d hd row hrow
      · apply hreads.length_of_added hrow
    · apply List.subset_nil.mp
      rw [← he.forgetful]
      apply hcache
    · intro d' hd'
      by_cases hsame : kind = .policy ∧ key' = key
      · obtain ⟨rfl, rfl⟩ := hsame
        have hfound : (e.model.withRows .policy key' rows).find? .policy key' = some d' := hd'
        have hd₀ : e.model.find? .policy key' = some d := hd
        rw [Model.find?_withRows_same, hd₀, Option.map_some, Option.some.injEq] at hfound
        subst hfound
        apply (RowChange.inOrder_iff (he.inOrder d hd) honRows).mpr
        apply hplace rfl rfl d hd c rows hreads honRows
      · have hother : ¬ (SectionKind.policy = kind.kind ∧ key = key') := by
          rintro ⟨hkind, rfl⟩
          cases kind with
          | policy => exact hsame ⟨rfl, rfl⟩
          | role => cases hkind
        have hfound : (e.model.withRows kind.kind key' rows).find? .policy key = some d' := hd'
        rw [Model.find?_withRows_other _ _ hother] at hfound
        apply he.inOrder d' hfound

end Ordered

/-- Edits that put new rows in their places keep rows in order. -/
theorem Arranged.ordered
    {key : String} {i : Nat} {e₀ e : Enforcer} (h : Arranged key i e₀ e)
    (hstart : Ordered key i e₀ e₀) :
  Ordered key i e₀ e
  := by
  induction h with
  | start => apply hstart
  | edit h kind key' edit hplace ih => apply ih.edit kind key' edit hplace

/-! ### Decisions -/

/-- A row matches, and none that matches has a lesser priority. -/
structure Foremost (i : Nat) (s : Scan Row) (row : Row) : Prop where
  mem : row ∈ s.rows
  holds : s.Matches row
  least : ∀ row' ∈ s.rows, s.Matches row' → row.priority i ≤ row'.priority i

/-- Of rows in order, the first that matches has the least priority of those that match. -/
theorem foremost_of_isFirst
    {i : Nat} {s : Scan Row} (hrows : InOrder i s.rows) {row : Row}
    (h : IsFirst s.Matches s.rows row) :
  Foremost i s row
  := by
  constructor
  · apply Scan.mem_of_isFirst h
  · apply h.holds
  · obtain ⟨-, before, after, hsplit, hbefore⟩ := h
    rw [hsplit] at hrows ⊢
    intro row' hrow' hmatches
    obtain hrow' | hrow' := List.mem_append.mp hrow'
    · exact absurd hmatches (hbefore row' hrow')
    · obtain rfl | hrow' := List.mem_cons.mp hrow'
      · exact le_rfl
      · apply (InOrder.cons.mp (InOrder.append.mp hrows).2.1).2.2 row' hrow'

/-- The decision by priority about rows in order is that of a foremost row, and a denial if no
row matches. -/
theorem decides_foremost
    {i : Nat} {s : Scan Row} (hrows : InOrder i s.rows) {allowed : Bool} {decider : Option Row}
    (h : s.Decides .priority allowed decider) :
  (∃ row, Foremost i s row ∧ (allowed = true ↔ s.label row = .allow)) ∨
    (∀ row ∈ s.rows, ¬ s.Matches row) ∧ allowed = false
  := by
  cases h with
  | priority_allow hfirst hlabel =>
      left
      refine ⟨_, foremost_of_isFirst hrows hfirst, ?_⟩
      apply iff_of_true rfl hlabel
  | priority_other hfirst hlabel =>
      left
      refine ⟨_, foremost_of_isFirst hrows hfirst, ?_⟩
      apply iff_of_false Bool.false_ne_true hlabel
  | priority_none hnone => exact Or.inr ⟨hnone, rfl⟩

end Enforcer

/-! ### A model with ranks -/

namespace Ranking

/-- The matcher. -/
def matcher : Matcher :=
  ⟨"r.sub == p.sub", .binary .eq (.field "r" "sub" []) (.field "p" "sub" [])⟩

/-- The frame of the decisions about some rows, which have a priority, a subject and an
effect. -/
def frame (rows : List Row) : Frame :=
  ⟨⟨"r", "sub", .request ["sub"], []⟩,
    ⟨"p", "priority, sub, eft", .policy ["priority", "sub", "eft"], rows⟩, .priority, matcher⟩

/-- The model with some rows. -/
def model (rows : List Row) : Model :=
  ⟨[(frame rows).request, (frame rows).policy,
    ⟨"e", "priority(p.eft) || deny", .effect .priority, []⟩,
    ⟨"m", "r.sub == p.sub", .matcher matcher, []⟩]⟩

/-- Some rows as a source in memory stores them. -/
def stored (rows : List Row) : List StoredRow := rows.map fun row => .text "p" :: row.map .text

/-- What comes of loading some rows. -/
def loaded (rows : List Row) : Except Failure Unit × Enforcer :=
  Enforcer.loadPolicy.perform { model := model [], source := some (.memory (stored rows)) }

/-- Rows in order are loaded as they are. -/
theorem loaded_eq
    {rows : List Row}
    (hload : runSteps Source.loadRow (model []) (stored rows) = (.ok (), model rows))
    (hrows : InOrder 0 rows) :
  ∃ log, loaded rows
    = (.ok (), { model := model rows, source := some (.memory (stored rows)), log })
  := by
  let e : Enforcer := { model := model [], source := some (.memory (stored rows)) }
  have hsource : e.source = some (.memory (stored rows)) := rfl
  obtain ⟨log, hlog⟩ := Enforcer.perform_loadPolicy hsource
  have hclear : e.model.clearRows = model [] := rfl
  have hsort : (model rows).sortByPriority = (.ok (), model rows) := by
    apply Model.sortByPriority_of_inOrder
    intro d hd i hi
    simp only [model, List.mem_cons, List.not_mem_nil, or_false] at hd
    obtain rfl | rfl | rfl | rfl := hd
    · cases hi
    · cases hi
      apply hrows
    · cases hi
    · cases hi
  use log
  rw [loaded, hlog, hclear, Source.load, hload]
  dsimp only
  rw [hsort]
  rfl

/-- A row that starts with an integer has this integer for its priority. -/
theorem priority_eq
    {digits : String} {z : Int} (rest : Row) (h : (readInt digits).toOption = some z)
    (hz : z.natAbs ≤ 2 ^ 53) :
  Row.IsNumbered 0 (digits :: rest) ∧ Row.priority 0 (digits :: rest) = Binary64.ofInteger z
  := by
  have hwrites : Writes (((digits :: rest)[0]?).getD "") z := writes_of_readInt (ok_of_toOption h)
  obtain ⟨hnumbered, hpriority⟩ := Row.isNumbered_of_writes hwrites
  exact ⟨hnumbered, hpriority hz⟩

theorem inOrder_singleton {row : Row} (h : row.IsNumbered 0) :
  InOrder 0 [row]
  := by
  constructor
  · apply List.forall_mem_singleton.mpr h
  · apply List.pairwise_singleton

/-- Two rows whose priorities are read as one number are in order. -/
theorem inOrder_of_read_eq
    {digits digits' : String} {rest rest' : Row} (h : Row.IsNumbered 0 (digits' :: rest'))
    (hread : (readFloat digits).toOption = (readFloat digits').toOption) :
  InOrder 0 [digits :: rest, digits' :: rest']
  := by
  obtain ⟨x, hx, hnan⟩ := h
  have hx' : readFloat digits = .ok x := by
    apply ok_of_toOption
    rw [hread]
    apply congrArg Except.toOption hx
  have hsame : Row.priority 0 (digits :: rest) = Row.priority 0 (digits' :: rest') := by
    apply Eq.trans _ (Row.priority_eq hx).symm
    apply Row.priority_eq
    apply hx'
  apply InOrder.cons.mpr
  refine ⟨⟨x, hx', hnan⟩, inOrder_singleton ⟨x, hx, hnan⟩, ?_⟩
  intro row hrow
  rw [List.mem_singleton.mp hrow]
  apply hsame.le

end Ranking

namespace Enforcer

/-- Priority by number.  After loading that succeeds, where the definitions of a decision use the
strategy by priority and a policy with a field for priorities, all of them numbers, the rows of
the policy are in order, and stay in order just while edits put new rows in their places.  An
enforcer that is switched on then decides a request, if the matcher fails on no row before the
first that matches, as a row does that matches and has the least priority of those that match,
and denies it if there are rows and none matches.  A field with an integer is a number, and the
priority is this integer unless it is beyond `2 ^ 53`. -/
theorem enforce_by_priority
    {e e₀ e₁ : Enforcer} (hload : loadPolicy.perform e = (.ok (), e₀)) {selection : Selection}
    {f : Frame} (hframe : e₀.model.frame selection = .ok f) (hstrategy : f.strategy = .priority)
    {i : Nat} (hi : f.policy.fieldIndex? priorityField = some i)
    (hnumbered : ∀ row ∈ f.policy.rows, row.IsNumbered i)
    (harranged : Arranged f.policy.key i e₀ e₁) :
  (∃ rows, let f₁ : Frame := { f with policy := { f.policy with rows } }
    e₁.model.frame selection = .ok f₁ ∧ InOrder i rows ∧
    (∀ (c : RowChange) (rows' : List Row), c.onRows rows = some rows' →
      (InOrder i rows' ↔ c.InPlace i rows)) ∧
    ∀ request values : List Value, e₁.enabled.isTruthy = true →
      splitRequest request = (selection, values) → values.length = f.request.arity → rows ≠ [] →
      let s := f₁.scan e₁.allFunctions values
      (∀ failure, ¬ s.FailsWith .priority failure) →
      ∃ allowed, ((enforce request).perform e₁).1 = .ok allowed ∧
        ((∃ row, Foremost i s row ∧ (allowed = true ↔ row.label f.policy.fields = .allow)) ∨
          (∀ row ∈ rows, ¬ s.Matches row) ∧ allowed = false)) ∧
  ∀ (row : Row) (z : Int), Writes ((row[i]?).getD "") z →
    row.IsNumbered i ∧ (z.natAbs ≤ 2 ^ 53 → row.priority i = Binary64.ofInteger z)
  := by
  constructor
  · obtain ⟨rKey, pKey, eKey, mKey, effect, matching, rfl, -, hpolicy, -⟩ := Model.of_frame hframe
    obtain ⟨-, -, rfl⟩ := Model.of_find? hpolicy
    have hordered := harranged.ordered (.of_loadPolicy hload hpolicy hi hnumbered)
    obtain ⟨rows, hframe₁⟩ := hordered.shape.exists_frame hframe
    obtain ⟨_, pKey, _, _, _, _, hkeys, -, hpolicy₁, -⟩ := Model.of_frame hframe₁
    cases hkeys
    have hrows : InOrder i rows := hordered.inOrder _ hpolicy₁
    refine ⟨rows, hframe₁, hrows, fun _ _ => RowChange.inOrder_iff hrows, ?_⟩
    intro request values henabled hselection harity hsome s hholds
    have hanswer : ((enforce request).perform e₁).1 = (e₁.verdict request).map Prod.fst := by
      apply enforce_eq_verdict
      intro _
      rw [cached?, hordered.forgetful]
      rfl
    have hscan : s.rows = rows := if_neg hsome
    rw [hanswer, verdict_of_frame henabled hselection hframe₁ harity]
    obtain ⟨failure, hfails, -⟩ | ⟨-, allowed, decider, hdecides, hdecide⟩ :=
      Frame.decide_scan { f with policy := { f.policy with rows } } e₁.allFunctions values
    · rw [hstrategy] at hfails
      exact absurd hfails (hholds failure)
    · rw [hdecide]
      refine ⟨allowed, rfl, ?_⟩
      rw [hstrategy] at hdecides
      rw [← hscan] at hrows
      have hlabel : ∀ row, s.label row = row.label f.policy.fields := fun row => if_neg hsome
      simpa only [hscan, hlabel] using decides_foremost hrows hdecides
  · intro row z hwrites
    apply Row.isNumbered_of_writes hwrites

/-- Of two rows that match, the one that was loaded decides, as the other was added behind it. -/
theorem enforce_by_priority_added :
  let loaded := Ranking.loaded [["10", "alice", "allow"]]
  let e := (((RowEdit.add [.text "20", .text "alice", .text "deny"]).act .policy "p").perform
    loaded.2).2
  loaded.1 = .ok () ∧ e.model = Ranking.model [["10", "alice", "allow"], ["20", "alice", "deny"]] ∧
    ((enforce [.text "alice"]).perform e).1 = .ok true
  := by
  intro loaded e
  have hreads : (readInt "10").toOption = some 10 ∧ (readInt "20").toOption = some 20 := by
    decide +kernel
  obtain ⟨hten, hten'⟩ := Ranking.priority_eq ["alice", "allow"] hreads.1 (by decide)
  obtain ⟨htwenty, htwenty'⟩ := Ranking.priority_eq ["alice", "deny"] hreads.2 (by decide)
  obtain ⟨log, hloaded⟩ := Ranking.loaded_eq rfl (Ranking.inOrder_singleton hten)
  have hload : loaded = (.ok (), loaded.2) := by
    simp only [loaded, hloaded]
  have hmodel₀ : loaded.2.model = Ranking.model [["10", "alice", "allow"]] := by
    simp only [loaded, hloaded]
  have hmodel : e.model = Ranking.model [["10", "alice", "allow"], ["20", "alice", "deny"]] := by
    simp only [e, loaded, hloaded]
    rfl
  have harranged : Arranged "p" 0 loaded.2 e := by
    apply Arranged.edit Arranged.start
    intro _ _ d hd
    rw [hmodel₀] at hd
    cases hd
    have hreads : RowEdit.Reads 3 (.add (["20", "alice", "deny"].map .text))
      (.add ["20", "alice", "deny"]) := .add rfl
    apply RowEdit.inPlace_of_reads hreads
    constructor
    · apply htwenty
    · intro row hrow
      rw [List.mem_singleton.mp hrow, hten', htwenty', Binary64.ofInteger_le_ofInteger]
      decide
  have hframe : loaded.2.model.frame {} = .ok (Ranking.frame [["10", "alice", "allow"]]) := by
    rw [hmodel₀]
    rfl
  obtain ⟨⟨rows, hframe₁, -, -, hdecide⟩, -⟩ := enforce_by_priority hload hframe rfl rfl
    (List.forall_mem_singleton.mpr hten) harranged
  rw [hmodel] at hframe₁
  obtain rfl : [["10", "alice", "allow"], ["20", "alice", "deny"]] = rows :=
    congrArg (fun f : Frame => f.policy.rows) (Except.ok.inj hframe₁)
  let s := (Ranking.frame [["10", "alice", "allow"], ["20", "alice", "deny"]]).scan e.allFunctions
    [.text "alice"]
  have hrows₁ : s.rows = [] ++ ["10", "alice", "allow"] :: [["20", "alice", "deny"]] := rfl
  have hmatches : s.out ["10", "alice", "allow"] = .ok true := rfl
  have hholds : ∀ failure, ¬ s.FailsWith .priority failure :=
    Scan.not_failsWith_of_stops hrows₁ (List.forall_mem_nil _) hmatches hmatches
  have henabled : e.enabled.isTruthy = true := by
    simp only [e, loaded, hloaded]
    rfl
  obtain ⟨allowed, hanswer, hdecides⟩ :=
    hdecide [.text "alice"] [.text "alice"] henabled rfl rfl (List.cons_ne_nil _ _) hholds
  refine ⟨congrArg Prod.fst hload, hmodel, ?_⟩
  rw [hanswer]
  obtain ⟨row, hforemost, hlabel⟩ | ⟨hnone, -⟩ := hdecides
  · have hleast := hforemost.least ["10", "alice", "allow"] List.mem_cons_self hmatches
    obtain rfl | hrow := List.mem_cons.mp hforemost.mem
    · rw [hlabel.mpr rfl]
    · rw [List.mem_singleton.mp hrow, hten', htwenty', Binary64.ofInteger_le_ofInteger] at hleast
      exact absurd hleast (by decide)
  · exact absurd hmatches (hnone _ List.mem_cons_self)

/-- Rows that are added are not put in order.  After a row of priority 10 that allows was loaded
and one of priority 1 that denies was added, the first decides.  Nor are rows in the order of
integers that differ only beyond double precision; and an enforcer that is switched off asks
about no row. -/
theorem enforce_against_priority :
  let e := (((RowEdit.add [.text "1", .text "alice", .text "deny"]).act .policy "p").perform
    (Ranking.loaded [["10", "alice", "allow"]]).2).2
  let rows := [["10", "alice", "allow"], ["1", "alice", "deny"]]
  let big := [["9007199254740993", "alice", "deny"], ["9007199254740992", "alice", "allow"]]
  let off := { (Ranking.loaded [["10", "alice", "deny"]]).2 with enabled := .bool false }
  ((Ranking.loaded [["10", "alice", "allow"]]).1 = .ok () ∧ e.model = Ranking.model rows ∧
    ¬ InOrder 0 rows ∧
    Foremost 0 ((Ranking.frame rows).scan e.allFunctions [.text "alice"]) ["1", "alice", "deny"] ∧
    ((enforce [.text "alice"]).perform e).1 = .ok true) ∧
  ((Ranking.loaded big).1 = .ok () ∧ (Ranking.loaded big).2.model = Ranking.model big ∧
    Writes "9007199254740993" 9007199254740993 ∧ Writes "9007199254740992" 9007199254740992 ∧
    ((enforce [.text "alice"]).perform (Ranking.loaded big).2).1 = .ok false) ∧
  ((Ranking.loaded [["10", "alice", "deny"]]).1 = .ok () ∧
    off.model = Ranking.model [["10", "alice", "deny"]] ∧
    ((enforce [.text "alice"]).perform off).1 = .ok true)
  := by
  intro e rows big off
  have hreads : (readInt "10").toOption = some 10 ∧ (readInt "1").toOption = some 1 ∧
      (readInt "9007199254740993").toOption = some 9007199254740993 ∧
      (readInt "9007199254740992").toOption = some 9007199254740992 := by decide +kernel
  obtain ⟨hten, hten'⟩ := Ranking.priority_eq ["alice", "allow"] hreads.1 (by decide)
  obtain ⟨hdenied, -⟩ := Ranking.priority_eq ["alice", "deny"] hreads.1 (by decide)
  obtain ⟨-, hone'⟩ := Ranking.priority_eq ["alice", "deny"] hreads.2.1 (by decide)
  refine ⟨?_, ?_, ?_⟩
  · obtain ⟨log, hloaded⟩ := Ranking.loaded_eq rfl (Ranking.inOrder_singleton hten)
    refine ⟨congrArg Prod.fst hloaded, ?_, ?_, ?_, ?_⟩
    · simp only [e, hloaded]
      rfl
    · intro hrows
      have hle := (InOrder.cons.mp hrows).2.2 _ (List.mem_singleton_self _)
      rw [hten', hone', Binary64.ofInteger_le_ofInteger] at hle
      exact absurd hle (by decide)
    · constructor
      · exact List.mem_cons_of_mem _ (List.mem_singleton_self _)
      · rfl
      · intro row hrow _
        obtain rfl | hrow := List.mem_cons.mp hrow
        · rw [hten', hone', Binary64.ofInteger_le_ofInteger]
          decide
        · rw [List.mem_singleton.mp hrow]
    · simp only [e, hloaded]
      rfl
  · have hgreater := writes_of_readInt (ok_of_toOption hreads.2.2.1)
    have hless := writes_of_readInt (ok_of_toOption hreads.2.2.2)
    have hbig : InOrder 0 big := by
      apply Ranking.inOrder_of_read_eq
      · apply (Ranking.priority_eq _ hreads.2.2.2 (by decide)).1
      · decide +kernel
    obtain ⟨log, hloaded⟩ := Ranking.loaded_eq rfl hbig
    refine ⟨congrArg Prod.fst hloaded, ?_, hgreater, hless, ?_⟩
    · simp only [hloaded]
    · simp only [hloaded]
      rfl
  · obtain ⟨log, hloaded⟩ := Ranking.loaded_eq rfl (Ranking.inOrder_singleton hdenied)
    refine ⟨congrArg Prod.fst hloaded, ?_, ?_⟩
    · simp only [off, hloaded]
    · simp only [off, hloaded]
      rfl

end Enforcer

end AccessControl
