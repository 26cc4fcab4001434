import AccessControl.Proofs.Enforcer.Queries
import AccessControl.Proofs.Enforcer.RoleQueries
import AccessControl.Proofs.Rbac.Text
import AccessControl.Proofs.Roles.Transitive

/-!
# Inherited permissions

What an enforcer reports as the permissions of a user and of the roles that it inherits, in any
state: with any role rows, also where they lead back to the user, and with any matchers of role
names.  The main result is `Enforcer.implicitPermissions_count`, which tells how often every
policy row is reported.
-/

namespace AccessControl

open AccessControl.Action

namespace Enforcer

/-! ### Role managers -/

/-- The role managers of an enforcer are in states that calls of a host lead to. -/
def GraphsReachable (e : Enforcer) : Prop := ∀ x ∈ e.graphs, x.2.Reachable

namespace GraphsReachable

variable {e : Enforcer}

/-- Role managers that are built anew from rows, or not, are in such states. -/
theorem link (he : GraphsReachable e) (m : Model) (build : Bool) :
  ∀ x ∈ if build then m.link e.graphs else e.graphs, x.2.Reachable
  := by
  cases build with
  | false => apply he
  | true =>
      intro x hx
      obtain ⟨y, hy, rfl⟩ := List.mem_map.mp hx
      apply (he y hy).rebuild

theorem keeps_edit (kind : RowKind) (key : String) (edit : RowEdit) :
  Keeps GraphsReachable (edit.act kind key)
  := by
  intro e he
  rw [RowEdit.act_eq_mutate, perform_mutate]
  rcases edit.onModel kind key e.model with failure | ⟨m, _ | _⟩
  · apply he
  · apply he
  · obtain ⟨result, source, log, heq⟩ :=
      perform_persist edit.operation (edit.onSource key) { e with model := m }
    dsimp only
    rw [heq]
    cases result with
    | error failure => apply he
    | ok u =>
        obtain ⟨log', hlog⟩ := perform_rowsChanged kind.kind { e with model := m, source, log }
        dsimp only
        rw [hlog]
        apply he.link m

theorem keeps_loadPolicy : Keeps GraphsReachable loadPolicy := by
  intro e he
  obtain hs | ⟨s, hs⟩ := Option.eq_none_or_eq_some e.source
  · rw [perform_loadPolicy_none hs]
    apply he
  · obtain ⟨log, heq⟩ := perform_loadPolicy hs
    rw [heq]
    obtain ⟨failure | u, m, events⟩ := s.load e.files e.model.clearRows
    · apply he
    · dsimp only
      obtain ⟨failure | u, m'⟩ := m.sortByPriority
      · apply he
      · apply he.link m'

theorem keeps_act (x : Mutation) :
  Keeps GraphsReachable x.act
  := by
  apply Mutation.keeps_act keeps_edit keeps_loadPolicy
  · intro e he
    obtain ⟨log, heq⟩ := perform_buildLinks e
    rw [heq]
    apply he.link _ true
  · intro _ e he
    obtain ⟨log, heq⟩ := perform_clearPolicy e
    rw [heq]
    apply he.link _ true

/-- The role managers of a new enforcer are new. -/
theorem start
    {m : Model} {source : Option Source} {kind : EnforcerKind} {config : Config}
    {sink : Option Sink} {tag : Value} {files : Files}
    (h : (Enforcer.start m source).perform (.initial kind config sink tag files) = (.ok (), e)) :
  GraphsReachable e
  := by
  have hnew : ∀ x ∈ (initial kind config sink tag files).graphsFor m, x.2.Reachable := by
    intro x hx
    obtain ⟨d, -, rfl⟩ := List.mem_map.mp hx
    apply RoleGraph.Reachable.start
  obtain ⟨log, -, ⟨rfl, rfl⟩ | ⟨s, rfl, hload⟩⟩ := of_start rfl h
  · apply hnew
  · obtain rfl := (Prod.ext_iff.mp hload).2
    apply keeps_loadPolicy
    apply hnew

theorem given (he : GraphsReachable e) :
  ∀ x ∈ e.graphs, x.2.given = []
  := fun x hx => (he x hx).given

end GraphsReachable

/-! ### Reports -/

/-- How often a row is reported for some subjects: as often as there are subjects for which it
is. -/
theorem count_reports {rows : List Row} (hnodup : rows.Nodup) (subjects : List String) (row : Row) :
  (subjects.flatMap fun s => rows.filter (reportsFor s)).count row
    = if row ∈ rows then subjects.countP (reportsFor · row) else 0
  := by
  induction subjects with
  | nil => simp
  | cons s rest ih =>
      rw [List.flatMap_cons, List.count_append, ih, List.countP_cons]
      by_cases hs : reportsFor s row
      · rw [List.count_filter hs, hnodup.count]
        split <;> simp [Nat.add_comm]
      · rw [List.count_eq_zero.mpr]
        · simp [hs]
        · simp [hs]

/-- Among different subjects, none of them the empty text, a row is reported for the one that it
names, if it names one. -/
theorem countP_reportsFor {subjects : List String} (hnodup : subjects.Nodup) (hblank : "" ∉ subjects)
    (row : Row) :
  subjects.countP (reportsFor · row) = if ∃ s ∈ subjects, row[0]? = some s then 1 else 0
  := by
  have hnames : subjects.countP (reportsFor · row) = subjects.countP fun s => row[0]? == some s := by
    apply List.countP_congr
    intro s hs
    rw [reportsFor, beq_false_of_ne (ne_of_mem_of_not_mem hs hblank), Bool.false_or]
  rw [hnames]
  cases row[0]? with
  | none => simp
  | some t =>
      have hcount : (subjects.countP fun s => some t == some s) = subjects.count t := by
        apply List.countP_congr
        intro s _
        rw [beq_iff_eq, beq_iff_eq, Option.some.injEq, eq_comm]
      rw [hcount, hnodup.count]
      simp

/-! ### Inherited permissions -/

theorem perform_implicitRoles_closure (user domain : Value) (e : Enforcer) :
  (implicitRoles user domain).perform e
    = (RoleGraph.closureOf (e.graphs.map (·.2)) false domain user, e)
  := by
  rw [implicitRoles]
  simp only [perform_bind, perform_get, perform_lift]

/-- Whatever its role rows are, an enforcer reports for a user as often as a policy row is one of
the user or of a role that the user inherits: once, where the user is none of its own roles and
neither the user nor a role is the empty text.  A row of a user who is one of its own roles is
reported once more, and for the empty text every row is reported.  Nothing is reported where a
matcher keeps the roles from being found. -/
theorem implicitPermissions_count
    {e : Enforcer} (hbuilt : Built e) (hreachable : GraphsReachable e) {rows : List Row}
    (hrows : e.model.rows .policy policyKey = .ok rows) (user : String) :
  (∃ (roles : List String) (report : List Row),
    (Question.implicitRoles (.text user) .none).act.perform e = (.ok (textsAnswer roles), e) ∧
    (Question.implicitPermissions (.text user) none).act.perform e = (.ok (.rows report), e) ∧
    (∀ row, report.count row
      = if row ∈ rows then (user :: roles).countP (reportsFor · row) else 0) ∧
    (user ∉ roles → "" ∉ user :: roles → ∀ row, report.count row
      = if row ∈ rows ∧ ∃ s ∈ user :: roles, row[0]? = some s then 1 else 0)) ∨
  ∃ failure,
    (Question.implicitRoles (.text user) .none).act.perform e = (.error failure, e) ∧
    (Question.implicitPermissions (.text user) none).act.perform e = (.error failure, e)
  := by
  have hgraphs : ∀ g ∈ e.graphs.map (·.2), g.Reachable := by
    intro g hg
    obtain ⟨x, hx, rfl⟩ := List.mem_map.mp hg
    apply hreachable x hx
  obtain ⟨d, hget, rfl⟩ := map_eq_ok.mp hrows
  have hd : e.model.find? .policy policyKey = some d := Model.get_eq_ok hget
  have hnodup := (hbuilt.sound.definitions d (Model.of_find? hd).1).nodup
  have hroles := perform_implicitRoles_closure (.text user) .none e
  obtain ⟨roles, hclosure, hbreadth, -⟩ | ⟨failure, hclosure, -⟩ :=
    RoleGraph.closureOf_cases hgraphs false none user
  · left
    rw [RoleGraph.domainValue, Option.map_none, Option.getD_none] at hclosure
    rw [hclosure] at hroles
    have hreport := perform_permissionsOfTexts hrows (user :: roles)
    have hcount := count_reports hnodup (user :: roles)
    refine ⟨roles, (user :: roles).flatMap fun s => d.rows.filter (reportsFor s), ?_, ?_, hcount, ?_⟩
    · apply perform_named hreachable.given hroles
    · rw [Question.act, perform_map, implicitPermissions]
      simp only [perform_bind, Option.getD_none, hroles, perform_valuesOf hreachable.given]
      rw [← List.map_cons, hreport]
      rfl
    · intro huser hblank row
      have hdistinct : (user :: roles).Nodup := List.nodup_cons.mpr ⟨huser, hbreadth.nodup⟩
      rw [hcount, countP_reportsFor hdistinct hblank, ite_and]
  · right
    rw [RoleGraph.domainValue, Option.map_none, Option.getD_none] at hclosure
    rw [hclosure] at hroles
    refine ⟨failure, ?_, ?_⟩
    · rw [Question.act, Question.named]
      simp only [perform_bind, hroles]
    · rw [Question.act, perform_map, implicitPermissions]
      simp only [perform_bind, Option.getD_none, hroles]
      rfl

theorem textsAnswer_injective : Function.Injective textsAnswer := by
  intro texts texts' h
  apply List.map_injective_iff.mpr fun _ _ h => Value.text.inj h
  apply Value.list.inj (Answer.value.inj h)

/-- Rows of a user and of inherited roles are reported, each once. -/
theorem implicitPermissions_count_inherited :
  let start := (start (Rbac.model [] []) (some (.memory
    [[.text "p", .text "admin", .text "data", .text "read"],
     [.text "p", .text "bob", .text "data", .text "read"],
     [.text "g", .text "staff", .text "admin"]]))).perform (.initial .full {} none .none {})
  let e := Mutation.run [.addRole (.text "alice") (.text "staff") none,
    .edit .policy "p" (.add [.text "alice", .text "data", .text "write"])] start.2
  let rows := [["admin", "data", "read"], ["bob", "data", "read"], ["alice", "data", "write"]]
  e.model.rows .policy policyKey = .ok rows ∧
    ∃ report,
      (Question.implicitPermissions (.text "alice") none).act.perform e = (.ok (.rows report), e) ∧
      ∀ row, report.count row
        = if row ∈ rows ∧ ∃ s ∈ ["alice", "staff", "admin"], row[0]? = some s then 1 else 0
  := by
  intro start e rows
  obtain ⟨events, hm⟩ := Rbac.ofText Rbac.entries_text
  have hstart : start = (.ok (), start.2) := Prod.ext (ok_of_toOption (by decide +kernel)) rfl
  have hbuilt : Built e :=
    Mutation.run_keeps (fun x _ => Built.keeps_act x) (Built.start (Model.built_ofText hm) rfl hstart)
  have hreachable : GraphsReachable e :=
    Mutation.run_keeps (fun x _ => GraphsReachable.keeps_act x) (GraphsReachable.start hstart)
  have hrows : e.model.rows .policy policyKey = .ok rows := ok_of_toOption (by decide +kernel)
  have hclosure : RoleGraph.closureOf (e.graphs.map (·.2)) false .none (.text "alice")
      = .ok (["staff", "admin"].map .text) := ok_of_toOption (by decide +kernel)
  have hnames := perform_implicitRoles_closure (.text "alice") .none e
  rw [hclosure] at hnames
  have hanswer := perform_named hreachable.given hnames
  obtain ⟨roles, report, hroles, hreport, -, hcount⟩ | ⟨failure, hfail, -⟩ :=
    implicitPermissions_count hbuilt hreachable hrows "alice"
  · have hsame := hroles.symm.trans hanswer
    obtain rfl : roles = ["staff", "admin"] := by
      apply textsAnswer_injective
      apply Except.ok.inj (Prod.mk.inj hsame).1
    exact ⟨hrows, report, hreport, hcount (by decide) (by decide)⟩
  · rw [Question.act, hanswer] at hfail
    cases (Prod.mk.inj hfail).1

/-- A user whose roles lead back to it is reported a row twice, and the empty text, which has no
role and is in no row, is reported a row of somebody else. -/
theorem implicitPermissions_repeated :
  let start := (start (Rbac.model [] []) (some (.memory
    [[.text "p", .text "alice", .text "data", .text "read"],
     [.text "g", .text "alice", .text "admin"],
     [.text "g", .text "admin", .text "alice"]]))).perform (.initial .full {} none .none {})
  let e := start.2
  start.1 = .ok () ∧ e.model.rows .policy policyKey = .ok [["alice", "data", "read"]] ∧
    (implicitRoles (.text "alice") .none).perform e = (.ok [.text "admin", .text "alice"], e) ∧
    (implicitPermissions (.text "alice") none).perform e
      = (.ok [["alice", "data", "read"], ["alice", "data", "read"]], e) ∧
    (implicitRoles (.text "") .none).perform e = (.ok [], e) ∧
    (implicitPermissions (.text "") none).perform e = (.ok [["alice", "data", "read"]], e)
  := by
  intro start e
  refine ⟨ok_of_toOption (by decide +kernel), ok_of_toOption (by decide +kernel), ?_, ?_, ?_, ?_⟩
  · apply Prod.ext (ok_of_toOption (by decide +kernel)) rfl
  · apply Prod.ext (ok_of_toOption (by decide +kernel)) rfl
  · apply Prod.ext (ok_of_toOption (by decide +kernel)) rfl
  · apply Prod.ext (ok_of_toOption (by decide +kernel)) rfl

end Enforcer

end AccessControl
