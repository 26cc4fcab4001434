import AccessControl.Proofs.Enforcer.Linked
import AccessControl.Proofs.Rbac.Decision

/-!
# Enforcing the model of roles

An enforcer of the model of roles decides by its rows, whatever mutations have changed them:
its role graph is always the one that is built from its role rows.  The main result is
`Rbac.enforce_iff_permits`.
-/

namespace AccessControl

open AccessControl.Action

namespace Rbac

/-! ### Models -/

/-- What has the shape of the model is the model with some rows. -/
theorem exists_model {m : Model} {permissions roles : List Row}
    (h : m.SameShape (model permissions roles)) :
  ∃ permissions' roles', m = model permissions' roles'
  := h.exists_rows rfl rfl rfl

theorem not_ranked (permissions roles : List Row) :
  ∀ d ∈ (model permissions roles).definitions, d.isRanked = false
  := by
  intro d hd
  simp only [model, List.mem_cons, List.not_mem_nil, or_false] at hd
  obtain rfl | rfl | rfl | rfl | rfl := hd <;> rfl

/-! ### Enforcers -/

/-- The graph that is built from role rows, with a limit. -/
def graph (level : Nat) (roles : List Row) : RoleGraph :=
  RoleGraph.rebuild { limit := .ofNat level } roles

/-- What an enforcer of the model answers whose graph is built from its role rows: it allows
what some row permits, and the first such row explains it. -/
theorem verdict_model
    {e : Enforcer} (henabled : e.enabled.isTruthy = true) {permissions roles : List Row}
    (hmodel : e.model = model permissions roles) (hfit : e.model.RowsFit) {level : Nat}
    (hgraphs : e.graphs = [("g", graph level roles)]) (hsome : permissions ≠ [])
    (s o a : String) :
  ∃ allowed explain, e.verdict [.text s, .text o, .text a] = .ok (allowed, explain) ∧
    (allowed = true ↔ ∃ row ∈ permissions, Permits roles level s o a row) ∧
    (allowed = true → IsFirst (Permits roles level s o a) permissions explain) ∧
    (allowed = false → explain = [])
  := by
  rw [hmodel] at hfit
  obtain ⟨p, hp, hdecide⟩ := decide_frame (hfit .policy "p" _ rfl) hsome (hfit .role "g" _ rfl)
    (g := { limit := .ofNat level }) rfl rfl e.functions s o a
  refine ⟨permissions.any p, (permissions.find? p).getD [], ?_, ?_, ?_, ?_⟩
  · have hfunctions : e.allFunctions = ("g", roleFunction (some (graph level roles))) :: e.functions := by
      rw [Enforcer.allFunctions, hgraphs]
      rfl
    have hframe : e.model.frame {} = .ok (frame permissions) := by
      rw [hmodel]
      apply frame_model
    rw [Enforcer.verdict_of_frame henabled rfl hframe rfl, hfunctions]
    apply hdecide
  · rw [List.any_eq_true]
    apply exists_congr
    intro row
    apply and_congr_right
    apply hp row
  · intro hany
    obtain ⟨row, hrow⟩ := Option.isSome_iff_exists.mp
      (List.find?_isSome.mpr (List.any_eq_true.mp hany))
    rw [hrow]
    apply isFirst_of_find? hp hrow
  · intro hnone
    rw [List.find?_eq_none.mpr (List.any_eq_false.mp hnone)]
    rfl

/-- An enforcer of the model is switched on, and its graph is built from its role rows. -/
structure Ready (level : Nat) (e : Enforcer) : Prop where
  orderly : Enforcer.Orderly e
  kind : e.kind = .full
  enabled : e.enabled.isTruthy = true
  autoBuild : e.autoBuild = true
  linked : ∃ permissions roles, e.model = model permissions roles ∧
    e.graphs = [("g", graph level roles)]

namespace Ready

variable {level : Nat}

/-- A ready enforcer is an orderly one that is linked. -/
theorem iff_linked {e : Enforcer} :
  Ready level e ↔ Enforcer.Orderly e ∧
    Enforcer.Linked .full (model [] []) ((model [] []).unlinked level) e
  := by
  constructor
  · intro he
    obtain ⟨permissions, roles, hmodel, hgraphs⟩ := he.linked
    use he.orderly
    refine ⟨he.kind, he.orderly.wellFormed, he.orderly.rowsFit, ?_, .backed he.orderly.backed,
      he.enabled, he.autoBuild, ?_, ?_⟩
    · rw [hmodel]
      rfl
    · rintro ⟨⟩
    · rw [hgraphs, hmodel]
      rfl
  · rintro ⟨horderly, he⟩
    obtain ⟨permissions, roles, hmodel⟩ := exists_model he.shape
    refine ⟨horderly, he.kind_eq, he.enabled, he.autoBuild, permissions, roles, hmodel, ?_⟩
    rw [he.linked, hmodel]
    rfl

theorem keeps_act (x : Mutation) :
  Keeps (Ready level) x.act
  := by
  intro e he
  obtain ⟨horderly, hlinked⟩ := iff_linked.mp he
  apply iff_linked.mpr
  use Enforcer.Orderly.keeps_act x e horderly
  apply Enforcer.Linked.keeps_act (not_ranked [] []) x e hlinked

/-- An enforcer that has started with the model, and with no source or one in memory, is
ready. -/
theorem start
    {text : String} {events : List LogEvent}
    (hm : Model.ofText text = (.ok (model [] []), events)) {config : Config}
    (henabled : config.enforceEnabled = true) (hbuild : config.autoBuildRoleLinks = true)
    {sink : Option Sink} {tag : Value} {files : Files} {source : Option Source}
    (hsource : ∀ s ∈ source, ∃ rows, s = .memory rows) {e : Enforcer}
    (h : (Enforcer.start (model [] []) source).perform (.initial .full config sink tag files)
      = (.ok (), e)) :
  Ready config.maxHierarchyLevel e
  := by
  have hwell := Model.wellFormed_ofText hm
  apply iff_linked.mpr
  constructor
  · apply Enforcer.orderly_start hwell (Model.rowsFit_clearRows (model [] [])) hsource rfl h
  · apply Enforcer.Linked.start hwell rfl henabled hbuild h

/-- What a ready enforcer answers: it allows what some row permits, and the first such row
explains it. -/
theorem verdict
    {e : Enforcer} (he : Ready level e) :
  ∃ permissions roles, e.model.rows .policy "p" = .ok permissions ∧
    e.model.rows .role "g" = .ok roles ∧ (permissions ≠ [] → ∀ s o a, ∃ allowed explain,
      e.verdict [.text s, .text o, .text a] = .ok (allowed, explain) ∧
      (allowed = true ↔ ∃ row ∈ permissions, Permits roles level s o a row) ∧
      (allowed = true → IsFirst (Permits roles level s o a) permissions explain) ∧
      (allowed = false → explain = []))
  := by
  obtain ⟨permissions, roles, hmodel, hgraphs⟩ := he.linked
  refine ⟨permissions, roles, ?_, ?_, ?_⟩
  · rw [hmodel]
    rfl
  · rw [hmodel]
    rfl
  · apply verdict_model he.enabled hmodel he.orderly.rowsFit hgraphs

end Ready

/-- An enforcer of the model, with role links that are built automatically, decides by its
rows, after every sequence of mutations: it allows a request if some policy row has the object
and the action of the request, and for a subject the requesting one or a role that the role
rows give this one by a chain of at least one row and no more than the limit.  The first such
row explains the decision. -/
theorem enforce_iff_permits
    {text : String} (htext : ModelText.entries text = .ok entries) {m : Model}
    {events : List LogEvent} (hm : Model.ofText text = (.ok m, events)) {config : Config}
    (henabled : config.enforceEnabled = true) (hbuild : config.autoBuildRoleLinks = true)
    {sink : Option Sink} {tag : Value} {files : Files} {source : Option Source}
    (hsource : ∀ s ∈ source, ∃ rows, s = .memory rows) {e : Enforcer}
    (hstart : (Enforcer.start m source).perform (.initial .full config sink tag files)
      = (.ok (), e))
    (mutations : List Mutation) :
  let e' := Mutation.run mutations e
  ∃ permissions roles, e'.model.rows .policy "p" = .ok permissions ∧
    e'.model.rows .role "g" = .ok roles ∧ (permissions ≠ [] → ∀ s o a, ∃ allowed explain,
      ((Enforcer.enforce [.text s, .text o, .text a]).perform e').1 = .ok allowed ∧
      ((Enforcer.enforceEx [.text s, .text o, .text a]).perform e').1 = .ok (allowed, explain) ∧
      (allowed = true ↔
        ∃ row ∈ permissions, Permits roles config.maxHierarchyLevel s o a row) ∧
      (allowed = true →
        IsFirst (Permits roles config.maxHierarchyLevel s o a) permissions explain) ∧
      (allowed = false → explain = []))
  := by
  intro e'
  obtain ⟨events', hm'⟩ := ofText htext
  rw [hm'] at hm
  obtain rfl := Except.ok.inj (Prod.mk.inj hm).1
  have hready : Ready config.maxHierarchyLevel e' :=
    Mutation.run_keeps (fun x _ => Ready.keeps_act x)
      (Ready.start hm' henabled hbuild hsource hstart)
  obtain ⟨permissions, roles, hpermissions, hroles, hanswers⟩ := hready.verdict
  refine ⟨permissions, roles, hpermissions, hroles, ?_⟩
  intro hsome s o a
  obtain ⟨allowed, explain, hverdict, hiff, hfirst, hnone⟩ := hanswers hsome s o a
  refine ⟨allowed, explain, ?_, ?_, hiff, hfirst, hnone⟩
  · have hnew : e'.remembers [.text s, .text o, .text a] = false := by
      rw [Enforcer.remembers, hready.kind]
      rfl
    obtain ⟨log, traces, hperform⟩ := Enforcer.perform_enforce_new hnew
    rw [hperform, hverdict]
    rfl
  · obtain ⟨log, traces, hperform⟩ := Enforcer.perform_enforceEx [.text s, .text o, .text a] e'
    rw [hperform, hverdict]

/-- A user has the permissions of the role of its role. -/
theorem enforce_inherited :
  let rows := [[.text "p", .text "admin", .text "data", .text "read"],
    [.text "g", .text "staff", .text "admin"]]
  let start := (Enforcer.start (model [] []) (some (.memory rows))).perform
    (.initial .full {} none .none {})
  let e := Mutation.run [.addRole (.text "alice") (.text "staff") none] start.2
  start.1 = .ok () ∧
    ((Enforcer.enforceEx [.text "alice", .text "data", .text "read"]).perform e).1
      = .ok (true, ["admin", "data", "read"])
  := by
  intro rows start e
  obtain ⟨events, hm⟩ := ofText entries_text
  have hstart : start.1 = .ok () := ok_of_toOption (by decide +kernel)
  have hstarted : start = (.ok (), start.2) := Prod.ext hstart rfl
  obtain ⟨permissions, roles, hpermissions, hroles, hanswers⟩ :=
    enforce_iff_permits (e := start.2) entries_text hm rfl rfl (by rintro s ⟨⟩; exact ⟨_, rfl⟩)
      hstarted [.addRole (.text "alice") (.text "staff") none]
  have hp : e.model.rows .policy "p" = .ok [["admin", "data", "read"]] :=
    ok_of_toOption (by decide +kernel)
  have hg : e.model.rows .role "g" = .ok [["staff", "admin"], ["alice", "staff"]] :=
    ok_of_toOption (by decide +kernel)
  obtain rfl := Except.ok.inj (hp.symm.trans hpermissions)
  obtain rfl := Except.ok.inj (hg.symm.trans hroles)
  obtain ⟨allowed, explain, -, hex, hiff, hfirst, -⟩ :=
    hanswers (by decide) "alice" "data" "read"
  have hinherits : Inherits [["staff", "admin"], ["alice", "staff"]] 2 "alice" "admin" :=
    @Inherits.step _ _ _ "staff" _ (by decide) (@Inherits.step _ _ _ "admin" _ (by decide) (.refl _))
  have hallowed : allowed = true :=
    hiff.mpr ⟨_, List.mem_singleton_self _, "admin", rfl,
      Or.inr ⟨2, by decide, by decide, hinherits⟩⟩
  refine ⟨hstart, ?_⟩
  obtain ⟨before, after, hsplit, -⟩ := (hfirst hallowed).first
  have hexplain : explain ∈ [["admin", "data", "read"]] := by
    rw [hsplit]
    simp
  rw [hex, hallowed, List.mem_singleton.mp hexplain]

end Rbac

end AccessControl
