import AccessControl.Proofs.Enforcer.Queries
import AccessControl.Proofs.Rbac.Enforcement

/-!
# Auditing the model of roles

The permissions that an enforcer of the model of roles reports for a user are those that it
grants.  The report follows the role rows as far as they lead, and a decision only up to the
limit of the configuration, so both agree for a user all of whose roles lie within the limit.
The main result is `Rbac.enforce_iff_reported`.
-/

namespace AccessControl

open AccessControl.Action

namespace Rbac

/-! ### Reports -/

/-- The report of an enforcer of the model for a user lists the policy rows of the user and of
the roles that it inherits, however far the role rows lead. -/
theorem perform_implicitPermissions
    {level : Nat} {e : Enforcer} {permissions roles : List Row}
    (hmodel : e.model = model permissions roles) (hfit : e.model.RowsFit)
    (hgraphs : e.graphs = [("g", graph level roles)]) {user : String} (huser : user ≠ "")
    (hroles : ∀ n role, Inherits roles (n + 1) user role → role ≠ "") :
  ∃ report, ((Enforcer.implicitPermissions (.text user) none).perform e).1 = .ok report ∧
    ∀ row, row ∈ report ↔ row ∈ permissions ∧
      ∃ s, row[0]? = some s ∧ (s = user ∨ ∃ n, Inherits roles (n + 1) user s)
  := by
  rw [hmodel] at hfit
  have hgraph : e.graphs.map Prod.snd = [graph level roles] := by rw [hgraphs]; rfl
  have hrules : (graph level roles).domainMatcher = none :=
    (RoleGraph.SameRules.rebuild _ roles).domains
  have hrows : e.model.rows .policy Enforcer.policyKey = .ok permissions := by rw [hmodel]; rfl
  obtain ⟨subjects, hclosure, -, hmem⟩ := RoleGraph.closure_rebuild
    (g := { limit := .ofNat level }) rfl rfl (hfit .role "g" _ rfl) user
  have hsubjects : ∀ s ∈ user :: subjects, s ≠ "" := by
    rw [List.forall_mem_cons]
    use huser
    intro s hs
    obtain ⟨n, hn⟩ := (hmem s).mp hs
    apply hroles n s hn
  have hvalues : (subjects.map Name.text).map (RoleGraph.valueIn (e.graphs.map Prod.snd))
      = subjects.map Value.text := by
    rw [List.map_map, hgraph]
    apply List.map_congr_left
    intro s _
    have hgiven : (graph level roles).given = [] := RoleGraph.given_rebuild _ roles
    simp [RoleGraph.valueIn, hgiven, Name.value]
  refine ⟨(user :: subjects).flatMap fun s => permissions.filter (·[0]? == some s), ?_, ?_⟩
  · have hall := Enforcer.perform_permissionsOfAll hrows hsubjects
    have himplicit := Enforcer.perform_implicitRoles hgraph hrules user
    rw [show RoleGraph.closure [graph level roles] false defaultDomain (.text user)
      = .ok (subjects.map .text) from hclosure] at himplicit
    rw [List.map_cons] at hall
    simp only [Enforcer.implicitPermissions, Enforcer.valuesOf, perform_bind, perform_get,
      Option.getD_none, himplicit, perform_pure, hvalues, hall]
  · intro row
    simp only [List.mem_flatMap, List.mem_filter, beq_iff_eq]
    constructor
    · rintro ⟨s, hs, hrow, hfirst⟩
      refine ⟨hrow, s, hfirst, ?_⟩
      obtain rfl | hs := List.mem_cons.mp hs
      · left
        rfl
      · right
        apply (hmem s).mp hs
    · rintro ⟨hrow, s, hfirst, rfl | hs⟩
      · exact ⟨s, List.mem_cons_self, hrow, hfirst⟩
      · exact ⟨s, List.mem_cons_of_mem _ ((hmem s).mpr hs), hrow, hfirst⟩

/-- What an enforcer of the model grants to a user is what it reports: a request is allowed when
the report for the user has a row that ends with the object and the action of the request.
This holds with some policy row, for a user all of whose roles have names and are reached
within the limit for chains of roles, after every sequence of mutations. -/
theorem enforce_iff_reported
    {config : Config} (henabled : config.enforceEnabled = true)
    (hbuild : config.autoBuildRoleLinks = true) {e : Enforcer}
    (he : Enforcer.Reached entries config e) {permissions roles : List Row}
    (hpermissions : e.model.rows .policy "p" = .ok permissions) (hsome : permissions ≠ [])
    (hroles : e.model.rows .role "g" = .ok roles) {user : String} (huser : user ≠ "")
    (hreached : ∀ n role, Inherits roles (n + 1) user role →
      role ≠ "" ∧ ∃ k, k + 1 ≤ config.maxHierarchyLevel ∧ Inherits roles (k + 1) user role) :
  ∃ report, ((Enforcer.implicitPermissions (.text user) none).perform e).1 = .ok report ∧
    ∀ o a, ∃ allowed,
      ((Enforcer.enforce [.text user, .text o, .text a]).perform e).1 = .ok allowed ∧
      (allowed = true ↔ ∃ row ∈ report, [o, a] <:+ row)
  := by
  obtain ⟨kind, hlinked⟩ := he.linked ofText (not_ranked [] []) henabled hbuild
  obtain ⟨permissions', roles', hmodel⟩ := exists_model hlinked.shape
  have hfit := hlinked.rowsFit
  have hgraphs : e.graphs = [("g", graph config.maxHierarchyLevel roles')] := by
    rw [hlinked.linked, hmodel]
    rfl
  rw [hmodel] at hpermissions hroles
  obtain rfl : permissions' = permissions := Except.ok.inj hpermissions
  obtain rfl : roles' = roles := Except.ok.inj hroles
  obtain ⟨report, hreport, hmem⟩ := perform_implicitPermissions hmodel hfit hgraphs huser
    fun n role h => (hreached n role h).1
  refine ⟨report, hreport, ?_⟩
  intro o a
  obtain ⟨allowed, explain, hverdict, hiff, -, -⟩ :=
    verdict_model hlinked.enabled hmodel hfit hgraphs hsome user o a
  refine ⟨allowed, ?_, ?_⟩
  · rw [hlinked.enforce_eq, hverdict]
    rfl
  · rw [hiff]
    rw [hmodel] at hfit
    constructor
    · rintro ⟨row, hrow, t, rfl, hgrants⟩
      refine ⟨_, (hmem _).mpr ⟨hrow, t, rfl, ?_⟩, ⟨[t], rfl⟩⟩
      obtain rfl | ⟨n, hn, -, hinherits⟩ := hgrants
      · left
        rfl
      · right
        obtain ⟨k, rfl⟩ := Nat.exists_eq_add_of_le' hn
        exact ⟨k, hinherits⟩
    · rintro ⟨row, hrow, hends⟩
      obtain ⟨hrow, t, hfirst, hgrants⟩ := (hmem row).mp hrow
      obtain ⟨t', o', a', rfl⟩ := List.length_eq_three.mp (hfit .policy "p" _ rfl row hrow)
      obtain rfl := Option.some.inj hfirst
      obtain ⟨before, hbefore⟩ := hends
      obtain ⟨rfl, rfl⟩ : o = o' ∧ a = a' := by
        simpa using (List.append_inj' (show before ++ [o, a] = [t'] ++ [o', a'] from hbefore) rfl).2
      refine ⟨_, hrow, t', rfl, ?_⟩
      obtain rfl | ⟨n, hinherits⟩ := hgrants
      · left
        rfl
      · right
        obtain ⟨-, k, hk, hinherits⟩ := hreached n t' hinherits
        exact ⟨k + 1, Nat.succ_pos k, hk, hinherits⟩

/-- What is granted to a user with the role of a role is reported. -/
theorem enforce_iff_reported_inherited :
  let rows : List StoredRow :=
    [[.text "p", .text "admin", .text "data", .text "read"],
     [.text "g", .text "staff", .text "admin"]]
  let e := Mutation.run [.addRole (.text "alice") (.text "staff") none]
    (Enforcer.started (model [] []) {} rows)
  ∃ report, ((Enforcer.implicitPermissions (.text "alice") none).perform e).1 = .ok report ∧
    ∀ o a, ∃ allowed,
      ((Enforcer.enforce [.text "alice", .text o, .text a]).perform e).1 = .ok allowed ∧
      (allowed = true ↔ ∃ row ∈ report, [o, a] <:+ row)
  := by
  intro rows e
  obtain ⟨events, hm⟩ := ofText entries_text
  have he : Enforcer.Reached entries {} e :=
    .started entries_text hm (ok_of_toOption (by decide +kernel)) _
  have hp : e.model.rows .policy "p" = .ok [["admin", "data", "read"]] :=
    ok_of_toOption (by decide +kernel)
  have hg : e.model.rows .role "g" = .ok [["staff", "admin"], ["alice", "staff"]] :=
    ok_of_toOption (by decide +kernel)
  apply enforce_iff_reported rfl rfl he hp (by decide) hg (by decide)
  -- from alice the rows lead to staff, from there to admin, and no further
  have hstaff : Inherits [["staff", "admin"], ["alice", "staff"]] 1 "alice" "staff" :=
    @Inherits.step _ _ _ "staff" _ (by decide) (.refl "staff")
  have hadmin : Inherits [["staff", "admin"], ["alice", "staff"]] 2 "alice" "admin" :=
    @Inherits.step _ _ _ "staff" _ (by decide)
      (@Inherits.step _ _ _ "admin" _ (by decide) (.refl "admin"))
  rintro n role (_ | @⟨_, _, next, _, hrow, hrest⟩)
  obtain rfl : next = "staff" := by simpa using hrow
  obtain _ | @⟨_, _, next, _, hrow, hrest⟩ := hrest
  · exact ⟨by decide, 0, by decide, hstaff⟩
  · obtain rfl : next = "admin" := by simpa using hrow
    obtain _ | @⟨_, _, next, _, hrow, hrest⟩ := hrest
    · exact ⟨by decide, 1, by decide, hadmin⟩
    · exact absurd hrow (by simp)

/-- An enforcer that is switched off grants what it does not report. -/
theorem enforce_unreported_disabled :
  let config : Config := { enforceEnabled := false }
  let e := Enforcer.started (model [] []) config
    [[.text "p", .text "admin", .text "data", .text "read"]]
  Enforcer.Reached entries config e ∧ config.autoBuildRoleLinks = true ∧
    e.model.rows .policy "p" = .ok [["admin", "data", "read"]] ∧
    e.model.rows .role "g" = .ok [] ∧ (∀ n role, ¬ Inherits [] (n + 1) "bob" role) ∧
    ((Enforcer.enforce [.text "bob", .text "data", .text "read"]).perform e).1 = .ok true ∧
    ((Enforcer.implicitPermissions (.text "bob") none).perform e).1 = .ok []
  := by
  intro config e
  obtain ⟨events, hm⟩ := ofText entries_text
  refine ⟨.started entries_text hm (ok_of_toOption (by decide +kernel)) [], rfl, ?_, ?_, ?_, ?_, ?_⟩
  · apply ok_of_toOption (by decide +kernel)
  · apply ok_of_toOption (by decide +kernel)
  · rintro n role (_ | ⟨hrow, -⟩)
    cases hrow
  · apply ok_of_toOption (by decide +kernel)
  · apply ok_of_toOption (by decide +kernel)

end Rbac

end AccessControl
