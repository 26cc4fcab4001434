import AccessControl.Proofs.Domains.Text
import AccessControl.Proofs.Effect.Reduction
import AccessControl.Proofs.Enforcer.Linked
import AccessControl.Proofs.Expr.Evaluation

/-!
# Isolation of domains

Decisions of the model of roles in domains, and what they depend on: a request in a domain is
decided by the policy rows and the role rows of this domain alone.  The main result is
`Domains.enforce_isolated`, about two enforcers that have been reached in different ways.
-/

namespace AccessControl

open AccessControl.Action

namespace Domains

/-! ### The matcher -/

/-- The matcher asks for the role in the domain of the request, and compares the domains, the
objects and the actions. -/
theorem holds_matcher
    {g : RoleGraph} {s t d : String} {linked : Bool}
    (h : g.hasLink (.text s) (.text t) (.text d) = .ok linked) (d' o o' a a' : String)
    (functions : Functions) :
  matcher.holds [("r", fields.zip [.text s, .text d, .text o, .text a]),
      ("p", fields.zip [.text t, .text d', .text o', .text a'])]
      (("g", roleFunction (some g)) :: functions)
    = .ok (linked && d == d' && o == o' && a == a')
  := by
  have hrole : roleFunction (some g) [.text s, .text t, .text d] = .ok (.bool linked) := by
    change (g.hasLink (.text s) (.text t) (.text d)).map Value.bool = _
    rw [h]
    rfl
  have hvalue : matcher.tree.evaluate [("r", fields.zip [.text s, .text d, .text o, .text a]),
      ("p", fields.zip [.text t, .text d', .text o', .text a'])]
      (("g", roleFunction (some g)) :: functions)
        = .ok (.bool (linked && d == d' && o == o' && a == a')) := by
    rw [Expr.evaluate, Expr.evaluateAt]
    apply Expr.evaluateIn_and
    · apply Expr.evaluateIn_and
      · apply Expr.evaluateIn_and
        · apply Expr.evaluateIn_call (by decide) rfl rfl hrole
        · apply Expr.evaluateIn_eq rfl rfl
      · apply Expr.evaluateIn_eq rfl rfl
    · apply Expr.evaluateIn_eq rfl rfl
  rw [Matcher.holds, hvalue]
  rfl

/-! ### Decisions -/

/-- A row permits a request in a domain, with role rows that are followed for at most some
number of steps: it has the domain, the object and the action of the request, and its subject
is the requesting one or a role that this one has in the domain. -/
def Permits (roles : List Row) (level : Nat) (s d o a : String) (row : Row) : Prop :=
  ∃ t, row = [t, d, o, a] ∧ ∃ n, n ≤ level ∧ Inherits (rowsIn d roles) n s t

/-- What rows permit in a domain, those permit that have all of them that are in the domain. -/
theorem exists_permits_mono
    {permissions permissions' roles roles' : List Row} {d : String}
    (hpermissions : ∀ row ∈ permissions, row[1]? = some d → row ∈ permissions')
    (hroles : ∀ row ∈ roles, row[2]? = some d → row ∈ roles') {level : Nat} {s o a : String}
    (h : ∃ row ∈ permissions, Permits roles level s d o a row) :
  ∃ row ∈ permissions', Permits roles' level s d o a row
  := by
  obtain ⟨row, hrow, t, rfl, n, hn, hinherits⟩ := h
  refine ⟨_, hpermissions _ hrow rfl, t, rfl, n, hn, hinherits.mono ?_⟩
  intro name role hmem
  apply mem_rowsIn.mpr (hroles _ (mem_rowsIn.mp hmem) rfl)

/-- The frame of a decision of the model. -/
def frame (permissions : List Row) : Frame :=
  ⟨requestDefinition, policyDefinition permissions, .someAllow, matcher⟩

theorem frame_model (permissions roles : List Row) :
  (model permissions roles).frame {} = .ok (frame permissions)
  := rfl

theorem exists_fields {row : Row} (h : row.length = 4) :
  ∃ t d o a, row = [t, d, o, a]
  := by
  rcases row with _ | ⟨t, _ | ⟨d, _ | ⟨o, _ | ⟨a, _ | ⟨x, rest⟩⟩⟩⟩⟩ <;> cases h
  exact ⟨t, d, o, a, rfl⟩

/-- The answer of the matcher about a row, when the subjects are known whose permissions the
requesting one has. -/
def answer (linked : String → Bool) (d o a : String) : Row → Bool
  | [t, d', o', a'] => linked t && d == d' && o == o' && a == a'
  | _ => false

/-- The decision of a request in a named domain.  The row of empty texts, which stands in for
rows if there are none, is in no named domain. -/
theorem decide_frame
    {permissions roles : List Row} (hpermissions : ∀ row ∈ permissions, row.length = 4)
    (hroles : ∀ row ∈ roles, row.length = 3) (level : Nat) (functions : Functions)
    {d : String} (hd : d ≠ "") (s o a : String) :
  ∃ allowed explain,
    (frame permissions).decide
      (("g", roleFunction (some (RoleGraph.rebuild { limit := .ofNat level } roles))) :: functions)
      [.text s, .text d, .text o, .text a] = .ok (allowed, explain) ∧
    (allowed = true ↔ ∃ row ∈ permissions, Permits roles level s d o a row)
  := by
  -- the answers of the graph, as a function of the subject of a row
  choose linked hlinked hiff using
    fun t => RoleGraph.hasLink_rebuild_in (g := { limit := .ofNat level }) rfl rfl hroles s t d
  have hp : ∀ row, row.length = 4 →
      (answer linked d o a row = true ↔ Permits roles level s d o a row) := by
    intro row hrow
    obtain ⟨t, d', o', a', rfl⟩ := exists_fields hrow
    simp only [answer, Bool.and_eq_true, beq_iff_eq, hiff]
    constructor
    · rintro ⟨⟨⟨hinherits, rfl⟩, rfl⟩, rfl⟩
      exact ⟨t, rfl, hinherits⟩
    · rintro ⟨t', hrow', hinherits⟩
      obtain ⟨rfl, rfl, rfl, rfl⟩ : t = t' ∧ d' = d ∧ o' = o ∧ a' = a := by simpa using hrow'
      exact ⟨⟨⟨hinherits, rfl⟩, rfl⟩, rfl⟩
  have hlength : ∀ row ∈ (frame permissions).candidates, row.length = 4 := by
    intro row hrow
    rw [Frame.candidates] at hrow
    split at hrow
    · rw [List.mem_singleton.mp hrow]
      rfl
    · apply hpermissions row hrow
  refine ⟨_, _, Frame.decide_candidates (p := answer linked d o a) rfl ?_, ?_⟩
  · intro row hrow
    obtain ⟨t, d', o', a', rfl⟩ := exists_fields (hlength row hrow)
    apply holds_matcher (hlinked t)
  · rw [List.any_eq_true]
    cases permissions with
    | nil =>
        have hblank : answer linked d o a ["", "", "", ""] = false := by simp [answer, hd]
        constructor
        · rintro ⟨row, hrow, hmatches⟩
          obtain rfl : row = ["", "", "", ""] := List.mem_singleton.mp hrow
          rw [hblank] at hmatches
          cases hmatches
        · rintro ⟨row, hrow, -⟩
          cases hrow
    | cons row rest =>
        apply exists_congr
        intro row'
        apply and_congr_right
        intro hrow'
        apply hp row' (hpermissions row' hrow')

/-! ### Enforcers -/

/-- What an enforcer of the model answers that has been reached by mutations: it allows what
some row permits. -/
theorem verdict_of_linked
    {kind : EnforcerKind} {level : Nat} {e : Enforcer}
    (he : Enforcer.Linked kind (model [] []) ((model [] []).unlinked level) e) :
  ∃ permissions roles, e.model.rows .policy "p" = .ok permissions ∧
    e.model.rows .role "g" = .ok roles ∧ ∀ s d o a, d ≠ "" → ∃ allowed explain,
      e.verdict [.text s, .text d, .text o, .text a] = .ok (allowed, explain) ∧
      (allowed = true ↔ ∃ row ∈ permissions, Permits roles level s d o a row)
  := by
  obtain ⟨permissions, roles, hmodel⟩ := he.shape.exists_rows rfl rfl rfl
  change e.model = model permissions roles at hmodel
  have hfit := he.rowsFit
  have hgraphs := he.linked
  rw [hmodel] at hfit hgraphs
  refine ⟨permissions, roles, ?_, ?_, ?_⟩
  · rw [hmodel]
    rfl
  · rw [hmodel]
    rfl
  · intro s d o a hd
    have hfunctions : e.allFunctions
        = ("g", roleFunction (some (RoleGraph.rebuild { limit := .ofNat level } roles)))
          :: e.functions := by
      rw [Enforcer.allFunctions, hgraphs]
      rfl
    have hframe : e.model.frame {} = .ok (frame permissions) := by
      rw [hmodel]
      apply frame_model
    rw [Enforcer.verdict_of_frame he.enabled rfl hframe rfl, hfunctions]
    apply decide_frame (hfit .policy "p" _ rfl) (hfit .role "g" _ rfl) level e.functions hd

/-- The rows of a definition of an enforcer that have a text in a field. -/
def rowsWith (e : Enforcer) (kind : SectionKind) (key : String) (i : Nat) (value : String) :
    Set Row :=
  {row | ∃ rows, e.model.rows kind key = .ok rows ∧ row ∈ rows ∧ row[i]? = some value}

theorem mem_rowsWith
    {e : Enforcer} {kind : SectionKind} {key : String} {rows : List Row}
    (h : e.model.rows kind key = .ok rows) {i : Nat} {value : String} {row : Row} :
  row ∈ rowsWith e kind key i value ↔ row ∈ rows ∧ row[i]? = some value
  := by
  constructor
  · rintro ⟨rows', hrows', hrow⟩
    obtain rfl := Except.ok.inj (h.symm.trans hrows')
    apply hrow
  · intro hrow
    exact ⟨rows, h, hrow⟩

/-- A request in a domain is decided by the rows of this domain: two enforcers of the model,
with the same limit for chains of roles, decide it in the same way if they have the same policy
rows and the same role rows of the domain, whatever rows they have of others, and however
these have come and gone. -/
theorem enforce_isolated
    {config config' : Config} (henabled : config.enforceEnabled = true)
    (henabled' : config'.enforceEnabled = true) (hbuild : config.autoBuildRoleLinks = true)
    (hbuild' : config'.autoBuildRoleLinks = true)
    (hlevel : config.maxHierarchyLevel = config'.maxHierarchyLevel) {e e' : Enforcer}
    (he : Enforcer.Reached entries config e) (he' : Enforcer.Reached entries config' e')
    {d : String} (hd : d ≠ "")
    (hpermissions : rowsWith e .policy "p" 1 d = rowsWith e' .policy "p" 1 d)
    (hroles : rowsWith e .role "g" 2 d = rowsWith e' .role "g" 2 d) (s o a : String) :
  ∃ allowed,
    ((Enforcer.enforce [.text s, .text d, .text o, .text a]).perform e).1 = .ok allowed ∧
    ((Enforcer.enforce [.text s, .text d, .text o, .text a]).perform e').1 = .ok allowed
  := by
  have hranked : ∀ d ∈ (model [] []).definitions, d.isRanked = false := by decide
  obtain ⟨kind, hlinked⟩ := he.linked ofText hranked henabled hbuild
  obtain ⟨kind', hlinked'⟩ := he'.linked ofText hranked henabled' hbuild'
  rw [← hlevel] at hlinked'
  obtain ⟨P, G, hP, hG, hverdict⟩ := verdict_of_linked hlinked
  obtain ⟨P', G', hP', hG', hverdict'⟩ := verdict_of_linked hlinked'
  have hPP' : ∀ row, row ∈ P ∧ row[1]? = some d ↔ row ∈ P' ∧ row[1]? = some d := by
    intro row
    rw [← mem_rowsWith hP, ← mem_rowsWith hP', hpermissions]
  have hGG' : ∀ row, row ∈ G ∧ row[2]? = some d ↔ row ∈ G' ∧ row[2]? = some d := by
    intro row
    rw [← mem_rowsWith hG, ← mem_rowsWith hG', hroles]
  obtain ⟨allowed, explain, hallowed, hiff⟩ := hverdict s d o a hd
  obtain ⟨allowed', explain', hallowed', hiff'⟩ := hverdict' s d o a hd
  have hsame : allowed = allowed' := by
    rw [Bool.eq_iff_iff, hiff, hiff']
    constructor
    · apply exists_permits_mono
      · exact fun row hrow hrow' => ((hPP' row).mp ⟨hrow, hrow'⟩).1
      · exact fun row hrow hrow' => ((hGG' row).mp ⟨hrow, hrow'⟩).1
    · apply exists_permits_mono
      · exact fun row hrow hrow' => ((hPP' row).mpr ⟨hrow, hrow'⟩).1
      · exact fun row hrow hrow' => ((hGG' row).mpr ⟨hrow, hrow'⟩).1
  refine ⟨allowed, ?_, ?_⟩
  · rw [hlinked.enforce_eq, hallowed]
    rfl
  · rw [hlinked'.enforce_eq, hallowed', hsame]
    rfl

/-- The role that alice has in another domain does not matter, and neither does the last row of
the other domain that goes away. -/
theorem enforce_isolated_elsewhere :
  let here : List StoredRow :=
    [[.text "p", .text "admin", .text "acme", .text "data", .text "read"],
     [.text "g", .text "alice", .text "admin", .text "acme"]]
  let e := Mutation.run [.addRole (.text "alice") (.text "root") (some (.text "umbra"))]
    (Enforcer.started (model [] []) {} here)
  let e' := Mutation.run [.deleteUsersInDomain (.text "umbra")]
    (Enforcer.started (model [] []) {}
      (here ++ [[.text "p", .text "alice", .text "umbra", .text "data", .text "read"]]))
  ∃ allowed, ((Enforcer.enforce
      [.text "alice", .text "acme", .text "data", .text "read"]).perform e).1 = .ok allowed ∧
    ((Enforcer.enforce
      [.text "alice", .text "acme", .text "data", .text "read"]).perform e').1 = .ok allowed
  := by
  intro here e e'
  obtain ⟨events, hm⟩ := ofText entries_text
  have he : Enforcer.Reached entries {} e :=
    .started entries_text hm (ok_of_toOption (by decide +kernel)) _
  have he' : Enforcer.Reached entries {} e' :=
    .started entries_text hm (ok_of_toOption (by decide +kernel)) _
  have hP : e.model.rows .policy "p" = .ok [["admin", "acme", "data", "read"]] :=
    ok_of_toOption (by decide +kernel)
  have hP' : e'.model.rows .policy "p" = .ok [["admin", "acme", "data", "read"]] :=
    ok_of_toOption (by decide +kernel)
  have hG : e.model.rows .role "g"
      = .ok [["alice", "admin", "acme"], ["alice", "root", "umbra"]] :=
    ok_of_toOption (by decide +kernel)
  have hG' : e'.model.rows .role "g" = .ok [["alice", "admin", "acme"]] :=
    ok_of_toOption (by decide +kernel)
  apply enforce_isolated rfl rfl rfl rfl rfl he he' (by decide)
  · ext row
    rw [mem_rowsWith hP, mem_rowsWith hP']
  · ext row
    rw [mem_rowsWith hG, mem_rowsWith hG', List.mem_pair, List.mem_singleton]
    constructor
    · rintro ⟨rfl | rfl, hd⟩
      · exact ⟨rfl, hd⟩
      · exact absurd hd (by decide)
    · rintro ⟨rfl, hd⟩
      exact ⟨Or.inl rfl, hd⟩

/-- With different limits for chains of roles, enforcers with the same rows decide in different
ways. -/
theorem enforce_not_isolated_limit :
  let rows : List StoredRow :=
    [[.text "p", .text "admin", .text "acme", .text "data", .text "read"],
     [.text "g", .text "alice", .text "staff", .text "acme"],
     [.text "g", .text "staff", .text "admin", .text "acme"]]
  let e := Enforcer.started (model [] []) { maxHierarchyLevel := 1 } rows
  let e' := Enforcer.started (model [] []) { maxHierarchyLevel := 2 } rows
  Enforcer.Reached entries { maxHierarchyLevel := 1 } e ∧
    Enforcer.Reached entries { maxHierarchyLevel := 2 } e' ∧
    rowsWith e .policy "p" 1 "acme" = rowsWith e' .policy "p" 1 "acme" ∧
    rowsWith e .role "g" 2 "acme" = rowsWith e' .role "g" 2 "acme" ∧
    ((Enforcer.enforce
      [.text "alice", .text "acme", .text "data", .text "read"]).perform e).1 = .ok false ∧
    ((Enforcer.enforce
      [.text "alice", .text "acme", .text "data", .text "read"]).perform e').1 = .ok true
  := by
  intro rows e e'
  obtain ⟨events, hm⟩ := ofText entries_text
  have hrows : ∀ kind key, e.model.rows kind key = e'.model.rows kind key := fun _ _ => rfl
  refine ⟨.started entries_text hm (ok_of_toOption (by decide +kernel)) [],
    .started entries_text hm (ok_of_toOption (by decide +kernel)) [], ?_, ?_, ?_, ?_⟩
  · simp only [rowsWith, hrows]
  · simp only [rowsWith, hrows]
  · apply ok_of_toOption (by decide +kernel)
  · apply ok_of_toOption (by decide +kernel)

end Domains

end AccessControl
