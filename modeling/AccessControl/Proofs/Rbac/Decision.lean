import AccessControl.Proofs.Effect.Reduction
import AccessControl.Proofs.Expr.Evaluation
import AccessControl.Proofs.Rbac.Text
import AccessControl.Proofs.Roles.Rows

/-!
# Decisions of the model of roles

What the matcher of the model of roles says of a row, and what the model makes of it: a
request is allowed when some row has its object and its action, and a subject that the
requesting one is or has as a role.
-/

namespace AccessControl

namespace Rbac

/-! ### The matcher -/

/-- The matcher asks for the role, and compares the objects and the actions. -/
theorem holds_matcher
    {g : RoleGraph} {s t : String} {linked : Bool}
    (h : g.hasLink (.text s) (.text t) defaultDomain = .ok linked) (o o' a a' : String)
    (functions : Functions) :
  matcher.holds [("r", fields.zip [.text s, .text o, .text a]),
      ("p", fields.zip [.text t, .text o', .text a'])] (("g", roleFunction (some g)) :: functions)
    = .ok (linked && o == o' && a == a')
  := by
  have hrole : roleFunction (some g) [.text s, .text t] = .ok (.bool linked) := by
    change (g.hasLink (.text s) (.text t) defaultDomain).map Value.bool = _
    rw [h]
    rfl
  have hvalue : matcher.tree.evaluate [("r", fields.zip [.text s, .text o, .text a]),
      ("p", fields.zip [.text t, .text o', .text a'])] (("g", roleFunction (some g)) :: functions)
        = .ok (.bool (linked && o == o' && a == a')) := by
    rw [Expr.evaluate, Expr.evaluateAt]
    apply Expr.evaluateIn_and
    · apply Expr.evaluateIn_and
      · apply Expr.evaluateIn_call (by decide) rfl rfl hrole
      · apply Expr.evaluateIn_eq rfl rfl
    · apply Expr.evaluateIn_eq rfl rfl
  rw [Matcher.holds, hvalue]
  rfl

/-! ### Decisions -/

/-- A row permits a request of a subject, with role rows that are followed for at most some
number of steps: it has the object and the action of the request, and its subject is the
requesting one or a role that this one has, directly or by inheritance. -/
def Permits (roles : List Row) (level : Nat) (s o a : String) (row : Row) : Prop :=
  ∃ t, row = [t, o, a] ∧ (t = s ∨ ∃ n, 1 ≤ n ∧ n ≤ level ∧ Inherits roles n s t)

/-- The frame of a decision of the model. -/
def frame (permissions : List Row) : Frame :=
  ⟨requestDefinition, policyDefinition permissions, .someAllow, matcher⟩

theorem frame_model (permissions roles : List Row) :
  (model permissions roles).frame {} = .ok (frame permissions)
  := rfl

/-- The answer of the matcher about a row, when the subjects are known whose permissions the
requesting one has. -/
def answer (linked : String → Bool) (o a : String) : Row → Bool
  | [t, o', a'] => linked t && o == o' && a == a'
  | _ => false

/-- The decision of a request by the model, with a graph that is built from its role rows. -/
theorem decide_frame
    {permissions roles : List Row} (hpermissions : ∀ row ∈ permissions, row.length = 3)
    (hsome : permissions ≠ []) (hroles : ∀ row ∈ roles, row.length = 2) {g : RoleGraph}
    (hnames : g.nameMatcher = none) (hdomains : g.domainMatcher = none) (functions : Functions)
    (s o a : String) :
  ∃ p : Row → Bool,
    (∀ row ∈ permissions, p row = true ↔ Permits roles g.limit.levels s o a row) ∧
    (frame permissions).decide (("g", roleFunction (some (g.rebuild roles))) :: functions)
      [.text s, .text o, .text a] = .ok (permissions.any p, (permissions.find? p).getD [])
  := by
  -- the answers of the graph, as a function of the subject of a row
  choose linked hlinked hiff using
    fun t => RoleGraph.hasLink_rebuild hnames hdomains hroles s t
  refine ⟨answer linked o a, ?_, ?_⟩
  · intro row hrow
    obtain ⟨t, o', a', rfl⟩ := List.length_eq_three.mp (hpermissions row hrow)
    simp only [answer, Bool.and_eq_true, beq_iff_eq, hiff]
    constructor
    · rintro ⟨⟨⟨n, hn, hinherits⟩, rfl⟩, rfl⟩
      refine ⟨t, rfl, ?_⟩
      cases n with
      | zero =>
          cases hinherits
          left
          rfl
      | succ n =>
          right
          exact ⟨n + 1, Nat.succ_pos n, hn, hinherits⟩
    · rintro ⟨t', hrow', hgrants⟩
      obtain ⟨rfl, rfl, rfl⟩ : t = t' ∧ o' = o ∧ a' = a := by simpa using hrow'
      refine ⟨⟨?_, rfl⟩, rfl⟩
      obtain rfl | ⟨n, -, hn, hinherits⟩ := hgrants
      · exact ⟨0, Nat.zero_le _, Inherits.refl t⟩
      · exact ⟨n, hn, hinherits⟩
  · apply Frame.decide_someAllow rfl hsome
    intro row hrow
    obtain ⟨t, o', a', rfl⟩ := List.length_eq_three.mp (hpermissions row hrow)
    apply holds_matcher (hlinked t)

end Rbac

end AccessControl
