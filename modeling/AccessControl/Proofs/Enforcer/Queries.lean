import AccessControl.Proofs.Enforcer.Action
import AccessControl.Proofs.Model.Filter

/-!
# Queries

What an enforcer reports about subjects: the rows that name them, and the roles that they
inherit.  Queries change nothing.
-/

namespace AccessControl

open AccessControl.Action

namespace Enforcer

/-! ### Rows of subjects -/

/-- The rows that have a text in a place; the empty text asks for all rows. -/
theorem rowsWhere_filterAt
    {m : Model} {kind : SectionKind} {key : String} {rows : List Row}
    (h : m.rows kind key = .ok rows) (i : Nat) (s : String) :
  m.rowsWhere kind key (filterAt i [.text s])
    = .ok (rows.filter fun row => s == "" || row[i]? == some s)
  := by
  have hsplit := RowFilter.split_of_holds fun row (_ : row ∈ rows) => RowFilter.holds_text i s row
  rw [Model.rowsWhere, h]
  change ((filterAt i [.text s]).split rows).map _ = _
  rw [filterAt, List.map_singleton, hsplit]
  rfl

/-- A policy row is reported for a subject: it has the subject in the first place, or the subject
is the empty text, which asks for all rows. -/
def reportsFor (s : String) (row : Row) : Bool := s == "" || row[0]? == some s

/-- The permissions of subjects are the policy rows that are reported for them, subject by
subject. -/
theorem perform_permissionsOfTexts
    {e : Enforcer} {rows : List Row} (h : e.model.rows .policy policyKey = .ok rows)
    (subjects : List String) :
  (permissionsOfAll none (subjects.map .text)).perform e
    = (.ok (subjects.flatMap fun s => rows.filter (reportsFor s)), e)
  := by
  induction subjects with
  | nil => rfl
  | cons s rest ih =>
      have hwhere : e.model.rowsWhere .policy policyKey
            (filterAt 0 (Value.text s :: (none : Option Value).toList))
          = .ok (rows.filter (reportsFor s)) := rowsWhere_filterAt h 0 s
      rw [List.map_cons, permissionsOfAll, permissionsIn]
      simp only [perform_bind, perform_get, perform_lift, hwhere, ih, perform_pure,
        List.flatMap_cons]

/-- The permissions of named subjects are the policy rows that have one of them in the first
place, subject by subject. -/
theorem perform_permissionsOfAll
    {e : Enforcer} {rows : List Row} (h : e.model.rows .policy policyKey = .ok rows)
    {subjects : List String} (hsubjects : ∀ s ∈ subjects, s ≠ "") :
  (permissionsOfAll none (subjects.map .text)).perform e
    = (.ok (subjects.flatMap fun s => rows.filter (·[0]? == some s)), e)
  := by
  have hnamed : ∀ s ∈ subjects, rows.filter (reportsFor s) = rows.filter (·[0]? == some s) := by
    intro s hs
    congr 1
    funext row
    rw [reportsFor, beq_false_of_ne (hsubjects s hs), Bool.false_or]
  rw [perform_permissionsOfTexts h, List.flatMap_def, List.flatMap_def, List.map_congr_left hnamed]

/-- The inherited roles of a user are the closure of its name. -/
theorem perform_implicitRoles {e : Enforcer} {g : RoleGraph} (h : e.graphs.map Prod.snd = [g])
    (hdomains : g.domainMatcher = none) (user : String) :
  (implicitRoles (.text user) .none).perform e
    = (RoleGraph.closure [g] false defaultDomain (.text user), e)
  := by
  have hcheck : g.checkLookup (.text user) (RoleGraph.domainOf .none) = .ok () := by
    rw [RoleGraph.checkLookup, RoleGraph.domainsFor, hdomains]
    rfl
  rw [implicitRoles]
  simp only [perform_bind, perform_get, perform_lift, h, RoleGraph.closureOf, hcheck]
  rfl

end Enforcer

end AccessControl
