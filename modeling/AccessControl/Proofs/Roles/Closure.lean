import AccessControl.Proofs.Roles.BreadthFirst
import AccessControl.Proofs.Roles.Reachability

/-!
# Closures

The roles that are one step away from a name, and those that any number of steps lead to.  The
main results are `RoleGraph.roles_spec` and `RoleGraph.closure_spec`.
-/

namespace AccessControl

namespace RoleGraph

variable {g : RoleGraph} {L : Finset Link} {M D : Option (Name → Name → Bool)}

/-! ### Neighbours -/

theorem neighbours_spec
    (h : Stores g L) (ha : Asks g M D) (edges : Nat → List Nat) (name domain : Name) :
  ∃ names, g.neighbours edges name domain = .ok names ∧ names.Nodup ∧
    ∀ m, m ∈ names ↔ ∃ i j, g.Serves M name (g.scope D domain) i ∧ j ∈ edges i ∧ g.nameAt j = m
  := by
  obtain ⟨found, hfound, hmem⟩ := lookup_spec h ha name (g.scope D domain)
  refine ⟨_, ?_, nodup_eraseDups ((found.flatMap edges).map g.nameAt), ?_⟩
  · rw [neighbours, domainsFor_eq ha]
    simp only [bind, Except.bind, hfound]
    rfl
  · intro m
    simp only [List.mem_eraseDups, List.mem_map, List.mem_flatMap, hmem]
    constructor
    · rintro ⟨j, ⟨i, hi, hj⟩, hm⟩
      exact ⟨i, j, hi, hj, hm⟩
    · rintro ⟨i, j, hi, hj, hm⟩
      exact ⟨j, ⟨i, hi, hj⟩, hm⟩

/-- What is found one step from a name are the far ends of the links, in the domains of a
question, whose near end it stands for. -/
theorem edges_spec (h : Stores g L) (ha : Asks g M D) (back : Bool) (name domain : Name) :
  ∃ found, g.neighbours (g.edgesAt back) name domain = .ok found ∧ found.Nodup ∧
    ∀ m, m ∈ found ↔
      ∃ l ∈ L, InScope D L domain l.domain ∧ standsFor M name (l.near back) ∧ l.far back = m
  := by
  obtain ⟨found, hfound, hnodup, hmem⟩ := neighbours_spec h ha (g.edgesAt back) name domain
  refine ⟨found, hfound, hnodup, ?_⟩
  intro m
  rw [hmem]
  constructor
  · rintro ⟨i, j, ⟨y, e, he, hi, hy⟩, hj, rfl⟩
    obtain ⟨l, hl, hnear, hfar⟩ := (h.mem_edgesAt back i j).mp hj
    rw [hi, Option.some.injEq, Prod.mk.injEq] at hnear
    obtain ⟨rfl, rfl⟩ := hnear
    refine ⟨l, hl, (mem_scope h domain l.domain).mp he, hy, ?_⟩
    rw [nameAt_eq hfar]
  · rintro ⟨l, hl, hscope, hy, rfl⟩
    obtain ⟨i, hi⟩ := List.mem_iff_getElem?.mp (h.near_mem hl back)
    obtain ⟨j, hj⟩ := List.mem_iff_getElem?.mp (h.far_mem hl back)
    refine ⟨i, j, ⟨l.near back, l.domain, (mem_scope h domain l.domain).mpr hscope, hi, hy⟩, ?_, ?_⟩
    · apply (h.mem_edgesAt back i j).mpr ⟨l, hl, hi, hj⟩
    · apply nameAt_eq hj

/-- The roles that a name has directly are those of the links, in the domains of a question,
whose name it stands for. -/
theorem roles_spec (h : Stores g L) (ha : Asks g M D) (name domain : Name) :
  ∃ roles, g.roles name domain = .ok roles ∧ roles.Nodup ∧
    ∀ m, m ∈ roles ↔ ∃ l ∈ L, InScope D L domain l.domain ∧ standsFor M name l.name ∧ l.role = m
  := edges_spec h ha false name domain

/-- The names that have a role directly are those of the links, in the domains of a question,
whose role the name stands for. -/
theorem users_spec (h : Stores g L) (ha : Asks g M D) (name domain : Name) :
  ∃ users, g.users name domain = .ok users ∧ users.Nodup ∧
    ∀ m, m ∈ users ↔ ∃ l ∈ L, InScope D L domain l.domain ∧ standsFor M name l.role ∧ l.name = m
  := edges_spec h ha true name domain

/-! ### Closures -/

section Closure

variable {graphs : List RoleGraph} {reverse : Bool} {domain : Name} {next : Name → List Name}
  (hnext : ∀ name, step reverse domain name graphs = .ok (next name))

include hnext

/-- The closure of a name lists the names that one step or more lead to, each once, when every
step leads to names of nodes. -/
theorem closure_spec
    (hnodes : ∀ name, ∀ m ∈ next name, ∃ g ∈ graphs, m ∈ g.nodes.map Prod.fst) (seed : Name) :
  ∃ names, closure graphs reverse domain seed = .ok names ∧ names.Nodup ∧
    ∀ m, m ∈ names ↔ Relation.TransGen (fun a b => b ∈ next a) seed m
  := by
  have hleads : Leads graphs reverse domain = fun a b => b ∈ next a := by
    funext a b
    have hstep := step_cases graphs reverse domain a
    rw [hnext a] at hstep
    rw [← hstep.1 b]
  have hclosure := closure_breadthFirst (by rw [hleads]; apply hnodes) seed
  rcases hresult : closure graphs reverse domain seed with failure | names
  · -- a step never fails
    rw [hresult] at hclosure
    obtain ⟨a, -, g, hg, hfail⟩ := hclosure
    have hstep := step_cases graphs reverse domain a
    rw [hnext a] at hstep
    obtain ⟨found, hfound⟩ := hstep.2 g hg
    rw [hfail] at hfound
    cases hfound
  · rw [hresult] at hclosure
    refine ⟨names, rfl, hclosure.1.nodup, ?_⟩
    rw [← hleads]
    apply hclosure.1.mem_iff

end Closure

end RoleGraph

end AccessControl
