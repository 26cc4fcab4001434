import AccessControl.Proofs.Failure.Agreement
import AccessControl.Proofs.Roles.Rows

/-!
# Matchers that fail

A matcher of a role graph may fail on some names.  Where it does not, a graph answers as if the
matcher always answered: `RoleGraph.hasLink_answered`.  The main result is
`RoleGraph.hasLink_agree`: graphs that store the same links, and ask the same matchers, never
give different answers, in whatever order their links were added.
-/

namespace AccessControl

/-- The test that answers as a matcher does, and says no where it fails. -/
def NameMatcher.answers (m : NameMatcher) (x y : Name) : Bool :=
  match m x y with
  | .ok same => same
  | .error _ => false

theorem NameMatcher.isPart_answers (m : NameMatcher) (x y : Name) :
  IsPart (m x y) (ofTest m.answers x y)
  := by
  intro same h
  rw [ofTest, answers, h]

namespace RoleGraph

/-- The graph whose matchers say no where those of the given graph fail. -/
def answered (g : RoleGraph) : RoleGraph :=
  { g with
    nameMatcher := g.nameMatcher.map fun m => .ofTest m.answers
    domainMatcher := g.domainMatcher.map fun m => .ofTest m.answers }

variable {g : RoleGraph}

theorem asks_answered (g : RoleGraph) :
  Asks g.answered (g.nameMatcher.map NameMatcher.answers) (g.domainMatcher.map NameMatcher.answers)
  := by
  constructor
  · rw [Option.map_map]
    rfl
  · rw [Option.map_map]
    rfl

/-! ### Other matchers -/

/-- The graph with other matchers. -/
def withMatchers (g : RoleGraph) (names domains : Option NameMatcher) : RoleGraph :=
  { g with nameMatcher := names, domainMatcher := domains }

theorem Stores.withMatchers {L : Finset Link} (h : Stores g L) (names domains : Option NameMatcher) :
  Stores (g.withMatchers names domains) L
  := ⟨h.index_eq, h.nodes_nodup, h.out_length, h.into_length, h.mem_out, h.mem_into, h.out_nodup,
    h.into_nodup, h.counts, h.ends⟩

theorem Stores.answered {L : Finset Link} (h : Stores g L) :
  Stores g.answered L
  := h.withMatchers _ _

theorem addLink_withMatchers
    (g : RoleGraph) (names domains : Option NameMatcher) (name role domain : Name) :
  (g.withMatchers names domains).addLink name role domain
    = (g.addLink name role domain).withMatchers names domains
  := by
  have hensure : ∀ (g : RoleGraph) (name : Name),
      (g.withMatchers names domains).ensure name domain
        = ((g.ensure name domain).1.withMatchers names domains, (g.ensure name domain).2) := by
    intro g name
    rw [ensure, ensure, show (g.withMatchers names domains).position? = g.position? from rfl]
    cases g.position? name domain <;> rfl
  have hout : ∀ (g : RoleGraph) (a : Nat), (g.withMatchers names domains).outAt a = g.outAt a :=
    fun _ _ => rfl
  rw [addLink, addLink]
  simp only [hensure, hout]
  cases ((((g.ensure name domain).1.ensure role domain).1.outAt (g.ensure name domain).2).contains
      ((g.ensure name domain).1.ensure role domain).2) <;> rfl

/-- Matchers can be given before a graph is built from rows or after it. -/
theorem rebuild_withMatchers
    (g : RoleGraph) (names domains : Option NameMatcher) (rows : List Row) :
  (g.withMatchers names domains).rebuild rows = (g.rebuild rows).withMatchers names domains
  := by
  have hrows : ∀ g : RoleGraph, rows.foldl addRow (g.withMatchers names domains)
      = (rows.foldl addRow g).withMatchers names domains := by
    induction rows with
    | nil =>
        intro g
        rfl
    | cons row rest ih =>
        intro g
        rw [List.foldl_cons, List.foldl_cons, ← ih, addRow_eq, addRow_eq]
        cases linkOf? row with
        | none => rfl
        | some l =>
            dsimp only
            rw [addLink_withMatchers]
  apply hrows g.clear

/-! ### Parts of a search -/

theorem isPart_filterE
    {α : Type} {p q : α → Except Failure Bool} (h : ∀ a, IsPart (p a) (q a)) (xs : List α) :
  IsPart (filterE p xs) (filterE q xs)
  := by
  induction xs with
  | nil => apply IsPart.refl
  | cons x rest ih =>
      apply IsPart.bind (h x)
      intro keep
      apply IsPart.bind ih
      intro kept
      apply IsPart.refl

theorem isPart_domainsFor (g : RoleGraph) (domain : Name) :
  IsPart (g.domainsFor domain) (g.answered.domainsFor domain)
  := by
  rw [domainsFor, domainsFor, answered]
  cases g.domainMatcher with
  | none => apply IsPart.refl
  | some m =>
      apply IsPart.bind
      · apply isPart_filterE
        intro d
        apply m.isPart_answers
      · intro others
        apply IsPart.refl

theorem isPart_patternNodes
    (m : NameMatcher) (name : Name) (domains : List Name) (found : List Nat)
    (table : List ((Name × Name) × Nat)) :
  IsPart (patternNodes m name domains found table)
    (patternNodes (.ofTest m.answers) name domains found table)
  := by
  induction table generalizing found with
  | nil => apply IsPart.refl
  | cons entry rest ih =>
      rw [patternNodes, patternNodes]
      split
      case isTrue =>
        apply IsPart.bind (m.isPart_answers _ _)
        intro same
        apply ih
      case isFalse => apply ih

theorem isPart_lookup (g : RoleGraph) (name : Name) (domains : List Name) :
  IsPart (g.lookup name domains) (g.answered.lookup name domains)
  := by
  rw [lookup, lookup, answered]
  cases g.nameMatcher with
  | none => apply IsPart.refl
  | some m => apply isPart_patternNodes

theorem isPart_namesMatch (g : RoleGraph) (name stored : Name) :
  IsPart (g.namesMatch name stored) (g.answered.namesMatch name stored)
  := by
  rw [namesMatch, namesMatch, answered]
  split
  case isTrue => apply IsPart.refl
  case isFalse =>
    cases g.nameMatcher with
    | none => apply IsPart.refl
    | some m => apply m.isPart_answers

theorem isPart_expand
    (g : RoleGraph) (goal : Name) (domains : List Name) (targets visited next : List Nat) :
  IsPart (g.expand goal domains visited next targets)
    (g.answered.expand goal domains visited next targets)
  := by
  induction targets generalizing visited next with
  | nil => apply IsPart.refl
  | cons target rest ih =>
      apply IsPart.bind (g.isPart_namesMatch goal (g.nameAt target))
      intro met
      split
      case isTrue => apply IsPart.refl
      case isFalse =>
        apply IsPart.bind (g.isPart_lookup (g.nameAt target) domains)
        intro same
        apply ih

theorem isPart_search
    (g : RoleGraph) (goal : Name) (domains : List Name) (levels : Nat)
    (visited frontier : List Nat) :
  IsPart (g.search goal domains levels visited frontier)
    (g.answered.search goal domains levels visited frontier)
  := by
  induction levels generalizing visited frontier with
  | zero => apply IsPart.refl
  | succ levels ih =>
      rw [search.eq_def, search.eq_def]
      dsimp only
      split
      case h_1 => apply IsPart.refl
      case h_2 =>
        apply IsPart.bind (g.isPart_expand goal domains _ visited [])
        rintro (_ | ⟨visited', next⟩)
        · apply IsPart.refl
        · apply ih

/-! ### Answers -/

/-- Whatever a graph answers, it answers also when its matchers say no instead of failing. -/
theorem hasLink_answered (g : RoleGraph) (name role domain : Name) :
  IsPart (g.hasLink name role domain) (g.answered.hasLink name role domain)
  := by
  apply IsPart.bind (g.isPart_namesMatch name role)
  intro same
  split
  case isTrue => apply IsPart.refl
  case isFalse =>
    apply IsPart.bind (g.isPart_domainsFor domain)
    intro domains
    apply IsPart.bind (g.isPart_lookup name domains)
    intro start
    apply isPart_search

theorem neighbours_answered (g : RoleGraph) (edges : Nat → List Nat) (name domain : Name) :
  IsPart (g.neighbours edges name domain) (g.answered.neighbours edges name domain)
  := by
  apply IsPart.bind (g.isPart_domainsFor domain)
  intro domains
  apply IsPart.bind (g.isPart_lookup name domains)
  intro found
  apply IsPart.refl

/-- Graphs of the same links, with the same limit and the same matchers, do not give different
answers. -/
theorem hasLink_agree
    {g' : RoleGraph} {L : Finset Link} (h : Stores g L) (h' : Stores g' L)
    (hrules : SameRules g g') (name role domain : Name) :
  Agree (g.hasLink name role domain) (g'.hasLink name role domain)
  := by
  obtain ⟨linked, hlinked, hiff⟩ := hasLink_spec h.answered (asks_answered g) name role domain
  obtain ⟨linked', hlinked', hiff'⟩ := hasLink_spec h'.answered (asks_answered g') name role domain
  rw [← hrules.names, ← hrules.domains, show g'.answered.limit = g.answered.limit from
    hrules.limit.symm, ← hiff, ← Bool.eq_iff_iff] at hiff'
  subst hiff'
  apply IsPart.agree (z := .ok linked')
  · rw [← hlinked]
    apply hasLink_answered
  · rw [← hlinked']
    apply hasLink_answered

end RoleGraph

end AccessControl
