import AccessControl.Proofs.Roles.Partial
import AccessControl.Roles.Question

/-!
# Graphs of texts

A host names users, roles and domains by texts.  About texts a host and the graph itself ask the
same, and a matcher need answer only about texts for the graph to answer all that a host asks:
nodes that no link mentions any more are texts too.
-/

namespace AccessControl

/-- A name is a text. -/
def Name.Textual (x : Name) : Prop := ∃ s : String, x = .text s

/-- A matcher answers whatever texts it is asked about. -/
def NameMatcher.Decides (m : NameMatcher) : Prop :=
  ∀ x y : String, ∃ same, m (.text x) (.text y) = .ok same

theorem NameMatcher.Decides.eq_answers
    {m : NameMatcher} (h : m.Decides) {x y : Name} (hx : x.Textual) (hy : y.Textual) :
  m x y = ofTest m.answers x y
  := by
  obtain ⟨s, rfl⟩ := hx
  obtain ⟨t, rfl⟩ := hy
  obtain ⟨same, hsame⟩ := h s t
  rw [hsame, m.isPart_answers _ _ same hsame]

namespace RoleGraph

/-- The nodes of a graph are texts in domains that are texts. -/
def Textual (g : RoleGraph) : Prop := ∀ x ∈ g.nodes, x.1.Textual ∧ x.2.Textual

/-- The matchers of a graph answer about texts. -/
structure Decides (g : RoleGraph) : Prop where
  names : ∀ m ∈ g.nameMatcher, m.Decides
  domains : ∀ m ∈ g.domainMatcher, m.Decides

/-! ### Changes -/

namespace Textual

variable {g : RoleGraph}

theorem ensure (h : g.Textual) {name domain : Name} (hname : name.Textual)
    (hdomain : domain.Textual) :
  (g.ensure name domain).1.Textual
  := by
  rw [RoleGraph.ensure]
  cases g.position? name domain with
  | some i => apply h
  | none =>
      intro x hx
      obtain hx | hx := List.mem_append.mp hx
      · apply h x hx
      · rw [List.mem_singleton.mp hx]
        exact ⟨hname, hdomain⟩

theorem addLink (h : g.Textual) {name role domain : Name} (hname : name.Textual)
    (hrole : role.Textual) (hdomain : domain.Textual) :
  (g.addLink name role domain).Textual
  := by
  have hensure := (h.ensure hname hdomain).ensure hrole hdomain
  rw [addLink_eq]
  dsimp only
  split
  · apply hensure
  · apply hensure

theorem deleteLink (h : g.Textual) (name role domain : Name) :
  (g.deleteLink name role domain).1.Textual
  := by
  rw [RoleGraph.deleteLink]
  split
  · split
    · apply h
    · apply h
  · apply h

theorem nameAt (h : g.Textual) (i : Nat) :
  (g.nameAt i).Textual
  := by
  rw [RoleGraph.nameAt]
  cases hi : g.nodes[i]? with
  | none => exact ⟨"", rfl⟩
  | some x => apply (h x (List.mem_of_getElem? hi)).1

/-- The domains that have links are texts. -/
theorem keys {L : Finset Link} (h : g.Textual) (hstores : Stores g L) {d : Name}
    (hd : d ∈ g.edgeCounts.map (·.1)) :
  d.Textual
  := by
  obtain ⟨l, hfilter⟩ := Finset.card_pos.mp ((hstores.counts.mem_keys d).mp hd)
  obtain ⟨hl, rfl⟩ := Finset.mem_filter.mp hfilter
  apply (h _ (hstores.ends l hl).1).2

end Textual

/-! ### Parts of a search -/

theorem filterE_congr
    {α : Type} {p q : α → Except Failure Bool} {xs : List α} (h : ∀ x ∈ xs, p x = q x) :
  filterE p xs = filterE q xs
  := by
  induction xs with
  | nil => rfl
  | cons x rest ih =>
      obtain ⟨hx, hrest⟩ := List.forall_mem_cons.mp h
      rw [filterE, filterE, hx, ih hrest]

theorem patternNodes_congr
    {m m' : NameMatcher} {name : Name} {domains : List Name} {found : List Nat}
    {table : List ((Name × Name) × Nat)} (h : ∀ x ∈ table, m name x.1.1 = m' name x.1.1) :
  patternNodes m name domains found table = patternNodes m' name domains found table
  := by
  induction table generalizing found with
  | nil => rfl
  | cons entry rest ih =>
      obtain ⟨hentry, hrest⟩ := List.forall_mem_cons.mp h
      rw [patternNodes, patternNodes, hentry]
      simp only [ih hrest]

section Answered

variable {g : RoleGraph} {L : Finset Link} (h : Stores g L) (ht : g.Textual) (hm : g.Decides)

include hm in
theorem namesMatch_eq_answered
    {name stored : Name} (hname : name.Textual) (hstored : stored.Textual) :
  g.namesMatch name stored = g.answered.namesMatch name stored
  := by
  rw [namesMatch, namesMatch, answered]
  cases hmatcher : g.nameMatcher with
  | none => rfl
  | some m =>
      dsimp only [Option.map_some]
      rw [(hm.names m hmatcher).eq_answers hname hstored]

include h ht hm

theorem domainsFor_eq_answered {domain : Name} (hdomain : domain.Textual) :
  g.domainsFor domain = g.answered.domainsFor domain
  := by
  rw [domainsFor, domainsFor, answered]
  cases hmatcher : g.domainMatcher with
  | none => rfl
  | some m =>
      dsimp only [Option.map_some]
      rw [filterE_congr]
      intro d hd
      apply (hm.domains m hmatcher).eq_answers hdomain
      apply ht.keys h (List.mem_filter.mp hd).1

theorem lookup_eq_answered {name : Name} (hname : name.Textual) (domains : List Name) :
  g.lookup name domains = g.answered.lookup name domains
  := by
  rw [lookup, lookup, answered]
  cases hmatcher : g.nameMatcher with
  | none => rfl
  | some m =>
      apply patternNodes_congr
      rintro ⟨x, i⟩ hx
      rw [h.index_eq, List.mk_mem_zipIdx_iff_getElem?] at hx
      apply (hm.names m hmatcher).eq_answers hname (ht x (List.mem_of_getElem? hx)).1

theorem expand_eq_answered
    {goal : Name} (hgoal : goal.Textual) (domains : List Name) (targets visited next : List Nat) :
  g.expand goal domains visited next targets = g.answered.expand goal domains visited next targets
  := by
  induction targets generalizing visited next with
  | nil => rfl
  | cons target rest ih =>
      have htarget := ht.nameAt target
      rw [expand, expand, namesMatch_eq_answered hm hgoal htarget,
        lookup_eq_answered h ht hm htarget, show g.answered.nameAt = g.nameAt from rfl]
      simp only [ih]

theorem search_eq_answered
    {goal : Name} (hgoal : goal.Textual) (domains : List Name) (levels : Nat)
    (visited frontier : List Nat) :
  g.search goal domains levels visited frontier
    = g.answered.search goal domains levels visited frontier
  := by
  induction levels generalizing visited frontier with
  | zero => rfl
  | succ levels ih =>
      rw [search.eq_def, search.eq_def, show g.answered.outAt = g.outAt from rfl]
      simp only [expand_eq_answered h ht hm hgoal, ih]

/-! ### Answers -/

/-- A graph of texts whose matchers answer about texts answers as if they always answered. -/
theorem hasLink_eq_answered
    {name role domain : Name} (hname : name.Textual) (hrole : role.Textual)
    (hdomain : domain.Textual) :
  g.hasLink name role domain = g.answered.hasLink name role domain
  := by
  rw [hasLink, hasLink, namesMatch_eq_answered hm hname hrole,
    domainsFor_eq_answered h ht hm hdomain, show g.answered.limit = g.limit from rfl]
  simp only [lookup_eq_answered h ht hm hname, search_eq_answered h ht hm hrole]

theorem neighbours_eq_answered
    (edges : Nat → List Nat) {name domain : Name} (hname : name.Textual)
    (hdomain : domain.Textual) :
  g.neighbours edges name domain = g.answered.neighbours edges name domain
  := by
  rw [neighbours, neighbours, domainsFor_eq_answered h ht hm hdomain,
    show g.answered.nameAt = g.nameAt from rfl]
  simp only [lookup_eq_answered h ht hm hname]

end Answered

/-! ### Questions of a host -/

/-- The domain that a host names, or the default one if it names none. -/
def domainNamed (domain : Option String) : Name := .text (domain.getD "")

/-- The value by which a host names a domain. -/
def domainValue (domain : Option String) : Value := (domain.map Value.text).getD .none

theorem domainOf_domainValue (domain : Option String) :
  domainOf (domainValue domain) = .text (domain.getD "")
  := by
  obtain _ | d := domain
  · rfl
  · by_cases hd : d = ""
    · rw [hd]
      rfl
    · simp [domainOf, domainValue, Value.isTruthy, hd]

variable (g : RoleGraph)

theorem checkLookup_texts (name domain : String) :
  g.checkLookup (.text name) (.text domain) = (g.domainsFor (.text domain)).map fun _ => ()
  := by
  rw [checkLookup, Name.ofValue_text]
  cases g.domainsFor (.text domain) <;> rfl

theorem isLinked_texts (name role : String) (domain : Option String) :
  g.isLinked (.text name) (.text role) (domainValue domain)
    = g.hasLink (.text name) (.text role) (domainNamed domain)
  := by
  rw [isLinked, domainOf_domainValue, hasLink]
  simp only [checkLookup_texts, Name.ofValue_text, domainNamed]
  rcases hsame : g.namesMatch (.text name) (.text role) with failure | _ | _
  · rfl
  · simp only [bind, Except.bind, Bool.false_eq_true, if_false, hasLink, hsame]
    cases g.domainsFor (.text (domain.getD "")) <;> rfl
  · rfl

theorem neighbours_texts (edges : Nat → List Nat) (name domain : String) :
  (do
    g.checkLookup (.text name) (.text domain)
    g.neighbours edges (.text name) (.text domain))
    = g.neighbours edges (.text name) (.text domain)
  := by
  rw [checkLookup_texts, neighbours]
  cases g.domainsFor (.text domain) <;> rfl

theorem rolesOf_texts (name : String) (domain : Option String) :
  g.rolesOf (.text name) (domainValue domain) = g.roles (.text name) (domainNamed domain)
  := by
  rw [rolesOf, domainOf_domainValue]
  apply neighbours_texts

theorem usersOf_texts (name : String) (domain : Option String) :
  g.usersOf (.text name) (domainValue domain) = g.users (.text name) (domainNamed domain)
  := by
  rw [usersOf, domainOf_domainValue]
  apply neighbours_texts

theorem link_texts (name role : String) (domain : Option String) :
  g.link (.text name) (.text role) (domainValue domain)
    = .ok (g.addLink (.text name) (.text role) (domainNamed domain))
  := by
  rw [link, domainOf_domainValue]
  rfl

theorem unlink_texts (name role : String) (domain : Option String) :
  g.unlink (.text name) (.text role) (domainValue domain)
    = .ok (g.deleteLink (.text name) (.text role) (domainNamed domain))
  := by
  rw [unlink, domainOf_domainValue]
  rfl

end RoleGraph

end AccessControl
