import AccessControl.Proofs.Roles.Search

/-!
# Reachability

What a role graph answers, in terms of its links.  The main result is
`RoleGraph.hasLink_iff_chain`: a name is linked to a role if it stands for it, or if a chain
of links leads from the one to the other that has no more links than the limit of the graph
allows.
-/

namespace AccessControl

/-- A domain in which a question about `d` is answered: `d` itself, or the domain of a link
that `d` stands for. -/
def InScope (D : Option (Name → Name → Bool)) (L : Finset Link) (d e : Name) : Prop :=
  e = d ∨ (∃ l ∈ L, l.domain = e) ∧ ∃ m ∈ D, m d e

/-- A link starts at the node where another ends, or at a name that this node stands for. -/
def Link.Joins (M : Option (Name → Name → Bool)) (l k : Link) : Prop :=
  (k.name, k.domain) = (l.role, l.domain) ∨ standsFor M l.role k.name

/-- Links of a set, in domains of a scope, that lead from a name to a role. -/
structure RoleChain (M : Option (Name → Name → Bool)) (L : Finset Link) (S : Name → Prop)
    (name role : Name) (chain : List Link) : Prop where
  stored : ∀ l ∈ chain, l ∈ L ∧ S l.domain
  starts : ∃ l ∈ chain.head?, standsFor M name l.name
  joined : chain.IsChain (Link.Joins M)
  ends : ∃ l ∈ chain.getLast?, standsFor M role l.role

namespace RoleGraph

variable {g : RoleGraph} {L : Finset Link} {M D : Option (Name → Name → Bool)}

/-! ### Moves and links -/

theorem nameAt_eq {i : Nat} {name domain : Name} (hi : g.nodes[i]? = some (name, domain)) :
  g.nameAt i = name
  := by
  rw [nameAt, hi]
  rfl

/-- What meets a goal from a node follows a chain of links from there. -/
theorem Meets.chain
    (h : Stores g L) {goal : Name} {domains : List Name} {k i : Nat}
    (hmeets : Meets g M goal domains k i) {name domain : Name}
    (hi : g.nodes[i]? = some (name, domain)) (hdomain : domain ∈ domains) :
  ∃ l rest, rest.length = k ∧ l.name = name ∧ l.domain = domain ∧
    (∀ m ∈ l :: rest, m ∈ L ∧ m.domain ∈ domains) ∧ (l :: rest).IsChain (Link.Joins M) ∧
    ∃ m ∈ (l :: rest).getLast?, standsFor M goal m.role
  := by
  -- the link of an edge from a node starts there
  have hedge : ∀ {i t : Nat} {name domain : Name}, g.nodes[i]? = some (name, domain) →
      t ∈ g.outAt i → ∃ l ∈ L, l.name = name ∧ l.domain = domain ∧
        g.nodes[t]? = some (l.role, l.domain) := by
    intro i t name domain hi ht
    obtain ⟨l, hl, hname, hrole⟩ := (h.mem_out i t).mp ht
    rw [hi, Option.some.injEq, Prod.mk.injEq] at hname
    exact ⟨l, hl, hname.1.symm, hname.2.symm, hrole⟩
  induction hmeets generalizing name domain with
  | @here i t ht hgoal =>
      obtain ⟨l, hl, rfl, rfl, hrole⟩ := hedge hi ht
      refine ⟨l, [], rfl, rfl, rfl, ?_, List.isChain_singleton l, l, rfl, ?_⟩
      · intro m hm
        rw [List.mem_singleton.mp hm]
        use hl, hdomain
      · rw [← nameAt_eq hrole]
        apply hgoal
  | @move k i t j ht hj hmeets ih =>
      obtain ⟨l, hl, rfl, rfl, hrole⟩ := hedge hi ht
      rw [Reaches, nameAt_eq hrole] at hj
      have hnext : ∃ y, ∃ e ∈ domains, g.nodes[j]? = some (y, e) ∧
          ((y, e) = (l.role, l.domain) ∨ standsFor M l.role y) := by
        obtain rfl | ⟨y, e, he, hy, hstands⟩ := hj
        · exact ⟨l.role, l.domain, hdomain, hrole, Or.inl rfl⟩
        · exact ⟨y, e, he, hy, Or.inr hstands⟩
      obtain ⟨y, e, he, hy, hjoins⟩ := hnext
      obtain ⟨m, rest, hlength, rfl, rfl, hstored, hchain, hlast⟩ := ih hy he
      refine ⟨l, m :: rest, ?_, rfl, rfl, ?_, ?_, ?_⟩
      · rw [List.length_cons, hlength]
      · rw [List.forall_mem_cons]
        use ⟨hl, hdomain⟩, hstored
      · rw [List.isChain_cons_cons]
        use hjoins, hchain
      · rw [List.getLast?_cons_cons]
        apply hlast

/-- A chain of links can be followed from the node where it starts. -/
theorem Meets.of_chain
    (h : Stores g L) {goal : Name} {domains : List Name} {l : Link} {rest : List Link}
    (hstored : ∀ m ∈ l :: rest, m ∈ L ∧ m.domain ∈ domains)
    (hchain : (l :: rest).IsChain (Link.Joins M))
    (hlast : ∃ m ∈ (l :: rest).getLast?, standsFor M goal m.role)
    {i : Nat} (hi : g.nodes[i]? = some (l.name, l.domain)) :
  Meets g M goal domains rest.length i
  := by
  induction rest generalizing l i with
  | nil =>
      obtain ⟨hl, -⟩ := hstored l List.mem_cons_self
      obtain ⟨t, ht⟩ := List.mem_iff_getElem?.mp (h.ends l hl).2
      obtain ⟨m, hm, hgoal⟩ := hlast
      obtain rfl : l = m := by simpa using hm
      apply Meets.here (t := t)
      · apply (h.mem_outAt_iff hi ht).mpr hl
      · rw [nameAt_eq ht]
        apply hgoal
  | cons k rest ih =>
      obtain ⟨⟨hl, -⟩, hstored⟩ := List.forall_mem_cons.mp hstored
      obtain ⟨hjoins, hchain⟩ := List.isChain_cons_cons.mp hchain
      obtain ⟨hk, hdomain⟩ := hstored k List.mem_cons_self
      obtain ⟨t, ht⟩ := List.mem_iff_getElem?.mp (h.ends l hl).2
      obtain ⟨j, hj⟩ := List.mem_iff_getElem?.mp (h.ends k hk).1
      rw [List.getLast?_cons_cons] at hlast
      apply Meets.move (t := t) (j := j)
      · apply (h.mem_outAt_iff hi ht).mpr hl
      · rw [Reaches, nameAt_eq ht]
        obtain hsame | hstands := hjoins
        · left
          rw [hsame] at hj
          apply position_unique h.nodes_nodup hj ht
        · right
          exact ⟨k.name, k.domain, hdomain, hj, hstands⟩
      · apply ih hstored hchain hlast hj

/-! ### Answers -/

/-- A graph that stores some links answers by the chains of them. -/
theorem hasLink_spec (h : Stores g L) (ha : Asks g M D) (name role domain : Name) :
  ∃ linked, g.hasLink name role domain = .ok linked ∧
    (linked = true ↔ standsFor M name role ∨
      ∃ chain, chain.length ≤ g.limit.levels ∧
        RoleChain M L (InScope D L domain) name role chain)
  := by
  have hscope : ∀ e, e ∈ g.scope D domain ↔ InScope D L domain e := mem_scope h domain
  rw [hasLink, namesMatch_eq ha]
  by_cases hsame : standsFor M name role
  · refine ⟨true, ?_, by simp [hsame]⟩
    rw [hsame]
    rfl
  · obtain ⟨start, hstart, hmem⟩ := lookup_spec h ha name (g.scope D domain)
    obtain ⟨met, hmet, hiff⟩ := search_spec h ha role (g.scope D domain) g.limit.levels
      (explored_start role (g.scope D domain) start)
    refine ⟨met, ?_, hiff.trans ?_⟩
    · rw [Bool.not_eq_true] at hsame
      rw [hsame, domainsFor_eq ha]
      simp only [bind, Except.bind, hstart]
      apply hmet
    · constructor
      · rintro ⟨k, hk, i, hi, hmeets⟩
        obtain ⟨y, e, he, hy, hstands⟩ := (hmem i).mp hi
        obtain ⟨l, rest, hlength, rfl, rfl, hstored, hchain, hlast⟩ := hmeets.chain h hy he
        right
        use l :: rest
        constructor
        · rw [List.length_cons, hlength]
          apply hk
        · constructor
          · intro m hm
            use (hstored m hm).1
            apply (hscope m.domain).mp (hstored m hm).2
          · use l, rfl, hstands
          · apply hchain
          · apply hlast
      · rintro (hcontra | ⟨chain, hlength, hchain⟩)
        · exact absurd hcontra hsame
        · obtain ⟨l, hl, hstands⟩ := hchain.starts
          cases chain with
          | nil => cases hl
          | cons k rest =>
              obtain rfl : k = l := by simpa using hl
              have hstored : ∀ m ∈ k :: rest, m ∈ L ∧ m.domain ∈ g.scope D domain := by
                intro m hm
                use (hchain.stored m hm).1
                apply (hscope m.domain).mpr (hchain.stored m hm).2
              obtain ⟨hk, hdomain⟩ := hstored k List.mem_cons_self
              obtain ⟨i, hi⟩ := List.mem_iff_getElem?.mp (h.ends k hk).1
              use rest.length, hlength, i
              constructor
              · apply (hmem i).mpr
                exact ⟨k.name, k.domain, hdomain, hi, hstands⟩
              · apply Meets.of_chain h hstored hchain.joined hchain.ends hi

/-- A graph whose links were changed in any way answers every question about roles, with
the links that are left: a name is linked to a role if it stands for it, or if some chain of
at least one link, and of no more than the limit allows, leads from the one to the other. -/
theorem hasLink_iff_chain
    (limit : DepthLimit) (M D : Option (Name → Name → Bool)) (changes : List LinkChange)
    (name role domain : Name) :
  let start : RoleGraph :=
    { limit
      nameMatcher := M.map NameMatcher.ofTest
      domainMatcher := D.map NameMatcher.ofTest }
  let links := LinkChange.links changes
  ∃ linked, (changes.foldl LinkChange.onGraph start).hasLink name role domain = .ok linked ∧
    (linked = true ↔ standsFor M name role ∨
      ∃ chain, 1 ≤ chain.length ∧ chain.length ≤ limit.levels ∧
        RoleChain M links (InScope D links domain) name role chain)
  := by
  intro start links
  have hrules := SameRules.changes start changes
  have hasks : Asks (changes.foldl LinkChange.onGraph start) M D := by
    constructor
    · rw [hrules.names]
    · rw [hrules.domains]
  obtain ⟨linked, hlinked, hiff⟩ := hasLink_spec
    ((Stores.empty limit _ _).changes changes) hasks name role domain
  refine ⟨linked, hlinked, hiff.trans ?_⟩
  rw [hrules.limit]
  apply or_congr_right
  apply exists_congr
  intro chain
  constructor
  · rintro ⟨hlength, hchain⟩
    obtain ⟨l, hl, -⟩ := hchain.starts
    refine ⟨?_, hlength, hchain⟩
    cases chain with
    | nil => cases hl
    | cons k rest => simp
  · rintro ⟨-, hlength, hchain⟩
    exact ⟨hlength, hchain⟩

end RoleGraph

end AccessControl
