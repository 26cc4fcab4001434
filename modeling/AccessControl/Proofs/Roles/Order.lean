import AccessControl.Proofs.Roles.Rows

/-!
# The order of role rows

A graph that is built from role rows keeps their order: the roles of a user, the users of a role
and the domains are listed as they come in the rows.  `Lists g ls` says so of links, and each
link that is added to a graph is the last one of its list.
-/

namespace AccessControl

/-- A list without repetitions is left as it is where repetitions are dropped. -/
theorem eraseDups_of_nodup {α : Type} [BEq α] [LawfulBEq α] {xs : List α} (h : xs.Nodup) :
  xs.eraseDups = xs
  := by
  induction xs with
  | nil => rfl
  | cons x rest ih =>
      obtain ⟨hx, hrest⟩ := List.nodup_cons.mp h
      have hkeep : rest.filter (fun y => !y == x) = rest := by
        rw [List.filter_eq_self]
        rintro y hy
        rw [Bool.not_eq_true', beq_eq_false_iff_ne]
        rintro rfl
        apply hx hy
      rw [List.eraseDups_cons, hkeep, ih hrest]

/-- One element more is dropped if it is a repetition. -/
theorem eraseDups_concat {α : Type} [BEq α] [LawfulBEq α] (xs : List α) (x : α) [Decidable (x ∈ xs)] :
  (xs ++ [x]).eraseDups = if x ∈ xs then xs.eraseDups else xs.eraseDups ++ [x]
  := by
  rw [List.eraseDups_append]
  by_cases hx : x ∈ xs
  · simp [List.removeAll, hx]
  · simp [List.removeAll, hx, List.eraseDups_cons]

/-! ### Links in order -/

namespace Link

/-- The far ends of the links that are found at a name in a domain. -/
def across (back : Bool) (ls : List Link) (name domain : Name) : List Name :=
  (ls.filter fun l => l.near back = name ∧ l.domain = domain).map (far back)

variable {ls : List Link} (back : Bool)

theorem across_append (ls : List Link) (l : Link) (name domain : Name) :
  across back (ls ++ [l]) name domain = across back ls name domain
    ++ if l.near back = name ∧ l.domain = domain then [l.far back] else []
  := by
  rw [across, List.filter_append, List.map_append, List.filter_singleton]
  by_cases h : l.near back = name ∧ l.domain = domain <;> simp [h, across]

/-- Links with the same ends in the same domain are one. -/
theorem eq_of_ends
    {l l' : Link} (hnear : l.near back = l'.near back) (hfar : l.far back = l'.far back)
    (hdomain : l.domain = l'.domain) :
  l = l'
  := by
  obtain ⟨n, r, d⟩ := l
  obtain ⟨n', r', d'⟩ := l'
  obtain rfl : d = d' := hdomain
  cases back with
  | false =>
      obtain rfl : n = n' := hnear
      obtain rfl : r = r' := hfar
      rfl
  | true =>
      obtain rfl : r = r' := hnear
      obtain rfl : n = n' := hfar
      rfl

theorem nodup_across (h : ls.Nodup) (name domain : Name) :
  (across back ls name domain).Nodup
  := by
  apply List.Nodup.map_on _ (h.filter _)
  intro l hl l' hl' hfar
  simp only [List.mem_filter, decide_eq_true_eq] at hl hl'
  apply eq_of_ends back (hl.2.1.trans hl'.2.1.symm) hfar (hl.2.2.trans hl'.2.2.symm)

/-- At a name that no link mentions in a domain no link is found. -/
theorem across_eq_nil
    {name domain : Name} (h : ∀ l ∈ ls, (l.near back, l.domain) ≠ (name, domain)) :
  across back ls name domain = []
  := by
  rw [across, List.map_eq_nil_iff, List.filter_eq_nil_iff]
  intro l hl hsame
  rw [decide_eq_true_eq] at hsame
  apply h l hl
  rw [hsame.1, hsame.2]

end Link

namespace RoleGraph

/-! ### New nodes -/

section Ensure

variable (g : RoleGraph) (name domain : Name)

theorem edgesAt_ensure (back : Bool) (i : Nat) :
  (g.ensure name domain).1.edgesAt back i = g.edgesAt back i
  := by
  rw [ensure]
  cases g.position? name domain with
  | some j => rfl
  | none => cases back <;> apply getD_append_nil

theorem edgeCounts_ensure :
  (g.ensure name domain).1.edgeCounts = g.edgeCounts
  := by
  rw [ensure]
  cases g.position? name domain <;> rfl

end Ensure

/-- A node is an old one, or the one that was asked for and was not there. -/
theorem Stores.of_ensure
    {g : RoleGraph} {L : Finset Link} (h : Stores g L) (name domain : Name) {i : Nat}
    {x : Name × Name} (hi : (g.ensure name domain).1.nodes[i]? = some x) :
  g.nodes[i]? = some x ∨ x ∉ g.nodes
  := by
  rw [RoleGraph.ensure] at hi
  cases hp : g.position? name domain with
  | some j =>
      rw [hp] at hi
      left
      apply hi
  | none =>
      have hnew := (h.position?_eq_none_iff name domain).mp hp
      rw [hp, List.getElem?_append] at hi
      split at hi
      · left
        apply hi
      · right
        rw [← List.mem_singleton.mp (List.mem_of_getElem? hi)] at hnew
        apply hnew

/-! ### Graphs of links in order -/

/-- The arena of a graph represents some links in their order: a node leads to its roles and comes
from its users as the links do, and domains are counted as they come first. -/
structure Lists (g : RoleGraph) (ls : List Link) : Prop where
  stores : Stores g ls.toFinset
  edges : ∀ back i name domain, g.nodes[i]? = some (name, domain) →
    (g.edgesAt back i).map g.nameAt = Link.across back ls name domain
  keys : g.edgeCounts.map Prod.fst = (ls.map Link.domain).eraseDups

namespace Lists

variable {g : RoleGraph} {ls : List Link}

theorem clear (g : RoleGraph) :
  Lists g.clear []
  := by
  constructor
  · apply Stores.empty
  · intro back i name domain hi
    cases hi
  · rfl

/-- A node that is new leads nowhere and comes from nowhere. -/
theorem ensure (h : Lists g ls) (name domain : Name) :
  Lists (g.ensure name domain).1 ls
  := by
  have hname : ∀ {j : Nat} {x : Name × Name}, g.nodes[j]? = some x →
      (g.ensure name domain).1.nameAt j = g.nameAt j := by
    rintro j ⟨y, e⟩ hj
    rw [nameAt_eq hj, nameAt_eq (Stores.ensure_keeps name domain hj)]
  constructor
  · apply h.stores.ensure
  · intro back i name' domain' hi
    rw [edgesAt_ensure]
    obtain hold | hnew := h.stores.of_ensure name domain hi
    · rw [← h.edges back i name' domain' hold]
      apply List.map_congr_left
      intro j hj
      obtain ⟨l, -, -, hfar⟩ := (h.stores.mem_edgesAt back i j).mp hj
      apply hname hfar
    · rw [Link.across_eq_nil, List.map_eq_nil_iff, List.eq_nil_iff_forall_not_mem]
      · intro j hj
        obtain ⟨l, -, hnear, -⟩ := (h.stores.mem_edgesAt back i j).mp hj
        rw [Stores.ensure_keeps name domain hnear, Option.some.injEq] at hi
        apply hnew
        rw [← hi]
        apply List.mem_of_getElem? hnear
      · rintro l hl heq
        apply hnew
        rw [← heq]
        apply h.stores.near_mem (List.mem_toFinset.mpr hl)
  · rw [edgeCounts_ensure]
    apply h.keys

/-- A new edge between two nodes is the last one. -/
theorem join
    (h : Lists g ls) {a b : Nat} {l : Link} (ha : g.nodes[a]? = some (l.name, l.domain))
    (hb : g.nodes[b]? = some (l.role, l.domain)) (hl : l ∉ ls) :
  Lists
    { g with
      out := g.out.modify a (· ++ [b])
      into := g.into.modify b (· ++ [a])
      edgeCounts := increase l.domain g.edgeCounts }
    (ls ++ [l])
  := by
  have hsame : ∀ {i : Nat} {name domain : Name}, g.nodes[i]? = some (name, domain) →
      ∀ {c : Nat} {x : Name × Name}, g.nodes[c]? = some x → (i = c ↔ x = (name, domain)) := by
    intro i name domain hi c x hc
    constructor
    · rintro rfl
      rw [hi, Option.some.injEq] at hc
      rw [hc]
    · rintro rfl
      apply position_unique h.stores.nodes_nodup hi hc
  have hends : ∀ back, ∃ c d, g.nodes[c]? = some (l.near back, l.domain) ∧
      g.nodes[d]? = some (l.far back, l.domain) ∧ ∀ i,
        RoleGraph.edgesAt { g with
          out := g.out.modify a (· ++ [b])
          into := g.into.modify b (· ++ [a])
          edgeCounts := increase l.domain g.edgeCounts } back i
          = g.edgesAt back i ++ if i = c then [d] else [] := by
    have hmodify : ∀ (xs : List (List Nat)) {c d i : Nat}, c < xs.length →
        ((xs.modify c (· ++ [d]))[i]?).getD []
          = (xs[i]?).getD [] ++ if i = c then [d] else [] := by
      intro xs c d i hc
      rw [getD_modify xs _ hc]
      by_cases hi : i = c <;> simp [hi]
    intro back
    cases back with
    | false =>
        exact ⟨a, b, ha, hb, fun i => hmodify g.out (h.stores.position_lt ha).1⟩
    | true =>
        exact ⟨b, a, hb, ha, fun i => hmodify g.into (h.stores.position_lt hb).2⟩
  constructor
  · have hset : (ls ++ [l]).toFinset = insert l ls.toFinset := by
      rw [List.toFinset_append, Finset.union_comm]
      rfl
    rw [hset]
    apply h.stores.join ha hb
    rw [List.mem_toFinset]
    apply hl
  · -- the edge is the last one of both its ends, and of no other node
    intro back i name domain hi
    obtain ⟨c, d, hc, hd, hedges⟩ := hends back
    have hic := hsame hi hc
    rw [Prod.mk.injEq] at hic
    rw [hedges i, Link.across_append, ← h.edges back i name domain hi]
    by_cases hnear : l.near back = name ∧ l.domain = domain
    · rw [if_pos (hic.mpr hnear), if_pos hnear, List.map_append, List.map_singleton]
      congr 2
      apply nameAt_eq hd
    · rw [if_neg fun heq => hnear (hic.mp heq), if_neg hnear, List.append_nil, List.append_nil]
      rfl
  · dsimp only
    have hkey : l.domain ∈ g.edgeCounts.map Prod.fst ↔ l.domain ∈ ls.map Link.domain := by
      rw [h.keys, List.mem_eraseDups]
    rw [List.map_append, List.map_singleton, eraseDups_concat, ← h.keys]
    apply (keys_increase _ _).trans
    simp only [hkey]

/-- A link that is added, and was not there, is the last one. -/
theorem addLink (h : Lists g ls) {l : Link} (hl : l ∉ ls) :
  Lists (g.addLink l.name l.role l.domain) (ls ++ [l])
  := by
  have h₁ := h.ensure l.name l.domain
  have h₂ := h₁.ensure l.role l.domain
  have ha := Stores.ensure_keeps l.role l.domain (h.stores.ensure_position l.name l.domain)
  have hb := h₁.stores.ensure_position l.role l.domain
  have hnew := (h₂.stores.mem_outAt_iff ha hb).not.mpr fun hmem => hl (List.mem_toFinset.mp hmem)
  rw [addLink_eq]
  dsimp only
  rw [if_neg fun hc => hnew (List.contains_iff_mem.mp hc)]
  apply h₂.join ha hb hl

/-- Rows add their links in order. -/
theorem addRows
    (h : Lists g ls) {rows : List Row} (hnodup : (ls ++ rows.filterMap linkOf?).Nodup) :
  Lists (rows.foldl addRow g) (ls ++ rows.filterMap linkOf?)
  := by
  induction rows generalizing g ls with
  | nil =>
      rw [List.filterMap_nil, List.append_nil]
      apply h
  | cons row rest ih =>
      rw [List.filterMap_cons] at hnodup ⊢
      rw [List.foldl_cons, addRow_eq]
      cases hlink : linkOf? row with
      | none =>
          rw [hlink] at hnodup
          apply ih h hnodup
      | some l =>
          rw [hlink] at hnodup
          dsimp only at hnodup ⊢
          rw [List.append_cons] at hnodup ⊢
          apply ih (h.addLink _) hnodup
          intro hl
          apply List.disjoint_of_nodup_append (List.Nodup.of_append_left hnodup) hl
            (List.mem_singleton_self l)

/-- A graph that is built anew lists the links of its rows. -/
theorem rebuild (g : RoleGraph) {rows : List Row} (h : (rows.filterMap linkOf?).Nodup) :
  Lists (g.rebuild rows) (rows.filterMap linkOf?)
  := addRows (clear g) h

/-! ### Questions -/

section Plain

variable (hnames : g.nameMatcher = none) (hdomains : g.domainMatcher = none)

include hnames hdomains

/-- Without matchers a name has one node in a domain, if any. -/
theorem neighbours_eq
    (edges : Nat → List Nat) (name domain : Name) :
  g.neighbours edges name domain
    = .ok ((((g.position? name domain).toList.flatMap edges).map g.nameAt).eraseDups)
  := by
  rw [neighbours, domainsFor, hdomains]
  simp only [bind, Except.bind, lookup, hnames, pure, Except.pure]
  cases hp : g.position? name domain with
  | none => simp [hp]
  | some i => simp [hp]

/-- The far ends of the links at a name are found in order. -/
theorem neighbours_across
    (h : Lists g ls) (hnodup : ls.Nodup) (back : Bool) (name domain : Name) :
  g.neighbours (g.edgesAt back) name domain = .ok (Link.across back ls name domain)
  := by
  have hlist : ((g.position? name domain).toList.flatMap (g.edgesAt back)).map g.nameAt
      = Link.across back ls name domain := by
    cases hp : g.position? name domain with
    | none =>
        rw [Link.across_eq_nil]
        · rfl
        · rintro l hl heq
          apply (h.stores.position?_eq_none_iff name domain).mp hp
          rw [← heq]
          apply h.stores.near_mem (List.mem_toFinset.mpr hl)
    | some i =>
        rw [Option.toList_some, List.flatMap_singleton]
        apply h.edges back i name domain ((h.stores.position?_eq_some_iff name domain i).mp hp)
  rw [neighbours_eq hnames hdomains, hlist,
    eraseDups_of_nodup (Link.nodup_across back hnodup name domain)]

end Plain

/-- The domains are those of the links other than the default one, as they come first. -/
theorem domains_eq (h : Lists g ls) :
  g.domains = (ls.map Link.domain).eraseDups.filter (· != defaultDomain)
  := by
  rw [domains, show g.edgeCounts.map (·.1) = _ from h.keys]

end Lists

end RoleGraph

/-! ### Rows in order -/

/-- The domain of a role row: its third text, or the default domain if it has two. -/
def domainOfRow (row : Row) : String := row.getD 2 ""

/-- The roles that rows give a user in a domain, in the order of the rows. -/
def rolesInRows (rows : List Row) (user domain : String) : List String :=
  (rows.filter fun row => row[0]? = some user ∧ domainOfRow row = domain).filterMap (·[1]?)

/-- The users to whom rows give a role in a domain, in the order of the rows. -/
def usersInRows (rows : List Row) (role domain : String) : List String :=
  (rows.filter fun row => row[1]? = some role ∧ domainOfRow row = domain).filterMap (·[0]?)

/-- The position of the text at which the link of a row is found. -/
def nearField (back : Bool) : Nat := if back then 1 else 0

/-- The position of the text at the other end of the link of a row. -/
def farField (back : Bool) : Nat := if back then 0 else 1

/-- The texts at the far ends of the links that rows have at a name in a domain. -/
def acrossRows (back : Bool) (rows : List Row) (name domain : String) : List String :=
  (rows.filter fun row => row[nearField back]? = some name ∧ domainOfRow row = domain).filterMap
    (·[farField back]?)

/-- The domains of rows other than the default one, in the order in which they come first. -/
def domainsInRows (rows : List Row) : List String :=
  (rows.map domainOfRow).eraseDups.filter (· != "")

theorem mem_rolesInRows {rows : List Row} {user role domain : String} :
  role ∈ rolesInRows rows user domain ↔
    ∃ row ∈ rows, row[0]? = some user ∧ row[1]? = some role ∧ domainOfRow row = domain
  := by
  simp only [rolesInRows, List.mem_filterMap, List.mem_filter, decide_eq_true_eq]
  constructor
  · rintro ⟨row, ⟨hrow, huser, hdomain⟩, hrole⟩
    exact ⟨row, hrow, huser, hrole, hdomain⟩
  · rintro ⟨row, hrow, huser, hrole, hdomain⟩
    exact ⟨row, ⟨hrow, huser, hdomain⟩, hrole⟩

/-- Repetitions can be dropped before elements are told by others. -/
theorem eraseDups_map {α β : Type} [BEq α] [LawfulBEq α] [BEq β] [LawfulBEq β] {f : α → β}
    (hf : Function.Injective f) (xs : List α) :
  (xs.map f).eraseDups = xs.eraseDups.map f
  := by
  classical
  induction xs using List.reverseRecOn with
  | nil => rfl
  | append_singleton xs x ih =>
      rw [List.map_append, List.map_singleton, eraseDups_concat, eraseDups_concat, ih]
      simp only [List.mem_map_of_injective hf]
      split
      · rfl
      · rw [List.map_append, List.map_singleton]

section Rows

variable {rows : List Row} {arity : Nat} (harity : arity = 2 ∨ arity = 3)
  (hrows : ∀ row ∈ rows, row.length = arity)

include harity in
/-- A role row of two or three texts has a link, found by its texts. -/
theorem linkOf?_eq {row : Row} (hrow : row.length = arity) (back : Bool) :
  ∃ l x y, linkOf? row = some l ∧ l.near back = .text x ∧ l.far back = .text y ∧
    row[nearField back]? = some x ∧ row[farField back]? = some y ∧
    l.domain = .text (domainOfRow row)
  := by
  obtain rfl | rfl := harity
  · obtain ⟨name, role, rfl⟩ := List.length_eq_two.mp hrow
    cases back <;> exact ⟨_, _, _, rfl, rfl, rfl, rfl, rfl, rfl⟩
  · obtain ⟨name, role, domain, rfl⟩ := List.length_eq_three.mp hrow
    cases back <;> exact ⟨_, _, _, rfl, rfl, rfl, rfl, rfl, rfl⟩

include harity hrows

/-- Different rows have different links. -/
theorem nodup_links (hnodup : rows.Nodup) :
  (rows.filterMap linkOf?).Nodup
  := by
  rw [List.Nodup, List.pairwise_filterMap]
  apply List.Pairwise.imp_of_mem _ hnodup
  rintro row row' hrow hrow' hne l hl l' hl' rfl
  apply hne
  have hlength := hrows row hrow
  have hlength' := hrows row' hrow'
  obtain rfl | rfl := harity
  · obtain ⟨name, role, rfl⟩ := List.length_eq_two.mp hlength
    obtain ⟨name', role', rfl⟩ := List.length_eq_two.mp hlength'
    rw [← hl'] at hl
    simp only [linkOf?, Option.some.injEq, Link.mk.injEq, Name.text.injEq] at hl
    rw [hl.1, hl.2.1]
  · obtain ⟨name, role, domain, rfl⟩ := List.length_eq_three.mp hlength
    obtain ⟨name', role', domain', rfl⟩ := List.length_eq_three.mp hlength'
    rw [← hl'] at hl
    simp only [linkOf?, List.headD_cons, Option.some.injEq, Link.mk.injEq, Name.text.injEq] at hl
    rw [hl.1, hl.2.1, hl.2.2]

/-- The links of rows are found as the rows are. -/
theorem across_links (back : Bool) (name domain : String) :
  Link.across back (rows.filterMap linkOf?) (.text name) (.text domain)
    = (acrossRows back rows name domain).map .text
  := by
  induction rows with
  | nil => rfl
  | cons row rest ih =>
      obtain ⟨hrow, hrest⟩ := List.forall_mem_cons.mp hrows
      obtain ⟨l, x, y, hlink, hnear, hfar, hx, hy, hdomain⟩ := linkOf?_eq harity hrow back
      have ih := ih hrest
      rw [acrossRows, Link.across] at ih ⊢
      rw [List.filterMap_cons, hlink, List.filter_cons, List.filter_cons, hnear, hx, hdomain]
      simp only [Name.text.injEq, Option.some.injEq]
      split
      · rw [List.map_cons, ih, List.filterMap_cons, hy, List.map_cons, hfar]
      · apply ih

theorem domains_links :
  ((rows.filterMap linkOf?).map Link.domain).eraseDups.filter (· != defaultDomain)
    = (domainsInRows rows).map .text
  := by
  have hdomains : (rows.filterMap linkOf?).map Link.domain = (rows.map domainOfRow).map .text := by
    rw [List.map_filterMap, List.map_map, ← List.filterMap_eq_map]
    apply List.filterMap_congr
    intro row hrow
    obtain ⟨l, -, -, hlink, -, -, -, -, hdomain⟩ := linkOf?_eq harity (hrows row hrow) false
    rw [hlink, Option.map_some, hdomain]
    rfl
  rw [hdomains, eraseDups_map fun _ _ h => Name.text.inj h, List.filter_map, domainsInRows]
  congr 2
  funext d
  rw [Function.comp, defaultDomain, bne, bne, Bool.beq_eq_decide_eq, Bool.beq_eq_decide_eq]
  simp

end Rows

namespace RoleGraph

section Rebuild

variable {g : RoleGraph} (hnames : g.nameMatcher = none) (hdomains : g.domainMatcher = none)
  {rows : List Row} {arity : Nat} (harity : arity = 2 ∨ arity = 3)
  (hrows : ∀ row ∈ rows, row.length = arity) (hnodup : rows.Nodup)

include hnames hdomains harity hrows hnodup

/-- A graph without matchers that is built from rows lists the roles of a user by the rows. -/
theorem roles_rebuild (user domain : String) :
  (g.rebuild rows).roles (.text user) (.text domain)
    = .ok ((rolesInRows rows user domain).map .text)
  := by
  have hlinks := nodup_links harity hrows hnodup
  have hrules := SameRules.rebuild g rows
  have hfound := (Lists.rebuild g hlinks).neighbours_across (hrules.names.trans hnames)
    (hrules.domains.trans hdomains) hlinks false (.text user) (.text domain)
  rw [across_links harity hrows] at hfound
  exact hfound

/-- It lists the users of a role by the rows. -/
theorem users_rebuild (role domain : String) :
  (g.rebuild rows).users (.text role) (.text domain)
    = .ok ((usersInRows rows role domain).map .text)
  := by
  have hlinks := nodup_links harity hrows hnodup
  have hrules := SameRules.rebuild g rows
  have hfound := (Lists.rebuild g hlinks).neighbours_across (hrules.names.trans hnames)
    (hrules.domains.trans hdomains) hlinks true (.text role) (.text domain)
  rw [across_links harity hrows] at hfound
  exact hfound

omit hnames hdomains in
/-- It lists the domains by the rows. -/
theorem domains_rebuild :
  (g.rebuild rows).domains = (domainsInRows rows).map .text
  := by
  rw [(Lists.rebuild g (nodup_links harity hrows hnodup)).domains_eq, domains_links harity hrows]

end Rebuild

end RoleGraph

end AccessControl
