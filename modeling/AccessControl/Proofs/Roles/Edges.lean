import AccessControl.Proofs.Roles.History

/-!
# Edges in the arena

The parts of an arena fit together, `RoleGraph.Consistent`: the index finds the nodes, the outgoing
and the incoming edges are the same, and every domain with an edge is counted with the number of its
edges.  A deletion in an arena like this finds whatever it looks for,
`RoleGraph.Consistent.deleteFound_eq`, and every graph that calls lead to has one,
`RoleGraph.consistent_of_calls`.
-/

namespace AccessControl

namespace RoleGraph

/-- The edges of a graph, by the positions of their ends. -/
def edges (g : RoleGraph) : List (Nat × Nat) :=
  (List.range g.nodes.length).flatMap fun i => (g.outAt i).map fun j => (i, j)

/-- The edges of a graph that leave nodes of a domain. -/
def edgesIn (g : RoleGraph) (domain : Name) : List (Nat × Nat) :=
  g.edges.filter fun edge => (g.nodes[edge.1]?).any fun node => node.2 == domain

/-- The parts of an arena fit together. -/
structure Consistent (g : RoleGraph) : Prop where
  index_nodup : (g.index.map Prod.fst).Nodup
  /-- The index finds a node exactly where it is stored. -/
  mem_index : ∀ node i, (node, i) ∈ g.index ↔ g.nodes[i]? = some node
  out_length : g.out.length = g.nodes.length
  into_length : g.into.length = g.nodes.length
  /-- An edge joins two nodes of one domain. -/
  joins : ∀ i j, j ∈ g.outAt i → ∃ name role domain,
    g.nodes[i]? = some (name, domain) ∧ g.nodes[j]? = some (role, domain)
  mem_into : ∀ i j, i ∈ g.intoAt j ↔ j ∈ g.outAt i
  out_nodup : ∀ i, (g.outAt i).Nodup
  into_nodup : ∀ j, (g.intoAt j).Nodup
  counts_nodup : (g.edgeCounts.map Prod.fst).Nodup
  /-- The domains that are counted are those with edges, and the count is their number. -/
  mem_counts : ∀ domain n, (domain, n) ∈ g.edgeCounts ↔ 0 < n ∧ (g.edgesIn domain).length = n

/-! ### Deletions that may fail -/

/-- What a deletion may look for in vain. -/
inductive Missing where
  /-- The roles, or the members, of the node at a position. -/
  | roles (i : Nat)
  | members (i : Nat)
  /-- A position among the roles, or among the members, of another. -/
  | role (i role : Nat)
  | member (i member : Nat)
  | count (domain : Name)
  deriving DecidableEq

/-- What was looked for. -/
def found {α : Type} (missing : Missing) : Option α → Except Missing α
  | none => .error missing
  | some a => .ok a

/-- The positions without one of them, which must be there. -/
def without (missing : Missing) (i : Nat) (xs : List Nat) : Except Missing (List Nat) :=
  if i ∈ xs then .ok (xs.erase i) else .error missing

/-- The counts with another number for a domain, which is left out if the number is zero. -/
def setCount (domain : Name) (n : Nat) (counts : List (Name × Nat)) : List (Name × Nat) :=
  if n = 0 then counts.filter fun count => count.1 != domain
  else counts.map fun count => if count.1 = domain then (domain, n) else count

/-- Removes the edge that gives `name` the role `role` in a domain, and fails where any part of the
arena lacks what the edge left there. -/
def deleteFound (g : RoleGraph) (name role domain : Name) : Except Missing (RoleGraph × Bool) :=
  match g.position? name domain, g.position? role domain with
  | some a, some b => do
    let roles ← found (.roles a) g.out[a]?
    if roles.contains b then
      let roles ← without (.role a b) b roles
      let members ← found (.members b) g.into[b]?
      let members ← without (.member b a) a members
      let count ← found (.count domain) (g.edgeCounts.lookup domain)
      return ({ g with
        out := g.out.set a roles
        into := g.into.set b members
        edgeCounts := setCount domain (count - 1) g.edgeCounts }, true)
    else return (g, false)
  | _, _ => return (g, false)

theorem lookup_eq_some_iff {α β : Type} [BEq α] [LawfulBEq α] {entries : List (α × β)} {a : α} {b : β}
    (h : (entries.map Prod.fst).Nodup) :
  entries.lookup a = some b ↔ (a, b) ∈ entries
  := by
  induction entries with
  | nil => simp
  | cons entry rest ih =>
      obtain ⟨k, v⟩ := entry
      obtain ⟨hk, hrest⟩ := List.nodup_cons.mp h
      rw [List.lookup_cons, List.mem_cons, Prod.mk.injEq]
      by_cases hak : a = k
      · subst hak
        have habsent : (a, b) ∉ rest := fun hmem => hk (List.mem_map.mpr ⟨_, hmem, rfl⟩)
        simp [habsent, eq_comm]
      · rw [beq_false_of_ne hak, ih hrest]
        simp [hak]

/-- A count that is one lower is set to the number before it. -/
theorem setCount_eq_decrease {domain : Name} {n : Nat} {counts : List (Name × Nat)}
    (hnodup : (counts.map Prod.fst).Nodup) (h : (domain, n) ∈ counts) :
  setCount domain (n - 1) counts = decrease domain counts
  := by
  induction counts with
  | nil => cases h
  | cons count rest ih =>
      obtain ⟨d, m⟩ := count
      obtain ⟨hd, hrest⟩ := List.nodup_cons.mp hnodup
      rw [decrease]
      by_cases hdomain : d = domain
      · subst hdomain
        have hother : ∀ count ∈ rest, count.1 ≠ d := fun count hmem heq =>
          hd (List.mem_map.mpr ⟨count, hmem, heq⟩)
        have hnm : n = m := by
          obtain heq | hmem := List.mem_cons.mp h
          · cases heq
            rfl
          · exact absurd rfl (hother _ hmem)
        subst hnm
        rw [if_pos rfl, setCount]
        by_cases hn : n ≤ 1
        · rw [if_pos (by omega), if_pos hn, List.filter_cons_of_neg (by simp),
            List.filter_eq_self.mpr fun count hmem => by simpa using hother count hmem]
        · rw [if_neg (by omega), if_neg hn, List.map_cons, if_pos rfl]
          congr 1
          nth_rewrite 2 [← List.map_id rest]
          exact List.map_congr_left fun count hmem => if_neg (hother count hmem)
      · have hmem : (domain, n) ∈ rest := by
          obtain heq | hmem := List.mem_cons.mp h
          · cases heq
            exact absurd rfl hdomain
          · exact hmem
        rw [if_neg hdomain, ← ih hrest hmem, setCount, setCount]
        split
        · rw [List.filter_cons_of_pos (by simpa using hdomain)]
        · rw [List.map_cons, if_neg hdomain]

theorem mem_edges {g : RoleGraph} {i j : Nat} :
  (i, j) ∈ g.edges ↔ i < g.nodes.length ∧ j ∈ g.outAt i
  := by
  simp [edges]

namespace Consistent

variable {g : RoleGraph}

theorem position?_eq_some_iff (h : Consistent g) (name domain : Name) (i : Nat) :
  g.position? name domain = some i ↔ g.nodes[i]? = some (name, domain)
  := by
  rw [position?, lookup_eq_some_iff h.index_nodup, h.mem_index]

/-- Every node has its roles and its members. -/
theorem out_eq_some (h : Consistent g) {i : Nat} {node : Name × Name} (hi : g.nodes[i]? = some node) :
  g.out[i]? = some (g.outAt i)
  := by
  obtain ⟨hlt, -⟩ := List.getElem?_eq_some_iff.mp hi
  rw [← h.out_length] at hlt
  rw [outAt, List.getElem?_eq_getElem hlt]
  rfl

theorem into_eq_some (h : Consistent g) {i : Nat} {node : Name × Name}
    (hi : g.nodes[i]? = some node) :
  g.into[i]? = some (g.intoAt i)
  := by
  obtain ⟨hlt, -⟩ := List.getElem?_eq_some_iff.mp hi
  rw [← h.into_length] at hlt
  rw [intoAt, List.getElem?_eq_getElem hlt]
  rfl

/-- The domain of an edge is counted. -/
theorem exists_count (h : Consistent g) {i j : Nat} {name domain : Name}
    (hi : g.nodes[i]? = some (name, domain)) (hj : j ∈ g.outAt i) :
  ∃ n, (domain, n) ∈ g.edgeCounts
  := by
  obtain ⟨hlt, -⟩ := List.getElem?_eq_some_iff.mp hi
  have hedge : (i, j) ∈ g.edgesIn domain := by
    rw [edgesIn, List.mem_filter, mem_edges, hi]
    exact ⟨⟨hlt, hj⟩, by simp⟩
  exact ⟨_, (h.mem_counts domain _).mpr ⟨List.length_pos_of_mem hedge, rfl⟩⟩

/-- **A deletion finds what it looks for**, and is the deletion that takes it for granted. -/
theorem deleteFound_eq (h : Consistent g) (name role domain : Name) :
  g.deleteFound name role domain = .ok (g.deleteLink name role domain)
  := by
  rw [deleteFound, deleteLink]
  cases ha : g.position? name domain with
  | none => rfl
  | some a =>
      cases hb : g.position? role domain with
      | none => rfl
      | some b =>
          rw [h.position?_eq_some_iff] at ha hb
          have hroles := h.out_eq_some ha
          have hmembers := h.into_eq_some hb
          simp only [hroles, found, bind, Except.bind]
          by_cases hedge : b ∈ g.outAt a
          · obtain ⟨n, hn⟩ := h.exists_count ha hedge
            have hcount := (lookup_eq_some_iff h.counts_nodup).mpr hn
            have hmember := (h.mem_into a b).mpr hedge
            have hset : g.out.set a ((g.outAt a).erase b) = g.out.modify a (·.erase b) := by
              rw [List.modify_eq_set, hroles]
              rfl
            have hset' : g.into.set b ((g.intoAt b).erase a) = g.into.modify b (·.erase a) := by
              rw [List.modify_eq_set, hmembers]
              rfl
            simp only [List.contains_iff_mem.mpr hedge, if_true, without, if_pos hedge, hmembers,
              if_pos hmember, hcount, setCount_eq_decrease h.counts_nodup hn, hset, hset']
            rfl
          · have hcontains : (g.outAt a).contains b = false := by simpa using hedge
            simp only [hcontains, Bool.false_eq_true, if_false]
            rfl

end Consistent

/-! ### Edges and links -/

namespace Stores

variable {g : RoleGraph} {L : Finset Link}

theorem nodup_edges (h : Stores g L) :
  g.edges.Nodup
  := by
  rw [edges, List.nodup_flatMap]
  constructor
  · intro i _
    exact (h.out_nodup i).map fun j k hjk => (Prod.mk.inj hjk).2
  · apply List.nodup_range.imp
    intro i j hij
    rw [Function.onFun, List.disjoint_left]
    intro edge hi hj
    obtain ⟨k, -, rfl⟩ := List.mem_map.mp hi
    obtain ⟨l, -, heq⟩ := List.mem_map.mp hj
    exact hij (Prod.mk.inj heq).1.symm

theorem mem_edges_of (h : Stores g L) {i j : Nat} {l : Link}
    (hi : g.nodes[i]? = some (l.name, l.domain)) (hj : g.nodes[j]? = some (l.role, l.domain))
    (hl : l ∈ L) :
  (i, j) ∈ g.edges
  := by
  obtain ⟨hlt, -⟩ := List.getElem?_eq_some_iff.mp hi
  rw [mem_edges]
  use hlt
  apply (h.mem_outAt_iff hi hj).mpr hl

/-- There are as many edges as links, also where only some domains are looked at. -/
theorem length_filter_edges (h : Stores g L) (p : Name → Bool) :
  (g.edges.filter fun edge => (g.nodes[edge.1]?).any fun node => p node.2).length
    = (L.filter fun l => p l.domain = true).card
  := by
  rw [← List.toFinset_card_of_nodup (h.nodup_edges.filter _)]
  have hends : ∀ l ∈ L, ∃ i j : Nat, g.nodes[i]? = some (l.name, l.domain)
      ∧ g.nodes[j]? = some (l.role, l.domain) := by
    intro l hl
    obtain ⟨hname, hrole⟩ := h.ends l hl
    obtain ⟨i, hi⟩ := List.mem_iff_getElem?.mp hname
    obtain ⟨j, hj⟩ := List.mem_iff_getElem?.mp hrole
    exact ⟨i, j, hi, hj⟩
  -- a link goes with the edge between the nodes of its ends
  choose! near far hnear hfar using hends
  symm
  apply Finset.card_bij fun l _ => (near l, far l)
  · intro l hl
    rw [Finset.mem_filter] at hl
    rw [List.mem_toFinset, List.mem_filter, hnear l hl.1]
    constructor
    · apply h.mem_edges_of (hnear l hl.1) (hfar l hl.1) hl.1
    · apply hl.2
  · intro l hl k hk heq
    rw [Finset.mem_filter] at hl hk
    obtain ⟨hi, hj⟩ := Prod.mk.inj heq
    apply link_unique (hnear k hk.1) (hfar k hk.1)
    · rw [← hi, hnear l hl.1]
    · rw [← hj, hfar l hl.1]
  · rintro ⟨i, j⟩ hedge
    rw [List.mem_toFinset, List.mem_filter, mem_edges, h.mem_out] at hedge
    obtain ⟨⟨-, l, hl, hi, hj⟩, hp⟩ := hedge
    rw [hi] at hp
    use l, Finset.mem_filter.mpr ⟨hl, hp⟩
    apply Prod.ext
    · apply position_unique h.nodes_nodup (hnear l hl) hi
    · apply position_unique h.nodes_nodup (hfar l hl) hj

/-- The arena of a graph that stores some links fits together. -/
theorem consistent (h : Stores g L) :
  Consistent g
  := by
  have hkeys : g.index.map Prod.fst = g.nodes := by
    rw [h.index_eq]
    apply List.zipIdx_map_fst
  have hcount : ∀ domain, (g.edgesIn domain).length = (L.filter (·.domain = domain)).card := by
    intro domain
    rw [edgesIn, h.length_filter_edges fun d => d == domain]
    simp
  constructor
  · rw [hkeys]
    apply h.nodes_nodup
  · intro node i
    rw [h.index_eq]
    apply List.mem_zipIdx_iff_getElem?
  · apply h.out_length
  · apply h.into_length
  · intro i j hj
    obtain ⟨l, -, hi, hj⟩ := (h.mem_out i j).mp hj
    use l.name, l.role, l.domain
  · apply h.mem_into
  · apply h.out_nodup
  · apply h.into_nodup
  · apply h.counts.nodup
  · intro domain n
    rw [hcount, ← h.counts.countOf_eq]
    constructor
    · intro hn
      use h.counts.pos _ hn
      apply countOf_of_mem h.counts.nodup hn
    · rintro ⟨hpos, hn⟩
      rw [← lookup_eq_some_iff h.counts.nodup]
      rw [countOf] at hn
      cases hlookup : g.edgeCounts.lookup domain with
      | none =>
          rw [hlookup] at hn
          exact absurd hn hpos.ne
      | some m =>
          rw [hlookup] at hn
          rw [← hn]
          rfl

/-- The size of a graph is the number of its edges. -/
theorem size_eq (h : Stores g L) :
  g.size = g.edges.length
  := by
  have hall : (g.edges.filter fun edge => (g.nodes[edge.1]?).any fun _ => true) = g.edges := by
    rw [List.filter_eq_self]
    rintro ⟨i, j⟩ hedge
    rw [List.getElem?_eq_getElem (mem_edges.mp hedge).1]
    rfl
  have hlength := h.length_filter_edges fun _ => true
  rw [hall] at hlength
  rw [hlength, h.tells.size]
  simp

end Stores

/-- **The arena of a graph fits together, whatever calls have led to it**, so that no deletion misses
what it looks for, and the size of the graph is the number of its edges. -/
theorem consistent_of_calls
    (limit : DepthLimit) (names domains : Option NameMatcher) (calls : List LinkCall) :
  ∃ g, LinkCall.run calls { limit, nameMatcher := names, domainMatcher := domains } = .ok g
    ∧ Consistent g
    ∧ (∀ name role domain, g.deleteFound name role domain = .ok (g.deleteLink name role domain))
    ∧ g.size = g.edges.length
  := by
  have hstores := (Stores.empty limit names domains).changes (calls.map LinkCall.change)
  refine ⟨_, LinkCall.run_eq calls _, hstores.consistent, ?_, hstores.size_eq⟩
  apply hstores.consistent.deleteFound_eq

end RoleGraph

end AccessControl
