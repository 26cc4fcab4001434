import AccessControl.Roles.Graph
import Mathlib.Data.Finset.Card
import Mathlib.Tactic

/-!
# Arenas

A role graph keeps its links in an arena: nodes by position, the positions that every node
leads to and comes from, and a count of links by domain.  `Stores g L` says that the arena
of `g` represents the set `L` of links.  Every change of a graph keeps an arena, and changes
the set that it represents as changes of sets do.
-/

namespace AccessControl

/-- A link: a name has a role in a domain. -/
structure Link where
  name : Name
  role : Name
  domain : Name
  deriving DecidableEq

namespace Link

/-- The end at which a link is found: its name, or its role where links are followed back. -/
def near (back : Bool) (l : Link) : Name := if back then l.role else l.name

/-- The other end of a link. -/
def far (back : Bool) (l : Link) : Name := if back then l.name else l.role

end Link

/-- A change of the links of a graph. -/
inductive LinkChange where
  | add (l : Link)
  | delete (l : Link)
  | clear

namespace LinkChange

/-- What a change makes of a graph. -/
def onGraph (g : RoleGraph) : LinkChange → RoleGraph
  | .add l => g.addLink l.name l.role l.domain
  | .delete l => (g.deleteLink l.name l.role l.domain).1
  | .clear => g.clear

/-- What a change makes of a set of links. -/
def onLinks (L : Finset Link) : LinkChange → Finset Link
  | .add l => insert l L
  | .delete l => L.erase l
  | .clear => ∅

/-- The links that are left after some changes of no links. -/
def links (changes : List LinkChange) : Finset Link := changes.foldl onLinks ∅

end LinkChange

namespace RoleGraph

/-! ### Counts -/

/-- The number that some counts give for a domain. -/
def countOf (counts : List (Name × Nat)) (d : Name) : Nat := (counts.lookup d).getD 0

theorem countOf_cons (c e : Name) (n : Nat) (counts : List (Name × Nat)) :
  countOf ((c, n) :: counts) e = if e = c then n else countOf counts e
  := by
  by_cases h : e = c
  · simp [countOf, h]
  · rw [if_neg h, countOf, List.lookup_cons, beq_false_of_ne h]
    rfl

/-- The counts of domains that are counted are those of its keys. -/
theorem countOf_eq_zero {counts : List (Name × Nat)} {d : Name}
    (h : d ∉ counts.map (·.1)) :
  countOf counts d = 0
  := by
  induction counts with
  | nil => rfl
  | cons p rest ih =>
      obtain ⟨hd, hrest⟩ := List.ne_and_not_mem_of_not_mem_cons h
      rw [countOf_cons, if_neg hd]
      apply ih hrest

/-- One more link of a domain raises its count by one. -/
theorem countOf_increase (d e : Name) (counts : List (Name × Nat)) :
  countOf (increase d counts) e = countOf counts e + if e = d then 1 else 0
  := by
  induction counts with
  | nil =>
      rw [increase, countOf_cons]
      split <;> rfl
  | cons p rest ih =>
      obtain ⟨c, n⟩ := p
      rw [increase]
      by_cases hc : c = d
      · rw [if_pos hc, countOf_cons, countOf_cons, ← hc]
        split <;> rfl
      · rw [if_neg hc, countOf_cons, countOf_cons, ih]
        by_cases he : e = c
        · simp [he, hc]
        · simp [he]

/-- One link less of a domain lowers its count by one. -/
theorem countOf_decrease
    (d e : Name) {counts : List (Name × Nat)} (hkeys : (counts.map (·.1)).Nodup) :
  countOf (decrease d counts) e = countOf counts e - if e = d then 1 else 0
  := by
  induction counts with
  | nil => simp [decrease, countOf]
  | cons p rest ih =>
      obtain ⟨c, n⟩ := p
      obtain ⟨hc', hrest⟩ := List.nodup_cons.mp hkeys
      rw [decrease]
      by_cases hc : c = d
      · rw [if_pos hc, countOf_cons]
        subst hc
        by_cases he : e = c
        · subst he
          rw [if_pos rfl, if_pos rfl]
          by_cases hn : n ≤ 1
          · rw [if_pos hn, countOf_eq_zero hc']
            omega
          · rw [if_neg hn, countOf_cons, if_pos rfl]
        · rw [if_neg he, if_neg he]
          by_cases hn : n ≤ 1
          · rw [if_pos hn]
            rfl
          · rw [if_neg hn, countOf_cons, if_neg he]
            rfl
      · rw [if_neg hc, countOf_cons, countOf_cons, ih hrest]
        by_cases he : e = c
        · simp [he, hc]
        · simp [he]

theorem keys_increase (d : Name) (counts : List (Name × Nat)) :
  (increase d counts).map (·.1)
    = if d ∈ counts.map (·.1) then counts.map (·.1) else counts.map (·.1) ++ [d]
  := by
  induction counts with
  | nil => rfl
  | cons p rest ih =>
      obtain ⟨c, n⟩ := p
      rw [increase]
      by_cases hc : c = d
      · simp [hc]
      · rw [if_neg hc, List.map_cons, ih]
        by_cases hd : d ∈ rest.map (·.1)
        · simp [hd]
        · simp only [hd, if_false, List.map_cons, List.mem_cons, Ne.symm hc, false_or,
            List.cons_append]

theorem keys_decrease_sublist (d : Name) (counts : List (Name × Nat)) :
  ((decrease d counts).map (·.1)).Sublist (counts.map (·.1))
  := by
  induction counts with
  | nil => apply List.Sublist.refl
  | cons p rest ih =>
      obtain ⟨c, n⟩ := p
      rw [decrease]
      by_cases hc : c = d
      · rw [if_pos hc]
        by_cases hn : n ≤ 1
        · rw [if_pos hn]
          apply List.sublist_cons_self
        · rw [if_neg hn]
          apply List.Sublist.refl
      · rw [if_neg hc]
        apply List.Sublist.cons_cons _ ih

theorem pos_of_mem_increase
    {d : Name} {counts : List (Name × Nat)} (hpos : ∀ p ∈ counts, 0 < p.2) :
  ∀ p ∈ increase d counts, 0 < p.2
  := by
  induction counts with
  | nil => simp [increase]
  | cons p rest ih =>
      obtain ⟨c, n⟩ := p
      obtain ⟨hn, hrest⟩ := List.forall_mem_cons.mp hpos
      rw [increase]
      by_cases hc : c = d
      · rw [if_pos hc]
        rw [List.forall_mem_cons]
        exact ⟨Nat.succ_pos n, hrest⟩
      · rw [if_neg hc]
        rw [List.forall_mem_cons]
        exact ⟨hn, ih hrest⟩

theorem pos_of_mem_decrease
    {d : Name} {counts : List (Name × Nat)} (hpos : ∀ p ∈ counts, 0 < p.2) :
  ∀ p ∈ decrease d counts, 0 < p.2
  := by
  induction counts with
  | nil => simp [decrease]
  | cons p rest ih =>
      obtain ⟨c, n⟩ := p
      obtain ⟨hn, hrest⟩ := List.forall_mem_cons.mp hpos
      rw [decrease]
      by_cases hc : c = d
      · rw [if_pos hc]
        by_cases hn' : n ≤ 1
        · rw [if_pos hn']
          apply hrest
        · rw [if_neg hn']
          rw [List.forall_mem_cons]
          exact ⟨by omega, hrest⟩
      · rw [if_neg hc]
        rw [List.forall_mem_cons]
        exact ⟨hn, ih hrest⟩

/-- Where counts are positive, the domains counted are those whose count is. -/
theorem mem_keys_iff
    {counts : List (Name × Nat)} (hpos : ∀ p ∈ counts, 0 < p.2) (d : Name) :
  d ∈ counts.map (·.1) ↔ 0 < countOf counts d
  := by
  induction counts with
  | nil => simp [countOf]
  | cons p rest ih =>
      obtain ⟨c, n⟩ := p
      obtain ⟨hn, hrest⟩ := List.forall_mem_cons.mp hpos
      rw [countOf_cons, List.map_cons, List.mem_cons, ih hrest]
      by_cases hd : d = c
      · simp [hd, hn]
      · simp [hd]

/-- Some counts give every domain the number that a function gives it. -/
structure Counts (counts : List (Name × Nat)) (f : Name → Nat) : Prop where
  nodup : (counts.map (·.1)).Nodup
  pos : ∀ p ∈ counts, 0 < p.2
  countOf_eq : ∀ d, countOf counts d = f d

namespace Counts

variable {counts : List (Name × Nat)} {f f' : Name → Nat}

theorem increase (h : Counts counts f) {d : Name}
    (hf : ∀ e, f' e = f e + if e = d then 1 else 0) :
  Counts (increase d counts) f'
  := by
  constructor
  · rw [keys_increase]
    by_cases hd : d ∈ counts.map (·.1)
    · rw [if_pos hd]
      apply h.nodup
    · rw [if_neg hd]
      rw [← List.concat_eq_append]
      apply List.Nodup.concat hd h.nodup
  · apply pos_of_mem_increase h.pos
  · intro e
    rw [countOf_increase, h.countOf_eq, hf]

theorem decrease (h : Counts counts f) {d : Name}
    (hf : ∀ e, f' e = f e - if e = d then 1 else 0) :
  Counts (decrease d counts) f'
  := by
  constructor
  · apply (keys_decrease_sublist d counts).nodup h.nodup
  · apply pos_of_mem_decrease h.pos
  · intro e
    rw [countOf_decrease d e h.nodup, h.countOf_eq, hf]

theorem mem_keys (h : Counts counts f) (d : Name) :
  d ∈ counts.map (·.1) ↔ 0 < f d
  := by
  rw [mem_keys_iff h.pos, h.countOf_eq]

end Counts

/-! ### Positions -/

theorem lookup_zipIdx (nodes : List (Name × Name)) (x : Name × Name) (k : Nat) :
  (nodes.zipIdx k).lookup x = (nodes.idxOf? x).map (· + k)
  := by
  induction nodes generalizing k with
  | nil => rfl
  | cons y rest ih =>
      rw [List.zipIdx_cons, List.lookup_cons, ih, List.idxOf?_cons]
      by_cases h : x = y
      · simp [h]
      · rw [beq_false_of_ne h, beq_false_of_ne (Ne.symm h)]
        cases rest.idxOf? x with
        | none => rfl
        | some i =>
            simp only [Option.map_some, Bool.false_eq_true, if_false]
            congr 1
            omega

/-- Equal nodes have equal positions. -/
theorem position_unique
    {nodes : List (Name × Name)} (hnodes : nodes.Nodup) {i j : Nat} {x : Name × Name}
    (hi : nodes[i]? = some x) (hj : nodes[j]? = some x) :
  i = j
  := by
  obtain ⟨hlt, -⟩ := List.getElem?_eq_some_iff.mp hi
  apply (List.getElem?_inj hlt hnodes).mp
  rw [hi, hj]

/-- The nodes to which the edges of a node lead, or from which they come. -/
def edgesAt (g : RoleGraph) (back : Bool) (i : Nat) : List Nat :=
  if back then g.intoAt i else g.outAt i

/-- The arena of a graph represents a set of links. -/
structure Stores (g : RoleGraph) (L : Finset Link) : Prop where
  index_eq : g.index = g.nodes.zipIdx
  nodes_nodup : g.nodes.Nodup
  out_length : g.out.length = g.nodes.length
  into_length : g.into.length = g.nodes.length
  /-- A node leads to another if a link joins them. -/
  mem_out : ∀ i j, j ∈ g.outAt i ↔ ∃ l ∈ L,
    g.nodes[i]? = some (l.name, l.domain) ∧ g.nodes[j]? = some (l.role, l.domain)
  mem_into : ∀ i j, i ∈ g.intoAt j ↔ j ∈ g.outAt i
  out_nodup : ∀ i, (g.outAt i).Nodup
  into_nodup : ∀ j, (g.intoAt j).Nodup
  counts : Counts g.edgeCounts fun d => (L.filter (·.domain = d)).card
  /-- Both ends of a link are nodes. -/
  ends : ∀ l ∈ L, (l.name, l.domain) ∈ g.nodes ∧ (l.role, l.domain) ∈ g.nodes

/-! ### Lists by position -/

theorem getD_append_nil (xs : List (List Nat)) (i : Nat) :
  ((xs ++ [[]])[i]?).getD [] = (xs[i]?).getD []
  := by
  rw [List.getElem?_append]
  by_cases h : i < xs.length
  · rw [if_pos h]
  · rw [if_neg h, List.getElem?_eq_none (not_lt.mp h)]
    cases i - xs.length <;> rfl

theorem getD_modify (xs : List (List Nat)) (f : List Nat → List Nat) {a : Nat}
    (ha : a < xs.length) (i : Nat) :
  ((xs.modify a f)[i]?).getD [] = if i = a then f ((xs[a]?).getD []) else (xs[i]?).getD []
  := by
  rw [List.getElem?_modify]
  by_cases h : i = a
  · subst h
    rw [if_pos rfl, List.getElem?_eq_getElem ha]
    simp
  · rw [if_neg h]
    simp [Ne.symm h]

/-- A new node at the end leaves the others where they are. -/
theorem getElem?_concat_of_mem
    {nodes : List (Name × Name)} {x y : Name × Name} (hx : x ∉ nodes) (hy : y ∈ nodes) (i : Nat) :
  (nodes ++ [x])[i]? = some y ↔ nodes[i]? = some y
  := by
  rw [List.getElem?_append]
  by_cases h : i < nodes.length
  · rw [if_pos h]
  · rw [if_neg h, List.getElem?_eq_none (not_lt.mp h)]
    simp only [List.getElem?_singleton, reduceCtorEq, iff_false]
    split
    · rintro ⟨rfl⟩
      apply hx hy
    · simp

/-! ### Changes -/

/-- A link is added between the nodes of its ends. -/
theorem addLink_eq (g : RoleGraph) (name role domain : Name) :
  g.addLink name role domain =
    let a := (g.ensure name domain).2
    let h := ((g.ensure name domain).1.ensure role domain).1
    let b := ((g.ensure name domain).1.ensure role domain).2
    if (h.outAt a).contains b then h
    else
      { h with
        out := h.out.modify a (· ++ [b])
        into := h.into.modify b (· ++ [a])
        edgeCounts := increase domain h.edgeCounts }
  := rfl

namespace Stores

variable {g : RoleGraph} {L : Finset Link}

/-- A name in a domain is found where its node is. -/
theorem position?_eq_some_iff (h : Stores g L) (name domain : Name) (i : Nat) :
  g.position? name domain = some i ↔ g.nodes[i]? = some (name, domain)
  := by
  rw [position?, h.index_eq, lookup_zipIdx]
  simp only [Nat.add_zero, Option.map_id', List.idxOf?_eq_some_iff]
  constructor
  · rintro ⟨hi, hx, -⟩
    rw [List.getElem?_eq_getElem hi, hx]
  · intro hi
    obtain ⟨hlt, hx⟩ := List.getElem?_eq_some_iff.mp hi
    use hlt, hx
    intro j hj hjx
    have hj' : g.nodes[j]? = some (name, domain) := by
      rw [List.getElem?_eq_getElem (hj.trans hlt), hjx]
    have := position_unique h.nodes_nodup hi hj'
    omega

theorem position?_eq_none_iff (h : Stores g L) (name domain : Name) :
  g.position? name domain = none ↔ (name, domain) ∉ g.nodes
  := by
  rw [Option.eq_none_iff_forall_ne_some]
  simp only [ne_eq, h.position?_eq_some_iff, List.mem_iff_getElem?, not_exists]

/-- Only one link joins two nodes. -/
theorem link_unique
    {l k : Link} {a b : Nat} (ha : g.nodes[a]? = some (l.name, l.domain))
    (hb : g.nodes[b]? = some (l.role, l.domain)) (ha' : g.nodes[a]? = some (k.name, k.domain))
    (hb' : g.nodes[b]? = some (k.role, k.domain)) :
  k = l
  := by
  rw [ha, Option.some.injEq, Prod.mk.injEq] at ha'
  rw [hb, Option.some.injEq, Prod.mk.injEq] at hb'
  obtain ⟨n, r, d⟩ := l
  obtain ⟨n', r', d'⟩ := k
  obtain ⟨rfl, rfl⟩ := ha'
  obtain ⟨rfl, -⟩ := hb'
  rfl

/-- Two nodes are joined in the arena if the set has the link between them. -/
theorem mem_outAt_iff
    (h : Stores g L) {a b : Nat} {l : Link} (ha : g.nodes[a]? = some (l.name, l.domain))
    (hb : g.nodes[b]? = some (l.role, l.domain)) :
  b ∈ g.outAt a ↔ l ∈ L
  := by
  rw [h.mem_out]
  constructor
  · rintro ⟨k, hk, hak, hbk⟩
    rw [← link_unique ha hb hak hbk]
    apply hk
  · intro hl
    use l, hl, ha, hb

/-- A node is joined to the far ends of the links that it is the near end of. -/
theorem mem_edgesAt (h : Stores g L) (back : Bool) (i j : Nat) :
  j ∈ g.edgesAt back i ↔ ∃ l ∈ L,
    g.nodes[i]? = some (l.near back, l.domain) ∧ g.nodes[j]? = some (l.far back, l.domain)
  := by
  cases back with
  | false => apply h.mem_out
  | true =>
      change j ∈ g.intoAt i ↔ ∃ l ∈ L,
        g.nodes[i]? = some (l.role, l.domain) ∧ g.nodes[j]? = some (l.name, l.domain)
      rw [h.mem_into, h.mem_out]
      simp only [and_comm]

theorem near_mem (h : Stores g L) {l : Link} (hl : l ∈ L) (back : Bool) :
  (l.near back, l.domain) ∈ g.nodes
  := by
  cases back with
  | false => apply (h.ends l hl).1
  | true => apply (h.ends l hl).2

theorem far_mem (h : Stores g L) {l : Link} (hl : l ∈ L) (back : Bool) :
  (l.far back, l.domain) ∈ g.nodes
  := by
  cases back with
  | false => apply (h.ends l hl).2
  | true => apply (h.ends l hl).1

theorem empty (limit : DepthLimit) (names domains : Option NameMatcher) :
  Stores { limit, nameMatcher := names, domainMatcher := domains } ∅
  := by
  constructor
  · rfl
  · apply List.nodup_nil
  · rfl
  · rfl
  · simp [outAt]
  · simp [outAt, intoAt]
  · simp [outAt]
  · simp [intoAt]
  · constructor
    · apply List.nodup_nil
    · simp
    · intro d
      rfl
  · simp

/-- A new node changes nothing that is stored. -/
theorem ensure (h : Stores g L) (name domain : Name) :
  Stores (g.ensure name domain).1 L
  := by
  rw [RoleGraph.ensure]
  cases hp : g.position? name domain with
  | some i => apply h
  | none =>
      have hx := (h.position?_eq_none_iff name domain).mp hp
      constructor
      · rw [List.zipIdx_append, ← h.index_eq]
        simp
      · rw [← List.concat_eq_append]
        apply List.Nodup.concat hx h.nodes_nodup
      · simp [h.out_length]
      · simp [h.into_length]
      · intro i j
        rw [outAt, getD_append_nil]
        apply Iff.trans (h.mem_out i j)
        apply exists_congr
        intro l
        apply and_congr_right
        intro hl
        obtain ⟨hname, hrole⟩ := h.ends l hl
        rw [getElem?_concat_of_mem hx hname, getElem?_concat_of_mem hx hrole]
      · intro i j
        rw [outAt, intoAt, getD_append_nil, getD_append_nil]
        apply h.mem_into
      · intro i
        rw [outAt, getD_append_nil]
        apply h.out_nodup
      · intro j
        rw [intoAt, getD_append_nil]
        apply h.into_nodup
      · apply h.counts
      · intro l hl
        obtain ⟨hname, hrole⟩ := h.ends l hl
        use List.mem_append_left _ hname
        apply List.mem_append_left _ hrole

/-- The new node is at the position that comes with it. -/
theorem ensure_position (h : Stores g L) (name domain : Name) :
  (g.ensure name domain).1.nodes[(g.ensure name domain).2]? = some (name, domain)
  := by
  rw [RoleGraph.ensure]
  cases hp : g.position? name domain with
  | some i =>
      apply (h.position?_eq_some_iff name domain i).mp hp
  | none =>
      rw [List.getElem?_append_right le_rfl, Nat.sub_self]
      rfl

/-- The position of a pair of nodes in the sets of their ends. -/
theorem position_lt (h : Stores g L) {i : Nat} {x : Name × Name} (hi : g.nodes[i]? = some x) :
  i < g.out.length ∧ i < g.into.length
  := by
  obtain ⟨hlt, -⟩ := List.getElem?_eq_some_iff.mp hi
  rw [h.out_length, h.into_length]
  use hlt

/-- The edges between two nodes may be changed as the link between the nodes is changed in
the set. -/
theorem rewire
    (h : Stores g L) {a b : Nat} {l : Link} (ha : g.nodes[a]? = some (l.name, l.domain))
    (hb : g.nodes[b]? = some (l.role, l.domain)) {L' : Finset Link}
    (hothers : ∀ k, k ≠ l → (k ∈ L' ↔ k ∈ L)) {f f' : List Nat → List Nat}
    (hf : ∀ j, j ∈ f (g.outAt a) ↔ if j = b then l ∈ L' else j ∈ g.outAt a)
    (hf' : ∀ i, i ∈ f' (g.intoAt b) ↔ if i = a then l ∈ L' else i ∈ g.intoAt b)
    (hnodup : (f (g.outAt a)).Nodup) (hnodup' : (f' (g.intoAt b)).Nodup)
    {counts : List (Name × Nat)} (hcounts : Counts counts fun d => (L'.filter (·.domain = d)).card) :
  Stores
    { g with
      out := g.out.modify a f
      into := g.into.modify b f'
      edgeCounts := counts }
    L'
  := by
  have hout := getD_modify g.out f (h.position_lt ha).1
  have hinto := getD_modify g.into f' (h.position_lt hb).2
  -- between other nodes than these two there are the links that there were
  have hlinks : ∀ i j, (∃ k ∈ L', g.nodes[i]? = some (k.name, k.domain) ∧
      g.nodes[j]? = some (k.role, k.domain)) ↔ if i = a ∧ j = b then l ∈ L' else j ∈ g.outAt i := by
    intro i j
    split
    case isTrue hij =>
      obtain ⟨rfl, rfl⟩ := hij
      constructor
      · rintro ⟨k, hk, hi, hj⟩
        rw [← link_unique ha hb hi hj]
        apply hk
      · intro hl
        use l, hl, ha, hb
    case isFalse hij =>
      rw [h.mem_out]
      apply exists_congr
      intro k
      apply and_congr_left
      rintro ⟨hi, hj⟩
      apply hothers
      rintro rfl
      apply hij
      use position_unique h.nodes_nodup hi ha
      apply position_unique h.nodes_nodup hj hb
  constructor
  · apply h.index_eq
  · apply h.nodes_nodup
  · rw [List.length_modify]
    apply h.out_length
  · rw [List.length_modify]
    apply h.into_length
  · intro i j
    rw [outAt, hout, hlinks]
    by_cases hi : i = a
    · rw [if_pos hi, hi]
      apply (hf j).trans
      simp
    · rw [if_neg hi, if_neg fun hij => hi hij.1]
      rfl
  · intro i j
    rw [outAt, intoAt, hout, hinto]
    have hij := h.mem_into i j
    by_cases hi : i = a <;> by_cases hj : j = b
    · rw [if_pos hi, if_pos hj, hi, hj]
      apply (hf' a).trans
      rw [if_pos rfl]
      symm
      apply (hf b).trans
      rw [if_pos rfl]
    · rw [if_pos hi, if_neg hj]
      apply hij.trans
      symm
      apply (hf j).trans
      rw [if_neg hj, hi]
    · rw [if_neg hi, if_pos hj]
      apply (hf' i).trans
      rw [if_neg hi, ← hj]
      apply hij
    · rw [if_neg hi, if_neg hj]
      apply hij
  · intro i
    rw [outAt, hout]
    split
    · apply hnodup
    · apply h.out_nodup i
  · intro j
    rw [intoAt, hinto]
    split
    · apply hnodup'
    · apply h.into_nodup j
  · apply hcounts
  · intro k hk
    by_cases hkl : k = l
    · rw [hkl]
      use List.mem_of_getElem? ha
      apply List.mem_of_getElem? hb
    · apply h.ends k ((hothers k hkl).mp hk)

/-- A new edge between two nodes stores the link between them. -/
theorem join
    (h : Stores g L) {a b : Nat} {l : Link} (ha : g.nodes[a]? = some (l.name, l.domain))
    (hb : g.nodes[b]? = some (l.role, l.domain)) (hl : l ∉ L) :
  Stores
    { g with
      out := g.out.modify a (· ++ [b])
      into := g.into.modify b (· ++ [a])
      edgeCounts := increase l.domain g.edgeCounts }
    (insert l L)
  := by
  have hout : b ∉ g.outAt a := fun hab => hl ((h.mem_outAt_iff ha hb).mp hab)
  have hinto : a ∉ g.intoAt b := fun hab => hout ((h.mem_into a b).mp hab)
  have happend : ∀ (xs : List Nat) (n m : Nat),
      m ∈ xs ++ [n] ↔ if m = n then l ∈ insert l L else m ∈ xs := by
    intro xs n m
    rw [List.mem_append, List.mem_singleton]
    split
    case isTrue hm => simp [hm]
    case isFalse hm => simp [hm]
  apply h.rewire ha hb
  · intro k hk
    rw [Finset.mem_insert]
    simp [hk]
  · apply happend
  · apply happend
  · rw [← List.concat_eq_append]
    apply List.Nodup.concat hout (h.out_nodup a)
  · rw [← List.concat_eq_append]
    apply List.Nodup.concat hinto (h.into_nodup b)
  · apply h.counts.increase
    intro e
    rw [Finset.filter_insert]
    by_cases he : l.domain = e
    · rw [if_pos he, if_pos he.symm, Finset.card_insert_of_notMem]
      simp [hl]
    · rw [if_neg he, if_neg (Ne.symm he)]
      rfl

/-- Without the edge between two nodes the link between them is not stored. -/
theorem part
    (h : Stores g L) {a b : Nat} {l : Link} (ha : g.nodes[a]? = some (l.name, l.domain))
    (hb : g.nodes[b]? = some (l.role, l.domain)) (hl : l ∈ L) :
  Stores
    { g with
      out := g.out.modify a (·.erase b)
      into := g.into.modify b (·.erase a)
      edgeCounts := decrease l.domain g.edgeCounts }
    (L.erase l)
  := by
  have herase : ∀ {xs : List Nat}, xs.Nodup → ∀ n m : Nat,
      m ∈ xs.erase n ↔ if m = n then l ∈ L.erase l else m ∈ xs := by
    intro xs hxs n m
    rw [hxs.mem_erase_iff]
    split
    case isTrue hm => simp [hm]
    case isFalse hm => simp [hm]
  apply h.rewire ha hb
  · intro k hk
    rw [Finset.mem_erase]
    simp [hk]
  · apply herase (h.out_nodup a)
  · apply herase (h.into_nodup b)
  · apply (h.out_nodup a).erase
  · apply (h.into_nodup b).erase
  · apply h.counts.decrease
    intro e
    rw [Finset.filter_erase]
    by_cases he : l.domain = e
    · rw [if_pos he.symm, Finset.card_erase_of_mem]
      simp [hl, he]
    · rw [if_neg (Ne.symm he), Finset.erase_eq_of_notMem]
      · rfl
      · simp [he]

/-- A node keeps its position when another is added. -/
theorem ensure_keeps
    (name domain : Name) {i : Nat} {x : Name × Name} (hi : g.nodes[i]? = some x) :
  (g.ensure name domain).1.nodes[i]? = some x
  := by
  rw [RoleGraph.ensure]
  cases g.position? name domain with
  | some j => apply hi
  | none =>
      obtain ⟨hlt, -⟩ := List.getElem?_eq_some_iff.mp hi
      rw [List.getElem?_append_left hlt]
      apply hi

/-- A link that is added is stored, together with those stored before. -/
theorem addLink (h : Stores g L) (l : Link) :
  Stores (g.addLink l.name l.role l.domain) (insert l L)
  := by
  have h₁ := h.ensure l.name l.domain
  have h₂ := h₁.ensure l.role l.domain
  have ha := ensure_keeps l.role l.domain (h.ensure_position l.name l.domain)
  have hb := h₁.ensure_position l.role l.domain
  rw [addLink_eq]
  dsimp only
  split
  case isTrue hab =>
    have hl := (h₂.mem_outAt_iff ha hb).mp (List.contains_iff_mem.mp hab)
    rw [Finset.insert_eq_of_mem hl]
    apply h₂
  case isFalse hab =>
    apply h₂.join ha hb
    intro hl
    apply hab (List.contains_iff_mem.mpr ((h₂.mem_outAt_iff ha hb).mpr hl))

/-- A link that is deleted is not stored any more, and the answer tells whether it was. -/
theorem deleteLink (h : Stores g L) (l : Link) :
  Stores (g.deleteLink l.name l.role l.domain).1 (L.erase l)
    ∧ (g.deleteLink l.name l.role l.domain).2 = decide (l ∈ L)
  := by
  have absent (hl : l ∉ L) : Stores g (L.erase l) ∧ false = decide (l ∈ L) := by
    rw [Finset.erase_eq_of_notMem hl, decide_eq_false hl]
    use h
  rw [RoleGraph.deleteLink]
  split
  case h_1 a b ha hb =>
    rw [h.position?_eq_some_iff] at ha hb
    have hab := h.mem_outAt_iff ha hb
    by_cases hl : l ∈ L
    · rw [if_pos (List.contains_iff_mem.mpr (hab.mpr hl)), decide_eq_true hl]
      use h.part ha hb hl
    · rw [if_neg fun hc => hl (hab.mp (List.contains_iff_mem.mp hc))]
      apply absent hl
  case h_2 hnone =>
    apply absent
    intro hl
    obtain ⟨hname, hrole⟩ := h.ends l hl
    obtain ⟨a, ha⟩ := List.mem_iff_getElem?.mp hname
    obtain ⟨b, hb⟩ := List.mem_iff_getElem?.mp hrole
    apply hnone a b
    · apply (h.position?_eq_some_iff _ _ _).mpr ha
    · apply (h.position?_eq_some_iff _ _ _).mpr hb

/-- A change of a graph changes the set that it stores. -/
theorem change (h : Stores g L) (c : LinkChange) :
  Stores (c.onGraph g) (c.onLinks L)
  := by
  cases c with
  | add l => apply h.addLink
  | delete l => apply (h.deleteLink l).1
  | clear => apply Stores.empty

/-- A graph that was changed over and over stores the links that are left. -/
theorem changes (h : Stores g L) (cs : List LinkChange) :
  Stores (cs.foldl LinkChange.onGraph g) (cs.foldl LinkChange.onLinks L)
  := by
  induction cs generalizing g L with
  | nil => apply h
  | cons c rest ih => apply ih (h.change c)

end Stores

/-! ### What changes keep -/

/-- Two graphs have the same limit and the same matchers. -/
structure SameRules (g h : RoleGraph) : Prop where
  limit : g.limit = h.limit
  names : g.nameMatcher = h.nameMatcher
  domains : g.domainMatcher = h.domainMatcher

namespace SameRules

variable {g h k : RoleGraph}

theorem refl (g : RoleGraph) : SameRules g g := ⟨rfl, rfl, rfl⟩

theorem symm (hg : SameRules g h) : SameRules h g := ⟨hg.limit.symm, hg.names.symm, hg.domains.symm⟩

theorem trans (hg : SameRules g h) (hh : SameRules h k) :
  SameRules g k
  := by
  constructor
  · rw [hg.limit, hh.limit]
  · rw [hg.names, hh.names]
  · rw [hg.domains, hh.domains]

theorem ensure (g : RoleGraph) (name domain : Name) :
  SameRules (g.ensure name domain).1 g
  := by
  rw [RoleGraph.ensure]
  split <;> exact ⟨rfl, rfl, rfl⟩

theorem addLink (g : RoleGraph) (name role domain : Name) :
  SameRules (g.addLink name role domain) g
  := by
  have h := (ensure (g.ensure name domain).1 role domain).trans (ensure g name domain)
  rw [addLink_eq]
  dsimp only
  split
  · apply h
  · exact ⟨h.limit, h.names, h.domains⟩

theorem deleteLink (g : RoleGraph) (name role domain : Name) :
  SameRules (g.deleteLink name role domain).1 g
  := by
  rw [RoleGraph.deleteLink]
  split
  · split <;> exact ⟨rfl, rfl, rfl⟩
  · apply refl

/-- No change of the links of a graph touches its limit or its matchers. -/
theorem changes (g : RoleGraph) (cs : List LinkChange) :
  SameRules (cs.foldl LinkChange.onGraph g) g
  := by
  induction cs generalizing g with
  | nil => apply refl
  | cons c rest ih =>
      apply (ih (c.onGraph g)).trans
      cases c with
      | add l => apply addLink
      | delete l => apply deleteLink
      | clear => exact ⟨rfl, rfl, rfl⟩

end SameRules

end RoleGraph

end AccessControl
