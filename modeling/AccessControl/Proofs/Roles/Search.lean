import AccessControl.Proofs.Roles.Arena

/-!
# Searches

A question about roles is answered by a search of an arena, level by level.  Where the
matchers of a graph are tests that always answer, every part of the search gives an answer,
and the answer of the whole is `RoleGraph.search_spec`: the goal is met from one of the nodes
that the search starts with after fewer moves than there are levels.
-/

namespace AccessControl

/-- The matcher that asks a test. -/
def NameMatcher.ofTest (m : Name → Name → Bool) : NameMatcher := fun x y => .ok (m x y)

/-- A name is another one, or a test says that it stands for it. -/
def standsFor (M : Option (Name → Name → Bool)) (x y : Name) : Bool :=
  x == y || M.any fun m => m x y

@[simp] theorem standsFor_self (M : Option (Name → Name → Bool)) (x : Name) :
  standsFor M x x
  := by
  simp [standsFor]

theorem standsFor_none (x y : Name) :
  standsFor none x y ↔ x = y
  := by
  simp [standsFor]

namespace RoleGraph

/-- The matchers of a graph ask a test of names and a test of domains, where they are. -/
structure Asks (g : RoleGraph) (M D : Option (Name → Name → Bool)) : Prop where
  names : g.nameMatcher = M.map NameMatcher.ofTest
  domains : g.domainMatcher = D.map NameMatcher.ofTest

variable {g : RoleGraph} {L : Finset Link} {M D : Option (Name → Name → Bool)}

/-! ### Names and domains -/

theorem namesMatch_eq (ha : Asks g M D) (x y : Name) :
  g.namesMatch x y = .ok (standsFor M x y)
  := by
  rw [namesMatch, ha.names, standsFor]
  by_cases h : x = y
  · simp [h]
  · rw [if_neg h, beq_false_of_ne h]
    cases M <;> rfl

theorem filterE_ok {α : Type} (p : α → Bool) (xs : List α) :
  filterE (fun x => .ok (p x)) xs = .ok (xs.filter p)
  := by
  induction xs with
  | nil => rfl
  | cons x rest ih =>
      rw [filterE, ih, List.filter_cons]
      cases p x <;> rfl

/-- The domains in which a question about a domain is answered. -/
def scope (g : RoleGraph) (D : Option (Name → Name → Bool)) (d : Name) : List Name :=
  d :: ((g.edgeCounts.map (·.1)).filter (· != d)).filter fun e => D.any fun m => m d e

theorem domainsFor_eq (ha : Asks g M D) (d : Name) :
  g.domainsFor d = .ok (g.scope D d)
  := by
  rw [domainsFor, ha.domains, scope]
  cases D with
  | none => simp
  | some m =>
      have hm : NameMatcher.ofTest m d = fun e => .ok (m d e) := rfl
      simp only [Option.map_some, Option.any_some, hm, filterE_ok]
      rfl

/-- Those domains are the domain itself and the domains of links that it stands for. -/
theorem mem_scope (h : Stores g L) (d e : Name) :
  e ∈ g.scope D d ↔ e = d ∨ (∃ l ∈ L, l.domain = e) ∧ ∃ m ∈ D, m d e
  := by
  have hlinks : e ∈ g.edgeCounts.map (·.1) ↔ ∃ l ∈ L, l.domain = e := by
    rw [h.counts.mem_keys, Finset.card_pos]
    simp [Finset.Nonempty]
  rw [scope, List.mem_cons, List.mem_filter, List.mem_filter, hlinks, Option.any_eq_true]
  by_cases hd : e = d
  · simp [hd]
  · simp [hd, Option.mem_def]

/-! ### Nodes of a name -/

theorem patternNodes_spec
    (m : Name → Name → Bool) (name : Name) (domains : List Name) (found : List Nat)
    (table : List ((Name × Name) × Nat)) :
  ∃ found', patternNodes (NameMatcher.ofTest m) name domains found table = .ok found' ∧
    ∀ i, i ∈ found' ↔ i ∈ found ∨
      ∃ y e, ((y, e), i) ∈ table ∧ e ∈ domains ∧ y ≠ name ∧ m name y
  := by
  induction table generalizing found with
  | nil => simp [patternNodes]
  | cons entry rest ih =>
      obtain ⟨⟨y, e⟩, j⟩ := entry
      have hcons : ∀ i,
          (∃ y' e', ((y', e'), i) ∈ ((y, e), j) :: rest ∧ e' ∈ domains ∧ y' ≠ name ∧ m name y') ↔
            (i = j ∧ e ∈ domains ∧ y ≠ name ∧ m name y) ∨
              ∃ y' e', ((y', e'), i) ∈ rest ∧ e' ∈ domains ∧ y' ≠ name ∧ m name y' := by
        intro i
        constructor
        · rintro ⟨y', e', hmem, hholds⟩
          obtain heq | hmem := List.mem_cons.mp hmem
          · obtain ⟨⟨rfl, rfl⟩, rfl⟩ := heq
            left
            use rfl
          · right
            exact ⟨y', e', hmem, hholds⟩
        · rintro (⟨rfl, hholds⟩ | ⟨y', e', hmem, hholds⟩)
          · exact ⟨y, e, List.mem_cons_self, hholds⟩
          · exact ⟨y', e', List.mem_cons_of_mem _ hmem, hholds⟩
      rw [patternNodes]
      split
      case isTrue hnew =>
        have hstep : NameMatcher.ofTest m name y = .ok (m name y) := rfl
        obtain ⟨found', hfound', hmem⟩ := ih (if m name y then found ++ [j] else found)
        use found'
        rw [hstep]
        use hfound'
        intro i
        simp only [Bool.and_eq_true, List.contains_iff_mem, bne_iff_ne, ne_eq] at hnew
        obtain ⟨⟨he, hy⟩, -⟩ := hnew
        rw [hmem, hcons]
        by_cases hm : m name y
        · rw [if_pos hm, List.mem_append, List.mem_singleton, or_assoc]
          simp [he, hy, hm]
        · rw [if_neg hm]
          simp [hm]
      case isFalse hold =>
        obtain ⟨found', hfound', hmem⟩ := ih found
        use found', hfound'
        intro i
        -- a node that is passed over although its name matches was found before
        have hfound : (i = j ∧ e ∈ domains ∧ y ≠ name ∧ m name y) → i ∈ found := by
          rintro ⟨rfl, he, hy, -⟩
          by_contra hi
          apply hold
          simp [he, hy, hi]
        rw [hmem, hcons, ← or_assoc, or_iff_left_of_imp hfound]

/-- A node stands for a name in some domains. -/
def Serves (g : RoleGraph) (M : Option (Name → Name → Bool)) (name : Name) (domains : List Name)
    (i : Nat) : Prop :=
  ∃ y, ∃ e ∈ domains, g.nodes[i]? = some (y, e) ∧ standsFor M name y

/-- The nodes that are found for a name are those that stand for it. -/
theorem lookup_spec (h : Stores g L) (ha : Asks g M D) (name : Name) (domains : List Name) :
  ∃ found, g.lookup name domains = .ok found ∧ ∀ i, i ∈ found ↔ g.Serves M name domains i
  := by
  have hexact : ∀ i, i ∈ domains.filterMap (fun d => g.position? name d) ↔
      ∃ e ∈ domains, g.nodes[i]? = some (name, e) := by
    intro i
    simp only [List.mem_filterMap, h.position?_eq_some_iff]
  rw [lookup, ha.names]
  cases M with
  | none =>
      refine ⟨_, rfl, ?_⟩
      intro i
      rw [hexact]
      constructor
      · rintro ⟨e, he, hi⟩
        exact ⟨name, e, he, hi, standsFor_self none name⟩
      · rintro ⟨y, e, he, hi, hy⟩
        rw [(standsFor_none name y).mp hy]
        exact ⟨e, he, hi⟩
  | some m =>
      obtain ⟨found, hfound, hmem⟩ :=
        patternNodes_spec m name domains (domains.filterMap fun d => g.position? name d) g.index
      refine ⟨found, hfound, ?_⟩
      intro i
      have hindex : ∀ y e, ((y, e), i) ∈ g.index ↔ g.nodes[i]? = some (y, e) := by
        intro y e
        rw [h.index_eq, List.mk_mem_zipIdx_iff_getElem?]
      rw [hmem, hexact]
      simp only [hindex]
      constructor
      · rintro (⟨e, he, hi⟩ | ⟨y, e, hi, he, -, hy⟩)
        · exact ⟨name, e, he, hi, standsFor_self _ name⟩
        · refine ⟨y, e, he, hi, ?_⟩
          rw [standsFor, Option.any_some, hy, Bool.or_true]
      · rintro ⟨y, e, he, hi, hy⟩
        by_cases hname : name = y
        · left
          rw [hname]
          exact ⟨e, he, hi⟩
        · right
          rw [standsFor, beq_false_of_ne hname, Option.any_some, Bool.false_or] at hy
          exact ⟨y, e, hi, he, Ne.symm hname, hy⟩

/-! ### Levels -/

/-- The nodes that are visited, and those of the next level, after some more nodes. -/
theorem visit_spec (items visited next : List Nat) (i : Nat) :
  (i ∈ (visit visited next items).1 ↔ i ∈ visited ∨ i ∈ items) ∧
  (i ∈ (visit visited next items).2 ↔ i ∈ next ∨ i ∉ visited ∧ i ∈ items)
  := by
  induction items generalizing visited next with
  | nil => simp [visit]
  | cons j rest ih =>
      rw [visit]
      split
      case isTrue hj =>
        rw [List.contains_iff_mem] at hj
        rw [(ih visited next).1, (ih visited next).2, List.mem_cons]
        by_cases hi : i = j
        · subst hi
          simp [hj]
        · simp [hi]
      case isFalse hj =>
        rw [List.contains_iff_mem] at hj
        rw [(ih _ _).1, (ih _ _).2, List.mem_append, List.mem_append, List.mem_singleton,
          List.mem_cons]
        by_cases hi : i = j
        · subst hi
          simp [hj]
        · simp [hi]

/-- The search goes from a role to itself and to the nodes that stand for its name. -/
def Reaches (g : RoleGraph) (M : Option (Name → Name → Bool)) (domains : List Name)
    (t i : Nat) : Prop :=
  i = t ∨ g.Serves M (g.nameAt t) domains i

/-- The roles of a level either meet the goal or lead to the nodes of the next level. -/
theorem expand_spec
    (h : Stores g L) (ha : Asks g M D) (goal : Name) (domains : List Name)
    (targets visited next : List Nat) :
  ((∃ t ∈ targets, standsFor M goal (g.nameAt t)) ∧
    g.expand goal domains visited next targets = .ok none) ∨
  ((∀ t ∈ targets, ¬ standsFor M goal (g.nameAt t)) ∧
    ∃ visited' next', g.expand goal domains visited next targets = .ok (some (visited', next')) ∧
      ∀ i,
        (i ∈ visited' ↔ i ∈ visited ∨ ∃ t ∈ targets, g.Reaches M domains t i) ∧
        (i ∈ next' ↔ i ∈ next ∨ i ∉ visited ∧ ∃ t ∈ targets, g.Reaches M domains t i))
  := by
  induction targets generalizing visited next with
  | nil =>
      right
      simp [expand]
  | cons t rest ih =>
      rw [expand]
      simp only [namesMatch_eq ha]
      by_cases hgoal : standsFor M goal (g.nameAt t)
      · left
        use ⟨t, List.mem_cons_self, hgoal⟩
        rw [hgoal]
        rfl
      · obtain ⟨same, hsame, hmem⟩ := lookup_spec h ha (g.nameAt t) domains
        have hvisit := visit_spec (t :: same) visited next
        have hstep : ∀ i, i ∈ t :: same ↔ g.Reaches M domains t i := by
          intro i
          rw [List.mem_cons, hmem, Reaches]
        rw [hsame]
        simp only [hstep] at hvisit
        simp only [Bool.not_eq_true] at hgoal
        rw [hgoal]
        obtain ⟨⟨t', ht', hgoal'⟩, heq⟩ | ⟨hnone, visited', next', heq, hiff⟩ :=
          ih (visit visited next (t :: same)).1 (visit visited next (t :: same)).2
        · left
          use ⟨t', List.mem_cons_of_mem _ ht', hgoal'⟩
          apply heq
        · right
          constructor
          · rw [List.forall_mem_cons]
            use by simp [hgoal]
          · use visited', next', heq
            intro i
            rw [(hiff i).1, (hiff i).2, (hvisit i).1, (hvisit i).2]
            simp only [List.mem_cons, exists_eq_or_imp]
            constructor
            · rw [or_assoc]
            · by_cases hi : i ∈ visited
              · simp [hi]
              · by_cases ht : g.Reaches M domains t i
                · simp [hi, ht]
                · simp [hi, ht]

/-! ### Searches -/

/-- From a node the goal is met after some moves, each to a node that a role reaches. -/
inductive Meets (g : RoleGraph) (M : Option (Name → Name → Bool)) (goal : Name)
    (domains : List Name) : Nat → Nat → Prop
  | here {i t : Nat} (ht : t ∈ g.outAt i) (hgoal : standsFor M goal (g.nameAt t)) :
      Meets g M goal domains 0 i
  | move {k i t j : Nat} (ht : t ∈ g.outAt i) (hj : g.Reaches M domains t j)
      (hmeets : Meets g M goal domains k j) : Meets g M goal domains (k + 1) i

/-- The nodes that are visited but not on the frontier are done with: the goal is not met
there, and every move from them leads to a visited node. -/
structure Explored (g : RoleGraph) (M : Option (Name → Name → Bool)) (goal : Name)
    (domains : List Name) (visited frontier : List Nat) : Prop where
  subset : ∀ i ∈ frontier, i ∈ visited
  missed : ∀ i ∈ visited, i ∉ frontier → ∀ t ∈ g.outAt i, ¬ standsFor M goal (g.nameAt t)
  closed : ∀ i ∈ visited, i ∉ frontier → ∀ t ∈ g.outAt i, ∀ j, g.Reaches M domains t j →
    j ∈ visited

namespace Explored

variable {goal : Name} {domains : List Name} {visited frontier : List Nat}

/-- What meets the goal from a visited node meets it from the frontier, and no later. -/
theorem meets_frontier
    (he : Explored g M goal domains visited frontier) {k i : Nat} (hi : i ∈ visited)
    (hmeets : Meets g M goal domains k i) :
  ∃ k' ≤ k, ∃ j ∈ frontier, Meets g M goal domains k' j
  := by
  induction hmeets with
  | @here i t ht hgoal =>
      by_cases hf : i ∈ frontier
      · use 0, le_rfl, i, hf
        apply Meets.here ht hgoal
      · exact absurd hgoal (he.missed i hi hf t ht)
  | @move k i t j ht hj hmeets ih =>
      by_cases hf : i ∈ frontier
      · use k + 1, le_rfl, i, hf
        apply Meets.move ht hj hmeets
      · obtain ⟨k', hk', hrest⟩ := ih (he.closed i hi hf t ht j hj)
        exact ⟨k', by omega, hrest⟩

/-- The next level is the frontier of what is visited after it. -/
theorem expand
    (he : Explored g M goal domains visited frontier) {visited' next : List Nat}
    (hmiss : ∀ t ∈ frontier.flatMap g.outAt, ¬ standsFor M goal (g.nameAt t))
    (hvisited : ∀ i, i ∈ visited' ↔
      i ∈ visited ∨ ∃ t ∈ frontier.flatMap g.outAt, g.Reaches M domains t i)
    (hnext : ∀ i, i ∈ next ↔
      i ∉ visited ∧ ∃ t ∈ frontier.flatMap g.outAt, g.Reaches M domains t i) :
  Explored g M goal domains visited' next
  := by
  have hold : ∀ i ∈ visited', i ∉ next → i ∈ visited := by
    intro i hi hn
    obtain hi | hi := (hvisited i).mp hi
    · apply hi
    · by_contra hv
      apply hn ((hnext i).mpr ⟨hv, hi⟩)
  constructor
  · intro i hi
    apply (hvisited i).mpr
    right
    apply ((hnext i).mp hi).2
  · intro i hi hn t ht
    by_cases hf : i ∈ frontier
    · apply hmiss t (List.mem_flatMap.mpr ⟨i, hf, ht⟩)
    · apply he.missed i (hold i hi hn) hf t ht
  · intro i hi hn t ht j hj
    apply (hvisited j).mpr
    by_cases hf : i ∈ frontier
    · right
      use t, List.mem_flatMap.mpr ⟨i, hf, ht⟩
    · left
      apply he.closed i (hold i hi hn) hf t ht j hj

end Explored

/-- A search meets its goal if that is met from the frontier after fewer moves than there
are levels. -/
theorem search_spec
    (h : Stores g L) (ha : Asks g M D) (goal : Name) (domains : List Name) (levels : Nat)
    {visited frontier : List Nat} (he : Explored g M goal domains visited frontier) :
  ∃ met, g.search goal domains levels visited frontier = .ok met ∧
    (met = true ↔ ∃ k < levels, ∃ i ∈ frontier, Meets g M goal domains k i)
  := by
  induction levels generalizing visited frontier with
  | zero => exact ⟨false, rfl, by simp⟩
  | succ levels ih =>
      rw [search.eq_def]
      dsimp only
      split
      case h_1 => exact ⟨false, rfl, by simp⟩
      case h_2 hnonempty =>
        obtain ⟨⟨t, ht, hgoal⟩, heq⟩ | ⟨hmiss, visited', next, heq, hiff⟩ :=
          expand_spec h ha goal domains (frontier.flatMap g.outAt) visited []
        · obtain ⟨i, hi, ht⟩ := List.mem_flatMap.mp ht
          rw [heq]
          refine ⟨true, rfl, ?_⟩
          simp only [true_iff]
          use 0, Nat.succ_pos levels, i, hi
          apply Meets.here ht hgoal
        · have hnext : ∀ i, i ∈ next ↔
              i ∉ visited ∧ ∃ t ∈ frontier.flatMap g.outAt, g.Reaches M domains t i := by
            intro i
            rw [(hiff i).2]
            simp
          have he' := he.expand hmiss (fun i => (hiff i).1) hnext
          obtain ⟨met, hmet, hmet'⟩ := ih he'
          rw [heq]
          refine ⟨met, hmet, hmet'.trans ?_⟩
          constructor
          · rintro ⟨k, hk, j, hj, hmeets⟩
            obtain ⟨-, t, ht, hreach⟩ := (hnext j).mp hj
            obtain ⟨i, hi, ht⟩ := List.mem_flatMap.mp ht
            use k + 1, Nat.succ_lt_succ hk, i, hi
            apply Meets.move ht hreach hmeets
          · rintro ⟨k, hk, i, hi, hmeets⟩
            cases hmeets with
            | @here _ t ht hgoal =>
                exact absurd hgoal (hmiss t (List.mem_flatMap.mpr ⟨i, hi, ht⟩))
            | @move k _ t j ht hj hmeets =>
                have hvisited : j ∈ visited' := by
                  apply ((hiff j).1).mpr
                  right
                  use t, List.mem_flatMap.mpr ⟨i, hi, ht⟩
                obtain ⟨k', hk', hrest⟩ := he'.meets_frontier hvisited hmeets
                exact ⟨k', by omega, hrest⟩

/-- At the start of a search only the frontier is visited. -/
theorem explored_start (goal : Name) (domains : List Name) (start : List Nat) :
  Explored g M goal domains start start
  := by
  constructor
  · intro i hi
    apply hi
  · intro i hi hn
    exact absurd hi hn
  · intro i hi hn
    exact absurd hi hn

end RoleGraph

end AccessControl
