import AccessControl.Model.Links
import AccessControl.Proofs.Roles.Closure

/-!
# Role rows

The graph that is built from role rows.  Its links are those of the rows, and for rows of a
user and a role it links a name to the roles that the rows give it, directly or by
inheritance: `RoleGraph.hasLink_rebuild`.
-/

namespace AccessControl

/-- The link of a role row. -/
def linkOf? : Row → Option Link
  | name :: role :: rest => some ⟨.text name, .text role, .text (rest.headD "")⟩
  | _ => none

/-- The links of some role rows. -/
def linksOf (rows : List Row) : Finset Link := (rows.filterMap linkOf?).toFinset

theorem mem_linksOf {rows : List Row} {l : Link} :
  l ∈ linksOf rows ↔ ∃ row ∈ rows, linkOf? row = some l
  := by
  rw [linksOf, List.mem_toFinset, List.mem_filterMap]

theorem linksOf_cons (row : Row) (rows : List Row) :
  linksOf (row :: rows) =
    match linkOf? row with
    | some l => insert l (linksOf rows)
    | none => linksOf rows
  := by
  rw [linksOf, List.filterMap_cons]
  cases linkOf? row with
  | none => rfl
  | some l => apply List.toFinset_cons

namespace RoleGraph

variable {g : RoleGraph}

/-- A role row adds its link. -/
theorem addRow_eq (g : RoleGraph) (row : Row) :
  g.addRow row =
    match linkOf? row with
    | some l => g.addLink l.name l.role l.domain
    | none => g
  := by
  rcases row with _ | ⟨name, _ | ⟨role, rest⟩⟩ <;> rfl

theorem Stores.addRows {L : Finset Link} (h : Stores g L) (rows : List Row) :
  Stores (rows.foldl RoleGraph.addRow g) (L ∪ linksOf rows)
  := by
  induction rows generalizing g L with
  | nil =>
      rw [show linksOf [] = ∅ from rfl, Finset.union_empty]
      apply h
  | cons row rest ih =>
      rw [List.foldl_cons, addRow_eq, linksOf_cons]
      cases linkOf? row with
      | none => apply ih h
      | some l =>
          rw [Finset.union_insert, ← Finset.insert_union]
          apply ih (h.addLink l)

theorem SameRules.addRows (g : RoleGraph) (rows : List Row) :
  SameRules (rows.foldl RoleGraph.addRow g) g
  := by
  induction rows generalizing g with
  | nil => apply refl
  | cons row rest ih =>
      apply (ih (g.addRow row)).trans
      rw [addRow_eq]
      cases linkOf? row with
      | none => apply refl
      | some l => apply addLink

/-- A graph that is built anew stores the links of the rows it is built from. -/
theorem Stores.rebuild (g : RoleGraph) (rows : List Row) :
  Stores (g.rebuild rows) (linksOf rows)
  := by
  have h := (Stores.empty g.limit g.nameMatcher g.domainMatcher).addRows rows
  rw [Finset.empty_union] at h
  apply h

/-- A graph that is built anew keeps its limit and its matchers. -/
theorem SameRules.rebuild (g : RoleGraph) (rows : List Row) :
  SameRules (g.rebuild rows) g
  := (SameRules.addRows g.clear rows).trans ⟨rfl, rfl, rfl⟩

theorem given_addLink (g : RoleGraph) (name role domain : Name) :
  (g.addLink name role domain).given = g.given
  := by
  have hensure : ∀ (g : RoleGraph) (name domain : Name), (g.ensure name domain).1.given = g.given := by
    intro g name domain
    rw [ensure]
    cases g.position? name domain <;> rfl
  rw [addLink]
  dsimp only
  split <;> simp only [hensure]

theorem given_deleteLink (g : RoleGraph) (name role domain : Name) :
  (g.deleteLink name role domain).1.given = g.given
  := by
  rw [deleteLink]
  split
  · split <;> rfl
  · rfl

/-- The names of a graph that is built from rows are given by texts. -/
theorem given_rebuild (g : RoleGraph) (rows : List Row) :
  (g.rebuild rows).given = []
  := by
  have hrows : ∀ g : RoleGraph, (rows.foldl addRow g).given = g.given := by
    induction rows with
    | nil => intro g; rfl
    | cons row rest ih =>
        intro g
        rw [List.foldl_cons, ih, addRow_eq]
        cases linkOf? row with
        | none => rfl
        | some l => apply given_addLink
  apply hrows

/-- A graph that is built anew is built from the new rows alone. -/
theorem rebuild_rebuild (g : RoleGraph) (rows rows' : List Row) :
  (g.rebuild rows).rebuild rows' = g.rebuild rows'
  := by
  have h := SameRules.rebuild g rows
  rw [rebuild, clear, h.limit, h.names, h.domains]
  rfl

end RoleGraph

/-- Graphs that are built anew are built from the new model alone. -/
theorem Model.link_link (m m' : Model) (graphs : RoleGraphs) :
  m'.link (m.link graphs) = m'.link graphs
  := by
  rw [link, link, List.map_map]
  apply List.map_congr_left
  rintro ⟨key, g⟩ -
  simp only [Function.comp, RoleGraph.rebuild_rebuild]


/-! ### Inheritance -/

/-- Role rows of a user and a role lead from a name to another in a number of steps. -/
inductive Inherits (rows : List Row) : Nat → String → String → Prop
  | refl (name : String) : Inherits rows 0 name name
  | step {n : Nat} {name role goal : String} (hrow : [name, role] ∈ rows)
      (hrest : Inherits rows n role goal) : Inherits rows (n + 1) name goal

/-- More rows lead wherever fewer do. -/
theorem Inherits.mono
    {rows rows' : List Row} (hrows : ∀ name role, [name, role] ∈ rows → [name, role] ∈ rows')
    {n : Nat} {name role : String} (h : Inherits rows n name role) :
  Inherits rows' n name role
  := by
  induction h with
  | refl name => apply refl
  | step hrow _ ih => apply step (hrows _ _ hrow) ih

/-- One step or more along rows of a user and a role. -/
theorem transGen_iff_inherits
    {rows : List Row} {R : Name → Name → Prop}
    (hR : ∀ x y, R x y ↔ ∃ name role, [name, role] ∈ rows ∧ x = .text name ∧ y = .text role)
    (name : String) (y : Name) :
  Relation.TransGen R (.text name) y ↔ ∃ role n, y = .text role ∧ Inherits rows (n + 1) name role
  := by
  constructor
  · intro h
    generalize hx : Name.text name = x at h
    induction h using Relation.TransGen.head_induction_on generalizing name with
    | single hstep =>
        obtain ⟨user, role, hrow, rfl, rfl⟩ := (hR _ _).mp hstep
        obtain rfl := Name.text.inj hx
        exact ⟨role, 0, rfl, .step hrow (.refl role)⟩
    | head hstep _ ih =>
        obtain ⟨user, role, hrow, rfl, rfl⟩ := (hR _ _).mp hstep
        obtain rfl := Name.text.inj hx
        obtain ⟨goal, n, rfl, hgoal⟩ := ih role rfl
        exact ⟨goal, n + 1, rfl, .step hrow hgoal⟩
  · rintro ⟨role, n, rfl, h⟩
    induction n generalizing name with
    | zero =>
        cases h with
        | step hrow hrest =>
            cases hrest
            exact .single ((hR _ _).mpr ⟨_, _, hrow, rfl, rfl⟩)
    | succ n ih =>
        cases h with
        | step hrow hrest =>
            exact .head ((hR _ _).mpr ⟨_, _, hrow, rfl, rfl⟩) (ih _ hrest)

section Inheritance

variable {rows : List Row} {L : Finset Link} {S : Name → Prop} {domain : Name}
  (hlinks : ∀ l : Link, l ∈ L ∧ S l.domain ↔
    ∃ name role, [name, role] ∈ rows ∧ l = ⟨.text name, .text role, domain⟩)

include hlinks

/-- A chain of links follows the rows that they are the links of. -/
theorem RoleChain.inherits {name role : String} {chain : List Link}
    (h : RoleChain none L S (.text name) (.text role) chain) :
  Inherits rows chain.length name role
  := by
  induction chain generalizing name with
  | nil =>
      obtain ⟨l, hl, -⟩ := h.starts
      cases hl
  | cons l rest ih =>
      obtain ⟨user, next, hrow, rfl⟩ := (hlinks l).mp (h.stored l List.mem_cons_self)
      obtain ⟨m, hm, hname⟩ := h.starts
      obtain rfl := Option.some.inj hm
      obtain rfl := Name.text.inj ((standsFor_none _ _).mp hname)
      apply Inherits.step hrow
      cases rest with
      | nil =>
          obtain ⟨m, hm, hrole⟩ := h.ends
          obtain rfl := Option.some.inj hm
          obtain rfl := Name.text.inj ((standsFor_none _ _).mp hrole)
          apply Inherits.refl
      | cons k rest =>
          obtain ⟨hjoins, hjoined⟩ := List.isChain_cons_cons.mp h.joined
          apply ih
          constructor
          · intro m hm
            apply h.stored m (List.mem_cons_of_mem _ hm)
          · refine ⟨k, rfl, (standsFor_none _ _).mpr ?_⟩
            obtain hjoins | hjoins := hjoins
            · apply (Prod.mk.inj hjoins).1.symm
            · apply (standsFor_none _ _).mp hjoins
          · apply hjoined
          · have hends := h.ends
            rw [List.getLast?_cons_cons] at hends
            apply hends

/-- Rows that are followed for at least one step make a chain of links. -/
theorem Inherits.roleChain {n : Nat} {name role : String} (h : Inherits rows (n + 1) name role) :
  ∃ chain, chain.length = n + 1 ∧ RoleChain none L S (.text name) (.text role) chain
  := by
  have hlink : ∀ {name next : String}, [name, next] ∈ rows →
      (⟨.text name, .text next, domain⟩ : Link) ∈ L ∧ S domain := fun hrow =>
    (hlinks ⟨_, _, domain⟩).mpr ⟨_, _, hrow, rfl⟩
  induction n generalizing name with
  | zero =>
      cases h with
      | step hrow hrest =>
          cases hrest
          refine ⟨[⟨.text name, .text role, domain⟩], rfl, ?_, ?_, ?_, ?_⟩
          · intro m hm
            rw [List.mem_singleton.mp hm]
            apply hlink hrow
          · exact ⟨_, rfl, standsFor_self _ _⟩
          · apply List.isChain_singleton
          · exact ⟨_, rfl, standsFor_self _ _⟩
  | succ n ih =>
      cases h with
      | @step _ _ next _ hrow hrest =>
          obtain ⟨chain, hlength, hchain⟩ := ih hrest
          obtain ⟨k, rest, rfl⟩ := List.exists_cons_of_length_eq_add_one hlength
          obtain ⟨m, hm, hstart⟩ := hchain.starts
          obtain rfl := Option.some.inj hm
          refine ⟨⟨.text name, .text next, domain⟩ :: k :: rest, ?_, ?_, ?_, ?_, ?_⟩
          · rw [List.length_cons, hlength]
          · rw [List.forall_mem_cons]
            use hlink hrow, hchain.stored
          · exact ⟨_, rfl, standsFor_self _ _⟩
          · rw [List.isChain_cons_cons]
            use Or.inr hstart, hchain.joined
          · rw [List.getLast?_cons_cons]
            apply hchain.ends

/-- Chains of at most some number of links lead where rows lead in at most as many steps. -/
theorem exists_roleChain_iff (level : Nat) (name role : String) :
  (Name.text name = .text role ∨
      ∃ chain, chain.length ≤ level ∧ RoleChain none L S (.text name) (.text role) chain) ↔
    ∃ n, n ≤ level ∧ Inherits rows n name role
  := by
  constructor
  · rintro (hname | ⟨chain, hlength, hchain⟩)
    · rw [Name.text.inj hname]
      exact ⟨0, Nat.zero_le _, Inherits.refl role⟩
    · exact ⟨chain.length, hlength, hchain.inherits hlinks⟩
  · rintro ⟨n, hn, h⟩
    cases n with
    | zero =>
        cases h
        left
        rfl
    | succ n =>
        obtain ⟨chain, hlength, hchain⟩ := h.roleChain hlinks
        right
        refine ⟨chain, ?_, hchain⟩
        rw [hlength]
        apply hn

end Inheritance

/-! ### Graphs of rows -/

/-- Without patterns a question is answered in its own domain. -/
theorem inScope_none (L : Finset Link) (d e : Name) :
  InScope none L d e ↔ e = d
  := by
  simp [InScope]

/-- The links of rows of a user and a role, all in the default domain. -/
theorem mem_linksOf_pairs {rows : List Row} (hrows : ∀ row ∈ rows, row.length = 2) (l : Link) :
  l ∈ linksOf rows ∧ InScope none (linksOf rows) defaultDomain l.domain ↔
    ∃ name role, [name, role] ∈ rows ∧ l = ⟨.text name, .text role, defaultDomain⟩
  := by
  rw [mem_linksOf, inScope_none]
  constructor
  · rintro ⟨⟨row, hrow, hl⟩, -⟩
    obtain ⟨name, role, rfl⟩ := List.length_eq_two.mp (hrows row hrow)
    exact ⟨name, role, hrow, (Option.some.inj hl).symm⟩
  · rintro ⟨name, role, hrow, rfl⟩
    exact ⟨⟨[name, role], hrow, rfl⟩, rfl⟩

/-- The users and the roles of the rows of a domain. -/
def rowsIn (domain : String) (rows : List Row) : List Row :=
  rows.filterMap fun
    | [name, role, d] => if d = domain then some [name, role] else none
    | _ => none

theorem mem_rowsIn {domain name role : String} {rows : List Row} :
  [name, role] ∈ rowsIn domain rows ↔ [name, role, domain] ∈ rows
  := by
  rw [rowsIn, List.mem_filterMap]
  constructor
  · rintro ⟨row, hrow, h⟩
    split at h
    · split at h
      case isTrue hd =>
        cases h
        rw [← hd]
        apply hrow
      case isFalse => cases h
    · cases h
  · intro hrow
    exact ⟨_, hrow, if_pos rfl⟩

/-- The links of rows of a user, a role and a domain that are in one domain. -/
theorem mem_linksOf_triples
    {rows : List Row} (hrows : ∀ row ∈ rows, row.length = 3) (domain : String) (l : Link) :
  l ∈ linksOf rows ∧ InScope none (linksOf rows) (.text domain) l.domain ↔
    ∃ name role, [name, role] ∈ rowsIn domain rows ∧ l = ⟨.text name, .text role, .text domain⟩
  := by
  rw [mem_linksOf, inScope_none]
  constructor
  · rintro ⟨⟨row, hrow, hl⟩, hdomain⟩
    obtain ⟨name, role, d, rfl⟩ := List.length_eq_three.mp (hrows row hrow)
    obtain rfl := Option.some.inj hl
    obtain rfl := Name.text.inj hdomain
    exact ⟨name, role, mem_rowsIn.mpr hrow, rfl⟩
  · rintro ⟨name, role, hrow, rfl⟩
    exact ⟨⟨_, mem_rowsIn.mp hrow, rfl⟩, rfl⟩

namespace RoleGraph

variable {g : RoleGraph} (hnames : g.nameMatcher = none) (hdomains : g.domainMatcher = none)

include hnames hdomains

/-- A graph that is built anew asks no matcher if it had none. -/
theorem asks_rebuild (rows : List Row) :
  Asks (g.rebuild rows) none none
  := by
  have hrules := SameRules.rebuild g rows
  constructor
  · rw [hrules.names, hnames]
    rfl
  · rw [hrules.domains, hdomains]
    rfl

/-- A graph without matchers, built from rows of a user and a role, links a name to itself and
to the roles that it inherits in no more steps than the limit. -/
theorem hasLink_rebuild
    {rows : List Row} (hrows : ∀ row ∈ rows, row.length = 2) (name role : String) :
  ∃ linked, (g.rebuild rows).hasLink (.text name) (.text role) defaultDomain = .ok linked ∧
    (linked = true ↔ ∃ n, n ≤ g.limit.levels ∧ Inherits rows n name role)
  := by
  obtain ⟨linked, hlinked, hiff⟩ := hasLink_spec (Stores.rebuild g rows)
    (asks_rebuild hnames hdomains rows) (.text name) (.text role) defaultDomain
  rw [(SameRules.rebuild g rows).limit, standsFor_none,
    exists_roleChain_iff (mem_linksOf_pairs hrows)] at hiff
  exact ⟨linked, hlinked, hiff⟩

/-- In a domain, a graph without matchers that is built from rows of a user, a role and a domain
goes by the rows of this domain alone. -/
theorem hasLink_rebuild_in
    {rows : List Row} (hrows : ∀ row ∈ rows, row.length = 3) (name role domain : String) :
  ∃ linked, (g.rebuild rows).hasLink (.text name) (.text role) (.text domain) = .ok linked ∧
    (linked = true ↔ ∃ n, n ≤ g.limit.levels ∧ Inherits (rowsIn domain rows) n name role)
  := by
  obtain ⟨linked, hlinked, hiff⟩ := hasLink_spec (Stores.rebuild g rows)
    (asks_rebuild hnames hdomains rows) (.text name) (.text role) (.text domain)
  rw [(SameRules.rebuild g rows).limit, standsFor_none,
    exists_roleChain_iff (mem_linksOf_triples hrows domain)] at hiff
  exact ⟨linked, hlinked, hiff⟩

/-- The closure of a name, in a graph without matchers that is built from rows of a user and a
role, lists the roles that the name inherits. -/
theorem closure_rebuild
    {rows : List Row} (hrows : ∀ row ∈ rows, row.length = 2) (name : String) :
  ∃ roles : List String,
    closure [g.rebuild rows] false defaultDomain (.text name) = .ok (roles.map .text) ∧
    roles.Nodup ∧ ∀ role, role ∈ roles ↔ ∃ n, Inherits rows (n + 1) name role
  := by
  have hstores := Stores.rebuild g rows
  choose next hroles _ hmem using
    fun x => roles_spec hstores (asks_rebuild hnames hdomains rows) x defaultDomain
  have hnext : ∀ x, step false defaultDomain x [g.rebuild rows] = .ok (next x) := by
    intro x
    simp only [step, Bool.false_eq_true, if_false, hroles, bind, Except.bind, pure, Except.pure,
      List.append_nil]
  have hnodes : ∀ x, ∀ m ∈ next x, ∃ g' ∈ [g.rebuild rows], m ∈ g'.nodes.map Prod.fst := by
    intro x m hm
    obtain ⟨l, hl, -, -, rfl⟩ := (hmem x m).mp hm
    refine ⟨_, List.mem_singleton_self _, ?_⟩
    apply List.mem_map_of_mem (hstores.ends l hl).2
  have hstep : ∀ x m, m ∈ next x ↔ ∃ user role, [user, role] ∈ rows ∧ x = .text user ∧
      m = .text role := by
    intro x m
    rw [hmem]
    constructor
    · rintro ⟨l, hl, hscope, hx, rfl⟩
      obtain ⟨user, role, hrow, rfl⟩ := (mem_linksOf_pairs hrows l).mp ⟨hl, hscope⟩
      exact ⟨user, role, hrow, (standsFor_none _ _).mp hx, rfl⟩
    · rintro ⟨user, role, hrow, rfl, rfl⟩
      obtain ⟨hl, hscope⟩ := (mem_linksOf_pairs hrows _).mpr ⟨user, role, hrow, rfl⟩
      exact ⟨_, hl, hscope, standsFor_self _ _, rfl⟩
  obtain ⟨names, hclosure, hnodup, hreached⟩ := closure_spec hnext hnodes (.text name)
  have hinherits : ∀ m, m ∈ names ↔ ∃ role n, m = .text role ∧ Inherits rows (n + 1) name role := by
    intro m
    rw [hreached]
    apply transGen_iff_inherits hstep
  obtain ⟨roles, rfl⟩ : names ∈ Set.range (List.map Name.text) := by
    rw [Set.range_list_map]
    intro m hm
    obtain ⟨role, -, rfl, -⟩ := (hinherits m).mp hm
    exact ⟨role, rfl⟩
  refine ⟨roles, hclosure, hnodup.of_map _, ?_⟩
  intro role
  have hrole := hinherits (.text role)
  rw [List.mem_map_of_injective fun s t h => Name.text.inj h] at hrole
  rw [hrole]
  constructor
  · rintro ⟨role', n, hsame, h⟩
    obtain rfl := Name.text.inj hsame
    exact ⟨n, h⟩
  · rintro ⟨n, h⟩
    exact ⟨role, n, rfl, h⟩

end RoleGraph

end AccessControl
