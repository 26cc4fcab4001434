import AccessControl.Proofs.Roles.History

/-!
# Transitive roles

What a host gets when it asks some role managers for all roles of a name, or for all members of
one.  The managers may be in any state that calls of a host lead to, with any matchers.  A step
leads to whatever one of the managers answers.  The main result is `RoleGraph.closureOf_exact`.
-/

namespace AccessControl

namespace RoleGraph

variable {g : RoleGraph}

/-! ### Reachable states -/

/-- The states that calls of a host lead a role manager to: links come and go, and matchers are
given at any time. -/
inductive Reachable : RoleGraph → Prop
  | start (limit : DepthLimit) : Reachable { limit }
  | call {g g' : RoleGraph} (h : Reachable g) (c : LinkCall) (hcall : c.act g = .ok g') :
      Reachable g'
  | matchers {g : RoleGraph} (h : Reachable g) (names domains : Option NameMatcher) :
      Reachable (g.withMatchers names domains)

namespace Reachable

theorem textual (h : g.Reachable) :
  g.Textual
  := by
  induction h with
  | start limit => apply List.forall_mem_nil
  | call _ c hcall ih =>
      rw [LinkCall.act_eq] at hcall
      rw [← Except.ok.inj hcall]
      apply LinkCall.textual_changes ih [c]
  | matchers _ names domains ih => apply ih

theorem stores (h : g.Reachable) :
  ∃ L, Stores g L
  := by
  induction h with
  | start limit => exact ⟨∅, Stores.empty limit none none⟩
  | call _ c hcall ih =>
      obtain ⟨L, hL⟩ := ih
      rw [LinkCall.act_eq] at hcall
      rw [← Except.ok.inj hcall]
      exact ⟨_, hL.change c.change⟩
  | matchers _ names domains ih =>
      obtain ⟨L, hL⟩ := ih
      exact ⟨L, hL.withMatchers names domains⟩

/-- Calls lead from states that calls lead to on to others. -/
theorem run (h : g.Reachable) {calls : List LinkCall} {g' : RoleGraph}
    (hrun : LinkCall.run calls g = .ok g') :
  g'.Reachable
  := by
  induction calls generalizing g with
  | nil =>
      cases hrun
      apply h
  | cons c rest ih =>
      rw [LinkCall.run, List.foldlM_cons, LinkCall.act_eq] at hrun
      apply ih (h.call c (LinkCall.act_eq g c)) hrun

/-- A graph that is built from role rows is in a state that calls lead to. -/
theorem rebuild (h : g.Reachable) (rows : List Row) :
  (g.rebuild rows).Reachable
  := by
  have hrows : ∀ {g : RoleGraph}, g.Reachable → (rows.foldl addRow g).Reachable := by
    induction rows with
    | nil =>
        intro g hg
        apply hg
    | cons row rest ih =>
        intro g hg
        rw [List.foldl_cons]
        apply ih
        match row with
        | [] | [_] => apply hg
        | name :: role :: more =>
            apply hg.call (.add name role (some (more.headD "")))
            apply LinkCall.act_eq
  apply hrows
  apply h.call .clear rfl

/-- Names that a host gives by texts are shown as these texts. -/
theorem given (h : g.Reachable) :
  g.given = []
  := by
  induction h with
  | start limit => rfl
  | call _ c hcall ih =>
      rw [LinkCall.act_eq] at hcall
      rw [← Except.ok.inj hcall]
      cases c with
      | add name role domain => rw [LinkCall.change, LinkChange.onGraph, given_addLink, ih]
      | delete name role domain => rw [LinkCall.change, LinkChange.onGraph, given_deleteLink, ih]
      | clear => rfl
  | matchers _ names domains ih => apply ih

end Reachable

/-! ### Questions of a host -/

/-- What a host gets that asks a manager for the roles that a name has directly, or for the names
that have it. -/
def asked (g : RoleGraph) (reverse : Bool) (domain : Option String) (name : String) :
    Except Failure (List Name) :=
  if reverse then g.usersOf (.text name) (domainValue domain)
  else g.rolesOf (.text name) (domainValue domain)

/-- Some manager answers with a name when it is asked for another. -/
def Gives (graphs : List RoleGraph) (reverse : Bool) (domain : Option String) (a b : String) :
    Prop :=
  ∃ g ∈ graphs, ∃ names, g.asked reverse domain a = .ok names ∧ .text b ∈ names

theorem asked_eq (g : RoleGraph) (reverse : Bool) (domain : Option String) (name : String) :
  g.asked reverse domain name = g.next reverse (domainNamed domain) (.text name)
  := by
  rw [asked, next, usersOf_texts, rolesOf_texts]

theorem next_eq (g : RoleGraph) (reverse : Bool) (domain name : Name) :
  g.next reverse domain name = g.neighbours (g.edgesAt reverse) name domain
  := by
  cases reverse <;> rfl

/-- What a manager that stores links answers are far ends of links. -/
theorem far_of_next {L : Finset Link} (h : Stores g L) {reverse : Bool} {domain name : Name}
    {names : List Name} (hnext : g.next reverse domain name = .ok names) {b : Name}
    (hb : b ∈ names) :
  ∃ l ∈ L, l.far reverse = b
  := by
  obtain ⟨found, hfound, -, hmem⟩ :=
    edges_spec h.answered (asks_answered g) reverse name domain
  rw [next_eq] at hnext
  have hanswered := neighbours_answered g (g.edgesAt reverse) name domain names hnext
  have hsame : g.answered.neighbours (g.answered.edgesAt reverse) name domain
      = g.answered.neighbours (g.edgesAt reverse) name domain := rfl
  rw [hsame, hanswered] at hfound
  cases hfound
  obtain ⟨l, hl, -, -, hfar⟩ := (hmem b).mp hb
  exact ⟨l, hl, hfar⟩

/-- Managers whose matchers answer about texts answer with the far ends of the links, in the
domains of a question, whose near end a name stands for. -/
theorem asked_spec {L : Finset Link} (h : Stores g L) (ht : g.Textual) (hm : g.Decides)
    (reverse : Bool) (domain : Option String) (name : String) :
  ∃ names, g.asked reverse domain name = .ok names ∧
    ∀ b, b ∈ names ↔ ∃ l ∈ L,
      InScope (g.domainMatcher.map NameMatcher.answers) L (domainNamed domain) l.domain ∧
      standsFor (g.nameMatcher.map NameMatcher.answers) (.text name) (l.near reverse) ∧
      l.far reverse = b
  := by
  obtain ⟨names, hnames, -, hmem⟩ :=
    edges_spec h.answered (asks_answered g) reverse (.text name) (domainNamed domain)
  have hname : (Name.text name).Textual := ⟨name, rfl⟩
  have hdomain : (domainNamed domain).Textual := ⟨domain.getD "", rfl⟩
  refine ⟨names, ?_, hmem⟩
  rw [asked_eq, next_eq, neighbours_eq_answered h ht hm _ hname hdomain]
  apply hnames

/-- A manager without matchers answers alike whichever end of a link it is asked for. -/
theorem asked_swap (h : g.Reachable) (hnames : g.nameMatcher = none)
    (hdomains : g.domainMatcher = none) (domain : Option String) (a b : String) :
  (∃ names, g.asked true domain b = .ok names ∧ .text a ∈ names) ↔
    ∃ names, g.asked false domain a = .ok names ∧ .text b ∈ names
  := by
  obtain ⟨L, hL⟩ := h.stores
  have hdecides : g.Decides := ⟨by simp [hnames], by simp [hdomains]⟩
  -- both ways a link between the names is asked for
  have hlink : ∀ reverse x y, (∃ names, g.asked reverse domain x = .ok names ∧ .text y ∈ names) ↔
      ∃ l ∈ L, InScope none L (domainNamed domain) l.domain ∧ .text x = l.near reverse ∧
        l.far reverse = .text y := by
    intro reverse x y
    obtain ⟨names, hasked, hmem⟩ := asked_spec hL h.textual hdecides reverse domain x
    rw [hnames, hdomains] at hmem
    simp only [hasked, Except.ok.injEq, exists_eq_left', hmem, Option.map_none, standsFor_none]
  rw [hlink, hlink]
  constructor
  · rintro ⟨l, hl, hscope, hrole, hname⟩
    exact ⟨l, hl, hscope, hname.symm, hrole.symm⟩
  · rintro ⟨l, hl, hscope, hname, hrole⟩
    exact ⟨l, hl, hscope, hrole.symm, hname.symm⟩

/-- A closure is asked for texts as its graphs are. -/
theorem closureOf_texts
    (graphs : List RoleGraph) (reverse : Bool) (domain : Option String) (seed : String) :
  closureOf graphs reverse (domainValue domain) (.text seed)
    = closure graphs reverse (domainNamed domain) (.text seed)
  := by
  cases graphs with
  | nil => rfl
  | cons g rest =>
      rw [closureOf, domainOf_domainValue]
      simp only [checkLookup_texts]
      cases hdomains : g.domainsFor (.text (domain.getD "")) with
      | ok domains => rfl
      | error failure =>
          -- the first step asks the first graph for its domains
          have hnext : g.next reverse (domainNamed domain) (.text seed) = .error failure := by
            rw [next_eq, neighbours, domainNamed, hdomains]
            rfl
          have hclosure : closure (g :: rest) reverse (domainNamed domain) (.text seed)
              = .error failure := by
            rw [closure, closureFrom, step_cons, hnext]
            rfl
          rw [hclosure]
          rfl

section Managers

variable {graphs : List RoleGraph} (hgraphs : ∀ g ∈ graphs, g.Reachable)

include hgraphs

/-- Steps lead from texts to texts, as managers answer. -/
theorem leads_text_iff (reverse : Bool) (domain : Option String) (a : String) (y : Name) :
  Leads graphs reverse (domainNamed domain) (.text a) y ↔
    ∃ b, Gives graphs reverse domain a b ∧ .text b = y
  := by
  constructor
  · rintro ⟨g, hg, names, hnames, hy⟩
    obtain ⟨L, hL⟩ := (hgraphs g hg).stores
    obtain ⟨l, hl, rfl⟩ := far_of_next hL hnames hy
    obtain ⟨b, hb⟩ := ((hgraphs g hg).textual _ (hL.far_mem hl reverse)).1
    dsimp only at hb
    rw [← asked_eq] at hnames
    rw [hb] at hy ⊢
    exact ⟨b, ⟨g, hg, names, hnames, hy⟩, rfl⟩
  · rintro ⟨b, ⟨g, hg, names, hnames, hb⟩, rfl⟩
    rw [asked_eq] at hnames
    exact ⟨g, hg, names, hnames, hb⟩

theorem leads_nodes {reverse : Bool} {domain a b : Name} (hab : Leads graphs reverse domain a b) :
  ∃ g ∈ graphs, b ∈ g.nodes.map Prod.fst
  := by
  obtain ⟨g, hg, names, hnames, hb⟩ := hab
  obtain ⟨L, hL⟩ := (hgraphs g hg).stores
  obtain ⟨l, hl, rfl⟩ := far_of_next hL hnames hb
  exact ⟨g, hg, List.mem_map_of_mem (hL.far_mem hl reverse)⟩

/-- A closure lists what one step or more lead to, in breadth-first order, and then every manager
answers for each name on the way; or it fails as a manager does for such a name. -/
theorem closureOf_cases (reverse : Bool) (domain : Option String) (seed : String) :
  (∃ names, closureOf graphs reverse (domainValue domain) (.text seed) = .ok (names.map .text) ∧
    BreadthFirst (Gives graphs reverse domain) seed names ∧
    ∀ a, Relation.ReflTransGen (Gives graphs reverse domain) seed a →
      ∀ g ∈ graphs, ∃ found, g.asked reverse domain a = .ok found) ∨
  ∃ failure, closureOf graphs reverse (domainValue domain) (.text seed) = .error failure ∧
    ∃ a, Relation.ReflTransGen (Gives graphs reverse domain) seed a ∧
      ∃ g ∈ graphs, g.asked reverse domain a = .error failure
  := by
  have hsteps := leads_text_iff hgraphs reverse domain
  have hnodes : ∀ x y, Leads graphs reverse (domainNamed domain) x y →
      ∃ g ∈ graphs, y ∈ g.nodes.map Prod.fst := fun _ _ => leads_nodes hgraphs
  have hclosure := closure_breadthFirst hnodes (.text seed)
  rw [closureOf_texts]
  cases hresult : closure graphs reverse (domainNamed domain) (.text seed) with
  | error failure =>
      right
      rw [hresult] at hclosure
      obtain ⟨x, hx, g, hg, hfail⟩ := hclosure
      obtain ⟨a, ha, rfl⟩ := (reflTransGen_map hsteps x).mp hx
      rw [← asked_eq] at hfail
      exact ⟨failure, rfl, a, ha, g, hg, hfail⟩
  | ok found =>
      left
      rw [hresult] at hclosure
      obtain ⟨hbreadth, hanswers⟩ := hclosure
      obtain ⟨names, rfl, hnames⟩ := hbreadth.exists_map hsteps fun _ _ h => Name.text.inj h
      refine ⟨names, rfl, hnames, ?_⟩
      intro a ha g hg
      rw [asked_eq]
      apply hanswers _ ((reflTransGen_map hsteps _).mpr ⟨a, ha, rfl⟩) g hg

/-- Managers whose matchers answer about texts give the closure of every name. -/
theorem closureOf_decides (hdecides : ∀ g ∈ graphs, g.Decides) (reverse : Bool)
    (domain : Option String) (seed : String) :
  ∃ names, closureOf graphs reverse (domainValue domain) (.text seed) = .ok (names.map .text) ∧
    BreadthFirst (Gives graphs reverse domain) seed names
  := by
  obtain ⟨names, hnames, hbreadth, -⟩ | ⟨failure, -, a, -, g, hg, hfail⟩ :=
    closureOf_cases hgraphs reverse domain seed
  · exact ⟨names, hnames, hbreadth⟩
  · obtain ⟨L, hL⟩ := (hgraphs g hg).stores
    obtain ⟨found, hfound, -⟩ :=
      asked_spec hL (hgraphs g hg).textual (hdecides g hg) reverse domain a
    rw [hfail] at hfound
    cases hfound

/-- Without matchers a step leads back where it came from when it is taken the other way. -/
theorem gives_swap (hplain : ∀ g ∈ graphs, g.nameMatcher = none ∧ g.domainMatcher = none)
    (domain : Option String) (a b : String) :
  Gives graphs true domain b a ↔ Gives graphs false domain a b
  := by
  rw [Gives, Gives]
  apply exists_congr
  intro g
  apply and_congr_right
  intro hg
  apply asked_swap (hgraphs g hg) (hplain g hg).1 (hplain g hg).2

end Managers

/-! ### Closures of a host -/

/-- Whatever states role managers are in, and whatever their matchers do, a host that asks them
for all roles of a name, or for all members, gets what one step or more lead to: each name once,
and the nearer before the farther.  Only a manager that fails for the name, or for one that is
reached, keeps the host from it, so none does whose matchers answer about texts.  Without
matchers a name is among the roles of another if the other is among its members. -/
theorem closureOf_exact {graphs : List RoleGraph} (hgraphs : ∀ g ∈ graphs, g.Reachable)
    (domain : Option String) :
  (∀ reverse seed,
    (∃ names,
      closureOf graphs reverse (domainValue domain) (.text seed) = .ok (names.map .text) ∧
      BreadthFirst (Gives graphs reverse domain) seed names ∧
      ∀ a, Relation.ReflTransGen (Gives graphs reverse domain) seed a →
        ∀ g ∈ graphs, ∃ found, g.asked reverse domain a = .ok found) ∨
    ∃ failure, closureOf graphs reverse (domainValue domain) (.text seed) = .error failure ∧
      ∃ a, Relation.ReflTransGen (Gives graphs reverse domain) seed a ∧
        ∃ g ∈ graphs, g.asked reverse domain a = .error failure) ∧
  ((∀ g ∈ graphs, g.Decides) → ∀ reverse seed, ∃ names,
    closureOf graphs reverse (domainValue domain) (.text seed) = .ok (names.map .text) ∧
    BreadthFirst (Gives graphs reverse domain) seed names) ∧
  ((∀ g ∈ graphs, g.nameMatcher = none ∧ g.domainMatcher = none) →
    ∀ a b, ∃ roles members : List String,
    closureOf graphs false (domainValue domain) (.text a) = .ok (roles.map .text) ∧
    closureOf graphs true (domainValue domain) (.text b) = .ok (members.map .text) ∧
    (b ∈ roles ↔ a ∈ members))
  := by
  refine ⟨fun reverse => closureOf_cases hgraphs reverse domain, ?_, ?_⟩
  · intro hdecides reverse
    apply closureOf_decides hgraphs hdecides reverse domain
  · intro hplain a b
    have hdecides : ∀ g ∈ graphs, g.Decides := fun g hg =>
      ⟨by simp [(hplain g hg).1], by simp [(hplain g hg).2]⟩
    obtain ⟨roles, hroles, hforward⟩ := closureOf_decides hgraphs hdecides false domain a
    obtain ⟨members, hmembers, hback⟩ := closureOf_decides hgraphs hdecides true domain b
    refine ⟨roles, members, hroles, hmembers, ?_⟩
    have hswap : Gives graphs true domain = Function.swap (Gives graphs false domain) := by
      funext x y
      apply propext (gives_swap hgraphs hplain domain y x)
    rw [hforward.mem_iff, hback.mem_iff, hswap, Relation.transGen_swap]

/-- Two managers, through which a cycle leads back to the seed: it is among its own roles, behind
those that are nearer. -/
theorem closureOf_exact_cycle :
  let calls : List LinkCall := [.add "alice" "admin" none, .add "alice" "staff" none,
    .delete "alice" "staff" none]
  let calls' : List LinkCall := [.add "admin" "staff" none, .add "staff" "alice" none]
  ∃ g g', LinkCall.run calls {} = .ok g ∧ LinkCall.run calls' {} = .ok g' ∧
    closureOf [g, g'] false (domainValue none) (.text "alice")
      = .ok (["admin", "staff", "alice"].map .text) ∧
    BreadthFirst (Gives [g, g'] false none) "alice" ["admin", "staff", "alice"]
  := by
  intro calls calls'
  let g : RoleGraph := (calls.map LinkCall.change).foldl LinkChange.onGraph {}
  let g' : RoleGraph := (calls'.map LinkCall.change).foldl LinkChange.onGraph {}
  have hrun : LinkCall.run calls {} = .ok g := LinkCall.run_eq calls {}
  have hrun' : LinkCall.run calls' {} = .ok g' := LinkCall.run_eq calls' {}
  have hstart : Reachable {} := .start {}
  have hreachable : ∀ h ∈ [g, g'], h.Reachable := by
    rw [List.forall_mem_cons, List.forall_mem_singleton]
    exact ⟨hstart.run hrun, hstart.run hrun'⟩
  have hdecides : ∀ h ∈ [g, g'], h.Decides := by
    rw [List.forall_mem_cons, List.forall_mem_singleton]
    exact ⟨⟨by rintro m ⟨⟩, by rintro m ⟨⟩⟩, ⟨by rintro m ⟨⟩, by rintro m ⟨⟩⟩⟩
  have hclosure : closureOf [g, g'] false (domainValue none) (.text "alice")
      = .ok (["admin", "staff", "alice"].map .text) := ok_of_toOption (by decide +kernel)
  obtain ⟨names, hnames, hbreadth⟩ :=
    (closureOf_exact hreachable none).2.1 hdecides false "alice"
  rw [hclosure, Except.ok.injEq,
    (List.map_injective_iff.mpr fun _ _ h => Name.text.inj h).eq_iff] at hnames
  rw [← hnames] at hbreadth
  exact ⟨g, g', hrun, hrun', hclosure, hbreadth⟩

end RoleGraph

end AccessControl
