import AccessControl.Proofs.Enforcer.Installed
import AccessControl.Proofs.Enforcer.Scan
import AccessControl.Proofs.Expr.Agreement
import AccessControl.Proofs.Roles.Partial

/-!
# Rows in any order

Decisions of enforcers that hold the same rows in different orders.  The role graphs of such
enforcers store the same links, so their matchers do not come to different answers; and only
the strategy by priority asks which of the matching rows is the first.  The main result is
`Enforcer.enforce_orderless`.
-/

namespace AccessControl

open AccessControl.Action

/-! ### Models -/

/-- Two models have the same rows under every key, in any order. -/
def Model.SameRows (m m' : Model) : Prop :=
  ∀ (kind : RowKind) (key : String) (d d' : Definition), m.find? kind.kind key = some d →
    m'.find? kind.kind key = some d' → ∀ row, row ∈ d.rows ↔ row ∈ d'.rows

/-- Models of one shape with the same rows have the same links. -/
theorem Model.SameRows.linksOf_roleRows
    {m m' : Model} (h : m.SameRows m') (hshape : m.SameShape m') (key : String) :
  linksOf (m.roleRows key) = linksOf (m'.roleRows key)
  := by
  have hrows : ∀ row, row ∈ m.roleRows key ↔ row ∈ m'.roleRows key := by
    intro row
    rw [roleRows, roleRows]
    cases hd : m.find? .role key with
    | none =>
        have hhas := hshape.has .role key
        rw [has, has, RowKind.kind, hd, Option.isSome_none, eq_comm,
          Option.isSome_eq_false_iff, Option.isNone_iff_eq_none] at hhas
        rw [hhas]
    | some d =>
        have hkind : m.find? RowKind.role.kind key = some d := hd
        obtain ⟨rows, hd'⟩ := hshape.find? hkind
        rw [RowKind.kind] at hd'
        rw [hd']
        apply h .role key d _ hd hd'
  ext l
  rw [mem_linksOf, mem_linksOf]
  apply exists_congr
  intro row
  rw [hrows row]

/-! ### Frames -/

namespace Frame

/-- The matcher of a frame answers about every row that it is asked about. -/
def Answers (f : Frame) (functions : Functions) (values : List Value) : Prop :=
  ∀ row ∈ f.candidates, ∃ holds, f.matcher.holds (f.bindings values row) functions = .ok holds

instance (f : Frame) (functions : Functions) (values : List Value) :
    Decidable (f.Answers functions values) :=
  decidable_of_iff (∀ row ∈ f.candidates,
      (f.matcher.holds (f.bindings values row) functions).toOption.isSome = true) <| by
    apply forall₂_congr
    intro row _
    cases f.matcher.holds (f.bindings values row) functions <;> simp [Except.toOption]

/-- A frame whose matcher answers about all rows decides as its strategy asks. -/
theorem decide_of_answers
    {f : Frame} {functions : Functions} {values : List Value} (h : f.Answers functions values) :
  ∃ allowed explain, f.decide functions values = .ok (allowed, explain) ∧
    (allowed = true ↔ (f.scan functions values).Favours f.strategy)
  := by
  have hcandidates : (f.scan functions values).rows = f.candidates := by
    simp only [candidates, scan, List.isEmpty_iff]
  obtain ⟨failure, ⟨before, row, after, hrows, hfails, -⟩, -⟩ | ⟨-, allowed, decider, hdecides, hdecide⟩ :=
    f.decide_scan functions values
  · have hrow : row ∈ f.candidates := by
      rw [← hcandidates, hrows]
      simp
    obtain ⟨holds, hholds⟩ := h row hrow
    cases hholds.symm.trans hfails
  · exact ⟨allowed, _, hdecide, hdecides.allowed_iff⟩

/-- Frames that differ in the order of their rows, with functions that agree, decide in the same
way, unless their strategy asks for the order. -/
theorem decide_orderless
    {f : Frame} {rows : List Row} (hrows : ∀ row, row ∈ f.policy.rows ↔ row ∈ rows)
    (hstrategy : f.strategy ≠ .priority) {functions functions' : Functions}
    (hfunctions : functions.Agree functions') {values : List Value}
    (h : f.Answers functions values)
    (h' : Answers { f with policy := { f.policy with rows } } functions' values) :
  ∃ allowed explain explain', f.decide functions values = .ok (allowed, explain) ∧
    decide { f with policy := { f.policy with rows } } functions' values = .ok (allowed, explain')
  := by
  obtain ⟨allowed, explain, hdecide, hfavours⟩ := decide_of_answers h
  obtain ⟨allowed', explain', hdecide', hfavours'⟩ := decide_of_answers h'
  have hempty : f.policy.rows = [] ↔ rows = [] := by
    simp only [List.eq_nil_iff_forall_not_mem, hrows]
  have hscan : ∀ row, row ∈ (f.scan functions values).rows ↔
      row ∈ (scan { f with policy := { f.policy with rows } } functions' values).rows := by
    intro row
    dsimp only [scan]
    by_cases hnone : rows = []
    · rw [if_pos hnone, if_pos (hempty.mpr hnone)]
      rfl
    · rw [if_neg hnone, if_neg (mt hempty.mp hnone)]
      apply hrows
  have hcandidates : ∀ row ∈ (f.scan functions values).rows, row ∈ f.candidates := by
    intro row hrow
    simpa only [candidates, scan, List.isEmpty_iff] using hrow
  have hcandidates' : ∀ row ∈ (f.scan functions values).rows,
      row ∈ candidates { f with policy := { f.policy with rows } } := by
    intro row hrow
    simpa only [candidates, scan, List.isEmpty_iff] using (hscan row).mp hrow
  have hsame : allowed = allowed' := by
    rw [Bool.eq_iff_iff, hfavours, hfavours']
    apply Scan.favours_congr hstrategy hscan
    · intro row hrow
      obtain ⟨holds, hholds⟩ := h row (hcandidates row hrow)
      obtain ⟨holds', hholds'⟩ := h' row (hcandidates' row hrow)
      have hagree := f.matcher.holds_agree hfunctions _ holds holds' hholds hholds'
      rw [Scan.matches_iff hholds, Scan.matches_iff hholds', hagree]
    · intro row _
      dsimp only [scan]
      by_cases hnone : rows = []
      · rw [if_pos hnone, if_pos (hempty.mpr hnone)]
      · rw [if_neg hnone, if_neg (mt hempty.mp hnone)]
        rfl
  subst hsame
  exact ⟨allowed, explain, explain', hdecide, hdecide'⟩

end Frame

/-! ### Functions -/

/-- What the function of a role relation does not ask of its graph is the same for every
graph. -/
theorem roleFunction_some (arguments : List Value) :
  (∃ result, ∀ g, roleFunction (some g) arguments = result) ∨
    ∃ name role domain, ∀ g,
      roleFunction (some g) arguments = (RoleGraph.hasLink g name role domain).map .bool
  := by
  rcases arguments with _ | ⟨v, _ | ⟨w, rest⟩⟩
  · left
    exact ⟨_, fun _ => rfl⟩
  · left
    exact ⟨_, fun _ => rfl⟩
  · cases hother : Value.firstOther? (v :: w :: rest) with
    | some u =>
        left
        use .error (.evaluation (.roleArgumentKind u.kind))
        intro g
        rw [roleFunction.eq_def, if_neg (by simp), hother]
    | none =>
        have htext : ∀ u ∈ v :: w :: rest, ∃ s, u = .text s := by
          intro u hu
          have hsome := List.find?_eq_none.mp hother u hu
          cases u <;> simp [Value.text?] at hsome ⊢
        right
        obtain ⟨name, rfl⟩ := htext v (by simp)
        obtain ⟨role, rfl⟩ := htext w (by simp)
        cases rest with
        | nil =>
            use .text name, .text role, defaultDomain
            intro g
            rw [roleFunction.eq_def, if_neg (by simp), hother]
        | cons u rest =>
            obtain ⟨domain, rfl⟩ := htext u (by simp)
            use .text name, .text role, .text domain
            intro g
            rw [roleFunction.eq_def, if_neg (by simp), hother]

/-- Graphs that do not give different answers make functions that do not. -/
theorem roleFunction_agree
    {g g' : RoleGraph}
    (h : ∀ name role domain, Agree (g.hasLink name role domain) (g'.hasLink name role domain))
    (arguments : List Value) :
  Agree (roleFunction (some g) arguments) (roleFunction (some g') arguments)
  := by
  obtain ⟨result, hresult⟩ | ⟨name, role, domain, hlink⟩ := roleFunction_some arguments
  · rw [hresult, hresult]
    apply Agree.refl
  · rw [hlink, hlink]
    apply Agree.map
    apply h

namespace Enforcer

theorem lookup_allFunctions (e : Enforcer) (name : String) :
  e.allFunctions.lookup name
    = ((e.graphs.lookup name).map fun g => roleFunction (some g)).or (e.functions.lookup name)
  := by
  rw [allFunctions, List.lookup_append,
    lookup_map_entry (fun _ (g : RoleGraph) => roleFunction (some g))]

/-- Role graphs whose answers agree under every key, beside the same other functions. -/
theorem allFunctions_agree
    {e e' : Enforcer} (hfunctions : e.functions = e'.functions)
    (hkeys : ∀ key, (e.graphs.lookup key).isSome = (e'.graphs.lookup key).isSome)
    (hgraphs : ∀ key g g', e.graphs.lookup key = some g → e'.graphs.lookup key = some g' →
      ∀ name role domain, Agree (g.hasLink name role domain) (g'.hasLink name role domain)) :
  e.allFunctions.Agree e'.allFunctions
  := by
  intro name f f' hf hf'
  have hkey := hkeys name
  rw [lookup_allFunctions] at hf hf'
  cases hg : e.graphs.lookup name with
  | none =>
      rw [hg, Option.isSome_none, eq_comm, Option.isSome_eq_false_iff,
        Option.isNone_iff_eq_none] at hkey
      rw [hg, Option.map_none, Option.none_or] at hf
      rw [hkey, Option.map_none, Option.none_or, ← hfunctions, hf, Option.some.injEq] at hf'
      subst hf'
      intro arguments
      apply Agree.refl
  | some g =>
      rw [hg, Option.isSome_some, eq_comm, Option.isSome_iff_exists] at hkey
      obtain ⟨g', hg'⟩ := hkey
      rw [hg, Option.map_some, Option.some_or, Option.some.injEq] at hf
      rw [hg', Option.map_some, Option.some_or, Option.some.injEq] at hf'
      subst hf hf'
      apply roleFunction_agree
      apply hgraphs name g g' hg hg'

/-! ### Managed enforcers -/

/-- The enforcer whose role graph of a key asks other matchers. -/
def withMatchers (key : String) (names domains : Option NameMatcher) (e : Enforcer) : Enforcer :=
  { e with
    graphs := e.graphs.map fun (k, g) => (k, if k = key then g.withMatchers names domains else g) }

/-- The enforcers that are reached from the start with a model by mutations, among which
functions are registered and matchers are given to role graphs.  Mutations may fail, but for
loading from a source. -/
inductive Managed (m : Model) (config : Config) : Enforcer → Prop
  | start {kind : EnforcerKind} {sink : Option Sink} {tag : Value} {files : Files}
      {source : Option Source} {e : Enforcer}
      (h : (Enforcer.start m source).perform (.initial kind config sink tag files) = (.ok (), e)) :
      Managed m config e
  | mutate {e : Enforcer} (he : Managed m config e) (x : Mutation)
      (hload : x = .loadPolicy → e.source = none ∨ (loadPolicy.perform e).1 = .ok ()) :
      Managed m config (x.act.perform e).2
  | register {e : Enforcer} (he : Managed m config e) (name : String) (f : MatcherFunction) :
      Managed m config ((register name f).perform e).2
  | matchers {e : Enforcer} (he : Managed m config e) (key : String)
      (names domains : Option NameMatcher) :
      Managed m config (e.withMatchers key names domains)

namespace Tracked

variable {k : EnforcerKind} {switch : Value} {m₀ : Model} {graphs : RoleGraphs} {e : Enforcer}

theorem register (he : Tracked k switch m₀ graphs e) (name : String) (f : MatcherFunction) :
  Tracked k switch m₀ graphs ((Enforcer.register name f).perform e).2
  := by
  rw [perform_register]
  cases e.functions.register name f with
  | error failure => apply he
  | ok functions =>
      exact ⟨he.kind_eq, he.switch_eq, he.wellFormed, he.rowsFit, he.shape, he.supplied,
        he.autoBuild, fun _ => rfl, he.linked⟩

theorem withMatchers
    (he : Tracked k switch m₀ graphs e) (key : String) (names domains : Option NameMatcher) :
  Tracked k switch m₀
    (graphs.map fun (k, g) => (k, if k = key then g.withMatchers names domains else g))
    (e.withMatchers key names domains)
  := by
  have hlinked : (e.withMatchers key names domains).graphs = e.model.link
      (graphs.map fun (k, g) => (k, if k = key then g.withMatchers names domains else g)) := by
    rw [Enforcer.withMatchers, he.linked, Model.link, Model.link, List.map_map, List.map_map]
    apply List.map_congr_left
    rintro ⟨k, g⟩ -
    dsimp only [Function.comp]
    split
    case isTrue => rw [RoleGraph.rebuild_withMatchers]
    case isFalse => rfl
  exact ⟨he.kind_eq, he.switch_eq, he.wellFormed, he.rowsFit, he.shape, he.supplied,
    he.autoBuild, he.forgetful, hlinked⟩

end Tracked

namespace Managed

variable {m : Model} {config : Config} {e : Enforcer}

/-- Managed enforcers are tracked, with graphs for the role definitions of the model that have
the limit of the configuration. -/
theorem tracked
    (hwell : m.WellFormed) (hclear : m.clearRows = m) (hbuild : config.autoBuildRoleLinks = true)
    (h : Managed m config e) :
  ∃ kind graphs, Tracked kind (.bool config.enforceEnabled) m graphs e ∧
    ∀ key, (graphs.lookup key).map (·.limit)
      = (m.find? .role key).map fun _ => .ofNat config.maxHierarchyLevel
  := by
  induction h with
  | start h =>
      refine ⟨_, _, Tracked.start hwell hclear hbuild h, ?_⟩
      intro key
      rw [Model.unlinked, lookup_map_key, Model.find?_ofKind, Option.map_map]
      rfl
  | mutate he x hload ih =>
      obtain ⟨kind, graphs, htracked, hlimit⟩ := ih
      exact ⟨kind, graphs, htracked.mutate x hload, hlimit⟩
  | register he name f ih =>
      obtain ⟨kind, graphs, htracked, hlimit⟩ := ih
      exact ⟨kind, graphs, htracked.register name f, hlimit⟩
  | matchers he key names domains ih =>
      obtain ⟨kind, graphs, htracked, hlimit⟩ := ih
      refine ⟨kind, _, htracked.withMatchers key names domains, ?_⟩
      intro key'
      rw [lookup_map_entry fun k (g : RoleGraph) =>
        if k = key then g.withMatchers names domains else g, Option.map_map, ← hlimit]
      congr 1
      funext g
      dsimp only [Function.comp]
      split <;> rfl

end Managed

/-- Two enforcers give the role graphs of each key the same matchers. -/
def SameMatchers (e e' : Enforcer) : Prop :=
  ∀ key g g', e.graphs.lookup key = some g → e'.graphs.lookup key = some g' →
    g.nameMatcher = g'.nameMatcher ∧ g.domainMatcher = g'.domainMatcher

/-- Managed enforcers with the same role rows have role graphs whose answers agree. -/
theorem Tracked.allFunctions_agree
    {k k' : EnforcerKind} {switch switch' : Value} {m : Model} {graphs graphs' : RoleGraphs}
    {e e' : Enforcer} (he : Tracked k switch m graphs e) (he' : Tracked k' switch' m graphs' e')
    (hlimits : ∀ key, (graphs.lookup key).map (·.limit) = (graphs'.lookup key).map (·.limit))
    (hfunctions : e.functions = e'.functions) (hmatchers : SameMatchers e e')
    (hrows : e.model.SameRows e'.model) :
  e.allFunctions.Agree e'.allFunctions
  := by
  apply Enforcer.allFunctions_agree hfunctions
  · intro key
    rw [he.linked, he'.linked, Model.lookup_link, Model.lookup_link, Option.isSome_map,
      Option.isSome_map, ← Option.isSome_map (f := (·.limit)), hlimits key, Option.isSome_map]
  · intro key g g' hg hg'
    obtain ⟨hnames, hdomains⟩ := hmatchers key g g' hg hg'
    rw [he.linked, Model.lookup_link] at hg
    rw [he'.linked, Model.lookup_link] at hg'
    obtain ⟨g₀, hg₀, rfl⟩ := Option.map_eq_some_iff.mp hg
    obtain ⟨g₀', hg₀', rfl⟩ := Option.map_eq_some_iff.mp hg'
    have hlimit := hlimits key
    rw [hg₀, hg₀', Option.map_some, Option.map_some, Option.some.injEq] at hlimit
    have hlinks := hrows.linksOf_roleRows (he.shape.trans he'.shape.symm) key
    have hstores := RoleGraph.Stores.rebuild g₀' (e'.model.roleRows key)
    rw [← hlinks] at hstores
    apply RoleGraph.hasLink_agree (RoleGraph.Stores.rebuild g₀ (e.model.roleRows key)) hstores
    constructor
    · rw [(RoleGraph.SameRules.rebuild g₀ _).limit, (RoleGraph.SameRules.rebuild g₀' _).limit,
        hlimit]
    · apply hnames
    · apply hdomains

/-- An enforcer that is switched off allows every request whose definitions are named by
texts. -/
theorem verdict_disabled
    {e : Enforcer} (hswitch : e.enabled.isTruthy = false) {request values : List Value}
    {rKey pKey eKey kKey : String}
    (hrequest : splitRequest request
      = (⟨.text rKey, .text pKey, .text eKey, .text kKey⟩, values)) :
  e.verdict request = .ok (true, [])
  := by
  have hdelivery : delivery e.sink ⟨.text rKey, .text pKey, .text eKey, .text kKey⟩ = .ok () :=
    if_pos (Bool.or_true _)
  simp only [verdict, hrequest, hswitch, hdelivery]
  rfl

end Enforcer

/-! ### A model with tiers -/

namespace Tiers

/-- The entries of the text of the model: policy rows of a priority and a subject, and a matcher
that asks for the role of the subject. -/
def entries : List Entry :=
  [⟨.request, "r", "sub"⟩,
   ⟨.policy, "p", "priority, sub"⟩,
   ⟨.role, "g", "_, _"⟩,
   ⟨.effect, "e", "some(where (p.eft == allow))"⟩,
   ⟨.matcher, "m", "g(r.sub, p.sub)"⟩]

/-- The text of the model. -/
def text : String :=
"[request_definition]
r = sub
[policy_definition]
p = priority, sub
[role_definition]
g = _, _
[policy_effect]
e = some(where (p.eft == allow))
[matchers]
m = g(r.sub, p.sub)
"

/-- The matcher. -/
def matcher : Matcher :=
  ⟨"g(r.sub, p.sub)", .call "g" [.field "r" "sub" [], .field "p" "sub" []]⟩

/-- The frame of the decisions about some policy rows. -/
def frame (permissions : List Row) : Frame :=
  ⟨⟨"r", "sub", .request ["sub"], []⟩,
   ⟨"p", "priority, sub", .policy ["priority", "sub"], permissions⟩, .someAllow, matcher⟩

/-- The model with some policy rows and some role rows. -/
def model (permissions roles : List Row) : Model :=
  ⟨[(frame []).request, (frame permissions).policy, Rbac.roleDefinition roles,
    Rbac.effectDefinition, ⟨"m", "g(r.sub, p.sub)", .matcher matcher, []⟩]⟩

theorem policy_of_find?
    {permissions roles : List Row} {key : String} {d : Definition}
    (h : (model permissions roles).find? .policy key = some d) :
  d.rows = permissions
  := by
  obtain ⟨hmem, hkind, -⟩ := Model.of_find? h
  simp only [model, List.mem_cons, List.not_mem_nil, or_false] at hmem
  obtain rfl | rfl | rfl | rfl | rfl := hmem <;> first | rfl | cases hkind

theorem role_of_find?
    {permissions roles : List Row} {key : String} {d : Definition}
    (h : (model permissions roles).find? .role key = some d) :
  d.rows = roles
  := by
  obtain ⟨hmem, hkind, -⟩ := Model.of_find? h
  simp only [model, List.mem_cons, List.not_mem_nil, or_false] at hmem
  obtain rfl | rfl | rfl | rfl | rfl := hmem <;> first | rfl | cases hkind

/-- Models with the same policy rows and the same role rows have the same rows. -/
theorem sameRows
    {permissions permissions' roles roles' : List Row}
    (hpermissions : ∀ row, row ∈ permissions ↔ row ∈ permissions')
    (hroles : ∀ row, row ∈ roles ↔ row ∈ roles') :
  (model permissions roles).SameRows (model permissions' roles')
  := by
  intro kind key d d' hd hd'
  cases kind with
  | policy =>
      rw [policy_of_find? hd, policy_of_find? hd']
      apply hpermissions
  | role =>
      rw [role_of_find? hd, role_of_find? hd']
      apply hroles

theorem entries_text :
  ModelText.entries text = .ok entries
  := by
  have hread : (ModelText.read text).1.toOption = some () := by
    rw [ModelText.read, text, String.toList_ofList]
    decide +kernel
  have hcontents : (ModelText.read text).2 = ⟨entries, []⟩ := by
    rw [ModelText.read, text, String.toList_ofList]
    decide +kernel
  exact ModelText.entries_of_read hread hcontents

/-- The tokens of the text of the matcher. -/
def tokens : List Token :=
  [⟨.name, "g", 0⟩, ⟨.opening, "(", 1⟩, ⟨.name, "r", 2⟩, ⟨.dot, ".", 3⟩, ⟨.name, "sub", 4⟩,
   ⟨.comma, ",", 7⟩, ⟨.name, "p", 9⟩, ⟨.dot, ".", 10⟩, ⟨.name, "sub", 11⟩, ⟨.closing, ")", 14⟩,
   ⟨.endOfText, "", 15⟩]

theorem parse_matcher :
  Expr.parse "g(r.sub, p.sub)" = .ok matcher.tree
  := by
  have htokens : tokenize "g(r.sub, p.sub)" = .ok tokens := by
    apply ok_of_toOption
    rw [tokenize, String.toList_ofList]
    decide +kernel
  exact Expr.parse_of_tokens htokens rfl

theorem defines : List.Forall₂ Model.Defines entries (model [] []).definitions := by
  apply List.Forall₂.cons
  · apply Model.Defines.request (by decide) (by decide +kernel) (by decide)
    apply ok_of_toOption rfl
  · apply List.Forall₂.cons
    · apply Model.Defines.policy (by decide) (by decide +kernel) (by decide)
      apply ok_of_toOption (by decide +kernel)
    · apply List.Forall₂.cons
      · apply Model.Defines.role (by decide) (by decide +kernel) (by decide)
        apply ok_of_toOption (by decide +kernel)
      · apply List.Forall₂.cons Rbac.defines_effect
        apply List.Forall₂.cons _ .nil
        apply Model.Defines.matcher (by decide) (by decide +kernel) (by decide) parse_matcher

theorem ofText :
  ∃ events, Model.ofText text = (.ok (model [] []), events)
  := Model.ofText_of_entries entries_text defines (by decide) rfl

end Tiers

namespace Enforcer

/-- An enforcer of the model with tiers that has no source, with a limit for chains of roles. -/
def tiered (level : Nat) : Enforcer :=
  ((start (Tiers.model [] []) none).perform
    (.initial .full { maxHierarchyLevel := level } none .none {})).2

theorem managed_tiered (level : Nat) (mutations : List Mutation)
    (hload : .loadPolicy ∉ mutations) :
  Managed (Tiers.model [] []) { maxHierarchyLevel := level }
    (Mutation.run mutations (tiered level))
  := by
  have hrun : ∀ e, Managed (Tiers.model [] []) { maxHierarchyLevel := level } e →
      Managed (Tiers.model [] []) { maxHierarchyLevel := level } (Mutation.run mutations e) := by
    induction mutations with
    | nil =>
        intro e he
        apply he
    | cons x rest ih =>
        intro e he
        apply ih (List.not_mem_of_not_mem_cons hload)
        apply he.mutate x
        intro hx
        rw [hx] at hload
        exact absurd List.mem_cons_self hload
  apply hrun
  apply Managed.start (Prod.ext rfl rfl)

/-- Two enforcers have the same rows, and a matcher that answers about all of them, but give
different answers to a request. -/
def Disagree (e e' : Enforcer) (request : List Value) : Prop :=
  (e.model.snapshot .policy = e'.model.snapshot .policy ∧
    e.model.snapshot .role = e'.model.snapshot .role) ∧
  (∃ f, e.model.frame {} = .ok f ∧ f.strategy ≠ .priority ∧ f.Answers e.allFunctions request) ∧
  (∃ f, e'.model.frame {} = .ok f ∧ f.strategy ≠ .priority ∧ f.Answers e'.allFunctions request) ∧
  ∃ allowed, ((enforce request).perform e).1 = .ok allowed ∧
    ((enforce request).perform e').1 = .ok !allowed

/-- The frame of a selection can be looked at where it is computed. -/
theorem exists_frame
    {m : Model} {s : Selection} {P : Frame → Prop} [DecidablePred P]
    (h : (m.frame s).toOption.any P = true) :
  ∃ f, m.frame s = .ok f ∧ P f
  := by
  obtain ⟨f, hf, hP⟩ := Option.any_eq_true _ _ |>.mp h
  exact ⟨f, ok_of_toOption hf, of_decide_eq_true hP⟩

end Enforcer

end AccessControl
