import AccessControl.Proofs.Roles.Textual
import AccessControl.Session.Argument

/-!
# Histories of links

What a role graph answers depends on the links that are left, not on the calls that led there:
neither the nodes of links that were deleted nor the order of the calls can be seen.  The main
result is `RoleGraph.answers_of_links`.
-/

namespace AccessControl

/-- A call of a host that changes the links of a graph. -/
inductive LinkCall where
  | add (name role : String) (domain : Option String)
  | delete (name role : String) (domain : Option String)
  | clear

namespace LinkCall

open RoleGraph

/-- The link of a name to a role, in the default domain if none is named. -/
def link (name role : String) (domain : Option String) : Link :=
  ⟨.text name, .text role, domainNamed domain⟩

/-- The change of a set of links that a call stands for. -/
def change : LinkCall → LinkChange
  | .add name role domain => .add (link name role domain)
  | .delete name role domain => .delete (link name role domain)
  | .clear => .clear

/-- The links that are left after some calls. -/
def links (calls : List LinkCall) : Finset Link := LinkChange.links (calls.map change)

/-- The operation of a graph that is called. -/
def act (g : RoleGraph) : LinkCall → Except Failure RoleGraph
  | .add name role domain => g.link (.text name) (.text role) (domainValue domain)
  | .delete name role domain =>
    (g.unlink (.text name) (.text role) (domainValue domain)).map Prod.fst
  | .clear => .ok g.clear

/-- The graph after some calls, one after the other. -/
def run (calls : List LinkCall) (g : RoleGraph) : Except Failure RoleGraph := calls.foldlM act g

theorem act_eq (g : RoleGraph) (c : LinkCall) :
  act g c = .ok (c.change.onGraph g)
  := by
  cases c with
  | add name role domain => apply link_texts
  | delete name role domain =>
      rw [act, unlink_texts]
      rfl
  | clear => rfl

theorem run_eq (calls : List LinkCall) (g : RoleGraph) :
  run calls g = .ok ((calls.map change).foldl LinkChange.onGraph g)
  := by
  induction calls generalizing g with
  | nil => rfl
  | cons c rest ih =>
      rw [run, List.foldlM_cons, act_eq]
      apply ih

/-- Calls leave a graph of texts. -/
theorem textual_changes {g : RoleGraph} (h : g.Textual) (calls : List LinkCall) :
  ((calls.map change).foldl LinkChange.onGraph g).Textual
  := by
  induction calls generalizing g with
  | nil => apply h
  | cons c rest ih =>
      apply ih
      cases c with
      | add name role domain => apply h.addLink ⟨_, rfl⟩ ⟨_, rfl⟩ ⟨_, rfl⟩
      | delete name role domain => apply h.deleteLink
      | clear => apply List.forall_mem_nil

end LinkCall

namespace RoleGraph

variable {g g' : RoleGraph} {L : Finset Link}

/-! ### Links alone -/

/-- What a graph tells about its links without asking a matcher. -/
structure Tells (g : RoleGraph) (L : Finset Link) : Prop where
  size : g.size = L.card
  domains_nodup : g.domains.Nodup
  mem_domains : ∀ d, d ∈ g.domains ↔ d ≠ defaultDomain ∧ ∃ l ∈ L, l.domain = d
  unlink : ∀ (name role : String) (domain : Option String),
    (g.unlink (.text name) (.text role) (domainValue domain)).map Prod.snd
      = .ok (decide (LinkCall.link name role domain ∈ L))

/-- Every domain that is counted has the count that stands with it. -/
theorem countOf_of_mem
    {counts : List (Name × Nat)} (hnodup : (counts.map (·.1)).Nodup) {p : Name × Nat}
    (hp : p ∈ counts) :
  countOf counts p.1 = p.2
  := by
  induction counts with
  | nil => cases hp
  | cons q rest ih =>
      obtain ⟨hq, hrest⟩ := List.nodup_cons.mp hnodup
      obtain ⟨c, n⟩ := q
      rw [countOf_cons]
      obtain rfl | hmem := List.mem_cons.mp hp
      · rw [if_pos rfl]
      · rw [if_neg, ih hrest hmem]
        rintro rfl
        apply hq (List.mem_map.mpr ⟨p, hmem, rfl⟩)

/-- Counts add up to the numbers that they are the counts of. -/
theorem Counts.sum_eq {counts : List (Name × Nat)} {f : Name → Nat} (h : Counts counts f) :
  (counts.map (·.2)).sum = ∑ d ∈ (counts.map (·.1)).toFinset, f d
  := by
  rw [List.sum_toFinset f h.nodup, List.map_map]
  congr 1
  apply List.map_congr_left
  intro p hp
  rw [Function.comp, ← h.countOf_eq, countOf_of_mem h.nodup hp]

theorem Stores.tells (h : Stores g L) : Tells g L := by
  have hkeys : ∀ d, d ∈ g.edgeCounts.map (·.1) ↔ ∃ l ∈ L, l.domain = d := by
    intro d
    rw [h.counts.mem_keys, Finset.card_pos]
    simp [Finset.Nonempty]
  constructor
  · rw [size, total_eq_sum, h.counts.sum_eq, eq_comm]
    apply Finset.card_eq_sum_card_fiberwise
    intro l hl
    rw [Finset.mem_coe, List.mem_toFinset, hkeys]
    exact ⟨l, hl, rfl⟩
  · apply h.counts.nodup.filter
  · intro d
    rw [domains, List.mem_filter, hkeys, bne_iff_ne, and_comm]
  · intro name role domain
    rw [unlink_texts, Except.map]
    congr 1
    apply (h.deleteLink (LinkCall.link name role domain)).2

/-! ### Roles -/

/-- Names that are answered are the same in some order, and none is repeated. -/
def SameNames (x y : Except Failure (List Name)) : Prop :=
  ∃ xs ys, x = .ok xs ∧ y = .ok ys ∧ xs.Nodup ∧ ys.Nodup ∧ xs.Perm ys

/-- Names that are answered, if they are, are the same in some order, and none is repeated. -/
def AgreeOnNames (x y : Except Failure (List Name)) : Prop :=
  (∀ xs, x = .ok xs → xs.Nodup) ∧ (∀ ys, y = .ok ys → ys.Nodup) ∧
    ∀ xs ys, x = .ok xs → y = .ok ys → xs.Perm ys

/-- What is a part of answers of the same names agrees on them. -/
theorem SameNames.agree {x y x' y' : Except Failure (List Name)} (h : SameNames x' y')
    (hx : IsPart x x') (hy : IsPart y y') :
  AgreeOnNames x y
  := by
  obtain ⟨xs', ys', rfl, rfl, hxs, hys, hperm⟩ := h
  have hx' : ∀ xs, x = .ok xs → xs = xs' := fun xs h => Except.ok.inj (hx xs h).symm
  have hy' : ∀ ys, y = .ok ys → ys = ys' := fun ys h => Except.ok.inj (hy ys h).symm
  refine ⟨?_, ?_, ?_⟩
  · intro xs h
    rw [hx' xs h]
    apply hxs
  · intro ys h
    rw [hy' ys h]
    apply hys
  · intro xs ys h h'
    rw [hx' xs h, hy' ys h']
    apply hperm

/-- Graphs that never give a host different answers about roles: where both answer, they answer
the same. -/
structure Agrees (g g' : RoleGraph) : Prop where
  linked : ∀ (name role : String) (domain : Option String),
    Agree (g.isLinked (.text name) (.text role) (domainValue domain))
      (g'.isLinked (.text name) (.text role) (domainValue domain))
  roles : ∀ (name : String) (domain : Option String),
    AgreeOnNames (g.rolesOf (.text name) (domainValue domain))
      (g'.rolesOf (.text name) (domainValue domain))
  users : ∀ (name : String) (domain : Option String),
    AgreeOnNames (g.usersOf (.text name) (domainValue domain))
      (g'.usersOf (.text name) (domainValue domain))

/-- Graphs that give a host the same answers about roles. -/
structure Answers (g g' : RoleGraph) : Prop where
  linked : ∀ (name role : String) (domain : Option String),
    ∃ linked, g.isLinked (.text name) (.text role) (domainValue domain) = .ok linked ∧
      g'.isLinked (.text name) (.text role) (domainValue domain) = .ok linked
  roles : ∀ (name : String) (domain : Option String),
    SameNames (g.rolesOf (.text name) (domainValue domain))
      (g'.rolesOf (.text name) (domainValue domain))
  users : ∀ (name : String) (domain : Option String),
    SameNames (g.usersOf (.text name) (domainValue domain))
      (g'.usersOf (.text name) (domainValue domain))

section Twins

variable (h : Stores g L) (h' : Stores g' L) (hrules : SameRules g g')

include h h' hrules

/-- With matchers that always answer, graphs of the same links list the same roles. -/
theorem answered_roles (name domain : Name) :
  SameNames (g.answered.roles name domain) (g'.answered.roles name domain)
  := by
  obtain ⟨xs, hxs, hnodup, hmem⟩ := roles_spec h.answered (asks_answered g) name domain
  obtain ⟨ys, hys, hnodup', hmem'⟩ := roles_spec h'.answered (asks_answered g') name domain
  refine ⟨xs, ys, hxs, hys, hnodup, hnodup', ?_⟩
  rw [List.perm_ext_iff_of_nodup hnodup hnodup']
  intro m
  rw [hmem, hmem', hrules.names, hrules.domains]

theorem answered_users (name domain : Name) :
  SameNames (g.answered.users name domain) (g'.answered.users name domain)
  := by
  obtain ⟨xs, hxs, hnodup, hmem⟩ := users_spec h.answered (asks_answered g) name domain
  obtain ⟨ys, hys, hnodup', hmem'⟩ := users_spec h'.answered (asks_answered g') name domain
  refine ⟨xs, ys, hxs, hys, hnodup, hnodup', ?_⟩
  rw [List.perm_ext_iff_of_nodup hnodup hnodup']
  intro m
  rw [hmem, hmem', hrules.names, hrules.domains]

theorem agrees_of_links : Agrees g g' := by
  constructor
  · intro name role domain
    rw [isLinked_texts, isLinked_texts]
    apply hasLink_agree h h' hrules
  · intro name domain
    rw [rolesOf_texts, rolesOf_texts]
    apply (answered_roles h h' hrules _ _).agree
    · apply neighbours_answered
    · apply neighbours_answered
  · intro name domain
    rw [usersOf_texts, usersOf_texts]
    apply (answered_users h h' hrules _ _).agree
    · apply neighbours_answered
    · apply neighbours_answered

/-- Graphs of texts whose matchers answer about texts give the same answers if they have the same
links. -/
theorem answers_of_textual
    (ht : g.Textual) (ht' : g'.Textual) (hm : g.Decides) (hm' : g'.Decides) :
  Answers g g'
  := by
  have hname : ∀ s : String, (Name.text s).Textual := fun s => ⟨s, rfl⟩
  have hdomain : ∀ d, (domainNamed d).Textual := fun d => ⟨_, rfl⟩
  constructor
  · intro name role domain
    have hagree := (agrees_of_links h h' hrules).linked name role domain
    obtain ⟨linked, hlinked, -⟩ := hasLink_spec h.answered (asks_answered g) (.text name)
      (.text role) (domainNamed domain)
    obtain ⟨linked', hlinked', -⟩ := hasLink_spec h'.answered (asks_answered g') (.text name)
      (.text role) (domainNamed domain)
    rw [← hasLink_eq_answered h ht hm (hname _) (hname _) (hdomain _), ← isLinked_texts] at hlinked
    rw [← hasLink_eq_answered h' ht' hm' (hname _) (hname _) (hdomain _), ← isLinked_texts]
      at hlinked'
    rw [hlinked, hlinked', hagree linked linked' hlinked hlinked']
    exact ⟨linked', rfl, rfl⟩
  · intro name domain
    rw [rolesOf_texts, rolesOf_texts, roles, roles,
      neighbours_eq_answered h ht hm _ (hname _) (hdomain _),
      neighbours_eq_answered h' ht' hm' _ (hname _) (hdomain _)]
    apply answered_roles h h' hrules
  · intro name domain
    rw [usersOf_texts, usersOf_texts, users, users,
      neighbours_eq_answered h ht hm _ (hname _) (hdomain _),
      neighbours_eq_answered h' ht' hm' _ (hname _) (hdomain _)]
    apply answered_users h h' hrules

end Twins

/-! ### Histories -/

/-- Graphs that were changed by different calls, but have the same links left, tell the same of
them: how many there are, the domains in which there is one, whether one can be deleted, and
never different roles.  With matchers that answer whatever they are asked about texts every
question about roles has its answer, and it is the same. -/
theorem answers_of_links
    (limit : DepthLimit) (names domains : Option NameMatcher) {calls calls' : List LinkCall}
    (hlinks : LinkCall.links calls = LinkCall.links calls') :
  let start : RoleGraph := { limit, nameMatcher := names, domainMatcher := domains }
  ∃ g g', LinkCall.run calls start = .ok g ∧ LinkCall.run calls' start = .ok g' ∧
    Tells g (LinkCall.links calls) ∧ Tells g' (LinkCall.links calls) ∧ Agrees g g' ∧
    (start.Decides → Answers g g')
  := by
  intro start
  have hempty : Stores start ∅ := .empty limit names domains
  have hstores := hempty.changes (calls.map LinkCall.change)
  have hstores' := hempty.changes (calls'.map LinkCall.change)
  have hrules := SameRules.changes start (calls.map LinkCall.change)
  have hrules' := SameRules.changes start (calls'.map LinkCall.change)
  rw [← LinkChange.links, ← LinkCall.links] at hstores hstores'
  rw [← hlinks] at hstores'
  have hsame := hrules.trans hrules'.symm
  have htextual : start.Textual := List.forall_mem_nil _
  refine ⟨_, _, LinkCall.run_eq calls start, LinkCall.run_eq calls' start, hstores.tells,
    hstores'.tells, agrees_of_links hstores hstores' hsame, ?_⟩
  intro hdecides
  apply answers_of_textual hstores hstores' hsame
  · apply LinkCall.textual_changes htextual
  · apply LinkCall.textual_changes htextual
  · exact ⟨hrules.names ▸ hdecides.names, hrules.domains ▸ hdecides.domains⟩
  · exact ⟨hrules'.names ▸ hdecides.names, hrules'.domains ▸ hdecides.domains⟩

/-- The matcher of keys with a star at their end answers whatever texts it is asked about. -/
theorem decides_keyMatch :
  (Session.nameMatcher
    (PatternFunction.binary "key_match" "key1" "key2" PatternFunction.keyMatchOn)).Decides
  := by
  intro x y
  use keyMatch x y
  rfl

/-- Neither the order of the links, nor one that was deleted, nor one before all were dropped,
can be seen. -/
theorem answers_of_links_again :
  let matcher := Session.nameMatcher
    (PatternFunction.binary "key_match" "key1" "key2" PatternFunction.keyMatchOn)
  let start : RoleGraph := { nameMatcher := some matcher, domainMatcher := some matcher }
  let calls := [.add "/book/*" "reader" none, .add "bob" "(*" (some "d*"),
    .delete "bob" "(*" (some "d*"), .add "reader" "staff" (some "")]
  let calls' := [.add "bob" "staff" none, .clear, .add "reader" "staff" none,
    .add "/book/*" "reader" (some "")]
  LinkCall.links calls = LinkCall.links calls' ∧
    ∃ g g', LinkCall.run calls start = .ok g ∧ LinkCall.run calls' start = .ok g' ∧
      Answers g g' ∧ g.size = 2 ∧ g'.size = 2
  := by
  intro matcher start calls calls'
  have hlinks : LinkCall.links calls = LinkCall.links calls' := by decide
  obtain ⟨g, g', hg, hg', htells, htells', -, hanswers⟩ :=
    answers_of_links {} (some matcher) (some matcher) hlinks
  refine ⟨hlinks, g, g', hg, hg', hanswers ⟨?_, ?_⟩, ?_, ?_⟩
  · rintro m ⟨⟩
    apply decides_keyMatch
  · rintro m ⟨⟩
    apply decides_keyMatch
  · rw [htells.size]
    decide
  · rw [htells'.size]
    decide

/-- The node of a link that was deleted is still shown to a matcher, which fails if it cannot
read it as a pattern. -/
theorem isLinked_leftover :
  let start : RoleGraph :=
    { nameMatcher := (Functions.ofValue? [] (.function "key_match2")).map Session.nameMatcher }
  let calls := [.add "(" "x" none, .delete "(" "x" none]
  LinkCall.links calls = LinkCall.links [] ∧
    (start.isLinked (.text "a") (.text "b") .none).toOption = some false ∧
    ((LinkCall.run calls start).bind fun g =>
      g.isLinked (.text "a") (.text "b") .none).toOption = none
  := by
  intro start calls
  exact ⟨by decide, by decide +kernel, by decide +kernel⟩

end RoleGraph

end AccessControl
