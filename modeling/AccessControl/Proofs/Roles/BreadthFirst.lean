import AccessControl.Roles.Closure
import Mathlib.Data.Finset.Card
import Mathlib.Tactic

/-!
# Breadth-first order

A closure takes the names that wait one by one, asks every graph where a step leads from them,
and lets the names that are new wait behind the others.  Between two turns the names found so
far are those done with, followed by those that wait: `Swept` says what holds of them.  Fewer
steps lead to the earlier ones, and what waits is at most one step farther away than the first
name that waits.  The main result is `RoleGraph.closure_breadthFirst`.
-/

namespace AccessControl

/-- A list without repetitions has none. -/
theorem nodup_eraseDups {α : Type} [BEq α] [LawfulBEq α] (xs : List α) :
  xs.eraseDups.Nodup
  := by
  induction hn : xs.length using Nat.strong_induction_on generalizing xs with
  | _ n ih =>
      cases xs with
      | nil => apply List.nodup_nil
      | cons x rest =>
          rw [List.eraseDups_cons, List.nodup_cons]
          constructor
          · simp
          · apply ih _ _ _ rfl
            have hle := List.length_filter_le (fun y => !y == x) rest
            rw [List.length_cons] at hn
            omega

theorem total_eq_sum (ns : List Nat) :
  total ns = ns.sum
  := by
  induction ns with
  | nil => rfl
  | cons n rest ih => rw [total, List.sum_cons, ih]

/-! ### Steps -/

section Steps

variable {α : Type} {R : α → α → Prop} {seed : α}

/-- So many steps of a relation, at least one, lead from a seed to an element. -/
inductive ReachedIn (R : α → α → Prop) (seed : α) : Nat → α → Prop
  | single {b : α} (hstep : R seed b) : ReachedIn R seed 1 b
  | tail {n : Nat} {b c : α} (hreach : ReachedIn R seed n b) (hstep : R b c) :
      ReachedIn R seed (n + 1) c

theorem ReachedIn.pos {n : Nat} {b : α} (h : ReachedIn R seed n b) :
  1 ≤ n
  := by
  cases h with
  | single => apply le_rfl
  | tail => omega

theorem transGen_iff_reachedIn (b : α) :
  Relation.TransGen R seed b ↔ ∃ n, ReachedIn R seed n b
  := by
  constructor
  · intro h
    induction h with
    | single hstep => exact ⟨1, .single hstep⟩
    | tail _ hstep ih =>
        obtain ⟨n, hn⟩ := ih
        exact ⟨n + 1, .tail hn hstep⟩
  · rintro ⟨n, hn⟩
    induction hn with
    | single hstep => apply Relation.TransGen.single hstep
    | tail _ hstep ih => apply Relation.TransGen.tail ih hstep

/-- An element is no farther from the seed than another: however the other is reached, it is
reached in no more steps. -/
def NoFarther (R : α → α → Prop) (seed a b : α) : Prop :=
  ∀ n, ReachedIn R seed n b → ∃ k ≤ n, ReachedIn R seed k a

/-- A list of what one step or more lead to, each once and the nearer before the farther. -/
structure BreadthFirst (R : α → α → Prop) (seed : α) (xs : List α) : Prop where
  nodup : xs.Nodup
  mem_iff : ∀ b, b ∈ xs ↔ Relation.TransGen R seed b
  ordered : xs.Pairwise (NoFarther R seed)

/-! ### Sweeps -/

/-- The elements found so far are those done with and those that wait.  Steps from the seed and
from what is done with lead to what is found, and what waits is no more than one step farther
away than the first element that waits. -/
structure Swept (R : α → α → Prop) (seed : α) (done waiting : List α) : Prop where
  nodup : (done ++ waiting).Nodup
  reached : ∀ b ∈ done ++ waiting, Relation.TransGen R seed b
  closed : ∀ a, a = seed ∨ a ∈ done → ∀ b, R a b → b ∈ done ++ waiting
  ordered : (done ++ waiting).Pairwise (NoFarther R seed)
  level : ∀ w ∈ waiting.head?, ∀ n, ReachedIn R seed n w →
    ∀ b ∈ waiting, ∃ k ≤ n + 1, ReachedIn R seed k b

namespace Swept

variable {done waiting rest fresh : List α} {w : α}

/-- After the first turn what one step from the seed leads to waits. -/
theorem start (hnodup : fresh.Nodup) (hfresh : ∀ b, b ∈ fresh ↔ R seed b) :
  Swept R seed [] fresh
  := by
  have hone : ∀ b ∈ fresh, ReachedIn R seed 1 b := fun b hb => .single ((hfresh b).mp hb)
  constructor
  · apply hnodup
  · intro b hb
    apply Relation.TransGen.single ((hfresh b).mp hb)
  · rintro a (rfl | ha) b hb
    · apply (hfresh b).mpr hb
    · cases ha
  · apply List.pairwise_iff_forall_sublist.mpr
    intro a b hsub n hn
    exact ⟨1, hn.pos, hone a (hsub.subset List.mem_cons_self)⟩
  · intro w hw n hn b hb
    exact ⟨1, by omega, hone b hb⟩

/-- What is found before the first element that waits, or is it, is no farther than what waits. -/
theorem noFarther (h : Swept R seed done (w :: rest)) {a b : α} (ha : a ∈ done ++ [w])
    (hb : b ∈ w :: rest) :
  NoFarther R seed a b
  := by
  obtain ⟨-, hwaiting, hbefore⟩ := List.pairwise_append.mp h.ordered
  obtain ha | ha := List.mem_append.mp ha
  · apply hbefore a ha b hb
  · rw [List.mem_singleton.mp ha]
    obtain rfl | hb := List.mem_cons.mp hb
    · intro n hn
      exact ⟨n, le_rfl, hn⟩
    · apply (List.pairwise_cons.mp hwaiting).1 b hb

/-- What is not found yet is farther away than the first element that waits. -/
theorem mem_or_farther (h : Swept R seed done (w :: rest)) {n : Nat} {b : α}
    (hb : ReachedIn R seed n b) :
  b ∈ done ++ w :: rest ∨ ∃ k < n, ReachedIn R seed k w
  := by
  induction hb with
  | single hstep =>
      left
      apply h.closed seed (Or.inl rfl) _ hstep
  | @tail n a b ha hstep ih =>
      obtain hmem | ⟨k, hk, hw⟩ := ih
      · obtain hdone | hwaits := List.mem_append.mp hmem
        · left
          apply h.closed a (Or.inr hdone) b hstep
        · right
          obtain ⟨k, hk, hw⟩ := h.noFarther List.mem_concat_self hwaits n ha
          exact ⟨k, by omega, hw⟩
      · right
        exact ⟨k, by omega, hw⟩

/-- One turn: the first element that waits is done with, and what is new one step from it waits
behind the others. -/
theorem turn (h : Swept R seed done (w :: rest)) (hnodup : fresh.Nodup)
    (hfresh : ∀ b, b ∈ fresh ↔ R w b ∧ b ∉ done ++ w :: rest) :
  Swept R seed (done ++ [w]) (rest ++ fresh)
  := by
  have hfound : done ++ [w] ++ (rest ++ fresh) = (done ++ w :: rest) ++ fresh := by simp
  have hafter : ∀ b ∈ fresh, ∀ k, ReachedIn R seed k w → ReachedIn R seed (k + 1) b := by
    intro b hb k hk
    apply ReachedIn.tail hk ((hfresh b).mp hb).1
  have hfarther : ∀ b ∈ fresh, ∀ n, ReachedIn R seed n b → ∃ k < n, ReachedIn R seed k w := by
    intro b hb n hn
    apply (h.mem_or_farther hn).resolve_left ((hfresh b).mp hb).2
  -- what was found before, and what is new, is no farther than anything new
  have hlast : ∀ a ∈ (done ++ w :: rest) ++ fresh, ∀ b ∈ fresh, NoFarther R seed a b := by
    intro a ha b hb n hn
    obtain ⟨k, hk, hw⟩ := hfarther b hb n hn
    obtain ha | ha := List.mem_append.mp ha
    · rw [List.append_cons, List.mem_append] at ha
      obtain ha | ha := ha
      · obtain ⟨j, hj, hreach⟩ := h.noFarther ha List.mem_cons_self k hw
        exact ⟨j, by omega, hreach⟩
      · obtain ⟨j, hj, hreach⟩ := h.level w rfl k hw a (List.mem_cons_of_mem _ ha)
        exact ⟨j, by omega, hreach⟩
    · exact ⟨k + 1, hk, hafter a ha k hw⟩
  constructor
  · rw [hfound, List.nodup_append']
    refine ⟨h.nodup, hnodup, ?_⟩
    intro b hb hb'
    apply ((hfresh b).mp hb').2 hb
  · rw [hfound]
    intro b hb
    obtain hb | hb := List.mem_append.mp hb
    · apply h.reached b hb
    · apply (h.reached w (by simp)).tail ((hfresh b).mp hb).1
  · rw [hfound]
    rintro a ha b hstep
    rw [List.mem_append, List.mem_singleton, ← or_assoc] at ha
    obtain ha | rfl := ha
    · apply List.mem_append_left
      apply h.closed a ha b hstep
    · by_cases hold : b ∈ done ++ a :: rest
      · apply List.mem_append_left _ hold
      · apply List.mem_append_right _ ((hfresh b).mpr ⟨hstep, hold⟩)
  · rw [hfound, List.pairwise_append]
    refine ⟨h.ordered, ?_, ?_⟩
    · apply List.pairwise_iff_forall_sublist.mpr
      intro a b hsub
      apply hlast
      · apply List.mem_append_right _ (hsub.subset List.mem_cons_self)
      · apply hsub.subset (by simp)
    · intro a ha
      apply hlast a (List.mem_append_left _ ha)
  · intro v hv n hn b hb
    -- the new first element is no nearer than the one that is done with
    have hnear : ∃ k ≤ n, ReachedIn R seed k w := by
      obtain hv | hv := List.mem_append.mp (List.mem_of_mem_head? hv)
      · apply h.noFarther List.mem_concat_self (List.mem_cons_of_mem _ hv) n hn
      · obtain ⟨k, hk, hw⟩ := hfarther v hv n hn
        exact ⟨k, hk.le, hw⟩
    obtain ⟨k, hk, hw⟩ := hnear
    obtain hb | hb := List.mem_append.mp hb
    · obtain ⟨j, hj, hreach⟩ := h.level w rfl k hw b (List.mem_cons_of_mem _ hb)
      exact ⟨j, by omega, hreach⟩
    · exact ⟨k + 1, by omega, hafter b hb k hw⟩

/-- When nothing waits any more, all that can be reached is found. -/
theorem breadthFirst (h : Swept R seed done []) :
  BreadthFirst R seed done
  := by
  have hnodup := h.nodup
  have hreached := h.reached
  have hclosed := h.closed
  have hordered := h.ordered
  rw [List.append_nil] at hnodup hreached hclosed hordered
  refine ⟨hnodup, ?_, hordered⟩
  intro b
  constructor
  · apply hreached b
  · intro hb
    induction hb with
    | single hstep => apply hclosed seed (Or.inl rfl) _ hstep
    | tail _ hstep ih => apply hclosed _ (Or.inr ih) _ hstep

end Swept

/-! ### Other names for the same steps -/

section Images

variable {β : Type} {f : α → β} {S : β → β → Prop}
  (hS : ∀ a y, S (f a) y ↔ ∃ b, R a b ∧ f b = y)

include hS

/-- Steps between the images of elements lead where the steps between the elements lead. -/
theorem reachedIn_map (n : Nat) (y : β) :
  ReachedIn S (f seed) n y ↔ ∃ b, ReachedIn R seed n b ∧ f b = y
  := by
  constructor
  · intro h
    induction h with
    | single hstep =>
        obtain ⟨b, hb, rfl⟩ := (hS _ _).mp hstep
        exact ⟨b, .single hb, rfl⟩
    | tail _ hstep ih =>
        obtain ⟨a, ha, rfl⟩ := ih
        obtain ⟨b, hb, rfl⟩ := (hS _ _).mp hstep
        exact ⟨b, .tail ha hb, rfl⟩
  · rintro ⟨b, hb, rfl⟩
    induction hb with
    | single hstep => apply ReachedIn.single ((hS _ _).mpr ⟨_, hstep, rfl⟩)
    | tail _ hstep ih => apply ReachedIn.tail ih ((hS _ _).mpr ⟨_, hstep, rfl⟩)

theorem transGen_map (y : β) :
  Relation.TransGen S (f seed) y ↔ ∃ b, Relation.TransGen R seed b ∧ f b = y
  := by
  simp only [transGen_iff_reachedIn, reachedIn_map hS]
  constructor
  · rintro ⟨n, b, hb, rfl⟩
    exact ⟨b, ⟨n, hb⟩, rfl⟩
  · rintro ⟨b, ⟨n, hb⟩, rfl⟩
    exact ⟨n, b, hb, rfl⟩

theorem reflTransGen_map (y : β) :
  Relation.ReflTransGen S (f seed) y ↔ ∃ b, Relation.ReflTransGen R seed b ∧ f b = y
  := by
  simp only [Relation.reflTransGen_iff_eq_or_transGen, transGen_map hS]
  constructor
  · rintro (rfl | ⟨b, hb, rfl⟩)
    · exact ⟨seed, Or.inl rfl, rfl⟩
    · exact ⟨b, Or.inr hb, rfl⟩
  · rintro ⟨b, rfl | hb, rfl⟩
    · left
      rfl
    · right
      exact ⟨b, hb, rfl⟩

/-- A list of images in breadth-first order is the list of the images of one. -/
theorem BreadthFirst.exists_map
    (hf : Function.Injective f) {ys : List β} (h : BreadthFirst S (f seed) ys) :
  ∃ xs, ys = xs.map f ∧ BreadthFirst R seed xs
  := by
  obtain ⟨xs, rfl⟩ : ys ∈ Set.range (List.map f) := by
    rw [Set.range_list_map]
    intro y hy
    obtain ⟨b, -, rfl⟩ := (transGen_map hS y).mp ((h.mem_iff y).mp hy)
    exact ⟨b, rfl⟩
  have hreached : ∀ n b, ReachedIn S (f seed) n (f b) ↔ ReachedIn R seed n b := by
    intro n b
    rw [reachedIn_map hS]
    constructor
    · rintro ⟨c, hc, hsame⟩
      rw [← hf hsame]
      apply hc
    · intro hb
      exact ⟨b, hb, rfl⟩
  refine ⟨xs, rfl, h.nodup.of_map f, ?_, ?_⟩
  · intro b
    rw [← List.mem_map_of_injective hf, h.mem_iff, transGen_iff_reachedIn, transGen_iff_reachedIn]
    simp only [hreached]
  · apply (List.pairwise_map.mp h.ordered).imp
    intro a b hab n hn
    obtain ⟨k, hk, ha⟩ := hab n ((hreached n b).mpr hn)
    exact ⟨k, hk, (hreached k a).mp ha⟩

end Images

end Steps

namespace RoleGraph

/-! ### Turns -/

/-- Where a graph says that one step leads from a name. -/
def next (g : RoleGraph) (reverse : Bool) (domain name : Name) : Except Failure (List Name) :=
  if reverse then g.users name domain else g.roles name domain

/-- Some graph says that one step leads from a name to another. -/
def Leads (graphs : List RoleGraph) (reverse : Bool) (domain a b : Name) : Prop :=
  ∃ g ∈ graphs, ∃ names, g.next reverse domain a = .ok names ∧ b ∈ names

variable {graphs : List RoleGraph} {reverse : Bool} {domain : Name}

theorem step_cons (g : RoleGraph) (rest : List RoleGraph) (name : Name) :
  step reverse domain name (g :: rest) = do
    let here ← g.next reverse domain name
    let others ← step reverse domain name rest
    return here ++ others
  := by
  cases reverse <;> rfl

/-- All graphs are asked for a step: it leads where some of them says, or one of them fails. -/
theorem step_cases (graphs : List RoleGraph) (reverse : Bool) (domain name : Name) :
  match step reverse domain name graphs with
  | .ok names => (∀ b, b ∈ names ↔ Leads graphs reverse domain name b) ∧
      ∀ g ∈ graphs, ∃ names, g.next reverse domain name = .ok names
  | .error failure => ∃ g ∈ graphs, g.next reverse domain name = .error failure
  := by
  induction graphs with
  | nil => simp [step, Leads]
  | cons g rest ih =>
      rw [step_cons]
      rcases hnext : g.next reverse domain name with failure | here
      · exact ⟨g, List.mem_cons_self, hnext⟩
      · rcases hrest : step reverse domain name rest with failure | others
        · rw [hrest] at ih
          obtain ⟨g', hg', hfail⟩ := ih
          exact ⟨g', List.mem_cons_of_mem _ hg', hfail⟩
        · rw [hrest] at ih
          obtain ⟨hmem, hanswer⟩ := ih
          constructor
          · intro b
            rw [List.mem_append, hmem]
            simp only [Leads, List.exists_mem_cons_iff, hnext, Except.ok.injEq, exists_eq_left']
          · rw [List.forall_mem_cons]
            exact ⟨⟨here, hnext⟩, hanswer⟩

/-- Going on from what a sweep has found ends with all that can be reached, in breadth-first
order, or with the failure of a graph that is asked for a name that can be reached. -/
theorem closureFrom_swept
    {U : Finset Name} (hU : ∀ a b, Leads graphs reverse domain a b → b ∈ U) {seed : Name}
    {fuel : Nat} {done waiting : List Name}
    (h : Swept (Leads graphs reverse domain) seed done waiting)
    (hdone : ∀ a ∈ done, ∀ g ∈ graphs, ∃ names, g.next reverse domain a = .ok names)
    (hfuel : U.card ≤ fuel + done.length) :
  match closureFrom graphs reverse domain fuel (done ++ waiting) waiting with
  | .ok names => BreadthFirst (Leads graphs reverse domain) seed names ∧
      ∀ a ∈ names, ∀ g ∈ graphs, ∃ names, g.next reverse domain a = .ok names
  | .error failure => ∃ a, Relation.TransGen (Leads graphs reverse domain) seed a ∧
      ∃ g ∈ graphs, g.next reverse domain a = .error failure
  := by
  induction fuel generalizing done waiting with
  | zero =>
      -- as many names are done with as there are, so none waits
      have hcard : (done ++ waiting).length ≤ U.card := by
        rw [← List.toFinset_card_of_nodup h.nodup]
        apply Finset.card_le_card
        intro b hb
        obtain ⟨a, -, hab⟩ := Relation.TransGen.tail'_iff.mp (h.reached b (List.mem_toFinset.mp hb))
        apply hU a b hab
      rw [List.length_append] at hcard
      obtain rfl : waiting = [] := List.eq_nil_of_length_eq_zero (by omega)
      rw [closureFrom, List.append_nil]
      exact ⟨h.breadthFirst, hdone⟩
  | succ fuel ih =>
      cases waiting with
      | nil =>
          rw [closureFrom, List.append_nil]
          exact ⟨h.breadthFirst, hdone⟩
      | cons w rest =>
          have hstep := step_cases graphs reverse domain w
          rw [closureFrom]
          rcases hnames : step reverse domain w graphs with failure | names
          · rw [hnames] at hstep
            exact ⟨w, h.reached w (by simp), hstep⟩
          · rw [hnames] at hstep
            obtain ⟨hmem, hanswer⟩ := hstep
            let fresh := names.eraseDups.filter fun n => !(done ++ w :: rest).contains n
            have hfresh : ∀ b, b ∈ fresh ↔
                Leads graphs reverse domain w b ∧ b ∉ done ++ w :: rest := by
              intro b
              rw [← hmem]
              simp [fresh]
            have hturn := h.turn ((nodup_eraseDups names).filter _) hfresh
            have hdone' : ∀ a ∈ done ++ [w], ∀ g ∈ graphs,
                ∃ names, g.next reverse domain a = .ok names := by
              intro a ha
              obtain ha | ha := List.mem_append.mp ha
              · apply hdone a ha
              · rw [List.mem_singleton.mp ha]
                apply hanswer
            have hfuel' : U.card ≤ fuel + (done ++ [w]).length := by
              rw [List.length_append, List.length_singleton]
              omega
            have hfound : done ++ [w] ++ (rest ++ fresh) = (done ++ w :: rest) ++ fresh := by simp
            have hgo := ih hturn hdone' hfuel'
            rw [hfound] at hgo
            apply hgo

/-- In the first turn every name is new to which a step leads. -/
theorem closure_eq {seed : Name} {names : List Name}
    (hnames : step reverse domain seed graphs = .ok names) :
  closure graphs reverse domain seed
    = closureFrom graphs reverse domain (nodeCount graphs) ([] ++ names.eraseDups) names.eraseDups
  := by
  have hfresh : (names.eraseDups.filter fun n => !([] : List Name).contains n) = names.eraseDups := by
    simp
  rw [closure, closureFrom, hnames]
  dsimp only [bind, Except.bind]
  rw [hfresh, List.nil_append]

/-- The closure of a name lists what one step or more lead to, each once and the nearer before
the farther, when every step leads to names of nodes.  It fails only as a graph fails that is
asked for the seed or for a name that can be reached. -/
theorem closure_breadthFirst
    (hnodes : ∀ a b, Leads graphs reverse domain a b → ∃ g ∈ graphs, b ∈ g.nodes.map Prod.fst)
    (seed : Name) :
  match closure graphs reverse domain seed with
  | .ok names => BreadthFirst (Leads graphs reverse domain) seed names ∧
      ∀ a, Relation.ReflTransGen (Leads graphs reverse domain) seed a →
        ∀ g ∈ graphs, ∃ names, g.next reverse domain a = .ok names
  | .error failure => ∃ a, Relation.ReflTransGen (Leads graphs reverse domain) seed a ∧
      ∃ g ∈ graphs, g.next reverse domain a = .error failure
  := by
  let U := (graphs.flatMap fun g => g.nodes.map Prod.fst).toFinset
  have hU : ∀ a b, Leads graphs reverse domain a b → b ∈ U := by
    intro a b hab
    rw [List.mem_toFinset, List.mem_flatMap]
    apply hnodes a b hab
  have hcard : U.card ≤ nodeCount graphs := by
    apply (List.toFinset_card_le _).trans
    rw [List.length_flatMap, nodeCount, total_eq_sum]
    simp
  have hstep := step_cases graphs reverse domain seed
  rcases hnames : step reverse domain seed graphs with failure | names
  · rw [hnames] at hstep
    rw [closure, closureFrom, hnames]
    exact ⟨seed, Relation.ReflTransGen.refl, hstep⟩
  · rw [hnames] at hstep
    obtain ⟨hmem, hanswer⟩ := hstep
    have hstart : Swept (Leads graphs reverse domain) seed [] names.eraseDups := by
      apply Swept.start (nodup_eraseDups names)
      intro b
      rw [List.mem_eraseDups, hmem]
    have hfuel : U.card ≤ nodeCount graphs + ([] : List Name).length := hcard
    have hgo := closureFrom_swept hU hstart (List.forall_mem_nil _) hfuel
    rw [← closure_eq hnames] at hgo
    rcases hresult : closure graphs reverse domain seed with failure | found
    · rw [hresult] at hgo
      obtain ⟨a, ha, hfail⟩ := hgo
      exact ⟨a, ha.to_reflTransGen, hfail⟩
    · rw [hresult] at hgo
      obtain ⟨hbreadth, hanswers⟩ := hgo
      refine ⟨hbreadth, ?_⟩
      intro a ha
      obtain rfl | ha := Relation.reflTransGen_iff_eq_or_transGen.mp ha
      · apply hanswer
      · apply hanswers a ((hbreadth.mem_iff a).mpr ha)

end RoleGraph

end AccessControl
