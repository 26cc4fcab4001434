import AccessControl.Proofs.Enforcer.Cache
import AccessControl.Proofs.Enforcer.Orderless
import AccessControl.Proofs.Pattern.Alike
import AccessControl.Proofs.Rbac.Text

/-!
# Keys of requests

An enforcer that remembers decisions knows a request by its values and their kinds.  Requests
of one key are decided alike, `Enforcer.sameRequest_sound`, unless one has a truth value inside
a tuple where the other has a number: these are equal, an expression that looks for a text
among the parts of the tuple tells them apart, and no kind is kept of a part.
-/

namespace AccessControl

open AccessControl.Action

/-! ### Values of requests -/

namespace Value

/-- The values that a key is made of: plain values, numbers of double precision, and tuples of
such values. -/
inductive Key : Value → Prop
  | plain {v : Value} (h : v.Plain) : Key v
  | float {x : Binary64} (h : x.Canonical) : Key (.float x)
  | nan (id : Nat) : Key (.nan id)
  | tuple {items : List Value} (h : ∀ v ∈ items, Key v) : Key (.tuple items)

mutual

/-- At some place one value is a truth value and the other a number. -/
def mixed : Value → Value → Bool
  | .bool _, w => w.number?.isSome
  | v, .bool _ => v.number?.isSome
  | .tuple items, .tuple others => itemsMixed items others
  | _, _ => false

def itemsMixed : List Value → List Value → Bool
  | v :: rest, w :: others => mixed v w || itemsMixed rest others
  | _, _ => false

end

theorem mixed_cons {v w : Value} {vs ws : List Value} :
  mixed (.tuple (v :: vs)) (.tuple (w :: ws)) = false
    ↔ mixed v w = false ∧ mixed (.tuple vs) (.tuple ws) = false
  := by
  rw [mixed, mixed, itemsMixed, Bool.or_eq_false_iff]

/-- What equals a number is that number, unless it is a truth value. -/
theorem coincide_of_number
    {v w : Value} {a : Numeric} (hv : v.number? = some a) (hmixed : mixed v w = false)
    (h : (v == w) = true) :
  Coincide v w
  := by
  rw [eq_value_of_number? hv, number_beq, Option.any_eq_true] at h
  obtain ⟨b, hb, horder⟩ := h
  cases w with
  | bool c =>
      rw [eq_value_of_number? hv] at hmixed
      cases a <;> cases hmixed
  | int n => exact .number hv hb (eq_of_beq horder)
  | float x => exact .number hv hb (eq_of_beq horder)
  | _ => cases hb

theorem eq_of_plain
    {v w : Value} (hv : v.Plain) (hw : w.Plain) (hkind : v.kind = w.kind) (h : (v == w) = true) :
  v = w
  := by
  apply eq_of_sameValue hv hw
  rw [Enforcer.sameValue, hkind, h, beq_self_eq_true, Bool.and_true]

theorem nan_beq_nan (i j : Nat) :
  (Value.nan i == .nan j) = (i == j)
  := Bool.or_false _

/-- Tuples are equal parts if their items are. -/
theorem coincide_of_items
    {vs ws : List Value}
    (hitems : ∀ v ∈ vs, ∀ w ∈ ws, mixed v w = false → (v == w) = true → Coincide v w)
    (hmixed : mixed (.tuple vs) (.tuple ws) = false) (h : (Value.tuple vs == .tuple ws) = true) :
  Coincide (.tuple vs) (.tuple ws)
  := by
  induction vs generalizing ws with
  | nil =>
      cases ws with
      | nil => exact .refl _
      | cons w ws => cases h
  | cons v vs ih =>
      cases ws with
      | nil => cases h
      | cons w ws =>
          rw [tuple_beq_cons, Bool.and_eq_true] at h
          obtain ⟨hfirst, hlater⟩ := mixed_cons.mp hmixed
          apply Coincide.cons
          · apply hitems v List.mem_cons_self w List.mem_cons_self hfirst h.1
          · apply ih _ hlater h.2
            intro v hv w hw
            apply hitems v (List.mem_cons_of_mem _ hv) w (List.mem_cons_of_mem _ hw)

/-- Equal values of a key are equal parts, unless a truth value equals a number. -/
theorem coincide_of_beq
    {v w : Value} (hv : v.Key) (hw : w.Key) (hmixed : mixed v w = false) (h : (v == w) = true) :
  Coincide v w
  := by
  induction hv generalizing w with
  | float _ => apply coincide_of_number rfl hmixed h
  | nan id =>
      cases w with
      | nan id' =>
          rw [nan_beq_nan, beq_iff_eq] at h
          rw [h]
          exact .refl _
      | _ => cases h
  | tuple _ ih =>
      cases w with
      | tuple ws =>
          have hws : ∀ w ∈ ws, w.Key := by
            cases hw with
            | plain hw => cases hw
            | tuple hws => exact hws
          apply coincide_of_items _ hmixed h
          intro v hv w hw
          apply ih v hv (hws w hw)
      | _ => cases h
  | plain hv =>
      cases hv with
      | int n => apply coincide_of_number rfl hmixed h
      | none =>
          cases w with
          | none => exact .refl _
          | _ => cases h
      | bool b =>
          cases w with
          | bool c =>
              rw [eq_of_plain (.bool b) (.bool c) rfl h]
              exact .refl _
          | int n => cases hmixed
          | float x => cases hmixed
          | _ => cases h
      | text s =>
          cases w with
          | text t =>
              rw [eq_of_plain (.text s) (.text t) rfl h]
              exact .refl _
          | _ => cases h
      | selection r p e m =>
          cases w with
          | selection r' p' e' m' =>
              cases hw with
              | plain hw =>
                  rw [eq_of_plain (.selection r p e m) hw rfl h]
                  exact .refl _
          | _ => cases h

/-- Equal parts of one kind are alike. -/
theorem alike_of_coincide
    {v w : Value} (hv : v.Key) (hw : w.Key) (hkind : v.kind = w.kind) (h : Coincide v w) :
  Alike v w
  := by
  have hcanonical : ∀ {x}, Key (.float x) → x.Canonical := by
    intro x h
    cases h with
    | plain h => cases h
    | float h => exact h
  cases h with
  | refl => exact .refl _
  | cons hfirst hrest => exact .tuple (.cons hfirst hrest)
  | @number _ _ a b ha hb h =>
      obtain rfl := eq_value_of_number? ha
      obtain rfl := eq_value_of_number? hb
      cases a with
      | int m =>
          cases b with
          | int n =>
              rw [Numeric.order, Option.some.injEq, Std.compare_eq_iff_eq] at h
              rw [h]
              exact .refl _
          | float y => exact (show "int" ≠ "float" by decide) hkind |>.elim
      | float x =>
          cases b with
          | int n => exact (show "float" ≠ "int" by decide) hkind |>.elim
          | float y =>
              apply Alike.number (.float _)
              apply Binary64.alike_of_beq (hcanonical hv) (hcanonical hw)
              rw [Binary64.beq, beq_iff_eq]
              exact h

end Value

namespace Enforcer

/-! ### Requests of one key -/

theorem alike_of_sameRequest
    {request request' : List Value} (h : ∀ v ∈ request, v.Key) (h' : ∀ v ∈ request', v.Key)
    (hmixed : Value.mixed (.tuple request) (.tuple request') = false)
    (hsame : sameRequest request request' = true) :
  List.Forall₂ Value.Alike request request'
  := by
  induction request generalizing request' with
  | nil =>
      cases request' with
      | nil => exact .nil
      | cons w others => cases hsame
  | cons v rest ih =>
      cases request' with
      | nil => cases hsame
      | cons w others =>
          obtain ⟨hv, hrest⟩ := List.forall_mem_cons.mp h
          obtain ⟨hw, hothers⟩ := List.forall_mem_cons.mp h'
          obtain ⟨hvalue, hsame⟩ := (Bool.and_eq_true _ _).mp hsame
          obtain ⟨hkind, hequal⟩ := (Bool.and_eq_true _ _).mp hvalue
          obtain ⟨hfirst, hlater⟩ := Value.mixed_cons.mp hmixed
          apply List.Forall₂.cons
          · apply Value.alike_of_coincide hv hw (eq_of_beq hkind)
            apply Value.coincide_of_beq hv hw hfirst hequal
          · apply ih hrest hothers hlater hsame

/-- Like requests select the same definitions for like values. -/
theorem splitRequest_alike
    {request request' : List Value} (h : List.Forall₂ Value.Alike request request') :
  ∃ selection values values', splitRequest request = (selection, values) ∧
    splitRequest request' = (selection, values') ∧ List.Forall₂ Value.Alike values values'
  := by
  cases h with
  | nil => exact ⟨_, _, _, rfl, rfl, .nil⟩
  | @cons v w vs ws hfirst hrest =>
      cases hfirst with
      | refl =>
          cases v with
          | selection r p e m => exact ⟨_, _, _, rfl, rfl, hrest⟩
          | _ => exact ⟨_, _, _, rfl, rfl, .cons (.refl _) hrest⟩
      | zeros s t => exact ⟨_, _, _, rfl, rfl, .cons (.zeros s t) hrest⟩
      | tuple h => exact ⟨_, _, _, rfl, rfl, .cons (.tuple h) hrest⟩

/-! ### Decisions -/

/-- All functions of the table are functions of the library. -/
def CallsLibrary (e : Enforcer) : Prop :=
  ∀ entry ∈ e.functions, ∃ name, (name, entry.2) ∈ PatternFunction.all

/-- A new enforcer calls functions of the library only. -/
theorem callsLibrary_of_defaults {e : Enforcer} (h : e.functions = PatternFunction.defaults) :
  e.CallsLibrary
  := by
  rintro entry hentry
  rw [h, PatternFunction.defaults, List.mem_filterMap] at hentry
  obtain ⟨⟨name, own⟩, -, hown⟩ := hentry
  obtain ⟨f, hf, rfl⟩ := Option.map_eq_some_iff.mp hown
  obtain ⟨before, after, hall, -⟩ := List.lookup_eq_some_iff.mp hf
  exact ⟨own, by rw [hall]; simp⟩

theorem respects_allFunctions {e : Enforcer} (he : e.CallsLibrary) :
  ∀ name f, e.allFunctions.lookup name = some f → MatcherFunction.Respects f
  := by
  intro name f hf
  rw [lookup_allFunctions, Option.or_eq_some_iff] at hf
  obtain hgraph | ⟨-, hf⟩ := hf
  · obtain ⟨g, -, rfl⟩ := Option.map_eq_some_iff.mp hgraph
    apply roleFunction_respects
  · obtain ⟨before, after, hfunctions, -⟩ := List.lookup_eq_some_iff.mp hf
    obtain ⟨own, hown⟩ := he (name, f) (by rw [hfunctions]; simp)
    exact PatternFunction.all_respects (own, f) hown

end Enforcer

namespace Strategy

/-- Rows that are judged alike are decided alike. -/
theorem reduceFrom_parallel
    {α : Type} {judge judge' : α → Except Failure RowResult}
    (h : ∀ a, Parallel Eq (judge a) (judge' a)) (strategy : Strategy) (i : Nat)
    (allowed : Option Nat) (rows : List α) :
  Parallel Eq (strategy.reduceFrom judge i allowed rows) (strategy.reduceFrom judge' i allowed rows)
  := by
  induction rows generalizing i allowed with
  | nil => exact .ok rfl
  | cons a rest ih =>
      rw [reduceFrom, reduceFrom]
      apply (h a).bind
      rintro r _ rfl
      split
      · exact .ok rfl
      · apply ih

end Strategy

namespace Frame

/-- Like values are decided alike by functions that answer like arguments alike. -/
theorem decide_parallel
    (f : Frame) {functions : Functions}
    (hfunctions : ∀ name f, functions.lookup name = some f → MatcherFunction.Respects f)
    {values values' : List Value} (h : List.Forall₂ Value.Alike values values') :
  Parallel Eq (f.decide functions values) (f.decide functions values')
  := by
  have hjudge : ∀ row, Parallel Eq (f.judge functions values row)
      (f.judge functions values' row) := by
    intro row
    have hbindings : Expr.Keyed (Expr.Keyed Value.Alike) (f.bindings values row)
        (f.bindings values' row) := by
      have hrow : ∀ bindings : Bindings, Expr.Keyed Value.Alike bindings bindings :=
        fun _ => List.forall₂_same.mpr fun _ _ => ⟨rfl, .refl _⟩
      exact .cons ⟨rfl, Expr.Keyed.zip _ h⟩ (.cons ⟨rfl, hrow _⟩ .nil)
    apply (Matcher.holds_alike hbindings hfunctions f.matcher).bind
    rintro matched _ rfl
    exact .ok rfl
  apply (Strategy.reduceFrom_parallel hjudge _ _ _ _).bind
  rintro ⟨d, judged⟩ _ rfl
  exact .ok rfl

end Frame

namespace Enforcer

theorem verdict_parallel
    {e : Enforcer} (he : e.CallsLibrary) {request request' : List Value}
    (h : List.Forall₂ Value.Alike request request') :
  Parallel Eq (e.verdict request) (e.verdict request')
  := by
  obtain ⟨selection, values, values', hsplit, hsplit', hvalues⟩ := splitRequest_alike h
  have hdecide : Parallel Eq (e.decide selection values) (e.decide selection values') := by
    apply (Parallel.refl Eq.refl (e.model.frame selection)).bind
    rintro f _ rfl
    rw [hvalues.length_eq]
    split
    · exact .error _ _
    · apply f.decide_parallel (respects_allFunctions he) hvalues
  rw [verdict, verdict, hsplit, hsplit']
  dsimp only
  split
  · apply hdecide.bind
    rintro result _ rfl
    apply Parallel.refl Eq.refl
  · apply Parallel.refl Eq.refl

/-! ### Memory -/

/-- What an enforcer answers to a request when it does not look into its memory. -/
def decision (e : Enforcer) (request : List Value) : Except Failure Bool :=
  ((enforceEx request).perform e).1.map Prod.fst

theorem decision_eq (e : Enforcer) (request : List Value) :
  e.decision request = (e.verdict request).map Prod.fst
  := by
  obtain ⟨log, traces, hperform⟩ := perform_enforceEx request e
  rw [decision, hperform]

/-- No decision depends on what is remembered, reported or traced. -/
theorem decision_with
    (e : Enforcer) (cache : List (List Value × Bool)) (log : List LogEvent) (traces : List Trace) :
  ({ e with cache, log, traces } : Enforcer).decision = e.decision
  := by
  funext request
  rw [decision_eq, decision_eq]
  rfl

/-- An enforcer remembers decisions of requests that it was asked, as it would give them. -/
def Remembers (e : Enforcer) (asked : List (List Value)) : Prop :=
  ∀ entry ∈ e.cache, entry.1 ∈ asked ∧ e.decision entry.1 = .ok entry.2

/-- Requests of which no one has a truth value where another has a number. -/
structure Unmixed (requests : List (List Value)) : Prop where
  keys : ∀ request ∈ requests, ∀ v ∈ request, v.Key
  unmixed : requests.Pairwise fun request request' =>
    Value.mixed (.tuple request) (.tuple request') = false

theorem Unmixed.left {requests others : List (List Value)} (h : Unmixed (requests ++ others)) :
  Unmixed requests
  := by
  constructor
  · exact fun request hrequest => h.keys request (List.mem_append_left _ hrequest)
  · exact (List.pairwise_append.mp h.unmixed).1

namespace Remembers

variable {e : Enforcer} {asked : List (List Value)}

/-- One may be asked more, and remember no more. -/
theorem ask (h : e.Remembers asked) (request : List Value) (log : List LogEvent)
    (traces : List Trace) :
  ({ e with log, traces } : Enforcer).Remembers (asked ++ [request])
  := by
  intro entry hentry
  obtain ⟨hmem, hdecision⟩ := h entry hentry
  rw [decision_with e e.cache log traces]
  exact ⟨List.mem_append_left _ hmem, hdecision⟩

/-- One may remember what one has decided. -/
theorem add
    (h : e.Remembers asked) {request : List Value} {allowed : Bool}
    (hdecision : e.decision request = .ok allowed) (log : List LogEvent) (traces : List Trace) :
  ({ e with cache := e.cache ++ [(request, allowed)], log, traces } : Enforcer).Remembers
    (asked ++ [request])
  := by
  intro entry hentry
  rw [decision_with]
  obtain hold | hnew := List.mem_append.mp hentry
  · obtain ⟨hmem, hentry⟩ := h entry hold
    exact ⟨List.mem_append_left _ hmem, hentry⟩
  · rw [List.mem_singleton.mp hnew]
    exact ⟨List.mem_concat_self, hdecision⟩

/-- What is answered from memory is what would be decided. -/
theorem decision_of_cached
    (he : e.CallsLibrary) (h : e.Remembers asked) {request : List Value}
    (hrequests : Unmixed (asked ++ [request])) {allowed : Bool}
    (hcached : e.cached? request = some allowed) :
  e.decision request = .ok allowed
  := by
  obtain ⟨entry, hfind, rfl⟩ := Option.map_eq_some_iff.mp hcached
  obtain ⟨hmem, hdecision⟩ := h entry (List.mem_of_find?_eq_some hfind)
  have hunmixed := (List.pairwise_append.mp hrequests.unmixed).2.2 entry.1 hmem request
    List.mem_cons_self
  have hsame := List.find?_some hfind
  have halike := alike_of_sameRequest (hrequests.keys _ (List.mem_append_left _ hmem))
    (hrequests.keys request List.mem_concat_self) hunmixed hsame
  have hparallel : Parallel Eq (e.decision entry.1) (e.decision request) := by
    rw [decision_eq, decision_eq]
    apply (verdict_parallel he halike).map
    rintro result _ rfl
    rfl
  apply (hparallel.eq_ok _).mp hdecision

end Remembers

/-- A request is answered as it is decided, also from memory. -/
theorem perform_enforce_unmixed
    {e : Enforcer} (he : e.CallsLibrary) {asked : List (List Value)} (hasked : e.Remembers asked)
    {request : List Value} (h : Unmixed (asked ++ [request])) :
  ∃ cache log traces,
    (enforce request).perform e = (e.decision request, { e with cache, log, traces }) ∧
    ({ e with cache, log, traces } : Enforcer).Remembers (asked ++ [request])
  := by
  cases hremembers : e.remembers request with
  | false =>
      obtain ⟨log, traces, hperform⟩ := perform_enforce_new hremembers
      rw [hperform, ← decision_eq]
      exact ⟨e.cache, log, traces, rfl, hasked.ask request log traces⟩
  | true =>
      cases hcached : e.cached? request with
      | some allowed =>
          rw [perform_enforce_hit hremembers hcached, hasked.decision_of_cached he h hcached]
          exact ⟨e.cache, e.log, e.traces, rfl, hasked.ask request e.log e.traces⟩
      | none =>
          obtain ⟨log, traces, hperform⟩ := perform_enforce_miss hremembers hcached
          rw [hperform]
          have hdecision := decision_eq e request
          rcases hverdict : e.verdict request with failure | ⟨allowed, explain⟩
          · rw [hverdict] at hdecision
            rw [hdecision]
            exact ⟨e.cache, log, traces, rfl, hasked.ask request log traces⟩
          · rw [hverdict] at hdecision
            rw [hdecision]
            exact ⟨_, log, traces, rfl, hasked.add hdecision log traces⟩

/-- Requests are answered as they are decided, one after the other. -/
theorem enforceAll_eq_mapM
    {e : Enforcer} (he : e.CallsLibrary) {asked requests : List (List Value)}
    (hasked : e.Remembers asked) (h : Unmixed (asked ++ requests)) :
  ((enforceAll requests).perform e).1 = requests.mapM e.decision
  := by
  induction requests generalizing e asked with
  | nil => rfl
  | cons request rest ih =>
      rw [List.append_cons] at h
      obtain ⟨cache, log, traces, hperform, hasked'⟩ := perform_enforce_unmixed he hasked h.left
      have hrest := ih (e := { e with cache, log, traces }) he hasked' h
      rw [decision_with] at hrest
      rw [enforceAll, List.mapM_cons]
      simp only [perform_bind, hperform]
      cases e.decision request with
      | error failure => rfl
      | ok allowed =>
          rw [← hrest]
          dsimp only
          generalize (enforceAll rest).perform _ = r
          obtain ⟨failure | others, e'⟩ := r <;> rfl

end Enforcer

/-! ### Tuples of subjects -/

namespace Membership

/-- A matcher that looks for the subject of a row in a tuple. -/
def matcherText : String := "p.sub in r.sub && r.obj == p.obj"

/-- The tree of the matcher. -/
def tree : Expr :=
  .logical .and (.binary .isIn (.field "p" "sub" []) (.field "r" "sub" []))
    (.binary .eq (.field "r" "obj" []) (.field "p" "obj" []))

set_option maxRecDepth 20000 in
theorem parse_matcherText :
  Expr.parse matcherText = .ok tree
  := by
  have htokens : tokenize matcherText = .ok
      [⟨.name, "p", 0⟩, ⟨.dot, ".", 1⟩, ⟨.name, "sub", 2⟩, ⟨.isIn, "in", 6⟩, ⟨.name, "r", 9⟩,
       ⟨.dot, ".", 10⟩, ⟨.name, "sub", 11⟩, ⟨.and, "&&", 15⟩, ⟨.name, "r", 18⟩, ⟨.dot, ".", 19⟩,
       ⟨.name, "obj", 20⟩, ⟨.operator, "==", 24⟩, ⟨.name, "p", 27⟩, ⟨.dot, ".", 28⟩,
       ⟨.name, "obj", 29⟩, ⟨.endOfText, "", 32⟩] := by
    apply ok_of_toOption
    rw [tokenize, matcherText, String.toList_ofList]
    decide +kernel
  apply Expr.parse_of_tokens htokens
  rfl

/-- The model of this matcher, with some policy rows. -/
def model (rows : List Row) : Model :=
  ⟨[⟨"r", "sub, obj", .request ["sub", "obj"], []⟩, ⟨"p", "sub, obj", .policy ["sub", "obj"], rows⟩,
    Rbac.effectDefinition, ⟨"m", matcherText, .matcher ⟨matcherText, tree⟩, []⟩]⟩

/-- A new enforcer that remembers decisions, with a row for the subject 1. -/
def enforcer : Enforcer :=
  ((Enforcer.start (model [["1", "data"]]) none).perform (.initial .cached {} none .none {})).2

end Membership

namespace Enforcer

end Enforcer

end AccessControl
