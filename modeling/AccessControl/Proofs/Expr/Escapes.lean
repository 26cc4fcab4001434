import AccessControl.Proofs.Expr.Numerals
import AccessControl.Proofs.Pattern.Escapes
import AccessControl.Roles.Relation

/-!
# Failures of expressions

How the evaluation of an expression can fail that calls pattern functions and asks about roles.
Mostly it is the evaluation that fails, or the grammar of a text that is evaluated.  But some
errors of the host escape, `Expr.Escapes`, and the main result, `Expr.evaluate_failsOnly`, is that
no others do.
-/

namespace AccessControl

/-- The failure is one of an expression: it has no value, or its text no grammar. -/
def Failure.IsOfExpression (failure : Failure) : Prop :=
  (∃ fault, failure = .evaluation fault) ∨
    ∃ fault source position, failure = .grammar fault source position

theorem Failure.IsOfExpression.isOwn {failure : Failure} (h : failure.IsOfExpression) :
  failure.IsOwn
  := by
  obtain ⟨fault, rfl⟩ | ⟨fault, source, position, rfl⟩ := h
  · rfl
  · rfl

/-! ### Role managers -/

/-- A matcher of a role graph fails. -/
def RoleGraph.MatcherFails (g : RoleGraph) (failure : Failure) : Prop :=
  ∃ m, (g.nameMatcher = some m ∨ g.domainMatcher = some m) ∧
    ∃ name stored, m name stored = .error failure

namespace RoleGraph

variable (g : RoleGraph)

theorem filterE_failsOnly
    {α : Type} {P : Failure → Prop} {p : α → Except Failure Bool}
    (hp : ∀ a, FailsOnly P (p a)) (as : List α) :
  FailsOnly P (filterE p as)
  := by
  induction as with
  | nil => apply FailsOnly.ok
  | cons a rest ih =>
      apply (hp a).bind
      intro keep _
      apply ih.bind
      intro kept _
      apply FailsOnly.ok

theorem domainsFor_failsOnly (domain : Name) :
  FailsOnly g.MatcherFails (g.domainsFor domain)
  := by
  rw [domainsFor]
  cases hm : g.domainMatcher with
  | none => apply FailsOnly.ok
  | some m =>
      have hfails : ∀ d, FailsOnly g.MatcherFails (m domain d) :=
        fun d failure h => ⟨m, .inr hm, domain, d, h⟩
      apply (filterE_failsOnly hfails _).bind
      intro others _
      apply FailsOnly.ok

theorem patternNodes_failsOnly
    {m : NameMatcher} (hm : g.nameMatcher = some m) (name : Name) (domains : List Name)
    (found : List Nat) (index : List ((Name × Name) × Nat)) :
  FailsOnly g.MatcherFails (patternNodes m name domains found index)
  := by
  induction index generalizing found with
  | nil => apply FailsOnly.ok
  | cons entry rest ih =>
      obtain ⟨⟨stored, d⟩, i⟩ := entry
      rw [patternNodes]
      split
      · have hfails : FailsOnly g.MatcherFails (m name stored) :=
          fun failure h => ⟨m, .inl hm, name, stored, h⟩
        apply hfails.bind
        intro same _
        apply ih
      · apply ih

theorem lookup_failsOnly (name : Name) (domains : List Name) :
  FailsOnly g.MatcherFails (g.lookup name domains)
  := by
  rw [lookup]
  cases hm : g.nameMatcher with
  | none => apply FailsOnly.ok
  | some m => apply g.patternNodes_failsOnly hm

theorem namesMatch_failsOnly (name stored : Name) :
  FailsOnly g.MatcherFails (g.namesMatch name stored)
  := by
  rw [namesMatch]
  split
  · apply FailsOnly.ok
  · cases hm : g.nameMatcher with
    | none => apply FailsOnly.ok
    | some m => exact fun failure h => ⟨m, .inl hm, name, stored, h⟩

theorem expand_failsOnly
    (goal : Name) (domains : List Name) (visited next targets : List Nat) :
  FailsOnly g.MatcherFails (g.expand goal domains visited next targets)
  := by
  induction targets generalizing visited next with
  | nil => apply FailsOnly.ok
  | cons target rest ih =>
      apply (g.namesMatch_failsOnly goal _).bind
      intro found _
      split
      · apply FailsOnly.ok
      · apply (g.lookup_failsOnly _ domains).bind
        intro same _
        apply ih

theorem search_failsOnly
    (goal : Name) (domains : List Name) (levels : Nat) (visited frontier : List Nat) :
  FailsOnly g.MatcherFails (g.search goal domains levels visited frontier)
  := by
  induction levels generalizing visited frontier with
  | zero => apply FailsOnly.ok
  | succ levels ih =>
      cases frontier with
      | nil => apply FailsOnly.ok
      | cons i rest =>
          apply (g.expand_failsOnly goal domains visited [] _).bind
          intro found _
          cases found with
          | none => apply FailsOnly.ok
          | some found => apply ih

/-- Asking about roles fails only where a matcher does. -/
theorem hasLink_failsOnly (name role domain : Name) :
  FailsOnly g.MatcherFails (g.hasLink name role domain)
  := by
  apply (g.namesMatch_failsOnly name role).bind
  intro same _
  split
  · apply FailsOnly.ok
  · apply (g.domainsFor_failsOnly domain).bind
    intro domains _
    apply (g.lookup_failsOnly name domains).bind
    intro start _
    apply g.search_failsOnly

end RoleGraph

/-- The function of a role relation fails for its arguments or where a matcher does. -/
theorem roleFunction_failsOnly (graph : Option RoleGraph) (arguments : List Value) :
  FailsOnly (fun failure => failure.Reported ∨ ∃ g ∈ graph, g.MatcherFails failure)
    (roleFunction graph arguments)
  := by
  have hlink : ∀ (g : RoleGraph) (name role domain : Name),
      FailsOnly (fun failure => failure.Reported ∨ ∃ g' ∈ some g, g'.MatcherFails failure)
        ((g.hasLink name role domain).map Value.bool) := by
    intro g name role domain failure h
    exact .inr ⟨g, rfl, (g.hasLink_failsOnly name role domain).map _ failure h⟩
  unfold roleFunction
  split
  · exact .error (.inl (.evaluation _))
  · split
    · exact .error (.inl (.evaluation _))
    · split
      · apply FailsOnly.ok
      · apply hlink
      · apply hlink
      · apply FailsOnly.ok

namespace Expr

/-! ### Ways to fail -/

/-- The functions that ask about some role relations, and the pattern functions. -/
def functionsOf (roles : List (String × Option RoleGraph)) : Functions :=
  roles.map (fun (key, graph) => (key, roleFunction graph)) ++ PatternFunction.defaults

/-- An error of the host that escapes from an evaluation: a number is too large for the
arithmetic of double precision, or has too many digits to be written in a message; a text that is
evaluated has a numeral that cannot be read; or a call raises what it does not report. -/
inductive Escapes (roles : List (String × Option RoleGraph)) : Failure → Prop
  | largeInteger : Escapes roles (.ofHost .overflow "int too large to convert to float")
  | largeQuotient :
      Escapes roles (.ofHost .overflow "integer division result too large for a float")
  | longInteger : Escapes roles (.ofHost .value NumeralError.unwritable.message)
  | numeral {text : String} {failure : Failure} (h : NumeralFails text failure) :
      Escapes roles failure
  | pattern {failure : Failure} (h : PatternFunction.Escapes failure) (hnot : ¬ failure.Reported) :
      Escapes roles failure
  | matcher {key : String} {g : RoleGraph} (hg : (key, some g) ∈ roles) {failure : Failure}
      (h : g.MatcherFails failure) (hnot : ¬ failure.Reported) : Escapes roles failure

/-- A failure of an evaluation. -/
def Raises (roles : List (String × Option RoleGraph)) (failure : Failure) : Prop :=
  failure.IsOfExpression ∨ Escapes roles failure

variable (roles : List (String × Option RoleGraph))

theorem failsOnly_evaluation {α : Type} (fault : EvaluationFault) :
  FailsOnly (Raises roles) (.error (.evaluation fault) : Except Failure α)
  := .error (.inl (.inl ⟨fault, rfl⟩))

/-! ### Operators -/

theorem ofFault_failsOnly {α : Type} (x : Except EvaluationFault α) :
  FailsOnly (Raises roles) (ofFault x)
  := by
  cases x with
  | ok a => apply FailsOnly.ok
  | error fault => apply failsOnly_evaluation

theorem inMessage_failsOnly (v : Value) :
  FailsOnly (Raises roles) v.inMessage
  := by
  rw [Value.inMessage, Value.written]
  split
  · apply FailsOnly.ok
  case h_2 e he =>
    split at he
    · cases he
    · cases he
      exact .error (.inr .longInteger)

theorem toTruth_failsOnly (v : Value) :
  FailsOnly (Raises roles) v.toTruth
  := by
  unfold Value.toTruth
  split
  · apply FailsOnly.ok
  · apply FailsOnly.ok
  · apply FailsOnly.ok
  · apply FailsOnly.ok
  · apply (inMessage_failsOnly roles v).bind
    intro s _
    apply failsOnly_evaluation

/-- Arithmetic fails only where a number is too large. -/
theorem ofNumeric_failsOnly
    {x : Except HostError Numeric} (h : FailsOnly (fun e => Escapes roles (.host e)) x) :
  FailsOnly (Raises roles) (ofNumeric x)
  := by
  cases x with
  | ok n => apply FailsOnly.ok
  | error e => exact .error (.inr (h e rfl))

theorem toFloat_failsOnly (n : Numeric) :
  FailsOnly (fun e => Escapes roles (.host e)) n.toFloat
  := by
  cases n with
  | float x => apply FailsOnly.ok
  | int n =>
      rw [Numeric.toFloat]
      split
      · exact .error .largeInteger
      · apply FailsOnly.ok

theorem combine_failsOnly
    (onInts : Int → Int → Int) (onFloats : Binary64 → Binary64 → Binary64) (a b : Numeric) :
  FailsOnly (fun e => Escapes roles (.host e)) (Numeric.combine onInts onFloats a b)
  := by
  unfold Numeric.combine
  split
  · apply FailsOnly.ok
  · apply (toFloat_failsOnly roles a).bind
    intro x _
    apply (toFloat_failsOnly roles b).bind
    intro y _
    apply FailsOnly.ok

theorem divide_failsOnly (a b : Numeric) :
  FailsOnly (fun e => Escapes roles (.host e)) (Numeric.divide a b)
  := by
  unfold Numeric.divide
  split
  · rw [Numeric.divideInts]
    split
    · exact .error .largeQuotient
    · apply FailsOnly.ok
  · apply (toFloat_failsOnly roles a).bind
    intro x _
    apply (toFloat_failsOnly roles b).bind
    intro y _
    apply FailsOnly.ok

theorem arithmetic_failsOnly (op : BinaryOp) (left right : Value) (a b : Numeric) :
  FailsOnly (Raises roles) (arithmetic op left right a b)
  := by
  have hzero : FailsOnly (Raises roles) (do
      let dividend ← left.inMessage
      let divisor ← right.inMessage
      .error (.evaluation (.zeroDivisor dividend op.symbol divisor)) : Except Failure Value) := by
    apply (inMessage_failsOnly roles left).bind
    intro dividend _
    apply (inMessage_failsOnly roles right).bind
    intro divisor _
    apply failsOnly_evaluation
  cases op with
  | add => apply ofNumeric_failsOnly roles (combine_failsOnly roles _ _ a b)
  | sub => apply ofNumeric_failsOnly roles (combine_failsOnly roles _ _ a b)
  | mul => apply ofNumeric_failsOnly roles (combine_failsOnly roles _ _ a b)
  | div =>
      rw [arithmetic]
      split
      · apply hzero
      · apply ofNumeric_failsOnly roles (divide_failsOnly roles a b)
  | mod =>
      rw [arithmetic]
      split
      · apply hzero
      · apply ofNumeric_failsOnly roles (combine_failsOnly roles _ _ a b)
  | _ => apply FailsOnly.ok

theorem applyBinary_failsOnly (op : BinaryOp) (v w : Value) :
  FailsOnly (Raises roles) (applyBinary op v w)
  := by
  unfold applyBinary
  split
  · apply FailsOnly.ok
  · apply FailsOnly.ok
  · apply (ofFault_failsOnly roles _).map
  · apply FailsOnly.ok
  · apply (ofFault_failsOnly roles _).bind
    intro a _
    apply (ofFault_failsOnly roles _).bind
    intro b _
    apply arithmetic_failsOnly

theorem applyUnary_failsOnly (op : UnaryOp) (v : Value) :
  FailsOnly (Raises roles) (applyUnary op v)
  := by
  cases op with
  | not => apply (toTruth_failsOnly roles v).map
  | minus => apply (ofFault_failsOnly roles _).map

/-! ### Calls -/

/-- A call reports what it can, and keeps the other failures of a function. -/
theorem callResult_failsOnly
    {P : Failure → Prop} (name : String) {x : Except Failure Value} (hx : FailsOnly P x) :
  FailsOnly (fun failure => (∃ fault, failure = .evaluation fault) ∨ P failure ∧ ¬ failure.Reported)
    (callResult name x)
  := by
  cases x with
  | ok v => apply FailsOnly.ok
  | error failure =>
      unfold callResult
      split
      · exact .error (.inl ⟨_, rfl⟩)
      · exact .error (.inl ⟨_, rfl⟩)
      · exact .error (.inl ⟨_, rfl⟩)
      case h_4 htype hvalue hdecoding =>
        apply FailsOnly.error
        cases failure with
        | evaluation fault => exact .inl ⟨fault, rfl⟩
        | host e =>
            refine .inr ⟨hx _ rfl, ?_⟩
            intro hreported
            cases hreported with
            | type message => exact htype message rfl
            | value message => exact hvalue message rfl
            | decoding message => exact hdecoding message rfl
        | _ => exact .inr ⟨hx _ rfl, nofun⟩

/-- A call of a pattern function or about a role. -/
theorem call_failsOnly
    {name : String} {f : MatcherFunction} (hf : (functionsOf roles).lookup name = some f)
    (arguments : List Value) :
  FailsOnly (Raises roles) (callResult name (f arguments))
  := by
  obtain ⟨before, after, hall, -⟩ := List.lookup_eq_some_iff.mp hf
  have hmem : (name, f) ∈ functionsOf roles := by
    rw [hall]
    simp
  obtain hrole | hpattern := List.mem_append.mp hmem
  · obtain ⟨⟨key, graph⟩, hgraph, heq⟩ := List.mem_map.mp hrole
    cases heq
    intro failure h
    obtain hfault | ⟨hfails, hnot⟩ :=
      callResult_failsOnly name (roleFunction_failsOnly graph arguments) failure h
    · exact .inl (.inl hfault)
    · obtain hreported | ⟨g, rfl, hmatcher⟩ := hfails
      · exact absurd hreported hnot
      · exact .inr (.matcher hgraph hmatcher hnot)
  · intro failure h
    obtain hfault | ⟨hfails, hnot⟩ :=
      callResult_failsOnly name (PatternFunction.defaults_failsOnly _ hpattern arguments) failure h
    · exact .inl (.inl hfault)
    · obtain hreported | hescapes := hfails
      · exact absurd hreported hnot
      · exact .inr (.pattern hescapes hnot)

/-! ### Evaluation -/

/-- A text that is evaluated has no grammar, or a numeral that cannot be read. -/
theorem parse_failsOnly (text : String) :
  FailsOnly (Raises roles) (parse text)
  := by
  intro failure h
  obtain ⟨fault, position, rfl⟩ | hnumeral := parse_eq_error h
  · exact .inl (.inr ⟨fault, text, position, rfl⟩)
  · exact .inr (.numeral hnumeral)

mutual

/-- An evaluation fails as its operators, its calls and the texts that it evaluates do. -/
theorem evaluateIn_failsOnly
    {sections : Sections} {nested : String → String → Except Failure Value}
    (hnested : ∀ key text, FailsOnly (Raises roles) (nested key text)) :
  ∀ e, FailsOnly (Raises roles) (evaluateIn sections (functionsOf roles) nested e)
  | .literal l => by
      rw [evaluateIn]
      apply FailsOnly.ok
  | .field scope name attributes => by
      rw [evaluateIn]
      apply ofFault_failsOnly
  | .identifier n => by
      rw [evaluateIn]
      apply failsOnly_evaluation
  | .unary op e => by
      rw [evaluateIn]
      apply (evaluateIn_failsOnly hnested e).bind
      intro v _
      apply applyUnary_failsOnly
  | .binary op l r => by
      rw [evaluateIn]
      apply (evaluateIn_failsOnly hnested l).bind
      intro v _
      apply (evaluateIn_failsOnly hnested r).bind
      intro w _
      apply applyBinary_failsOnly
  | .logical op l r => by
      rw [evaluateIn]
      apply (evaluateIn_failsOnly hnested l).bind
      intro v _
      apply (toTruth_failsOnly roles v).bind
      intro b _
      split
      case isTrue => apply FailsOnly.ok
      case isFalse =>
        apply (evaluateIn_failsOnly hnested r).bind
        intro w _
        apply (toTruth_failsOnly roles w).bind
        intro c _
        apply FailsOnly.ok
  | .tuple items => by
      rw [evaluateIn]
      apply (evaluateAll_failsOnly hnested items).bind
      intro vs _
      apply FailsOnly.ok
  | .call name arguments => by
      by_cases hname : name = "eval"
      · subst hname
        match arguments with
        | [argument] =>
            rw [evaluateIn]
            apply (evaluateIn_failsOnly hnested argument).bind
            intro v _
            split
            · apply hnested
            · apply failsOnly_evaluation
        | [] | _ :: _ :: _ =>
            rw [evaluateIn]
            · apply failsOnly_evaluation
            · rintro _ ⟨⟩
      · rw [evaluateIn]
        · cases hf : (functionsOf roles).lookup name with
          | none => apply failsOnly_evaluation
          | some f =>
              apply (evaluateAll_failsOnly hnested arguments).bind
              intro vs _
              apply call_failsOnly roles hf
        · apply hname

theorem evaluateAll_failsOnly
    {sections : Sections} {nested : String → String → Except Failure Value}
    (hnested : ∀ key text, FailsOnly (Raises roles) (nested key text)) :
  ∀ es, FailsOnly (Raises roles) (evaluateAll sections (functionsOf roles) nested es)
  | [] => by
      rw [evaluateAll]
      apply FailsOnly.ok
  | e :: es => by
      rw [evaluateAll]
      apply (evaluateIn_failsOnly hnested e).bind
      intro v _
      apply (evaluateAll_failsOnly hnested es).bind
      intro vs _
      apply FailsOnly.ok

end

/-- Calls of `eval` inside each other fail as expressions do, or because there are too many. -/
theorem evaluateAt_failsOnly (sections : Sections) (room : Nat) (stack : List String) (e : Expr) :
  FailsOnly (Raises roles) (evaluateAt sections (functionsOf roles) room stack e)
  := by
  induction room generalizing stack e with
  | zero =>
      rw [evaluateAt]
      apply evaluateIn_failsOnly
      intro key text
      split
      · apply failsOnly_evaluation
      · apply failsOnly_evaluation
  | succ room ih =>
      rw [evaluateAt]
      apply evaluateIn_failsOnly
      intro key text
      split
      · apply failsOnly_evaluation
      · apply (parse_failsOnly roles text).bind
        intro tree _
        apply ih

/-- An expression that calls pattern functions and asks about roles has a value under any
bindings, or it fails with an error of an expression, or with one of the errors of the host that
escape. -/
theorem evaluate_failsOnly (sections : Sections) (e : Expr) :
  FailsOnly (fun failure => failure.IsOfExpression ∨ Escapes roles failure)
    (e.evaluate sections (functionsOf roles))
  := evaluateAt_failsOnly roles sections maxEvalDepth [] e

/-! ### Errors that escape -/

/-- A natural number of at most 4300 digits is the number that its digits write. -/
theorem numericText?_toString {n : Nat} (h : (toString n).length ≤ maxDigits) :
  numericText? (toString n) = some (.int n)
  := by
  have hblank : ∀ c ∈ (toString n).toList, isBlank c = false :=
    fun c hc => isBlank_of_isDigit (isDigit_of_base (isDigit_of_mem_toString hc))
  have hstrip : strip (toString n) = toString n := by
    have htrim : trim (toString n).toList = (toString n).toList := by
      apply trimOf_eq_self
      · intro c hc
        apply hblank c (List.mem_of_mem_head? hc)
      · intro c hc
        apply hblank c (List.mem_of_mem_getLast? hc)
    rw [strip, htrim, String.ofList_toList]
  rw [numericText?, hstrip, readInt_toString h]

/-- A quotient that is too large for double precision is no number. -/
theorem div_largeQuotient
    {m n : Nat} (hshort : (toString m).length ≤ maxDigits) (hn : n ≠ 0)
    (hlarge : Binary64.ofRatio false m n = .infinite false) :
  applyBinary .div (.text (toString m)) (.int n)
    = .error (.ofHost .overflow "integer division result too large for a float")
  := by
  have htext : (Value.text (toString m)).toNumeric = .ok (.int m) := by
    rw [Value.toNumeric, numericText?_toString hshort]
  have hint : (Value.int n).toNumeric = .ok (.int n) := rfl
  have hzero : Numeric.isZero (.int n) = false := by simpa [Numeric.isZero] using hn
  have hdivide : Numeric.divide (.int m) (.int n)
      = .error ⟨.overflow, "integer division result too large for a float"⟩ := by
    have hm : decide ((m : Int) < 0) = false := by simp
    have hn : decide ((n : Int) < 0) = false := by simp
    have hsign : (decide ((m : Int) < 0) != decide ((n : Int) < 0)) = false := by rw [hm, hn]; rfl
    rw [Numeric.divide, Numeric.divideInts, hsign, Int.natAbs_natCast, Int.natAbs_natCast, hlarge]
  simp only [applyBinary, htext, hint, ofFault, bind, Except.bind, arithmetic, hzero, hdivide]
  rfl

/-- The kind of error of the host that a computation ends with. -/
def hostErrorKind? {α : Type} : Except Failure α → Option HostErrorKind
  | .error (.host e) => some e.kind
  | _ => none

/-- The value of a text in which `r.a` and `r.b` are bound to texts. -/
def evaluateText (text a b : String) : Except Failure Value := do
  let e ← parse text
  e.evaluate [("r", [("a", .text a), ("b", .text b)])] (functionsOf [])

/-- The tokens of a quotient. -/
def quotientTokens : List Token :=
  [⟨.name, "r", 0⟩, ⟨.dot, ".", 1⟩, ⟨.name, "a", 2⟩, ⟨.operator, "/", 4⟩, ⟨.number, "3", 6⟩,
   ⟨.endOfText, "", 7⟩]

theorem evaluateText_quotient (a : String) :
  evaluateText "r.a / 3" a "" = applyBinary .div (.text a) (.int 3)
  := by
  have htokens : tokenize "r.a / 3" = .ok quotientTokens := by
    apply ok_of_toOption
    rw [tokenize, String.toList_ofList]
    decide +kernel
  have hparse : parse "r.a / 3" = .ok (.binary .div (.field "r" "a" []) (.literal (.int 3))) :=
    parse_of_tokens htokens rfl
  have hfield : lookupField [("r", [("a", .text a), ("b", .text "")])] "r" "a" []
      = .ok (.text a) := rfl
  simp only [evaluateText, hparse, bind, Except.bind, evaluate, evaluateAt, evaluateIn, hfield,
    ofFault, Literal.value]
  rfl

/-- Texts for the fields of an expression with which errors of the host escape: a glob that is no
regular expression, a number that is asked for the parts of a text, a count of repetitions that
is too large, a superscript in a text that is evaluated, and a number of many digits. -/
theorem evaluate_escapes :
  hostErrorKind? (evaluateText "globMatch(r.a, r.b)" "x" "[z-a]") = some .pattern ∧
    hostErrorKind? (evaluateText "keyMatch(r.a, 1)" "x" "") = some .missingAttribute ∧
    hostErrorKind? (evaluateText "regexMatch(r.a, r.b)" "x" "x\x7b4294967295\x7d")
      = some .overflow ∧
    hostErrorKind? (evaluateText "eval(r.a)" "\u00b2" "") = some .value ∧
    hostErrorKind? (evaluateText "r.a / 3" (toString (10 ^ 400)) "") = some .overflow
  := by
  refine ⟨?_, ?_, ?_, ?_, ?_⟩
  · decide +kernel
  · decide +kernel
  · decide +kernel
  · decide +kernel
  · have hlarge : Binary64.ofRatio false (10 ^ 400) 3 = .infinite false := by decide +kernel
    have hpow : 10 ^ 400 < 10 ^ 401 := by
      apply Nat.pow_lt_pow_right
      · decide
      · decide
    generalize 10 ^ 400 = n at hlarge hpow ⊢
    have hshort : (toString n).length ≤ maxDigits :=
      (Nat.repr_length n 401 (by decide) hpow).trans (by decide)
    have hquotient := div_largeQuotient hshort (by decide) hlarge
    rw [evaluateText_quotient]
    change hostErrorKind? (applyBinary .div _ (.int (3 : Nat))) = _
    rw [hquotient]
    rfl

end Expr

end AccessControl
