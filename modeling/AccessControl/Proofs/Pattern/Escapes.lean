import AccessControl.Pattern.Table
import AccessControl.Proofs.Failure.Results

/-!
# Failures of pattern functions

How a call of a pattern function can fail, whatever it is called with.  A call in an expression
reports what is wrong with the kind or the contents of an argument; what else the host raises
escapes, `PatternFunction.Escapes`.  The main result is `PatternFunction.defaults_failsOnly`.
-/

namespace AccessControl

/-- A failure that a call in an expression reports as a fault of the evaluation, if it is not one
already. -/
inductive Failure.Reported : Failure → Prop
  | evaluation (fault : EvaluationFault) : Reported (.evaluation fault)
  | type (message : String) : Reported (.ofHost .type message)
  | value (message : String) : Reported (.ofHost .value message)
  | decoding (message : String) : Reported (.ofHost .decoding message)

namespace PatternFunction

/-! ### Ways to fail -/

/-- A failure of a pattern function that a call does not report: a method of texts is called on
another value, a glob is no regular expression, another pattern is none for a reason that is not
its grammar, or a group of a match ends before it begins. -/
inductive Escapes : Failure → Prop
  | attribute {v : Value} {method : String} (h : v.text? = none) :
      Escapes (v.noAttribute method)
  | glob {pattern : String} {e : PatternError × String} (h : Glob.compile pattern = .error e) :
      Escapes (.host (hostFailure e))
  | expression {text : String} {e : PatternError} (h : compilePattern text = .error (e, text))
      (hkind : (hostFailure (e, text)).kind ≠ .pattern) : Escapes (.host (hostFailure (e, text)))
  | crossed (text : String) : Escapes (.host (hostFailure (.crossedGroup, text)))

/-- A failure of a pattern function. -/
def Raises (failure : Failure) : Prop := failure.Reported ∨ Escapes failure

theorem failsOnly_type {α : Type} (message : String) :
  FailsOnly Raises (.error (.type message) : Except Failure α)
  := .error (.inl (.type message))

theorem failsOnly_evaluation {α : Type} (fault : EvaluationFault) :
  FailsOnly Raises (.error (.evaluation fault) : Except Failure α)
  := .error (.inl (.evaluation fault))

/-! ### Arguments -/

theorem receiver_failsOnly (v : Value) (method : String) :
  FailsOnly Raises (v.receiver method)
  := by
  cases v with
  | text s => apply FailsOnly.ok
  | _ => exact .error (.inr (.attribute rfl))

theorem checkKey_failsOnly (v : Value) :
  FailsOnly Raises v.checkKey
  := by
  rw [Value.checkKey]
  split
  · apply failsOnly_type
  · apply FailsOnly.ok

theorem subject_failsOnly (v : Value) :
  FailsOnly Raises (subject v)
  := by
  cases v with
  | text s => apply FailsOnly.ok
  | _ => apply failsOnly_type

theorem expression_failsOnly (v : Value) :
  FailsOnly Raises (expression v)
  := by
  apply (checkKey_failsOnly v).bind
  intro _ _
  cases v with
  | text s => apply FailsOnly.ok
  | _ => apply failsOnly_type

theorem comparableSize_failsOnly (v : Value) :
  FailsOnly Raises (comparableSize v)
  := by
  cases v with
  | list items => apply FailsOnly.ok
  | tuple items => apply FailsOnly.ok
  | mapping entries => apply FailsOnly.ok
  | _ => apply failsOnly_type

theorem noPart_failsOnly (v : Value) (head : List Char) :
  FailsOnly Raises (noPart v head)
  := by
  apply (comparableSize_failsOnly v).bind
  intro size _
  cases v with
  | mapping entries =>
      dsimp only
      split
      · apply failsOnly_type
      · apply FailsOnly.ok
  | _ => apply FailsOnly.ok

theorem tupleParts_failsOnly (items : List Value) :
  FailsOnly Raises (tupleParts items)
  := by
  induction items using tupleParts.induct with
  | case1 => apply FailsOnly.ok
  | case2 rest ih =>
      rw [tupleParts]
      apply ih.map
  | case3 rest hstar ih =>
      rw [tupleParts]
      · apply ih.map
      · apply hstar
  | case4 rest ih =>
      rw [tupleParts]
      apply ih.map
  | case5 rest =>
      have hfind : Failure.ofHost .missingAttribute "'tuple' object has no attribute 'find'"
          = (Value.tuple []).noAttribute "find" := congrArg _ (by decide)
      rw [tupleParts, hfind]
      exact .error (.inr (.attribute rfl))
  | case6 s rest _ hstar hquestion hbracket ih =>
      rw [tupleParts]
      · apply ih.map
      all_goals assumption
  | case7 v rest _ _ _ _ hother =>
      cases v with
      | text s => exact (hother s rfl).elim
      | _ =>
          rw [tupleParts]
          · apply failsOnly_type
          all_goals nofun

/-! ### Regular expressions -/

/-- An error of a regular expression: its text is none, or a match has gone wrong. -/
def Unusable (e : PatternError × String) : Prop :=
  compilePattern e.2 = .error e ∨ e.1 = .crossedGroup

theorem compilePattern_failsOnly (text : String) :
  FailsOnly Unusable (compilePattern text)
  := by
  intro e he
  left
  have htext : e.2 = text := by
    rw [compilePattern, outcome] at he
    cases hread : CompiledPattern.ofText text with
    | ok p =>
        rw [hread] at he
        cases he
    | error fault =>
        rw [hread] at he
        cases he
        rfl
  rw [htext, he]

theorem checked_failsOnly (text : String) (p : CompiledPattern) (found : Option Cursor) :
  FailsOnly Unusable (outcome text (p.checked found))
  := by
  cases found with
  | none => apply FailsOnly.ok
  | some s =>
      rw [CompiledPattern.checked]
      split
      · exact .error (.inr rfl)
      · apply FailsOnly.ok

theorem matchGroups_failsOnly (text key : String) :
  FailsOnly Unusable (matchGroups text key)
  := by
  apply (compilePattern_failsOnly text).bind
  intro pattern _
  apply (checked_failsOnly text pattern _).bind
  intro found _
  apply FailsOnly.ok

theorem keyMatch2_failsOnly (key pattern : String) :
  FailsOnly Unusable (keyMatch2 key pattern)
  := by
  apply (matchGroups_failsOnly _ key).bind
  intro found _
  apply FailsOnly.ok

theorem keyGet2_failsOnly (key pattern name : String) :
  FailsOnly Unusable (keyGet2 key pattern name)
  := by
  apply (matchGroups_failsOnly _ key).bind
  intro found _
  cases found with
  | none => apply FailsOnly.ok
  | some groups =>
      dsimp only
      split
      · apply FailsOnly.ok
      · apply FailsOnly.ok

theorem keyMatch3_failsOnly (key pattern : String) :
  FailsOnly Unusable (keyMatch3 key pattern)
  := by
  apply (matchGroups_failsOnly _ key).bind
  intro found _
  apply FailsOnly.ok

theorem keyMatch4_failsOnly (key pattern : String) :
  FailsOnly Unusable (keyMatch4 key pattern)
  := by
  apply (matchGroups_failsOnly _ key).bind
  intro found _
  cases found with
  | none => apply FailsOnly.ok
  | some groups => apply FailsOnly.ok

theorem regexMatch_failsOnly (text source : String) :
  FailsOnly Unusable (regexMatch text source)
  := by
  apply (compilePattern_failsOnly source).bind
  intro pattern _
  apply FailsOnly.bind (P := Unusable)
  · rw [CompiledPattern.search]
    split
    · apply FailsOnly.ok
    · apply checked_failsOnly
  · intro found _
    apply FailsOnly.ok

/-- An error of the grammar of a regular expression is reported. -/
theorem wrapped_failsOnly {α : Type} {x : PatternResult α} (h : FailsOnly Unusable x) :
  FailsOnly Raises (wrapped x)
  := by
  cases x with
  | ok a => apply FailsOnly.ok
  | error e =>
      obtain ⟨e, text⟩ := e
      rw [wrapped]
      split
      · apply failsOnly_evaluation
      case h_2 hkind =>
        apply FailsOnly.error
        right
        obtain hcompile | rfl := h (e, text) rfl
        · exact .expression hcompile fun hpattern => hkind _ (by rw [← hpattern])
        · apply Escapes.crossed

/-! ### Functions -/

/-- A path is asked for by the regular expression that a pattern is turned into. -/
theorem matchOn_failsOnly
    (key pattern : Value) (regex : String → String) {α : Type}
    {m : String → String → PatternResult α} (hm : ∀ k p, FailsOnly Unusable (m k p))
    (f : α → Value) :
  FailsOnly Raises (do
    let p ← pattern.receiver "replace"
    matchOn (regex p) (fun k => (wrapped (m k p)).map f) key)
  := by
  apply (receiver_failsOnly pattern "replace").bind
  intro p _
  apply (wrapped_failsOnly (compilePattern_failsOnly (regex p))).bind
  intro _ _
  apply (subject_failsOnly key).bind
  intro k _
  apply (wrapped_failsOnly (hm k p)).map

theorem keyMatchOn_failsOnly (key pattern : Value) :
  FailsOnly Raises (keyMatchOn key pattern)
  := by
  apply (receiver_failsOnly pattern "find").bind
  intro p _
  split
  · apply FailsOnly.ok
  · apply FailsOnly.ok
  · apply (noPart_failsOnly _ _).bind
    intro _ _
    apply FailsOnly.ok

theorem keyGetOn_failsOnly (key pattern : Value) :
  FailsOnly Raises (keyGetOn key pattern)
  := by
  apply (receiver_failsOnly pattern "find").bind
  intro p _
  split
  · apply FailsOnly.ok
  · apply FailsOnly.ok
  · apply (noPart_failsOnly _ _).bind
    intro _ _
    apply FailsOnly.ok

theorem keyMatch2On_failsOnly (key pattern : Value) :
  FailsOnly Raises (keyMatch2On key pattern)
  := matchOn_failsOnly key pattern _ keyMatch2_failsOnly _

theorem keyGet2On_failsOnly (key pattern name : Value) :
  FailsOnly Raises (keyGet2On key pattern name)
  := matchOn_failsOnly key pattern _ (fun k p => keyGet2_failsOnly k p _) _

theorem keyMatch3On_failsOnly (key pattern : Value) :
  FailsOnly Raises (keyMatch3On key pattern)
  := matchOn_failsOnly key pattern _ keyMatch3_failsOnly _

theorem keyMatch4On_failsOnly (key pattern : Value) :
  FailsOnly Raises (keyMatch4On key pattern)
  := matchOn_failsOnly key pattern _ keyMatch4_failsOnly _

theorem keyMatch5On_failsOnly (key pattern : Value) :
  FailsOnly Raises (keyMatch5On key pattern)
  := by
  apply (receiver_failsOnly key "find").bind
  intro k _
  apply (receiver_failsOnly pattern "replace").bind
  intro p _
  apply (wrapped_failsOnly (keyMatch3_failsOnly _ p)).map

theorem regexMatchOn_failsOnly (text pattern : Value) :
  FailsOnly Raises (regexMatchOn text pattern)
  := by
  apply (expression_failsOnly pattern).bind
  intro p _
  apply (wrapped_failsOnly (compilePattern_failsOnly p)).bind
  intro _ _
  apply (subject_failsOnly text).bind
  intro t _
  apply (wrapped_failsOnly (regexMatch_failsOnly t p)).map

/-- An error of the grammar of a glob is raised as it is. -/
theorem globOf_failsOnly (v : Value) :
  FailsOnly Raises (globOf v)
  := by
  apply (checkKey_failsOnly v).bind
  intro _ _
  cases v with
  | text s =>
      dsimp only
      cases hglob : Glob.compile s with
      | ok p => apply FailsOnly.ok
      | error e => exact .error (.inr (.glob hglob))
  | tuple items =>
      apply (tupleParts_failsOnly items).bind
      intro parts _
      apply FailsOnly.ok
  | _ => apply failsOnly_type

theorem globMatchOn_failsOnly (key pattern : Value) :
  FailsOnly Raises (globMatchOn key pattern)
  := by
  apply (globOf_failsOnly pattern).bind
  intro p _
  apply (subject_failsOnly key).bind
  intro k _
  apply FailsOnly.ok

theorem ipMatch_failsOnly (address network : String) :
  FailsOnly Raises (ipMatch address network)
  := by
  rw [ipMatch]
  split
  · apply failsOnly_evaluation
  · split
    · apply failsOnly_evaluation
    · apply FailsOnly.ok

theorem ipMatchOn_failsOnly (address network : Value) :
  FailsOnly Raises (ipMatchOn address network)
  := by
  apply (receiver_failsOnly address "strip").bind
  intro a _
  dsimp only
  split
  · apply failsOnly_evaluation
  · apply (receiver_failsOnly network "strip").bind
    intro n _
    apply (ipMatch_failsOnly a n).map

/-! ### The table -/

theorem bind_failsOnly (signature : Signature) (arguments : List Value) :
  FailsOnly Raises (signature.bind arguments [])
  := by
  rw [Signature.bind, Signature.addNamed]
  dsimp only [bind, Except.bind]
  split
  · apply failsOnly_type
  · split
    · apply failsOnly_type
    · apply FailsOnly.ok

theorem binary_failsOnly
    (name first second : String) {f : Value → Value → Except Failure Value}
    (hf : ∀ v w, FailsOnly Raises (f v w)) (arguments : List Value) :
  FailsOnly Raises (binary name first second f arguments)
  := by
  apply (bind_failsOnly _ arguments).bind
  intro a _
  apply hf

/-- However a pattern function is called, it gives a value, fails in a way that a call reports, or
escapes. -/
theorem all_failsOnly :
  ∀ entry ∈ all, ∀ arguments, FailsOnly Raises (entry.2 arguments)
  := by
  intro entry hentry arguments
  simp only [all, List.mem_cons, List.not_mem_nil, or_false] at hentry
  obtain rfl | rfl | rfl | rfl | rfl | rfl | rfl | rfl | rfl | rfl := hentry
  · apply binary_failsOnly _ _ _ keyMatchOn_failsOnly
  · apply binary_failsOnly _ _ _ keyGetOn_failsOnly
  · apply binary_failsOnly _ _ _ keyMatch2On_failsOnly
  · apply (bind_failsOnly _ arguments).bind
    intro a _
    apply keyGet2On_failsOnly
  · apply binary_failsOnly _ _ _ keyMatch3On_failsOnly
  · apply binary_failsOnly _ _ _ keyMatch4On_failsOnly
  · apply binary_failsOnly _ _ _ keyMatch5On_failsOnly
  · apply binary_failsOnly _ _ _ regexMatchOn_failsOnly
  · apply binary_failsOnly _ _ _ globMatchOn_failsOnly
  · apply binary_failsOnly _ _ _ ipMatchOn_failsOnly

/-- So does every function that expressions can call from the start. -/
theorem defaults_failsOnly :
  ∀ entry ∈ defaults, ∀ arguments, FailsOnly Raises (entry.2 arguments)
  := by
  intro entry hentry
  obtain ⟨⟨name, own⟩, -, hown⟩ := List.mem_filterMap.mp hentry
  obtain ⟨f, hf, rfl⟩ := Option.map_eq_some_iff.mp hown
  obtain ⟨before, after, hall, -⟩ := List.lookup_eq_some_iff.mp hf
  apply all_failsOnly (own, f)
  rw [hall]
  simp

end PatternFunction

end AccessControl
