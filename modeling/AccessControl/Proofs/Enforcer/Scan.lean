import AccessControl.Proofs.Effect.Scan
import AccessControl.Proofs.Enforcer.Decision
import AccessControl.Proofs.Model.Shape

/-!
# Scanning rows

What an enforcer answers to a request, as a scan of the rows of its policy definition.  The main
result is `Enforcer.enforceEx_scan`: a decision fails with the first failure of the matcher that
comes before every row that stops the scan, and is otherwise the one that the strategy makes of
all rows, explained by the row that decides it.
-/

namespace AccessControl

/-! ### Labels -/

/-- The effect that a row carries: the text of its field for the effect names it, other texts
than those of the two effects name none, and without such a field the row allows. -/
def Row.label (fields : List String) (row : Row) : Effect :=
  match (fields.zip row).lookup "eft" with
  | none => .allow
  | some "allow" => .allow
  | some "deny" => .deny
  | some _ => .indeterminate

/-- What a row has under a name is at the position of the name. -/
theorem lookup_zip (fields : List String) (row : Row) (name : String) :
  (fields.zip row).lookup name = (fields.idxOf? name).bind (row[·]?)
  := by
  induction fields generalizing row with
  | nil => rfl
  | cons field rest ih =>
      rw [List.idxOf?_cons]
      cases row with
      | nil => cases (if field == name then some 0 else (rest.idxOf? name).map (· + 1)) <;> rfl
      | cons value values =>
          rw [List.zip_cons_cons, List.lookup_cons, BEq.comm]
          cases field == name with
          | true => rfl
          | false =>
              simp only [Bool.false_eq_true, if_false, ih]
              cases rest.idxOf? name <;> rfl

namespace Frame

/-- The scan of the rows of a frame.  Without rows it is a scan of a row of empty texts, which
allows. -/
def scan (f : Frame) (functions : Functions) (values : List Value) : Scan Row where
  rows := if f.policy.rows = [] then [f.policy.fields.map fun _ => ""] else f.policy.rows
  out row := f.matcher.holds
    [(f.request.key, f.request.fields.zip values),
     (f.policy.key, f.policy.fields.zip (row.map Value.text))] functions
  label row := if f.policy.rows = [] then .allow else row.label f.policy.fields

/-- The row that explains a decision: the one that decided it, if it is a row of the policy. -/
def explanation (f : Frame) (decider : Option Row) : Row :=
  if f.policy.rows = [] then [] else decider.getD []

theorem effectOf_eq (f : Frame) (functions : Functions) (values : List Value) (row : Row) :
  f.effectOf row = (f.scan functions values).label row
  := by
  rw [effectOf, scan]
  dsimp only
  by_cases hrows : f.policy.rows = []
  · rw [if_pos hrows, if_pos (List.isEmpty_iff.mpr hrows)]
  · rw [if_neg hrows, if_neg (by rwa [List.isEmpty_iff]), Row.label, lookup_zip,
      Definition.fieldIndex?, effectField]
    cases f.policy.fields.idxOf? "eft" with
    | none => rfl
    | some i =>
        rw [Option.bind_some]
        dsimp only
        cases row[i]? with
        | none => rfl
        | some label =>
            rw [Effect.ofLabel]
            split
            · simp_all
            · split <;> simp_all

/-- The decision of a frame is the decision about its scan. -/
theorem decide_scan (f : Frame) (functions : Functions) (values : List Value) :
  let s := f.scan functions values
  (∃ failure, s.FailsWith f.strategy failure ∧ f.decide functions values = .error failure) ∨
  ((∀ failure, ¬ s.FailsWith f.strategy failure) ∧ ∃ allowed decider,
    s.Decides f.strategy allowed decider ∧
    f.decide functions values = .ok (allowed, f.explanation decider))
  := by
  intro s
  have hjudge : f.judge functions values = s.judge := by
    funext row
    rw [judge, Scan.judge, f.effectOf_eq functions values]
    rfl
  have hrows : f.candidates = s.rows := by
    simp only [candidates, s, scan, List.isEmpty_iff]
  rw [decide, hjudge, hrows]
  obtain ⟨failure, hfails, hreduce⟩ | ⟨d, judged, hsettles, hreduce⟩ := s.reduce_spec f.strategy
  · left
    use failure, hfails
    rw [hreduce]
    rfl
  · right
    refine ⟨hsettles.holds, _, _, hsettles.decides, ?_⟩
    rw [hreduce]
    simp only [bind, Except.bind, pure, Except.pure, explain, explanation, s, scan,
      List.isEmpty_iff]
    cases d.index with
    | none => simp
    | some i =>
        by_cases hempty : f.policy.rows = []
        · simp [hempty]
        · simp [hempty]

end Frame

namespace Model

/-- The frame of a selection of definitions that a model has. -/
theorem frame_of_find?
    {m : Model} {rKey pKey eKey mKey : String} {request policy effect matching : Definition}
    (hr : m.find? .request rKey = some request) (hp : m.find? .policy pKey = some policy)
    (he : m.find? .effect eKey = some effect) (hm : m.find? .matcher mKey = some matching) :
  ∃ strategy matcher, effect.meaning = .effect strategy ∧ matching.meaning = .matcher matcher ∧
    m.frame ⟨.text rKey, .text pKey, .text eKey, .text mKey⟩
      = .ok ⟨request, policy, strategy, matcher⟩
  := by
  have hlook : ∀ {kind : SectionKind} {key : String} {d : Definition},
      m.find? kind key = some d → m.lookUp kind (.text key) = .ok d := by
    intro kind key d hd
    rw [lookUp, keyOf]
    apply get_eq hd
  obtain ⟨strategy, hstrategy⟩ : ∃ strategy, effect.meaning = .effect strategy := by
    obtain ⟨-, hkind, -⟩ := of_find? he
    rw [Definition.kind] at hkind
    cases hmeaning : effect.meaning <;> rw [hmeaning] at hkind <;> cases hkind
    exact ⟨_, rfl⟩
  obtain ⟨matcher, hmatcher⟩ : ∃ matcher, matching.meaning = .matcher matcher := by
    obtain ⟨-, hkind, -⟩ := of_find? hm
    rw [Definition.kind] at hkind
    cases hmeaning : matching.meaning <;> rw [hmeaning] at hkind <;> cases hkind
    exact ⟨_, rfl⟩
  refine ⟨strategy, matcher, hstrategy, hmatcher, ?_⟩
  simp only [frame, strategyOf, matcherOf, hlook hr, hlook hp, hlook he, hlook hm, hstrategy,
    hmatcher, Meaning.strategy?, Meaning.matcher?, bind, Except.bind, pure, Except.pure]

/-- The definitions of a frame are found in the model. -/
theorem of_frame {m : Model} {s : Selection} {f : Frame} (h : m.frame s = .ok f) :
  ∃ rKey pKey eKey kKey effect matching, s = ⟨.text rKey, .text pKey, .text eKey, .text kKey⟩ ∧
    m.find? .request rKey = some f.request ∧ m.find? .policy pKey = some f.policy ∧
    m.find? .effect eKey = some effect ∧ effect.meaning.strategy? = some f.strategy ∧
    m.find? .matcher kKey = some matching ∧ matching.meaning.matcher? = some f.matcher
  := by
  have hlook : ∀ {kind : SectionKind} {v : Value} {d : Definition}, m.lookUp kind v = .ok d →
      ∃ key, v = .text key ∧ m.find? kind key = some d := by
    intro kind v d hd
    obtain ⟨key, hkey, hd⟩ := bind_eq_ok.mp hd
    use key
    constructor
    · rw [keyOf.eq_def] at hkey
      split at hkey
      case h_1 => rw [Except.ok.inj hkey]
      case h_2 =>
        obtain ⟨u, -, hkey⟩ := bind_eq_ok.mp hkey
        cases hkey
    · apply get_eq_ok hd
  obtain ⟨request, hrequest, h⟩ := bind_eq_ok.mp h
  obtain ⟨policy, hpolicy, h⟩ := bind_eq_ok.mp h
  obtain ⟨strategy, hstrategy, h⟩ := bind_eq_ok.mp h
  obtain ⟨matcher, hmatcher, h⟩ := bind_eq_ok.mp h
  obtain rfl := Except.ok.inj h
  obtain ⟨effect, heffect, hstrategy⟩ := bind_eq_ok.mp hstrategy
  obtain ⟨matching, hmatching, hmatcher⟩ := bind_eq_ok.mp hmatcher
  obtain ⟨rKey, hr, hrequest⟩ := hlook hrequest
  obtain ⟨pKey, hp, hpolicy⟩ := hlook hpolicy
  obtain ⟨eKey, he, heffect⟩ := hlook heffect
  obtain ⟨kKey, hk, hmatching⟩ := hlook hmatching
  refine ⟨rKey, pKey, eKey, kKey, effect, matching, ?_, hrequest, hpolicy, heffect, ?_, hmatching, ?_⟩
  · rw [← hr, ← hp, ← he, ← hk]
  · split at hstrategy
    case h_1 s hs => rw [hs, Except.ok.inj hstrategy]
    case h_2 => cases hstrategy
  · split at hmatcher
    case h_1 k hk => rw [hk, Except.ok.inj hmatcher]
    case h_2 => cases hmatcher

/-- A model of the same shape has the same frame but for the rows. -/
theorem SameShape.exists_frame
    {m m' : Model} (h : m.SameShape m') {s : Selection} {f : Frame} (hf : m.frame s = .ok f) :
  ∃ rows, m'.frame s = .ok { f with policy := { f.policy with rows } }
  := by
  obtain ⟨r, p, e, k, effect, matching, rfl, hrequest, hpolicy, heffect, hstrategy, hmatching,
    hmatcher⟩ := of_frame hf
  rw [h.find?_eq (by decide) (by decide)] at hrequest heffect hmatching
  have hfound : m.find? RowKind.policy.kind p = some f.policy := hpolicy
  obtain ⟨rows, hrows⟩ := h.find? hfound
  obtain ⟨strategy, matcher, hstrategy', hmatcher', hframe⟩ :=
    frame_of_find? hrequest hrows heffect hmatching
  rw [hstrategy', Meaning.strategy?, Option.some.injEq] at hstrategy
  rw [hmatcher', Meaning.matcher?, Option.some.injEq] at hmatcher
  use rows
  rw [hframe, hstrategy, hmatcher]

/-- Models of one shape have the same frames but for the rows. -/
theorem SameShape.frame
    {m m' : Model} (h : m.SameShape m') {s : Selection} {f f' : Frame} (hf : m.frame s = .ok f)
    (hf' : m'.frame s = .ok f') :
  f' = { f with policy := { f.policy with rows := f'.policy.rows } }
  := by
  obtain ⟨rows, hrows⟩ := h.exists_frame hf
  obtain rfl := Except.ok.inj (hrows.symm.trans hf')
  rfl

end Model

namespace Enforcer

open AccessControl.Action

/-- An enforcer that is switched on answers a request by a scan of the rows of the policy
definition.  If the first row on which the matcher fails comes before every row that stops the
scan, the answer is this failure; else it is the decision of the strategy about all rows, with
the row that decides it.  The row of empty texts, in place of rows that there are not, explains
nothing. -/
theorem enforceEx_scan
    {e : Enforcer} (henabled : e.enabled.isTruthy = true) {request values : List Value}
    {rKey pKey eKey mKey : String}
    (hselection : splitRequest request
      = (⟨.text rKey, .text pKey, .text eKey, .text mKey⟩, values))
    {r p effect matching : Definition} (hr : e.model.find? .request rKey = some r)
    (hp : e.model.find? .policy pKey = some p) (he : e.model.find? .effect eKey = some effect)
    (hm : e.model.find? .matcher mKey = some matching) (harity : values.length = r.arity) :
  ∃ strategy matcher, effect.meaning = .effect strategy ∧ matching.meaning = .matcher matcher ∧
    let f : Frame := ⟨r, p, strategy, matcher⟩
    let s := f.scan e.allFunctions values
    let answer := ((enforceEx request).perform e).1
    (∀ failure, s.FailsWith strategy failure → answer = .error failure) ∧
    ((∀ failure, ¬ s.FailsWith strategy failure) → ∃ allowed decider,
      s.Decides strategy allowed decider ∧ answer = .ok (allowed, f.explanation decider))
  := by
  obtain ⟨strategy, matcher, hstrategy, hmatcher, hframe⟩ := Model.frame_of_find? hr hp he hm
  refine ⟨strategy, matcher, hstrategy, hmatcher, ?_⟩
  intro f s answer
  have hanswer : answer = f.decide e.allFunctions values := by
    obtain ⟨log, traces, hperform⟩ := perform_enforceEx request e
    simp only [answer, hperform]
    apply verdict_of_frame henabled hselection hframe harity
  rw [hanswer]
  obtain ⟨failure, hfails, hdecide⟩ | ⟨hholds, allowed, decider, hdecides, hdecide⟩ :=
    f.decide_scan e.allFunctions values
  · constructor
    · intro failure' hfails'
      rw [hdecide, hfails.unique hfails']
    · intro hholds
      exact absurd hfails (hholds failure)
  · constructor
    · intro failure hfails
      exact absurd hfails (hholds failure)
    · intro _
      exact ⟨allowed, decider, hdecides, hdecide⟩

/-- A model whose requests and rows have an age, and whose matcher compares these. -/
def ages (op : BinaryOp) (rows : List Row) : Model :=
  let text := "r.age " ++ op.symbol ++ " p.age"
  ⟨[⟨"r", "age", .request ["age"], []⟩,
    ⟨"p", "age", .policy ["age"], rows⟩,
    ⟨"e", "some(where (p.eft == allow))", .effect .someAllow, []⟩,
    ⟨"m", text, .matcher ⟨text, .binary op (.field "r" "age" []) (.field "p" "age" [])⟩, []⟩]⟩

/-- A row that is no number makes the decision fail, although the row after it would match. -/
theorem enforceEx_scan_not_numeric :
  ((enforceEx [.int 18]).perform { model := ages .ge [["30"], ["adult"], ["10"]] }).1
    = .error (.evaluation (.notNumeric "adult"))
  := by
  have hselection : splitRequest [.int 18]
      = (⟨.text "r", .text "p", .text "e", .text "m"⟩, [.int 18]) := rfl
  obtain ⟨strategy, matcher, hstrategy, hmatcher, hfails, -⟩ :=
    enforceEx_scan (e := { model := ages .ge [["30"], ["adult"], ["10"]] }) rfl hselection
      rfl rfl rfl rfl rfl
  cases hstrategy
  cases hmatcher
  apply hfails
  refine ⟨[["30"]], ["adult"], [["10"]], rfl, ?_, ?_⟩
  · rfl
  · intro row hrow
    rw [List.mem_singleton.mp hrow]
    refine ⟨⟨false, ?_⟩, ?_⟩
    · rfl
    · intro hmatches
      cases hmatches

/-- Without rows the row of empty texts may match, and then the request is allowed, but the
row does not explain the decision. -/
theorem enforceEx_blank_row :
  let e : Enforcer := { model := ages .eq [] }
  let answer := ((enforceEx [.text ""]).perform e).1
  ∃ f, e.model.frame {} = .ok f ∧ f.strategy = .someAllow ∧
    (f.scan e.allFunctions [.text ""]).rows = [[""]] ∧
    (f.scan e.allFunctions [.text ""]).Matches [""] ∧
    answer = .ok (true, []) ∧ answer ≠ .ok (true, [""])
  := by
  intro e answer
  have hanswer : answer = .ok (true, []) := rfl
  refine ⟨_, rfl, rfl, rfl, rfl, hanswer, ?_⟩
  rw [hanswer]
  simp

end Enforcer

end AccessControl
