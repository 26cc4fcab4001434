import AccessControl.Proofs.Model.Faults
import AccessControl.Proofs.Model.Text
import AccessControl.Proofs.Policy.Faults
import AccessControl.Proofs.Session.Action
import AccessControl.Session.Make

/-!
# Enforcers of files

An enforcer is made of the path of a model file and the path of a policy file.  Whatever bytes
the two files hold, either there is an enforcer, or an error of the library is raised, or an error
of the host escapes, and there are three ways for it to do so, `Session.makeEnforcer_of_files`.
-/

namespace AccessControl

/-! ### Models of files -/

namespace Model

/-- The model of a file is valid. -/
theorem validate_ofFile {files : Files} {path : String} {m : Model}
    (h : (ofFile files path).1 = .ok m) :
  m.validate = .ok ()
  := by
  unfold ofFile at h
  split at h
  · obtain ⟨entries, -, -, hvalid⟩ := ofText_eq_ok (Prod.ext h rfl)
    exact hvalid
  · split at h <;> cases h

end Model

/-- How an error of the host escapes when an enforcer is made of two files: bytes that are no text
are not looked after, and neither is a numeral in a matcher that cannot be read. -/
inductive Escapes (modelBytes policyBytes : List UInt8) : Failure → Prop where
  | model {fault : DecodingFault} (h : Utf8.decode modelBytes = .error fault) :
    Escapes modelBytes policyBytes (.host (Files.decodingError fault))
  | policy {fault : DecodingFault} (h : Utf8.decode policyBytes = .error fault) :
    Escapes modelBytes policyBytes (.host (Files.decodingError fault))
  | numeral {text : String} {failure : Failure} (h : Utf8.decode modelBytes = .ok text)
    (hnumeral : Model.NumeralFails text failure) :
    Escapes modelBytes policyBytes failure

section Files

variable {files : Files}

/-- A file that can be read has a text unless its bytes are none. -/
theorem Files.textAt_of_bytes {path : Location} {bytes : List UInt8}
    (h : files.bytesAt path = .ok bytes) :
  files.textAt path =
    match Utf8.decode bytes with
    | .ok text => .ok text
    | .error fault => .error (decodingError fault)
  := by
  rw [textAt, h]
  rfl

variable {modelPath policyPath : String} {modelBytes policyBytes : List UInt8}

theorem Model.ofFile_failsOnly (h : files.bytesAt (.ofText modelPath) = .ok modelBytes) :
  FailsOnly (fun failure => failure.IsOwn ∨ Escapes modelBytes policyBytes failure)
    (Model.ofFile files modelPath).1
  := by
  unfold ofFile
  rw [Files.textAt_of_bytes h]
  cases hdecode : Utf8.decode modelBytes with
  | error fault =>
      apply FailsOnly.error
      exact .inr (.model hdecode)
  | ok text =>
      intro failure hfailure
      obtain hown | hnumeral := ofText_failsOnly text failure hfailure
      · exact .inl hown.isOwn
      · exact .inr (.numeral hdecode hnumeral)

theorem Source.escapes_of_readFails
    (h : files.bytesAt (.ofText policyPath) = .ok policyBytes) {failure : Failure}
    (hfails : ReadFails files (.ofText policyPath) failure) :
  Escapes modelBytes policyBytes failure
  := by
  obtain ⟨error, herror, -, rfl⟩ := hfails
  rw [Files.textAt_of_bytes h] at herror
  split at herror
  · cases herror
  case h_2 fault hdecode =>
    cases herror
    exact .policy hdecode

end Files

/-! ### Loading -/

/-- What comes of replacing the rows of a model by those of a source and ordering them. -/
def Source.outcome (files : Files) (m : Model) (s : Source) : Except Failure Unit :=
  match s.load files m.clearRows with
  | (.error failure, _) => .error failure
  | (.ok (), m, _) => m.sortByPriority.1

theorem Source.outcome_failsOnly (files : Files) (m : Model) (path : Location) :
  FailsOnly (fun failure => failure.IsOwn ∨ ReadFails files path failure)
    (outcome files m (.file path))
  := by
  have hload := load_file_failsOnly files m.clearRows path
  rw [outcome]
  rcases hread : load files m.clearRows (.file path) with ⟨failure | u, m', events⟩
  · apply FailsOnly.error
    apply hload failure (congrArg Prod.fst hread)
  · apply (Model.sortByPriority_failsOnly m').left

theorem Enforcer.result_loadPolicy {e : Enforcer} {s : Source} (hs : e.source = some s) :
  (loadPolicy.perform e).1 = s.outcome e.files e.model
  := by
  obtain ⟨log, hlog⟩ := perform_loadPolicy hs
  rw [hlog, Source.outcome]
  rcases s.load e.files e.model.clearRows with ⟨failure | u, m, events⟩
  · rfl
  · dsimp only
    rcases m.sortByPriority with ⟨failure | u, m'⟩ <;> rfl

theorem Enforcer.kind_loadPolicy {e : Enforcer} {s : Source} (hs : e.source = some s) :
  (loadPolicy.perform e).2.kind = e.kind
  := by
  obtain ⟨log, hlog⟩ := perform_loadPolicy hs
  rw [hlog]
  rcases s.load e.files e.model.clearRows with ⟨failure | u, m, events⟩
  · rfl
  · dsimp only
    rcases m.sortByPriority with ⟨failure | u, m'⟩ <;> rfl

/-- A valid model becomes the model of any enforcer. -/
theorem Enforcer.setModel_valid {m : Model} (hvalid : m.validate = .ok ()) (e : Enforcer) :
  ∃ e', (setModel m).perform e = (.ok (), e') ∧ e'.kind = e.kind ∧ e'.model = m ∧
    e'.files = e.files
  := by
  rw [perform_setModel, hvalid]
  exact ⟨_, rfl, rfl, rfl, rfl⟩

namespace Session

open SessionAction

/-- An enforcer of a session whose parts are there: its model, its role graphs and its source. -/
structure Wired (s : Session) (id : Nat) (w : Wiring) (m : Model) (source : Source) : Prop where
  self : s.objects[id]? = some (.enforcer w)
  model : s.objects[w.model]? = some (.model m)
  graphs : ∀ entry ∈ w.graphs, ∃ g, s.objects[entry.2]? = some (.graph g)
  source : ∃ i, w.source = some i ∧ s.objects[i]? = some (.source source)
  sink : w.sink = none

theorem Wired.loadPolicy
    {s : Session} {id : Nat} {w : Wiring} {m : Model} {source : Source}
    (h : Wired s id w m source) :
  ∃ w' s', (onEnforcer id Enforcer.loadPolicy).perform s = (source.outcome s.files m, s') ∧
    s'.objects[id]? = some (.enforcer w') ∧ w'.enforcer.kind = w.enforcer.kind
  := by
  obtain ⟨i, hi, hsource⟩ := h.source
  have hparts : SessionAction.perform (w.source.mapM sourceAt) s = (.ok (some source), s) := by
    rw [hi]
    simp [perform_sourceAt hsource, Except.map]
  obtain ⟨e, hassemble, hkind, hmodel, hgiven, hfiles⟩ :=
    perform_assemble h.model h.graphs hparts
  obtain ⟨w', s', hperform, hself, hkind'⟩ :=
    perform_onEnforcer Enforcer.loadPolicy h.self h.sink hassemble
  rw [Enforcer.result_loadPolicy hgiven, hmodel, hfiles] at hperform
  exact ⟨w', s', hperform, hself, by rw [hkind', Enforcer.kind_loadPolicy hgiven, hkind]⟩

/-- An enforcer and its source are added behind its other parts. -/
theorem wired_added
    {s s' : Session} {w : Wiring} {m : Model} {source : Source}
    (hobjects : s'.objects = s.objects ++ [.enforcer w, .source source])
    (hmodel : s.objects[w.model]? = some (.model m))
    (hgraphs : ∀ entry ∈ w.graphs, ∃ g, s.objects[entry.2]? = some (.graph g))
    (hsource : w.source = some (s.objects.length + 1)) (hsink : w.sink = none) :
  Wired s' s.objects.length w m source
  := by
  have hold : ∀ (i : Nat) (object : SessionObject), s.objects[i]? = some object →
      s'.objects[i]? = some object := by
    intro i object hi
    rw [hobjects, List.getElem?_append_left (List.getElem?_eq_some_iff.mp hi).1, hi]
  constructor
  · simp [hobjects]
  · apply hold _ _ hmodel
  · intro entry hentry
    obtain ⟨g, hg⟩ := hgraphs entry hentry
    use g
    apply hold _ _ hg
  · refine ⟨_, hsource, ?_⟩
    simp [hobjects]
  · exact hsink

/-! ### Making -/

theorem perform_sinkArgument_none (s : Session) :
  (sinkArgument .none).perform s = (.ok (none, none), s)
  := rfl

theorem perform_sourceArgument_path (path : String) (s : Session) :
  (sourceArgument (.text path)).perform s =
    (.ok (some s.objects.length),
      { s with objects := s.objects ++ [.source (.file (.ofText path))] })
  := rfl

/-- Makes an enforcer of the paths of a model file and of a policy file. -/
def makeEnforcerOfFiles (className modelPath policyPath : String) : SessionAction Nat :=
  makeEnforcer className (.text modelPath) (.text policyPath) none .none .none

section Make

variable (className modelPath policyPath : String) (s : Session)

theorem perform_modelArgument_path :
  ∃ s', (modelArgument (.text modelPath)).perform s =
      ((Model.ofFile s.files modelPath).1.map fun _ => s.objects.length, s') ∧
    s'.files = s.files ∧
    ∀ m, (Model.ofFile s.files modelPath).1 = .ok m → s'.objects = s.objects ++ [.model m]
  := by
  obtain ⟨log, hlog⟩ := perform_keep (Model.ofFile s.files modelPath).2 s
  rw [modelArgument]
  simp only [perform_bind, objectOf?, perform_pure, makeModelOfFile, perform_get, makeModel, hlog,
    perform_lift]
  cases (Model.ofFile s.files modelPath).1 with
  | error failure => exact ⟨_, rfl, rfl, fun m h => nomatch h⟩
  | ok m =>
      refine ⟨_, rfl, rfl, ?_⟩
      intro m' h
      rw [Except.ok.inj h]

/-- No enforcer is made of a file that is refused as a model. -/
theorem makeEnforcer_refused {failure : Failure}
    (h : (Model.ofFile s.files modelPath).1 = .error failure) :
  ∃ s', (makeEnforcerOfFiles className modelPath policyPath).perform s = (.error failure, s')
  := by
  obtain ⟨s₁, hread, -⟩ := perform_modelArgument_path modelPath s
  rw [h] at hread
  rw [makeEnforcerOfFiles, makeEnforcer]
  simp only [perform_bind, perform_pure, perform_sinkArgument_none, perform_get, hread]
  exact ⟨_, rfl⟩

/-- An enforcer of a valid model is wired to the policy file, which it then loads. -/
theorem makeEnforcer_wired {m : Model}
    (h : (Model.ofFile s.files modelPath).1 = .ok m) (hvalid : m.validate = .ok ()) :
  ∃ id w s', Wired s' id w m (.file (.ofText policyPath)) ∧
    w.enforcer.kind = kindOfClass className ∧ s'.files = s.files ∧
    (makeEnforcerOfFiles className modelPath policyPath).perform s
      = (onEnforcer id Enforcer.loadPolicy >>= fun _ => pure id : SessionAction Nat).perform s'
  := by
  obtain ⟨s₁, hread, hfiles₁, hobjects₁⟩ := perform_modelArgument_path modelPath s
  rw [h] at hread
  have hm : s₁.objects[s.objects.length]? = some (.model m) := by
    rw [hobjects₁ m h]
    simp
  rw [makeEnforcerOfFiles, makeEnforcer]
  simp only [perform_bind, perform_pure, perform_sinkArgument_none, perform_get, hread, Except.map,
    perform_modelAt hm]
  generalize hw : ({ enforcer := .initial (kindOfClass className) {} none .none s.files
                     model := s.objects.length } : Wiring) = w
  obtain ⟨hwModel, hwGraphs, hwSource, hwSink, hwKind⟩ : w.model = s.objects.length ∧
      w.graphs = [] ∧ w.source = none ∧ w.sink = none ∧
        w.enforcer.kind = kindOfClass className := by
    rw [← hw]
    exact ⟨rfl, rfl, rfl, rfl, rfl⟩
  rw [← hwModel] at hm
  have hparts : SessionAction.perform (w.source.mapM sourceAt) s₁ = (.ok none, s₁) := by
    rw [hwSource]
    exact perform_pure none s₁
  obtain ⟨e, hassemble, hkind, -, -, hfiles⟩ := perform_assemble hm (by simp [hwGraphs]) hparts
  obtain ⟨e₁, hset, hkind₁, hmodel₁, hfiles₁'⟩ := Enforcer.setModel_valid hvalid e
  obtain ⟨w', s₂, hdismantle, hkind₂, hmodel, hsink, hfiles₂, hm₂, hgraphs⟩ :=
    perform_dismantle_new hwSink e₁ s₁ (List.getElem?_eq_some_iff.mp hm).1 hwGraphs hwSource
  rw [← hmodel, hmodel₁] at hm₂
  let file : Source := .file (.ofText policyPath)
  let w'' : Wiring :=
    { w' with
      source := some (s₂.objects.length + 1)
      enforcer := { w'.enforcer with source := some file } }
  have hkept : (sourceAt (s₂.objects.length + 1)).perform
      { s₂ with objects := s₂.objects ++ [.enforcer w', .source file] }
        = (.ok file, { s₂ with objects := s₂.objects ++ [.enforcer w', .source file] }) :=
    perform_sourceAt (by simp)
  have hstore : (s₂.objects ++ [SessionObject.enforcer w', .source file]).set s₂.objects.length
      (.enforcer w'') = s₂.objects ++ [.enforcer w'', .source file] := by
    simp
  refine ⟨s₂.objects.length, w'', { s₂ with objects := s₂.objects ++ [.enforcer w'', .source file] },
    wired_added rfl hm₂ hgraphs rfl hsink, ?_, ?_, ?_⟩
  · change w'.enforcer.kind = _
    rw [hkind₂, hkind₁, hkind, hwKind]
  · change s₂.files = _
    rw [hfiles₂, hfiles₁', hfiles, hfiles₁]
  · simp only [hassemble, show (Enforcer.setModel m).run.run e = _ from hset, perform_bind,
      hdismantle, perform_allocate, perform_sourceArgument_path, List.append_assoc,
      List.singleton_append, List.length_append, List.length_singleton]
    rw [hkept]
    dsimp only
    rw [perform_store]
    dsimp only
    rw [hstore]
    rfl

/-- Whatever bytes two files hold that can be read, there is an enforcer of them if the one is
accepted as a model and the other is loaded into it, and otherwise the error of that step is
raised.  It is an error of the library, or one of the host about bytes that are no text or about
a numeral in a matcher.  A text that is refused as a model is refused for a fault of the model or
for such a numeral, which has a digit of no decimal script or too many digits. -/
theorem makeEnforcer_of_files
    {modelPath policyPath : String} {modelBytes policyBytes : List UInt8}
    (hmodel : s.files.bytesAt (.ofText modelPath) = .ok modelBytes)
    (hpolicy : s.files.bytesAt (.ofText policyPath) = .ok policyBytes) :
  (match (makeEnforcerOfFiles className modelPath policyPath).perform s with
    | (.ok id, s') =>
      (∃ m, (Model.ofFile s.files modelPath).1 = .ok m ∧
        Source.outcome s.files m (.file (.ofText policyPath)) = .ok ()) ∧
      ∃ w, s'.objects[id]? = some (.enforcer w) ∧ w.enforcer.kind = kindOfClass className
    | (.error failure, _) =>
      ((Model.ofFile s.files modelPath).1 = .error failure ∨
        ∃ m, (Model.ofFile s.files modelPath).1 = .ok m ∧
          Source.outcome s.files m (.file (.ofText policyPath)) = .error failure) ∧
      (failure.IsOwn ∨ Escapes modelBytes policyBytes failure)) ∧
  (∀ text failure, (Model.ofText text).1 = .error failure →
    failure.IsModelFault ∨ Model.NumeralFails text failure) ∧
  ∀ source failure, Expr.NumeralFails source failure →
    (∃ c ∈ source.toList, isDigit c = true ∧ isDecimal c = false) ∨
      maxDigits < source.toList.length
  := by
  refine ⟨?_, Model.ofText_failsOnly, fun _ _ h => h.strange⟩
  cases hread : (Model.ofFile s.files modelPath).1 with
  | error failure =>
      obtain ⟨s', hperform⟩ := makeEnforcer_refused className modelPath policyPath s hread
      rw [hperform]
      exact ⟨.inl rfl, Model.ofFile_failsOnly hmodel failure hread⟩
  | ok m =>
      obtain ⟨id, w, s₁, hwired, hkind, hfiles, hperform⟩ :=
        makeEnforcer_wired className modelPath policyPath s hread (Model.validate_ofFile hread)
      obtain ⟨w', s₂, hload, hself, hkind'⟩ := hwired.loadPolicy
      have hfails := Source.outcome_failsOnly s.files m (.ofText policyPath)
      rw [hfiles] at hload
      rw [hperform]
      simp only [perform_bind, hload, perform_pure]
      cases houtcome : Source.outcome s.files m (.file (.ofText policyPath)) with
      | ok u => exact ⟨⟨m, rfl, houtcome⟩, w', hself, hkind'.trans hkind⟩
      | error failure =>
          refine ⟨.inr ⟨m, rfl, houtcome⟩, ?_⟩
          obtain hown | hescapes := hfails failure houtcome
          · exact .inl hown
          · exact .inr (Source.escapes_of_readFails hpolicy hescapes)

end Make

/-- A session with a model file and a policy file of the given bytes. -/
def ofTwoFiles (modelBytes policyBytes : List UInt8) : Session :=
  { files := { entries := [(["model"], .file modelBytes), (["policy"], .file policyBytes)] } }

/-- A model in which a request names the only value of a row. -/
def namesText : String :=
  "[request]\nr = name\n[policy]\np = name\n[effect]\ne = some(where (p.eft == allow))\n"
    ++ "[matchers]\nm = r.name == p.name"

theorem makeEnforcer_of_files_names :
  let s := ofTwoFiles (Utf8.encode namesText) (Utf8.encode "p, alice")
  s.files.bytesAt (.ofText "model") = .ok (Utf8.encode namesText) ∧
    s.files.bytesAt (.ofText "policy") = .ok (Utf8.encode "p, alice") ∧
    ∃ id s' w,
      (makeEnforcerOfFiles "CoreEnforcer" "model" "policy").perform s = (.ok id, s') ∧
      s'.objects[id]? = some (.enforcer w) ∧ w.enforcer.kind = .core
  := by
  intro s
  have hmodel : s.files.bytesAt (.ofText "model") = .ok (Utf8.encode namesText) := rfl
  have hpolicy : s.files.bytesAt (.ofText "policy") = .ok (Utf8.encode "p, alice") := rfl
  have hok : ((makeEnforcerOfFiles "CoreEnforcer" "model" "policy").perform s).1.isOk = true := by
    decide +kernel
  have hfiles := (makeEnforcer_of_files "CoreEnforcer" s hmodel hpolicy).1
  refine ⟨hmodel, hpolicy, ?_⟩
  clear_value s
  split at hfiles
  case h_1 id s' hperform =>
    obtain ⟨-, w, hself, hkind⟩ := hfiles
    exact ⟨id, s', w, hperform, hself, hkind⟩
  case h_2 hperform =>
    rw [hperform] at hok
    cases hok

/-- A computation ends with an error that is none of the library's. -/
def isForeign {α : Type} : Except Failure α → Bool
  | .ok _ => false
  | .error failure => !failure.isLibrary

/-- An error of the host escapes for a model file or a policy file of a byte that starts no
character, and for a superscript in the text of a matcher. -/
theorem makeEnforcer_escapes :
  isForeign ((makeEnforcerOfFiles "CoreEnforcer" "model" "policy").perform
      (ofTwoFiles [0xff] [])).1 = true ∧
    isForeign ((makeEnforcerOfFiles "CoreEnforcer" "model" "policy").perform
      (ofTwoFiles (Utf8.encode namesText) [0xff])).1 = true ∧
    isForeign (Model.ofText "[matchers]\nm = r.sub == \u00b2\n").1 = true
  := by
  refine ⟨?_, ?_, ?_⟩ <;> decide +kernel

end Session

end AccessControl
