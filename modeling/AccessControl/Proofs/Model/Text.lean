import AccessControl.Proofs.Model.Shape
import AccessControl.Proofs.Text.Blank

/-!
# Models of texts

What the model of a text looks like.  Its definitions have no rows, and its keys and fields
are such that it is well formed, `Model.wellFormed_ofText`.  Entries of distinct keys make one
definition each, `Model.ofText_of_entries`.
-/

namespace AccessControl

/-- A text that is read to its end has the entries that were found. -/
theorem ModelText.entries_of_read {text : String} {contents : Contents}
    (hread : (read text).1.toOption = some ()) (hcontents : (read text).2 = contents) :
  ModelText.entries text = .ok contents.entries
  := by
  rw [entries, ← hcontents]
  split
  case h_1 heq => rw [heq]
  case h_2 heq =>
    rw [heq] at hread
    cases hread

namespace Model

/-! ### Meanings -/

theorem readFields_ne_nil {key text : String} {fields : List String}
    (h : Meaning.readFields key text = .ok fields) :
  fields ≠ []
  := by
  rw [Meaning.readFields] at h
  split at h
  · cases h
  · cases h
    simp [splitAt_ne_nil]

theorem readNames_ne_nil {key written : String} {fields : List String}
    (h : Meaning.readNames key written = .ok fields) :
  fields ≠ []
  := by
  obtain ⟨fields', hfields, h⟩ := bind_eq_ok.mp h
  split at h
  · cases h
  · split at h
    · cases h
    · cases h
      apply readFields_ne_nil hfields

theorem readPlaces_ne_nil {key text : String} {fields : List String}
    (h : Meaning.readPlaces key text = .ok fields) :
  fields ≠ []
  := by
  obtain ⟨fields', hfields, h⟩ := bind_eq_ok.mp h
  split at h
  · cases h
    apply readFields_ne_nil hfields
  · cases h

/-- A text that is read has a meaning of the kind that was asked for, and a shape of rows
has fields. -/
theorem of_meaning {kind : SectionKind} {key written : String} {meaning : Meaning}
    (h : Meaning.ofText kind key written = .ok meaning) :
  meaning.kind = kind ∧ (kind = .policy ∨ kind = .role → 0 < meaning.fields.length)
  := by
  cases kind <;> simp only [Meaning.ofText, map_eq_ok] at h <;> obtain ⟨content, hcontent, rfl⟩ := h
  case policy =>
    use rfl
    intro _
    apply List.length_pos_iff.mpr (readNames_ne_nil hcontent)
  case role =>
    use rfl
    intro _
    apply List.length_pos_iff.mpr (readPlaces_ne_nil hcontent)
  all_goals
    use rfl
    simp

/-- A shape of role rows has two fields or three. -/
theorem places_of_meaning {key written : String} {meaning : Meaning}
    (h : Meaning.ofText .role key written = .ok meaning) :
  meaning.fields.length = 2 ∨ meaning.fields.length = 3
  := by
  obtain ⟨fields, hfields, rfl⟩ := map_eq_ok.mp h
  obtain ⟨fields', -, h⟩ := bind_eq_ok.mp hfields
  split at h
  case isTrue hlength =>
    cases h
    apply hlength
  case isFalse => cases h

/-! ### Definitions as they are made -/

/-- What holds of every definition of the model of a text. -/
structure Fresh (d : Definition) : Prop where
  key : isKeyOf d.kind d.key = true
  arity_pos : d.kind = .policy ∨ d.kind = .role → 0 < d.arity
  places : d.kind = .role → d.arity = 2 ∨ d.arity = 3
  rows : d.rows = []

/-- Nothing is inherited where there are no rows. -/
theorem inherited_eq_nil {d : Definition} {old : Option Definition} {rows : List Row}
    (h : inherited d old = .ok rows) (hold : ∀ d' ∈ old, d'.rows = []) :
  rows = []
  := by
  cases old with
  | none =>
      cases h
      rfl
  | some d' =>
      have hd' := hold d' rfl
      rw [inherited.eq_def] at h
      dsimp only at h
      split at h
      all_goals try split at h
      all_goals
        cases h
        try apply hd'
        try rfl

theorem mem_put {m : Model} {d d' : Definition} (h : d' ∈ (m.put d).definitions) :
  d' = d ∨ d' ∈ m.definitions
  := by
  rw [put] at h
  split at h
  · obtain ⟨c, hc, rfl⟩ := List.mem_map.mp h
    split
    · left
      rfl
    · right
      apply hc
  · obtain h | h := List.mem_append.mp h
    · right
      apply h
    · left
      apply List.mem_singleton.mp h

/-- Making a definition keeps all definitions as they are made. -/
theorem fresh_defineKind
    {m : Model} {kind : SectionKind} {key text : String} {made : Model × Option Definition}
    (h : m.defineKind kind key text = .ok made) (hm : ∀ d ∈ m.definitions, Fresh d) :
  ∀ d ∈ made.1.definitions, Fresh d
  := by
  obtain ⟨u, hkey, h⟩ := bind_eq_ok.mp h
  split at h
  · cases h
    apply hm
  · obtain ⟨meaning, hmeaning, h⟩ := bind_eq_ok.mp h
    obtain ⟨rows, hrows, h⟩ := bind_eq_ok.mp h
    cases h
    obtain ⟨hkind, harity⟩ := of_meaning hmeaning
    intro d hd
    obtain rfl | hd := mem_put hd
    · constructor
      · rw [Definition.kind, hkind]
        by_contra hk
        rw [checkKeyOf, if_neg hk] at hkey
        cases hkey
      · rw [Definition.kind, hkind]
        apply harity
      · rw [Definition.kind, hkind]
        rintro rfl
        apply places_of_meaning hmeaning
      · apply inherited_eq_nil hrows
        intro d' hd'
        apply (hm d' (of_find? hd').1).rows
    · apply hm d hd

/-- A text is read as a model when its entries are found, all of them make definitions, and the
model is valid. -/
theorem ofText_eq_ok {text : String} {m : Model} {events : List LogEvent}
    (h : Model.ofText text = (.ok m, events)) :
  ∃ entries, ModelText.entries text = .ok entries ∧
    runSteps defineEntry (⟨[]⟩, ModelText.warnings text) entries = (.ok (), m, events) ∧
    m.validate = .ok ()
  := by
  rw [Model.ofText, load] at h
  cases hentries : ModelText.entries text with
  | error e => simp [hentries] at h
  | ok entries =>
      simp only [hentries] at h
      use entries, rfl
      rcases hrun : runSteps defineEntry (⟨[]⟩, ModelText.warnings text) entries with
        ⟨failure | u, m', events'⟩
      · simp [hrun] at h
      · simp only [hrun] at h
        cases hvalid : m'.validate with
        | error e => simp [hvalid] at h
        | ok u =>
            simp only [hvalid, Prod.mk.injEq, Except.ok.injEq] at h
            obtain ⟨rfl, rfl⟩ := h
            exact ⟨rfl, hvalid⟩

/-- The definitions of the model of a text are as they are made. -/
theorem fresh_ofText {text : String} {m : Model} {events : List LogEvent}
    (h : Model.ofText text = (.ok m, events)) :
  ∀ d ∈ m.definitions, Fresh d
  := by
  obtain ⟨entries, -, hrun, -⟩ := ofText_eq_ok h
  have hkeeps : ∀ d ∈ (runSteps defineEntry (⟨[]⟩, ModelText.warnings text)
      entries).2.1.definitions, Fresh d := by
    apply runSteps_keeps (I := fun s : Model × List LogEvent => ∀ d ∈ s.1.definitions, Fresh d)
    · intro s entry t hstep hs
      obtain ⟨made, hmade, hstep⟩ := bind_eq_ok.mp hstep
      cases hstep
      apply fresh_defineKind hmade hs
    · simp
  rw [hrun] at hkeeps
  apply hkeeps

/-- A key of a kind with rows tells the kind. -/
theorem kindOfKey_of_isKeyOf {kind : RowKind} {key : String} (h : isKeyOf kind.kind key) :
  Source.kindOfKey key = .ok kind.kind
  := by
  rw [isKeyOf] at h
  split at h
  case h_1 => cases h
  case h_2 c digits hkey =>
    obtain ⟨hc, -⟩ := (Bool.and_eq_true _ _).mp h
    have hc' := congrArg String.toList (beq_iff_eq.mp hc)
    cases kind with
    | policy =>
        have hp : c = 'p' := by simpa [RowKind.kind, SectionKind.letter] using hc'
        simp [Source.kindOfKey, hkey, hp, RowKind.kind]
    | role =>
        have hg : c = 'g' := by simpa [RowKind.kind, SectionKind.letter] using hc'
        simp [Source.kindOfKey, hkey, hg, RowKind.kind]

/-- The model of a text is well formed. -/
theorem wellFormed_ofText {text : String} {m : Model} {events : List LogEvent}
    (h : Model.ofText text = (.ok m, events)) :
  WellFormed m
  := by
  have hfresh := fresh_ofText h
  constructor
  · intro kind key d hd
    obtain ⟨hmem, hkind, rfl⟩ := of_find? hd
    apply kindOfKey_of_isKeyOf
    rw [← hkind]
    apply (hfresh d hmem).key
  · intro kind key d hd
    obtain ⟨hmem, hkind, -⟩ := of_find? hd
    apply (hfresh d hmem).arity_pos
    rw [hkind]
    cases kind
    · left
      rfl
    · right
      rfl

/-- The model of a text has no rows. -/
theorem clearRows_ofText {text : String} {m : Model} {events : List LogEvent}
    (h : Model.ofText text = (.ok m, events)) :
  m.clearRows = m
  := by
  have hfresh := fresh_ofText h
  obtain ⟨definitions⟩ := m
  rw [clearRows, Model.mk.injEq]
  apply (List.map_congr_left _).trans (List.map_id definitions)
  intro d hd
  split
  · rw [← (hfresh d hd).rows]
    rfl
  · rfl

/-! ### Entries -/

/-- The definition that an entry makes. -/
inductive Defines : Entry → Definition → Prop
  | intro {kind : SectionKind} {key text : String} {meaning : Meaning}
      (hkey : isKeyOf kind key = true) (htext : text ≠ "") (hstrip : strip text = text)
      (hmeaning : Meaning.ofText kind key text = .ok meaning) :
      Defines ⟨kind, key, text⟩ ⟨key, text, meaning, []⟩

namespace Defines

variable {key text : String} (htext : text ≠ "") (hstrip : strip text = text)

include htext hstrip

theorem request
    {fields : List String} (hkey : isKeyOf .request key = true)
    (h : Meaning.readNames key text = .ok fields) :
  Defines ⟨.request, key, text⟩ ⟨key, text, .request fields, []⟩
  := by
  apply intro hkey htext hstrip
  rw [Meaning.ofText, h]
  rfl

theorem policy
    {fields : List String} (hkey : isKeyOf .policy key = true)
    (h : Meaning.readNames key text = .ok fields) :
  Defines ⟨.policy, key, text⟩ ⟨key, text, .policy fields, []⟩
  := by
  apply intro hkey htext hstrip
  rw [Meaning.ofText, h]
  rfl

theorem role
    {fields : List String} (hkey : isKeyOf .role key = true)
    (h : Meaning.readPlaces key text = .ok fields) :
  Defines ⟨.role, key, text⟩ ⟨key, text, .role fields, []⟩
  := by
  apply intro hkey htext hstrip
  rw [Meaning.ofText, hstrip, h]
  rfl

theorem effect
    {strategy : Strategy} (hkey : isKeyOf .effect key = true)
    (h : Strategy.ofText text = .ok strategy) :
  Defines ⟨.effect, key, text⟩ ⟨key, text, .effect strategy, []⟩
  := by
  apply intro hkey htext hstrip
  rw [Meaning.ofText, hstrip, h]
  rfl

theorem matcher
    {tree : Expr} (hkey : isKeyOf .matcher key = true) (h : Expr.parse text = .ok tree) :
  Defines ⟨.matcher, key, text⟩ ⟨key, text, .matcher ⟨text, tree⟩, []⟩
  := by
  apply intro hkey htext hstrip
  rw [Meaning.ofText, hstrip, Meaning.readMatcher, Matcher.ofText, h]
  rfl

end Defines

theorem find?_eq_none {m : Model} {kind : SectionKind} {key : String}
    (h : (kind, key) ∉ m.definitions.map fun d => (d.kind, d.key)) :
  m.find? kind key = none
  := by
  rw [find?, List.find?_eq_none]
  intro d hd hsame
  rw [Bool.and_eq_true, beq_iff_eq, beq_iff_eq] at hsame
  apply h
  rw [List.mem_map]
  exact ⟨d, hd, Prod.ext hsame.1 hsame.2⟩

/-- An entry of a new key makes its definition at the end. -/
theorem defineEntry_new
    {m : Model} {entry : Entry} {d : Definition} (h : Defines entry d)
    (hnew : (d.kind, d.key) ∉ m.definitions.map fun d => (d.kind, d.key))
    (events : List LogEvent) :
  ∃ events', defineEntry (m, events) entry = .ok (⟨m.definitions ++ [d]⟩, events')
  := by
  obtain @⟨kind, key, text, meaning, hkey, htext, hstrip, hmeaning⟩ := h
  have hkind := (of_meaning hmeaning).1
  have hfind := find?_eq_none hnew
  have hput : m.put ⟨key, text, meaning, []⟩ = ⟨m.definitions ++ [⟨key, text, meaning, []⟩]⟩ := by
    rw [put, has, hfind]
    rfl
  rw [Definition.kind, hkind] at hfind
  have hmade : m.defineKind kind key text = .ok
      (⟨m.definitions ++ [⟨key, text, meaning, []⟩]⟩, some ⟨key, text, meaning, []⟩) := by
    simp only [defineKind, checkKeyOf, hkey, hstrip, htext, hmeaning, hfind, inherited, if_true,
      if_false, bind, Except.bind, pure, Except.pure, hput]
  rw [defineEntry]
  dsimp only
  rw [hmade]
  exact ⟨_, rfl⟩

/-- Entries of distinct keys make one definition each, in their order. -/
theorem runSteps_defineEntry
    {entries : List Entry} {ds : List Definition} (h : List.Forall₂ Defines entries ds)
    {m : Model} (hnew : ((m.definitions ++ ds).map fun d => (d.kind, d.key)).Nodup)
    (events : List LogEvent) :
  ∃ events', runSteps defineEntry (m, events) entries
    = (.ok (), ⟨m.definitions ++ ds⟩, events')
  := by
  induction h generalizing m events with
  | nil =>
      rw [List.append_nil]
      exact ⟨events, rfl⟩
  | @cons entry d rest ds hentry _ ih =>
      have hd : (d.kind, d.key) ∉ m.definitions.map fun d => (d.kind, d.key) := by
        rw [List.map_append, List.map_cons] at hnew
        intro hmem
        apply (List.nodup_append'.mp hnew).2.2 hmem
        apply List.mem_cons_self
      obtain ⟨events', hstep⟩ := defineEntry_new hentry hd events
      rw [runSteps, hstep]
      have hnew' : ((m.definitions ++ [d] ++ ds).map fun d => (d.kind, d.key)).Nodup := by
        rw [List.append_assoc]
        apply hnew
      obtain ⟨events'', hrest⟩ := ih (m := ⟨m.definitions ++ [d]⟩) hnew' events'
      use events''
      rw [List.append_assoc] at hrest
      apply hrest

/-- A text whose entries make definitions of distinct keys, of every required kind, is the
text of these definitions. -/
theorem ofText_of_entries
    {text : String} {entries : List Entry} {ds : List Definition}
    (hentries : ModelText.entries text = .ok entries) (h : List.Forall₂ Defines entries ds)
    (hnew : (ds.map fun d => (d.kind, d.key)).Nodup) (hvalid : Model.validate ⟨ds⟩ = .ok ()) :
  ∃ events, Model.ofText text = (.ok ⟨ds⟩, events)
  := by
  obtain ⟨events, hsteps⟩ := runSteps_defineEntry h (m := ⟨[]⟩) hnew (ModelText.warnings text)
  use events
  rw [Model.ofText, load, hentries]
  simp only [hsteps, List.nil_append, hvalid]

end Model

end AccessControl
