import AccessControl.Proofs.Model.Shape
import AccessControl.Proofs.Policy.Kept

/-!
# Stored rows

How a source in memory edits and loads the rows that it keeps.  A source that could be loaded
into a model keeps rows that fit the definitions of the model, and a source that keeps such
rows can always be loaded.
-/

namespace AccessControl

/-! ### Texts -/

theorem allTexts?_map_text (row : Row) :
  Value.allTexts? (row.map .text) = some row
  := by
  rw [Value.allTexts?]
  induction row with
  | nil => rfl
  | cons s rest ih =>
      rw [List.map_cons, List.mapM_cons, ih]
      rfl

theorem allTexts?_eq_some {values : List Value} {row : Row} :
  Value.allTexts? values = some row ↔ values = row.map .text
  := by
  constructor
  · intro h
    rw [Value.allTexts?] at h
    induction values generalizing row with
    | nil =>
        cases h
        rfl
    | cons v rest ih =>
        rw [List.mapM_cons] at h
        obtain ⟨s, hs, h⟩ := Option.bind_eq_some_iff.mp h
        obtain ⟨row', hrow', h⟩ := Option.bind_eq_some_iff.mp h
        cases h
        rw [ih hrow', List.map_cons]
        cases v <;> cases hs
        rfl
  · rintro rfl
    apply allTexts?_map_text

/-- A definition accepts the texts of a row of the right length. -/
theorem checkRow_eq_ok {d : Definition} {values : List Value} {row : Row} :
  d.checkRow values = .ok row ↔ values = row.map .text ∧ row.length = d.arity
  := by
  rw [Definition.checkRow]
  constructor
  · intro h
    split at h
    · cases h
    case isFalse hlength =>
      split at h
      case h_1 row' hrow' =>
        cases h
        obtain rfl := allTexts?_eq_some.mp hrow'
        rw [List.length_map, not_not] at hlength
        use rfl
      case h_2 => cases h
  · rintro ⟨rfl, hlength⟩
    rw [List.length_map, if_neg (by simpa using hlength), allTexts?_map_text]

theorem mapM_checkRow {d : Definition} {values : List (List Value)} {rows : List Row}
    (h : values.mapM d.checkRow = .ok rows) :
  values = rows.map (·.map .text) ∧ ∀ row ∈ rows, row.length = d.arity
  := by
  have hall := mapM_eq_ok.mp h
  clear h
  induction hall with
  | nil => simp
  | cons hrow _ ih =>
      obtain ⟨rfl, hlength⟩ := checkRow_eq_ok.mp hrow
      rw [ih.1, List.forall_mem_cons]
      exact ⟨rfl, hlength, ih.2⟩

namespace Source

/-! ### Edits -/

theorem appended_stored (kept : List KeptRow) (x : KeptRow) :
  (appended (kept.map KeptRow.stored) x.stored).1 = (KeptRow.add kept x).map KeptRow.stored
  := by
  rw [appended, append, KeptRow.add, contains_map KeptRow.stored_beq]
  split
  · rfl
  · rw [List.map_append]
    rfl

theorem erased_stored (kept : List KeptRow) (x : KeptRow) :
  (erased (kept.map KeptRow.stored) x.stored).1 = (kept.erase x).map KeptRow.stored
  := by
  rw [erased, erase_map KeptRow.stored_beq]

/-- Edits of one stored row after the other edit the kept rows. -/
theorem each_stored
    {f : List StoredRow → StoredRow → List StoredRow × Bool}
    {g : List KeptRow → KeptRow → List KeptRow}
    (h : ∀ kept x, (f (kept.map KeptRow.stored) x.stored).1 = (g kept x).map KeptRow.stored)
    (kept xs : List KeptRow) :
  (each f (kept.map KeptRow.stored) (xs.map KeptRow.stored)).1
    = (xs.foldl g kept).map KeptRow.stored
  := by
  induction xs generalizing kept with
  | nil => rfl
  | cons x rest ih =>
      rw [List.map_cons, each, List.foldl_cons, ← ih (g kept x), ← h kept x]

/-- The rows that are left are those of other keys and those that do not pass the filter. -/
theorem keep_stored
    {key : String} {f : RowFilter} {kept : List KeptRow}
    (h : ∀ x ∈ kept, x.1 = key → f.holds (x.2.map .text) = .ok (f.passes x.2)) :
  keep (.text key) f (kept.map KeptRow.stored)
    = .ok ((kept.filter fun x => !(x.1 == key && f.passes x.2)).map KeptRow.stored)
  := by
  induction kept with
  | nil => rfl
  | cons x rest ih =>
      obtain ⟨hx, hrest⟩ := List.forall_mem_cons.mp h
      have hpass : passes (.text key) f x.stored = .ok (x.1 == key && f.passes x.2) := by
        change (if (x.1 == key) = true then f.holds (x.2.map .text) else .ok false) = _
        by_cases hkey : x.1 = key
        · rw [hkey, beq_self_eq_true, if_pos rfl, hx hkey, Bool.true_and]
        · rw [beq_false_of_ne hkey, Bool.false_and]
          rfl
      rw [List.map_cons, keep, hpass, ih hrest, List.filter_cons]
      cases x.1 == key && f.passes x.2 <;> rfl

end Source

/-! ### Loading -/

namespace Model

/-- A kept row is a row of a definition of a model. -/
def Fits (m : Model) (x : KeptRow) : Prop :=
  ∃ (kind : RowKind) (d : Definition), m.find? kind.kind x.1 = some d ∧ x.2.length = d.arity

theorem Fits.of_sameShape {m m' : Model} {x : KeptRow} (hx : Fits m x) (h : SameShape m m') :
  Fits m' x
  := by
  obtain ⟨kind, d, hd, hlength⟩ := hx
  obtain ⟨rows, hrows⟩ := h.find? hd
  exact ⟨kind, _, hrows, hlength⟩

/-- A kept row that fits has the length that the definition of its key asks for. -/
theorem Fits.length_eq
    {m : Model} {x : KeptRow} (hx : Fits m x) (hm : WellFormed m) {kind : RowKind} {d : Definition}
    (hd : m.find? kind.kind x.1 = some d) :
  x.2.length = d.arity
  := by
  obtain ⟨kind', d', hd', hlength⟩ := hx
  obtain ⟨-, rfl⟩ := hm.kind_unique hd hd'
  apply hlength

theorem SameShape.changed (m : Model) (kind : RowKind) (key : String) (rows : Option (List Row)) :
  SameShape (m.changed kind.kind key rows).1 m
  := by
  cases rows with
  | none => apply SameShape.refl
  | some rows => apply SameShape.withRows

/-- A row that was added fits a definition and is added there. -/
theorem of_loadRow {m m' : Model} {row : StoredRow} (h : Source.loadRow m row = .ok m') :
  ∃ (x : KeptRow) (kind : RowKind) (d : Definition), row = x.stored ∧
    m.find? kind.kind x.1 = some d ∧ x.2.length = d.arity ∧
    m' = (m.changed kind.kind x.1 (Row.add? d.rows x.2)).1
  := by
  rw [Source.loadRow.eq_def] at h
  split at h
  case h_1 first value rest =>
    obtain ⟨key, hkey, h⟩ := bind_eq_ok.mp h
    obtain ⟨kind, hkind, h⟩ := bind_eq_ok.mp h
    split at h
    · cases h
    · obtain ⟨⟨m'', added⟩, hadd, h⟩ := bind_eq_ok.mp h
      obtain ⟨d, hd, hadd⟩ := bind_eq_ok.mp hadd
      obtain ⟨row, hrow, hadd⟩ := bind_eq_ok.mp hadd
      cases h
      obtain ⟨hvalues, hlength⟩ := checkRow_eq_ok.mp hrow
      have hfirst : first = .text key := by
        cases first <;> cases hkey
        rfl
      have hkind' : ∃ kind' : RowKind, kind = kind'.kind := by
        rw [Source.kindOfKey] at hkind
        split at hkind
        · cases hkind
          exact ⟨.policy, rfl⟩
        · split at hkind
          · cases hkind
            exact ⟨.role, rfl⟩
          · cases hkind
      obtain ⟨kind', rfl⟩ := hkind'
      have hfind : m.find? kind'.kind key = some d := by
        rw [get] at hd
        split at hd
        case h_1 d' hd' =>
          cases hd
          apply hd'
        case h_2 => cases hd
      refine ⟨(key, row), kind', d, ?_, hfind, hlength, ?_⟩
      · rw [KeptRow.stored, hfirst, hvalues]
      · apply (congrArg Prod.fst (Except.ok.inj hadd)).symm
  case h_2 => cases h

/-- A kept row that fits is added to its definition. -/
theorem loadRow_stored
    {m : Model} (hm : WellFormed m) {key : String} {row : Row} {kind : RowKind} {d : Definition}
    (hd : m.find? kind.kind key = some d) (hlength : row.length = d.arity) :
  Source.loadRow m (KeptRow.stored (key, row))
    = .ok (m.changed kind.kind key (Row.add? d.rows row)).1
  := by
  have hpos := hm.arity_pos kind key d hd
  obtain ⟨s, rest, rfl⟩ : ∃ s rest, row = s :: rest := by
    cases row with
    | nil =>
        rw [← hlength] at hpos
        cases hpos
    | cons s rest => exact ⟨s, rest, rfl⟩
  have hcheck : d.checkRow (.text s :: rest.map .text) = .ok (s :: rest) :=
    checkRow_eq_ok.mpr ⟨rfl, hlength⟩
  have hhas : m.has kind.kind key = true := by rw [has, hd, Option.isSome_some]
  simp only [KeptRow.stored, List.map_cons, Source.loadRow, Value.receiver, bind, Except.bind,
    hm.kindOfKey kind key d hd, hhas, addRow, get_eq hd, hcheck, Bool.not_true, Bool.false_eq_true,
    if_false]
  rfl

theorem RowsFit.add
    {m : Model} (hm : RowsFit m) {key : String} {row : Row} {kind : RowKind} {d : Definition}
    (hd : m.find? kind.kind key = some d) (hlength : row.length = d.arity) :
  RowsFit (m.changed kind.kind key (Row.add? d.rows row)).1
  := by
  rw [Row.add?]
  split
  · apply hm
  · apply hm.withRows hd
    intro row' hrow'
    obtain hrow' | hrow' := List.mem_append.mp hrow'
    · apply hm kind key d hd row' hrow'
    · rw [List.mem_singleton.mp hrow']
      apply hlength

/-- What the loading of every row keeps is kept by a source. -/
theorem load_invariant
    {I : Model → Prop} (hrow : ∀ m row m', Source.loadRow m row = .ok m' → I m → I m')
    (files : Files) {m : Model} (hm : I m) (s : Source) :
  I (Source.load files m s).2.1
  := by
  have hline : ∀ m line m', Source.loadLine m line = .ok m' → I m → I m' := by
    intro m line m' h hm
    obtain ⟨row, -, h⟩ := bind_eq_ok.mp h
    cases row with
    | none =>
        cases h
        apply hm
    | some row => apply hrow m _ m' h hm
  cases s with
  | memory rows =>
      have h := runSteps_keeps hrow rows hm
      rw [Source.load]
      generalize runSteps Source.loadRow m rows = r at h
      obtain ⟨failure | u, m'⟩ := r <;> apply h
  | file path =>
      rw [Source.load]
      cases Source.readFile files path with
      | error failure => apply hm
      | ok text =>
          have h := runSteps_keeps hline (lines text.toList) hm
          dsimp only
          generalize runSteps Source.loadLine m (lines text.toList) = r at h
          obtain ⟨failure | u, m'⟩ := r <;> apply h
  | bare => apply hm
  | foreign v => apply hm

/-- What rows have been loaded keeps the shape of a model, and its rows fit. -/
theorem load_keeps
    (files : Files) {m m₀ : Model} (hshape : SameShape m m₀) (hrows : RowsFit m) (s : Source) :
  SameShape (Source.load files m s).2.1 m₀ ∧ RowsFit (Source.load files m s).2.1
  := by
  apply load_invariant (I := fun m => SameShape m m₀ ∧ RowsFit m) _ files ⟨hshape, hrows⟩ s
  rintro m row m' h ⟨hshape, hrows⟩
  obtain ⟨x, kind, d, -, hd, hlength, rfl⟩ := of_loadRow h
  use (SameShape.changed _ _ _ _).trans hshape
  apply hrows.add hd hlength

/-- Rows that could be loaded are kept rows that fit the model. -/
theorem of_load {rows : List StoredRow} {m m' : Model}
    (h : runSteps Source.loadRow m rows = (.ok (), m')) :
  ∃ kept : List KeptRow, rows = kept.map KeptRow.stored ∧ ∀ x ∈ kept, Fits m x
  := by
  induction rows generalizing m with
  | nil => exact ⟨[], rfl, by simp⟩
  | cons row rest ih =>
      rw [runSteps] at h
      cases hstep : Source.loadRow m row with
      | error e =>
          rw [hstep] at h
          cases h
      | ok t =>
          rw [hstep] at h
          obtain ⟨kept, rfl, hfits⟩ := ih h
          obtain ⟨x, kind, d, rfl, hd, hlength, rfl⟩ := of_loadRow hstep
          use x :: kept, rfl
          rw [List.forall_mem_cons]
          refine ⟨⟨kind, d, hd, hlength⟩, ?_⟩
          intro y hy
          apply (hfits y hy).of_sameShape
          apply SameShape.changed

/-- Kept rows that fit a model can be loaded. -/
theorem load_fits
    {kept : List KeptRow} {m : Model} (hm : WellFormed m) (hrows : RowsFit m)
    (hfits : ∀ x ∈ kept, Fits m x) :
  ∃ m', runSteps Source.loadRow m (kept.map KeptRow.stored) = (.ok (), m') ∧
    SameShape m' m ∧ RowsFit m'
  := by
  induction kept generalizing m with
  | nil => exact ⟨m, rfl, SameShape.refl m, hrows⟩
  | cons x rest ih =>
      obtain ⟨⟨kind, d, hd, hlength⟩, hrest⟩ := List.forall_mem_cons.mp hfits
      have hshape := SameShape.changed m kind x.1 (Row.add? d.rows x.2)
      obtain ⟨m', hm', hshape', hrows'⟩ := ih (hm.of_sameShape hshape.symm)
        (hrows.add hd hlength) fun y hy => (hrest y hy).of_sameShape hshape.symm
      refine ⟨m', ?_, hshape'.trans hshape, hrows'⟩
      rw [List.map_cons, runSteps, loadRow_stored hm hd hlength]
      apply hm'

/-- Loading adds to every definition the rows that are kept under its key, in their order, if
none of them is there or kept twice. -/
theorem load_rows
    {kept : List KeptRow} {m m' : Model} (hm : WellFormed m) (hnodup : kept.Nodup)
    (h : runSteps Source.loadRow m (kept.map KeptRow.stored) = (.ok (), m'))
    (hfresh : ∀ (kind : RowKind) (key : String) (d : Definition),
      m.find? kind.kind key = some d → ∀ row ∈ d.rows, (key, row) ∉ kept)
    {kind : RowKind} {key : String} {d : Definition} (hd : m.find? kind.kind key = some d) :
  m'.find? kind.kind key = some { d with rows := d.rows ++ KeptRow.under key kept }
  := by
  induction kept generalizing m d with
  | nil =>
      cases h
      rw [hd, KeptRow.under, List.filter_nil, List.map_nil, List.append_nil]
  | cons x rest ih =>
      obtain ⟨hx, hrest⟩ := List.nodup_cons.mp hnodup
      rw [List.map_cons, runSteps] at h
      cases hstep : Source.loadRow m x.stored with
      | error e =>
          rw [hstep] at h
          cases h
      | ok t =>
          rw [hstep] at h
          obtain ⟨⟨k, row⟩, kind', d', heq, hd', -, rfl⟩ := of_loadRow hstep
          obtain rfl := KeptRow.stored_injective heq
          have hrow : row ∉ d'.rows := fun hmem => hfresh kind' k d' hd' row hmem List.mem_cons_self
          have hadd : (m.changed kind'.kind k (Row.add? d'.rows row)).1
              = m.withRows kind'.kind k (d'.rows ++ [row]) := by
            rw [Row.add?, if_neg (by simpa using hrow)]
            rfl
          have hshape := SameShape.withRows m kind' k (d'.rows ++ [row])
          dsimp only at h hd'
          rw [hadd] at h
          have hfresh' : ∀ (kind : RowKind) (key : String) (d : Definition),
              (m.withRows kind'.kind k (d'.rows ++ [row])).find? kind.kind key = some d →
              ∀ r ∈ d.rows, (key, r) ∉ rest := by
            intro kind key d hd r hr hmem
            by_cases hsame : kind.kind = kind'.kind ∧ key = k
            · obtain ⟨hkind, rfl⟩ := hsame
              rw [hkind, find?_withRows_same, hd', Option.map_some, Option.some.injEq] at hd
              subst hd
              obtain hr | hr := List.mem_append.mp hr
              · apply hfresh kind' key d' hd' r hr (List.mem_cons_of_mem _ hmem)
              · rw [List.mem_singleton.mp hr] at hmem
                apply hx hmem
            · rw [find?_withRows_other _ _ hsame] at hd
              apply hfresh kind key d hd r hr (List.mem_cons_of_mem _ hmem)
          have hm' := hm.of_sameShape hshape.symm
          by_cases hkey : k = key
          · subst hkey
            obtain ⟨rfl, rfl⟩ := hm.kind_unique hd hd'
            rw [ih hm' hrest h hfresh' (by rw [find?_withRows_same, hd]; rfl),
              KeptRow.under_cons_same]
            simp
          · rw [ih hm' hrest h hfresh'
              (by rw [find?_withRows_other _ _ fun hc => hkey hc.2.symm, hd]),
              KeptRow.under_cons_other hkey]

end Model

namespace Source

/-! ### Sources of rows -/

/-- A source that is made of rows keeps none of them twice. -/
theorem ofRows_nodup {rows : List StoredRow} {kept : List KeptRow}
    (h : ofRows rows = .memory (kept.map KeptRow.stored)) :
  kept.Nodup
  := by
  have hdistinct : ∀ rows kept : List StoredRow, kept.Pairwise (fun x y => (y == x) = false) →
      (rows.foldl append kept).Pairwise fun x y => (y == x) = false := by
    intro rows
    induction rows with
    | nil => exact fun _ h => h
    | cons row rest ih =>
        intro kept hkept
        apply ih
        rw [append]
        split
        · apply hkept
        case isFalse hrow =>
          rw [List.pairwise_append]
          use hkept, List.pairwise_singleton _ _
          intro x hx y hy
          rw [List.mem_singleton.mp hy]
          by_contra hxy
          apply hrow
          rw [List.contains_iff_exists_mem_beq]
          use x, hx
          rw [Bool.not_eq_false] at hxy
          apply hxy
  rw [ofRows, Source.memory.injEq] at h
  have hpairwise := hdistinct rows [] List.Pairwise.nil
  rw [h, List.pairwise_map] at hpairwise
  apply hpairwise.imp
  intro x y hxy
  rw [KeptRow.stored_beq] at hxy
  rintro rfl
  rw [beq_self_eq_true] at hxy
  cases hxy

end Source

end AccessControl
