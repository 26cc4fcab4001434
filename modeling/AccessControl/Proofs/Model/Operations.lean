import AccessControl.Proofs.Model.Built

/-!
# Operations on models

The calls by which a host changes a model, and what they do to its rows.  After any calls, also
calls that fail, the rows of every definition fit its fields and are not repeated, and no call
but the one for order changes the order of the rows that it leaves.  The main result is
`Model.Operation.run_rows`.
-/

namespace AccessControl

/-! ### Order -/

/-- Rows that are among others and among which are those others stand in one order in both. -/
def KeepsOrder (rows rows' : List Row) : Prop :=
  rows.filter (rows'.contains ·) = rows'.filter (rows.contains ·)

namespace KeepsOrder

theorem refl (rows : List Row) : KeepsOrder rows rows := rfl

theorem nil (rows : List Row) :
  KeepsOrder rows []
  := by
  rw [KeepsOrder, List.filter_nil]
  apply List.filter_eq_nil_iff.mpr
  simp

theorem of_filter (rows : List Row) (p : Row → Bool) :
  KeepsOrder rows (rows.filter p)
  := by
  rw [KeepsOrder, List.filter_filter]
  apply List.filter_congr
  intro row hrow
  rw [Bool.eq_iff_iff, Bool.and_eq_true, List.contains_iff_mem, List.contains_iff_mem,
    List.mem_filter]

theorem of_append {rows new : List Row} (hnew : ∀ row ∈ new, row ∉ rows) :
  KeepsOrder rows (rows ++ new)
  := by
  have hold : rows.filter ((rows ++ new).contains ·) = rows := by
    apply List.filter_eq_self.mpr
    intro row hrow
    rw [List.contains_iff_mem]
    apply List.mem_append_left _ hrow
  have hnone : new.filter (rows.contains ·) = [] := by
    apply List.filter_eq_nil_iff.mpr
    intro row hrow
    rw [List.contains_iff_mem]
    apply hnew row hrow
  have hsame : rows.filter (rows.contains ·) = rows := by
    apply List.filter_eq_self.mpr
    intro row hrow
    apply List.contains_iff_mem.mpr hrow
  rw [KeepsOrder, hold, List.filter_append, hsame, hnone, List.append_nil]

theorem of_prefix {rows rows' : List Row} (h : rows <+: rows') (hnodup : rows'.Nodup) :
  KeepsOrder rows rows'
  := by
  obtain ⟨new, rfl⟩ := h
  apply of_append
  intro row hrow hmem
  apply (List.nodup_append.mp hnodup).2.2 row hmem row hrow rfl

/-- A row that was not there takes the place of another. -/
theorem of_put {rows : List Row} {old new : Row} (hnew : new ∉ rows) :
  KeepsOrder rows (rows.map fun row => if row == old then new else row)
  := by
  let put := fun row => if row == old then new else row
  -- the rows in common are those other than the old one
  have hleft : rows.filter ((rows.map put).contains ·) = rows.filter (· != old) := by
    apply List.filter_congr
    intro row hrow
    rw [Bool.eq_iff_iff, List.contains_iff_mem, List.mem_map, bne_iff_ne]
    constructor
    · rintro ⟨row', hrow', hput⟩ rfl
      dsimp only [put] at hput
      split at hput
      · apply hnew
        rw [hput]
        apply hrow
      case isFalse hne =>
        apply hne
        rw [hput, beq_self_eq_true]
    · intro hne
      use row, hrow
      dsimp only [put]
      rw [beq_false_of_ne hne, if_neg Bool.false_ne_true]
  have hright : (rows.map put).filter (rows.contains ·) = (rows.filter (· != old)).map put := by
    rw [List.filter_map]
    congr 1
    apply List.filter_congr
    intro row hrow
    rw [Function.comp, Bool.eq_iff_iff, List.contains_iff_mem, bne_iff_ne]
    dsimp only [put]
    split
    case isTrue hold => simp [hnew, beq_iff_eq.mp hold]
    case isFalse hold => simpa [hrow] using hold
  have hput : (rows.filter (· != old)).map put = rows.filter (· != old) := by
    apply (List.map_congr_left _).trans (List.map_id _)
    intro row hrow
    apply if_neg
    simpa using (List.mem_filter.mp hrow).2
  rw [KeepsOrder, hleft, hright, hput]

/-- A change keeps the order of the rows that it leaves. -/
theorem of_rework {c : RowChange} {rows : List Row} (h : c.Applies rows) :
  KeepsOrder rows (c.rework rows)
  := by
  cases c with
  | add row =>
      apply of_append
      rw [List.forall_mem_singleton]
      apply h
  | addAll new => apply of_append h.2
  | update old new =>
      obtain rfl | hnew := h
      · have hsame : (RowChange.update new new).rework rows = rows := by
          apply (List.map_congr_left _).trans (List.map_id rows)
          intro row _
          rw [id]
          split
          case isTrue hrow => rw [beq_iff_eq.mp hrow]
          case isFalse => rfl
        rw [hsame]
        apply refl
      · apply of_put hnew
  | remove row => apply of_filter
  | removeAll old => apply of_filter
  | removeWhere p => apply of_filter

end KeepsOrder

namespace Model

/-! ### Definitions -/

/-- A definition that is put in is found under its kind and key, and every other definition is
found where it was. -/
theorem find?_put (m : Model) (d : Definition) (kind : SectionKind) (key : String) :
  (m.put d).find? kind key
    = if d.kind = kind ∧ d.key = key then some d else m.find? kind key
  := by
  have hnamed : ∀ d' : Definition, (d'.kind == d.kind && d'.key == d.key) = true ↔
      d'.kind = d.kind ∧ d'.key = d.key := by
    intro d'
    rw [Bool.and_eq_true, beq_iff_eq, beq_iff_eq]
  cases hfind : m.find? d.kind d.key with
  | none =>
      have happend : m.put d = ⟨m.definitions ++ [d]⟩ := by
        rw [put, has, hfind]
        rfl
      rw [happend, find?, List.find?_append]
      by_cases hsame : d.kind = kind ∧ d.key = key
      · obtain ⟨rfl, rfl⟩ := hsame
        rw [find?] at hfind
        simp [hfind]
      · simp [hsame, find?]
  | some old =>
      have hupdate : m.put d = m.update d.kind d.key fun _ => d := by
        rw [put, has, hfind]
        rfl
      rw [hupdate, update, find?_map]
      · by_cases hsame : d.kind = kind ∧ d.key = key
        · obtain ⟨rfl, rfl⟩ := hsame
          obtain ⟨-, hkind, hkey⟩ := of_find? hfind
          rw [if_pos ⟨rfl, rfl⟩, hfind, Option.map_some, if_pos ((hnamed old).mpr ⟨hkind, hkey⟩)]
        · rw [if_neg hsame]
          cases hfind' : m.find? kind key with
          | none => rfl
          | some d' =>
              obtain ⟨-, rfl, rfl⟩ := of_find? hfind'
              rw [Option.map_some, if_neg]
              rw [hnamed]
              exact fun hnames => hsame ⟨hnames.1.symm, hnames.2.symm⟩
      · intro d'
        split
        case isTrue hsame => rw [((hnamed d').mp hsame).1]
        case isFalse => rfl
      · intro d'
        split
        case isTrue hsame => rw [((hnamed d').mp hsame).2]
        case isFalse => rfl

/-- A shape of rows that is made again takes over the rows that it had. -/
theorem rows_of_inherited
    {d old : Definition} {kind : RowKind} (hkind : d.kind = kind.kind) {rows : List Row}
    (h : inherited d (some old) = .ok rows) :
  rows = old.rows
  := by
  obtain ⟨key, text, meaning, r⟩ := d
  cases kind <;> cases meaning <;> cases hkind <;>
  · rw [inherited] at h
    dsimp only at h
    split at h
    · cases h
      rfl
    · cases h

/-- Definitions are made anew without a change of rows. -/
theorem rows_defineKind
    {m : Model} {kind : SectionKind} {key text : String} {made : Model × Option Definition}
    (h : m.defineKind kind key text = .ok made) {kind' : RowKind} {key' : String} {d : Definition}
    (hd : m.find? kind'.kind key' = some d) :
  ∃ d', made.1.find? kind'.kind key' = some d' ∧ d'.rows = d.rows
  := by
  obtain ⟨u, -, h⟩ := bind_eq_ok.mp h
  split at h
  · cases h
    exact ⟨d, hd, rfl⟩
  · obtain ⟨meaning, hmeaning, h⟩ := bind_eq_ok.mp h
    obtain ⟨rows, hrows, h⟩ := bind_eq_ok.mp h
    cases h
    rw [find?_put]
    split
    case isTrue hsame =>
      obtain ⟨hkind, rfl⟩ := hsame
      obtain rfl : kind = kind'.kind := (of_meaning hmeaning).1.symm.trans hkind
      rw [hd] at hrows
      exact ⟨_, rfl, rows_of_inherited hkind hrows⟩
    case isFalse => exact ⟨d, hd, rfl⟩

/-- A step keeps the definitions with rows, and the order of the rows that it leaves. -/
theorem Step.keepsOrder
    {m m' : Model} (h : Step m m') {kind : RowKind} {key : String} {d : Definition}
    (hd : m.find? kind.kind key = some d) :
  ∃ d', m'.find? kind.kind key = some d' ∧ KeepsOrder d.rows d'.rows
  := by
  cases h with
  | stay => exact ⟨d, hd, .refl _⟩
  | define h =>
      obtain ⟨d', hd', hrows⟩ := rows_defineKind h hd
      use d', hd'
      rw [hrows]
      apply KeepsOrder.refl
  | @rework kind' key' d₀ c hd₀ happlies hadded =>
      by_cases hsame : kind.kind = kind' ∧ key = key'
      · obtain ⟨rfl, rfl⟩ := hsame
        obtain rfl := Option.some.inj (hd.symm.trans hd₀)
        rw [find?_withRows_same, hd]
        exact ⟨_, rfl, .of_rework happlies⟩
      · rw [find?_withRows_other _ _ hsame]
        exact ⟨d, hd, .refl _⟩
  | clearRows =>
      rw [find?_clearRows, hd]
      exact ⟨_, rfl, .nil d.rows⟩

/-! ### Loading -/

/-- A stored row that is loaded comes after the rows that are there. -/
theorem prefix_loadRow
    {m m' : Model} {row : StoredRow} (h : Source.loadRow m row = .ok m') {kind : RowKind}
    {key : String} {d : Definition} (hd : m.find? kind.kind key = some d) :
  ∃ d', m'.find? kind.kind key = some d' ∧ d.rows <+: d'.rows
  := by
  obtain ⟨x, kind', d₀, -, hd₀, -, rfl⟩ := of_loadRow h
  rw [Row.add?]
  split
  · exact ⟨d, hd, List.prefix_rfl⟩
  · rw [changed]
    by_cases hsame : kind.kind = kind'.kind ∧ key = x.1
    · obtain ⟨hkind, rfl⟩ := hsame
      rw [hkind] at hd ⊢
      obtain rfl := Option.some.inj (hd.symm.trans hd₀)
      rw [find?_withRows_same, hd]
      exact ⟨_, rfl, List.prefix_append _ _⟩
    · rw [find?_withRows_other _ _ hsame]
      exact ⟨d, hd, List.prefix_rfl⟩

/-- The rows that a source loads come after those that are there, also when it fails. -/
theorem prefix_load
    (files : Files) (s : Source) {m : Model} {kind : RowKind} {key : String} {d : Definition}
    (hd : m.find? kind.kind key = some d) :
  ∃ d', (s.load files m).2.1.find? kind.kind key = some d' ∧ d.rows <+: d'.rows
  := by
  apply load_invariant (I := fun m' => ∃ d', m'.find? kind.kind key = some d' ∧ d.rows <+: d'.rows)
    _ files ⟨d, hd, List.prefix_rfl⟩ s
  rintro m₁ row m₂ h ⟨d₁, hd₁, hprefix⟩
  obtain ⟨d₂, hd₂, hprefix'⟩ := prefix_loadRow h hd₁
  exact ⟨d₂, hd₂, hprefix.trans hprefix'⟩

/-! ### Calls -/

/-- A call by which a host changes a model. -/
inductive Operation where
  | define (name key text : String)
  | addRow (kind : SectionKind) (key : String) (row : List Value)
  | addRows (kind : SectionKind) (key : String) (rows : List (List Value))
  | updateRow (kind : SectionKind) (key : String) (old new : List Value)
  | removeRow (kind : SectionKind) (key : String) (row : List Value)
  | removeRows (kind : SectionKind) (key : String) (rows : List (List Value))
  | removeWhere (kind : SectionKind) (key : String) (f : RowFilter)
  | clearRows
  | sortByPriority
  | load (files : Files) (s : Source)

/-- The model that a call makes, or the one that there was if the call fails. -/
def made {α : Type} (m : Model) : Except Failure (Model × α) → Model
  | .ok result => result.1
  | .error _ => m

namespace Operation

/-- The model after a call, which may have failed. -/
def after : Operation → Model → Model
  | .define name key text, m => m.made (m.define name key text)
  | .addRow kind key row, m => m.made (m.addRow kind key row)
  | .addRows kind key rows, m => m.made (m.addRows kind key rows)
  | .updateRow kind key old new, m => m.made (m.updateRow kind key old new)
  | .removeRow kind key row, m => m.made (m.removeRow kind key row)
  | .removeRows kind key rows, m => m.made (m.removeRows kind key rows)
  | .removeWhere kind key f, m => m.made (m.removeWhere kind key f)
  | .clearRows, m => m.clearRows
  | .sortByPriority, m => m.sortByPriority.2
  | .load files s, m => (s.load files m).2.1

/-- The model after some calls, one after the other. -/
def run (calls : List Operation) (m : Model) : Model := calls.foldl (fun m x => x.after m) m

/-- A call that makes a model where it succeeds leaves one that can be built. -/
theorem built_made
    {α : Type} {m : Model} (hm : m.Built) {result : Except Failure (Model × α)}
    (h : ∀ r, result = .ok r → Becomes m r.1) :
  (m.made result).Built
  := by
  cases result with
  | error failure => apply hm
  | ok r => apply hm.tail (h r rfl)

/-- What has been built stays built, whether a call succeeds or fails. -/
theorem built_after {m : Model} (hm : m.Built) (x : Operation) :
  (x.after m).Built
  := by
  cases x with
  | define name key text =>
      apply built_made hm
      intro r h
      obtain ⟨kind, -, h⟩ := bind_eq_ok.mp h
      apply Becomes.define h
  | addRow kind key row => exact built_made hm fun _ h => .addRow h
  | addRows kind key rows => exact built_made hm fun _ h => .addRows h
  | updateRow kind key old new => exact built_made hm fun _ h => .updateRow h
  | removeRow kind key row => exact built_made hm fun _ h => .removeRow h
  | removeRows kind key rows => exact built_made hm fun _ h => .removeRows h
  | removeWhere kind key f => exact built_made hm fun _ h => .removeWhere h
  | clearRows => apply hm.tail .clearRows
  | sortByPriority => apply hm.tail .sortByPriority
  | load files s => apply hm.loadSource files s

theorem built_run {m : Model} (hm : m.Built) (calls : List Operation) :
  (run calls m).Built
  := by
  induction calls generalizing m with
  | nil => apply hm
  | cons x rest ih => apply ih (built_after hm x)

/-- A call that makes a step where it succeeds keeps order. -/
theorem keepsOrder_made
    {α : Type} {m : Model} {result : Except Failure (Model × α)}
    (h : ∀ r, result = .ok r → Step m r.1) {kind : RowKind} {key : String} {d : Definition}
    (hd : m.find? kind.kind key = some d) :
  ∃ d', (m.made result).find? kind.kind key = some d' ∧ KeepsOrder d.rows d'.rows
  := by
  cases result with
  | error failure => apply Step.stay.keepsOrder hd
  | ok r => apply (h r rfl).keepsOrder hd

/-- Every call but the one for order keeps the definitions with rows, and the order of the rows
that it leaves. -/
theorem keepsOrder_after
    {m : Model} (hm : m.Built) {x : Operation} (hx : x ≠ .sortByPriority) {kind : RowKind}
    {key : String} {d : Definition} (hd : m.find? kind.kind key = some d) :
  ∃ d', (x.after m).find? kind.kind key = some d' ∧ KeepsOrder d.rows d'.rows
  := by
  have hsound := hm.sound
  cases x with
  | define name k text =>
      apply keepsOrder_made _ hd
      intro r h
      obtain ⟨kind, -, h⟩ := bind_eq_ok.mp h
      apply Step.define h
  | addRow kind' k row => exact keepsOrder_made (fun _ h => hsound.step_addRow h) hd
  | addRows kind' k rows => exact keepsOrder_made (fun _ h => hsound.step_addRows h) hd
  | updateRow kind' k old new => exact keepsOrder_made (fun _ h => hsound.step_updateRow h) hd
  | removeRow kind' k row => exact keepsOrder_made (fun _ h => hsound.step_removeRow h) hd
  | removeRows kind' k rows => exact keepsOrder_made (fun _ h => hsound.step_removeRows h) hd
  | removeWhere kind' k f => exact keepsOrder_made (fun _ h => Sound.step_removeWhere h) hd
  | clearRows => apply Step.clearRows.keepsOrder hd
  | sortByPriority => exact absurd rfl hx
  | load files s =>
      obtain ⟨d', hd', hprefix⟩ := prefix_load files s hd
      refine ⟨d', hd', KeepsOrder.of_prefix hprefix ?_⟩
      apply ((hm.loadSource files s).sound.definitions d' (of_find? hd').1).nodup

/-- A row that is updated stands where the old one stood. -/
theorem updateRow_in_place
    {m m' : Model} {kind : SectionKind} {key : String} {oldValues newValues : List Value}
    (h : m.updateRow kind key oldValues newValues = .ok (m', true)) :
  ∃ d old new before after, oldValues = old.map .text ∧ newValues = new.map .text ∧
    m.find? kind key = some d ∧ d.rows = before ++ old :: after ∧
    m'.find? kind key = some { d with rows := before ++ new :: after }
  := by
  obtain ⟨d, hd, h⟩ := bind_eq_ok.mp h
  obtain ⟨new, hnew, h⟩ := bind_eq_ok.mp h
  cases hold : Value.allTexts? oldValues with
  | none =>
      rw [hold] at h
      cases h
  | some old =>
      rw [hold, Option.bind_some] at h
      cases hrows : Row.replace? d.rows old new with
      | none =>
          rw [hrows] at h
          cases h
      | some rows =>
          rw [hrows] at h
          cases h
          obtain ⟨before, after, hbefore, -, rfl⟩ := RowChange.replace?_eq_some hrows
          have hd' := get_eq_ok hd
          refine ⟨d, old, new, before, after, allTexts?_eq_some.mp hold, (checkRow_eq_ok.mp hnew).1,
            hd', hbefore, ?_⟩
          rw [find?_withRows_same, hd']
          rfl

/-- Whatever calls have been made from the empty model on, some of which may have failed, the
rows of every definition are different from one another and have as many texts as it has
fields; a call other than for order, whether it succeeds or fails, keeps every definition with
rows and the order of the rows that it leaves; and an update puts the new row where the old one
stood. -/
theorem run_rows (calls : List Operation) :
  let m := run calls {}
  (∀ d ∈ m.definitions, d.rows.Nodup ∧ ∀ row ∈ d.rows, row.length = d.fields.length) ∧
  (∀ (x : Operation) (kind : RowKind) (key : String) (d : Definition), x ≠ .sortByPriority →
    m.find? kind.kind key = some d →
    ∃ d', (x.after m).find? kind.kind key = some d' ∧ KeepsOrder d.rows d'.rows) ∧
  ∀ (kind : RowKind) (key : String) (oldValues newValues : List Value) (m' : Model),
    m.updateRow kind.kind key oldValues newValues = .ok (m', true) →
    ∃ d old new before after, oldValues = old.map .text ∧ newValues = new.map .text ∧
      m.find? kind.kind key = some d ∧ d.rows = before ++ old :: after ∧
      m'.find? kind.kind key = some { d with rows := before ++ new :: after }
  := by
  intro m
  have hbuilt : m.Built := built_run Relation.ReflTransGen.refl calls
  refine ⟨?_, ?_, ?_⟩
  · intro d hd
    have hsound := hbuilt.sound.definitions d hd
    exact ⟨hsound.nodup, hsound.fit⟩
  · intro x kind key d hx hd
    apply keepsOrder_after hbuilt hx hd
  · intro kind key oldValues newValues m' h
    apply updateRow_in_place h

/-- One of three rows is removed, or is updated in its place, after a row that did not fit. -/
theorem run_rows_updated :
  let row := fun s => [.text s, .text "data"]
  let calls := [.define "p" "p" "sub, obj",
    .addRows .policy "p" [row "alice", row "bob", row "carol"], .addRow .policy "p" [.text "dave"]]
  let m := run calls {}
  ∃ d, m.find? .policy "p" = some d ∧
    d.rows = [["alice", "data"], ["bob", "data"], ["carol", "data"]] ∧
    (∃ d', ((removeRow .policy "p" (row "alice")).after m).find? .policy "p" = some d' ∧
      KeepsOrder d.rows d'.rows) ∧
    ∃ m' before after, m.updateRow .policy "p" (row "bob") (row "dave") = .ok (m', true) ∧
      d.rows = before ++ ["bob", "data"] :: after ∧
      m'.find? .policy "p" = some { d with rows := before ++ ["dave", "data"] :: after }
  := by
  intro row calls m
  obtain ⟨-, horder, hplace⟩ := run_rows calls
  have hrows : (m.find? .policy "p").map (·.rows)
      = some [["alice", "data"], ["bob", "data"], ["carol", "data"]] := by decide +kernel
  obtain ⟨d, hd, hdrows⟩ := Option.map_eq_some_iff.mp hrows
  have hupdated : (m.updateRow .policy "p" (row "bob") (row "dave")).toOption.map Prod.snd
      = some true := by decide +kernel
  obtain ⟨⟨m', changed⟩, hupdate, rfl⟩ := Option.map_eq_some_iff.mp hupdated
  have hok := ok_of_toOption hupdate
  obtain ⟨d₀, old, new, before, after, hold, hnew, hd₀, hbefore, hd'⟩ := hplace .policy "p" _ _ m' hok
  obtain rfl := Option.some.inj (hd.symm.trans hd₀)
  obtain rfl : ["bob", "data"] = old := KeptRow.map_text_injective hold
  obtain rfl : ["dave", "data"] = new := KeptRow.map_text_injective hnew
  exact ⟨d, hd, hdrows, horder (.removeRow .policy "p" (row "alice")) .policy "p" d nofun hd,
    m', before, after, hok, hbefore, hd'⟩

end Operation

end Model

end AccessControl
