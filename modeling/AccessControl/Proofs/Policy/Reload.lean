import AccessControl.Proofs.Files.Writing
import AccessControl.Proofs.Model.Built
import AccessControl.Proofs.Policy.Rows

/-!
# Saving and loading again

What is saved of a model is loaded again, `Source.load_saved`: a source that has taken over the
rows of a model gives back the model when it is loaded into the definitions alone.
-/

namespace AccessControl

namespace Model

/-! ### Saved rows -/

/-- The rows of definitions with their keys. -/
def keptOf (ds : List Definition) : List KeptRow :=
  ds.flatMap fun d => d.rows.map fun row => (d.key, row)

theorem mem_keptOf {ds : List Definition} {x : KeptRow} :
  x ∈ keptOf ds ↔ ∃ d ∈ ds, d.key = x.1 ∧ x.2 ∈ d.rows
  := by
  rw [keptOf, List.mem_flatMap]
  apply exists_congr
  intro d
  apply and_congr_right
  intro _
  rw [List.mem_map]
  constructor
  · rintro ⟨row, hrow, rfl⟩
    use rfl
  · rintro ⟨hkey, hrow⟩
    use x.2, hrow
    rw [hkey]

theorem not_mem_keptOf {ds : List Definition} {key : String} (h : key ∉ ds.map (·.key))
    (row : Row) :
  (key, row) ∉ keptOf ds
  := by
  intro hx
  obtain ⟨d, hd, hkey, -⟩ := mem_keptOf.mp hx
  apply h
  rw [List.mem_map]
  use d, hd, hkey

/-- Under the key of a definition its rows are kept. -/
theorem under_keptOf {ds : List Definition} (hkeys : (ds.map (·.key)).Nodup) {d : Definition}
    (hd : d ∈ ds) :
  KeptRow.under d.key (keptOf ds) = d.rows
  := by
  induction ds with
  | nil => cases hd
  | cons d' rest ih =>
      obtain ⟨hnew, hrest⟩ := List.nodup_cons.mp hkeys
      rw [keptOf, List.flatMap_cons, ← keptOf, KeptRow.under_append]
      obtain rfl | hd := List.mem_cons.mp hd
      · have hnone : KeptRow.under d.key (keptOf rest) = [] := by
          rw [List.eq_nil_iff_forall_not_mem]
          intro row hrow
          apply not_mem_keptOf hnew row (KeptRow.mem_under.mp hrow)
        rw [KeptRow.under_pairs_same, hnone, List.append_nil]
      · have hother : d.key ≠ d'.key := by
          intro hsame
          apply hnew
          rw [List.mem_map]
          use d, hd, hsame
        rw [KeptRow.under_pairs_other hother, List.nil_append, ih hrest hd]

theorem nodup_keptOf {ds : List Definition} (hkeys : (ds.map (·.key)).Nodup)
    (hrows : ∀ d ∈ ds, d.rows.Nodup) :
  (keptOf ds).Nodup
  := by
  induction ds with
  | nil => apply List.nodup_nil
  | cons d rest ih =>
      obtain ⟨hnew, hrest⟩ := List.nodup_cons.mp hkeys
      obtain ⟨hd, hrows⟩ := List.forall_mem_cons.mp hrows
      rw [keptOf, List.flatMap_cons, ← keptOf, List.nodup_append]
      use hd.map fun _ _ hrow => (Prod.mk.inj hrow).2, ih hrest hrows
      rintro x hx y hy rfl
      obtain ⟨row, -, rfl⟩ := List.mem_map.mp hx
      apply not_mem_keptOf hnew row hy

/-- The definitions of a model that hold rows, in the order in which they are saved. -/
def shapes (m : Model) : List Definition := m.ofKind .policy ++ m.ofKind .role

theorem mem_shapes {m : Model} {d : Definition} :
  d ∈ m.shapes ↔ d ∈ m.definitions ∧ ∃ kind : RowKind, d.kind = kind.kind
  := by
  rw [shapes, List.mem_append, ofKind, ofKind, List.mem_filter, List.mem_filter, beq_iff_eq,
    beq_iff_eq, ← and_or_left]
  apply and_congr_right
  intro _
  constructor
  · rintro (hkind | hkind)
    · exact ⟨.policy, hkind⟩
    · exact ⟨.role, hkind⟩
  · rintro ⟨kind, hkind⟩
    cases kind
    · left
      apply hkind
    · right
      apply hkind

/-- No two definitions with rows have the same key, as the key tells the kind. -/
theorem Sound.nodup_keys {m : Model} (hm : m.Sound) :
  (m.shapes.map (·.key)).Nodup
  := by
  have hdistinct : m.definitions.Nodup := hm.distinct.of_map
  have hshapes : m.shapes.Nodup := by
    rw [shapes, List.nodup_append]
    use hdistinct.filter _, hdistinct.filter _
    rintro d hd d' hd' rfl
    have hpolicy := (List.mem_filter.mp hd).2
    have hrole := (List.mem_filter.mp hd').2
    rw [beq_iff_eq] at hpolicy hrole
    rw [hpolicy] at hrole
    cases hrole
  apply hshapes.map_on
  intro d hd d' hd' hkey
  obtain ⟨hd, kind, hkind⟩ := mem_shapes.mp hd
  obtain ⟨hd', kind', hkind'⟩ := mem_shapes.mp hd'
  have hfind := hm.find?_eq_some hd
  have hfind' := hm.find?_eq_some hd'
  rw [hkind, hkey] at hfind
  rw [hkind'] at hfind'
  apply (hm.wellFormed.kind_unique hfind hfind').2

/-- A model with the definitions of another and the rows that are found in it is the other. -/
theorem SameShape.eq_of_find?
    {m m' : Model} (h : SameShape m' m) (hm : m.Sound) (hm' : m'.Sound)
    (hfind : ∀ (kind : RowKind) (key : String) (d : Definition),
      m.find? kind.kind key = some d → m'.find? kind.kind key = some d) :
  m' = m
  := by
  obtain ⟨ds⟩ := m
  obtain ⟨ds'⟩ := m'
  rw [SameShape, Model.clearRows, Model.clearRows, Model.mk.injEq] at h
  rw [Model.mk.injEq]
  have hlength := congrArg List.length h
  rw [List.length_map, List.length_map] at hlength
  apply List.ext_getElem hlength
  intro i hi' hi
  have hclear := congrArg (·[i]?) h
  dsimp only at hclear
  rw [List.getElem?_map, List.getElem?_map, List.getElem?_eq_getElem hi',
    List.getElem?_eq_getElem hi, Option.map_some, Option.map_some, Option.some.injEq] at hclear
  have hd := hm.find?_eq_some (List.getElem_mem hi)
  have hd' := hm'.find?_eq_some (List.getElem_mem hi')
  generalize ds[i] = d at hclear hd
  generalize ds'[i] = d' at hclear hd'
  have hkind : d'.kind = d.kind := by
    have hkinds := congrArg Definition.kind hclear
    split at hkinds <;> split at hkinds <;> exact hkinds
  have hkey : d'.key = d.key := by
    have hkeys := congrArg Definition.key hclear
    split at hkeys <;> split at hkeys <;> exact hkeys
  rw [hkind] at hclear
  split at hclear
  case isTrue hshape =>
    obtain ⟨kind, hrows⟩ : ∃ kind : RowKind, d.kind = kind.kind := by
      rw [Bool.or_eq_true, beq_iff_eq, beq_iff_eq] at hshape
      obtain hshape | hshape := hshape
      · exact ⟨.policy, hshape⟩
      · exact ⟨.role, hshape⟩
    rw [hrows] at hd
    rw [hkind, hrows, hkey, hfind kind d.key d hd, Option.some.injEq] at hd'
    apply hd'.symm
  case isFalse => apply hclear

/-- The rows of a model can be carried by policy lines, and so can their keys. -/
def Portable (m : Model) : Prop :=
  ∀ d ∈ m.shapes, ∀ row ∈ d.rows,
    d.key.length ≤ PolicyLine.maxLength ∧ ∀ value ∈ row, PolicyLine.Carried value

instance (m : Model) : Decidable m.Portable :=
  inferInstanceAs (Decidable (∀ d ∈ m.shapes, ∀ row ∈ d.rows,
    d.key.length ≤ PolicyLine.maxLength ∧ ∀ value ∈ row, PolicyLine.Carried value))

end Model

namespace Source

open Model

theorem policyLines_eq (m : Model) :
  policyLines m = (keptOf m.shapes).map fun x => PolicyLine.format x.1 x.2
  := by
  rw [policyLines, snapshot, snapshot, ← List.map_append, ← shapes, keptOf, List.flatMap_map,
    List.map_flatMap]
  congr 1
  funext d
  rw [List.map_map]
  rfl

/-- Every saved row is read from its line. -/
theorem parse_kept {m : Model} (hm : m.Sound) (hportable : m.Portable) {x : KeptRow}
    (hx : x ∈ keptOf m.shapes) :
  PolicyLine.parse (PolicyLine.format x.1 x.2) = .ok (some (x.1 :: x.2))
  := by
  obtain ⟨d, hd, hkey, hrow⟩ := mem_keptOf.mp hx
  obtain ⟨hshort, hvalues⟩ := hportable d hd x.2 hrow
  obtain ⟨hmem, kind, hkind⟩ := mem_shapes.mp hd
  have hsound := hm.definitions d hmem
  have hisKey := hsound.key
  rw [hkind] at hisKey
  rw [← hkey]
  apply PolicyLine.parse_format (starts_of_isKeyOf hisKey) (carried_of_isKeyOf hisKey hshort) _
    hvalues
  rw [← List.length_pos_iff, hsound.fit x.2 hrow]
  apply hsound.arity_pos kind hkind

/-- The saved lines are read as the saved rows. -/
theorem readLines_policyLines {m : Model} (hm : m.Sound) (hportable : m.Portable) :
  readLines (policyLines m) = .ok ((keptOf m.shapes).map KeptRow.stored)
  := by
  have hparse : (policyLines m).mapM PolicyLine.parse
      = .ok ((keptOf m.shapes).map fun x => some (x.1 :: x.2)) := by
    rw [mapM_eq_ok, policyLines_eq, List.forall₂_map_left_iff, List.forall₂_map_right_iff,
      List.forall₂_same]
    intro x hx
    apply parse_kept hm hportable hx
  rw [readLines, hparse]
  change Except.ok _ = _
  rw [List.filterMap_map]
  congr 1
  have hrows : (keptOf m.shapes).filterMap (id ∘ fun x => some (x.1 :: x.2))
      = (keptOf m.shapes).map fun x => x.1 :: x.2 := by
    rw [← List.filterMap_eq_map']
    rfl
  rw [hrows, List.map_map]
  rfl

/-- No saved line is broken by a line break. -/
theorem unbroken_policyLines {m : Model} (hm : m.Sound) (hportable : m.Portable) :
  ∀ line ∈ policyLines m, ∀ c ∈ line.toList, isLineBreak c = false
  := by
  rw [policyLines_eq, List.forall_mem_map]
  intro x hx
  obtain ⟨d, hd, hkey, hrow⟩ := mem_keptOf.mp hx
  obtain ⟨hmem, kind, hkind⟩ := mem_shapes.mp hd
  have hisKey := (hm.definitions d hmem).key
  rw [hkind] at hisKey
  rw [PolicyLine.toList_format_eq, ← hkey]
  apply PolicyLine.unbroken_listed
  rw [List.forall_mem_cons]
  constructor
  · intro c hc
    apply isLineBreak_eq_false (plain_of_isKeyOf hisKey c hc).1
  · intro value hvalue
    apply ((hportable d hd x.2 hrow).2 value hvalue).unbroken

theorem lines_fileText {m : Model} (hm : m.Sound) (hportable : m.Portable) :
  lines (fileText (policyLines m)).toList = (policyLines m).map String.toList
  := by
  have htext : (fileText (policyLines m)).toList
      = ((policyLines m).map String.toList).flatMap fun line => line ++ ['\n'] := by
    rw [fileText, String.toList_join, List.flatMap_map, List.flatMap_map]
    congr 1
    funext line
    rw [String.toList_append]
    rfl
  rw [htext, lines_flatMap]
  rw [List.forall_mem_map]
  apply unbroken_policyLines hm hportable

/-- Loading the saved lines is loading the saved rows. -/
theorem loadLine_policyLines {m : Model} (hm : m.Sound) (hportable : m.Portable) (m' : Model) :
  runSteps loadLine m' (lines (fileText (policyLines m)).toList)
    = runSteps loadRow m' ((keptOf m.shapes).map KeptRow.stored)
  := by
  rw [lines_fileText hm hportable, policyLines_eq, List.map_map]
  apply runSteps_map_congr
  intro x hx m''
  rw [Function.comp, loadLine, String.ofList_toList, parse_kept hm hportable hx]
  rfl

/-- The saved rows, loaded into the definitions of the model, give back the model. -/
theorem load_kept {m : Model} (hm : m.Built) :
  runSteps loadRow m.clearRows ((keptOf m.shapes).map KeptRow.stored) = (.ok (), m)
  := by
  have hsound := hm.sound
  have hclear := hsound.clearRows
  have hnodup : (keptOf m.shapes).Nodup := by
    apply nodup_keptOf hsound.nodup_keys
    intro d hd
    apply (hsound.definitions d (mem_shapes.mp hd).1).nodup
  have hfits : ∀ x ∈ keptOf m.shapes, m.clearRows.Fits x := by
    intro x hx
    obtain ⟨d, hd, hkey, hrow⟩ := mem_keptOf.mp hx
    obtain ⟨hmem, kind, hkind⟩ := mem_shapes.mp hd
    have hfind := hsound.find?_eq_some hmem
    rw [hkind, hkey] at hfind
    use kind, { d with rows := [] }
    constructor
    · rw [find?_clearRows, hfind]
      rfl
    · apply (hsound.definitions d hmem).fit x.2 hrow
  obtain ⟨m', hload, hshape, -⟩ := load_fits hclear.wellFormed hclear.rowsFit hfits
  have hbuilt : m'.Built := by
    have hkeeps := Built.loadSource (hm.tail Becomes.clearRows) {}
      (.memory ((keptOf m.shapes).map KeptRow.stored))
    rw [load, hload] at hkeeps
    exact hkeeps
  rw [hload, hshape.trans (SameShape.clearRows m) |>.eq_of_find? hsound hbuilt.sound]
  intro kind key d hd
  obtain ⟨hmem, hkind, hkey⟩ := of_find? hd
  have hcleared : m.clearRows.find? kind.kind key = some { d with rows := [] } := by
    rw [find?_clearRows, hd]
    rfl
  have hfresh : ∀ (kind : RowKind) (key : String) (d : Definition),
      m.clearRows.find? kind.kind key = some d → ∀ row ∈ d.rows, (key, row) ∉ keptOf m.shapes := by
    intro kind key d hd row hrow
    rw [find?_clearRows, Option.map_eq_some_iff] at hd
    obtain ⟨d, -, rfl⟩ := hd
    cases hrow
  rw [load_rows hclear.wellFormed hnodup hload hfresh hcleared, ← hkey,
    under_keptOf hsound.nodup_keys (mem_shapes.mpr ⟨hmem, kind, hkind⟩)]
  rfl

/-- A source that can take over the rows of a model: one in memory, or a file that can be
written. -/
def Accepts (files : Files) : Source → Prop
  | .memory _ => True
  | .file path => files.Writable path
  | .bare | .foreign _ => False

namespace Quoted

/-- A model with a policy definition and a role definition. -/
def model (policyRows roleRows : List Row) : Model :=
  ⟨[⟨"p", "sub, obj", .policy ["sub", "obj"], policyRows⟩,
    ⟨"g", "_, _", .role ["_", "_"], roleRows⟩]⟩

/-- Rows with values that are written between quotes, that look like a comment or that are
empty. -/
def rows : Model := model [["# 1, \"one\"", ""]] [["alice", "two words"]]

/-- The model is built from its definitions and its rows. -/
theorem built_rows :
  rows.Built
  := by
  have hpolicy : Model.defineKind {} .policy "p" "sub, obj"
      = .ok (⟨(model [] []).definitions.take 1⟩, (model [] []).definitions[0]?) := rfl
  have hrole : Model.defineKind ⟨(model [] []).definitions.take 1⟩ .role "g" "_, _"
      = .ok (model [] [], (model [] []).definitions[1]?) := rfl
  have hfirst : (model [] []).addRow .policy "p" [.text "# 1, \"one\"", .text ""]
      = .ok (model [["# 1, \"one\"", ""]] [], true) := rfl
  have hsecond : (model [["# 1, \"one\"", ""]] []).addRow .role "g"
      [.text "alice", .text "two words"] = .ok (rows, true) := rfl
  have hstart : Built {} := Relation.ReflTransGen.refl
  have hdefined := (hstart.tail (Becomes.define hpolicy)).tail (Becomes.define hrole)
  apply (hdefined.tail (Becomes.addRow hfirst)).tail (Becomes.addRow hsecond)

/-- A file in the topmost folder. -/
def path : Location := ⟨false, ["rows.csv"]⟩

theorem writable_path :
  Files.Writable {} path
  := by
  constructor
  · decide
  · decide
  · decide
  · decide
  · exact ⟨[], rfl, by decide⟩

end Quoted

/-! ### A model with a key that no line can carry -/

namespace Endless

/-- A key of a policy definition with some digits. -/
def key (digits : Nat) : String := String.ofList ('p' :: List.replicate digits '1')

theorem isKeyOf_key (digits : Nat) :
  isKeyOf .policy (key digits) = true
  := by
  have hletter : (String.singleton 'p' == SectionKind.policy.letter) = true := by decide
  have hdigits : (List.replicate digits '1').all isDigit = true := by
    rw [List.all_eq_true]
    intro c hc
    rw [List.eq_of_mem_replicate hc]
    decide
  rw [isKeyOf, key, String.toList_ofList]
  dsimp only
  rw [hletter, hdigits]
  rfl

/-- A model with a policy definition of a key with some digits. -/
def model (digits : Nat) (rows : List Row) : Model :=
  ⟨[⟨key digits, "sub", .policy ["sub"], rows⟩]⟩

theorem built_model (digits : Nat) :
  (model digits [["alice"]]).Built
  := by
  have hdefine : Model.defineKind {} .policy (key digits) "sub"
      = .ok (model digits [], (model digits []).definitions[0]?) := by
    have hnames : Meaning.readNames (key digits) "sub" = .ok ["sub"] := rfl
    have hmeaning : Meaning.ofText .policy (key digits) "sub" = .ok (.policy ["sub"]) := by
      rw [Meaning.ofText, hnames]
      rfl
    rw [defineKind, checkKeyOf, isKeyOf_key, hmeaning]
    rfl
  have hadd : (model digits []).addRow .policy (key digits) [.text "alice"]
      = .ok (model digits [["alice"]], true) := by
    have hfind : (model digits []).find? .policy (key digits)
        = some ⟨key digits, "sub", .policy ["sub"], []⟩ := by
      simp [find?, model, Definition.kind, Meaning.kind]
    have hrows : (model digits []).withRows .policy (key digits) [["alice"]]
        = model digits [["alice"]] := by
      simp [withRows, update, model, Definition.kind, Meaning.kind]
    rw [Model.addRow, get_eq hfind]
    change Except.ok ((model digits []).withRows .policy (key digits) [["alice"]], true) = _
    rw [hrows]
  have hstart : Built {} := Relation.ReflTransGen.refl
  apply (hstart.tail (Becomes.define hdefine)).tail (Becomes.addRow hadd)

/-- The values of the row are carried by policy lines. -/
theorem carried_values (digits : Nat) :
  ∀ d ∈ (model digits [["alice"]]).shapes, ∀ row ∈ d.rows, ∀ value ∈ row,
    PolicyLine.Carried value
  := by
  have hshapes : (model digits [["alice"]]).shapes = (model digits [["alice"]]).definitions := rfl
  rw [hshapes, model]
  simp only [List.forall_mem_singleton]
  decide +kernel

/-- A row under a key that is longer than a value may be is not saved. -/
theorem save_model {digits : Nat} (h : PolicyLine.maxLength ≤ digits) (files : Files)
    (rows : List StoredRow) :
  (Source.memory rows).save files (model digits [["alice"]]) = .error
    (.source (.malformedLine (strip (PolicyLine.format (key digits) ["alice"]))
      ⟨.delimited, PolicyLine.Fault.tooLong.message⟩))
  := by
  have hkey : isKeyOf RowKind.policy.kind (key digits) = true := isKeyOf_key digits
  have hlong : PolicyLine.maxLength < (key digits).length := by
    rw [key, String.length_ofList, List.length_cons, List.length_replicate]
    omega
  have hparse := PolicyLine.parse_format_tooLong (starts_of_isKeyOf hkey)
    (plain_of_isKeyOf hkey) hlong (List.cons_ne_nil "alice" [])
  have hlines : policyLines (model digits [["alice"]])
      = [PolicyLine.format (key digits) ["alice"]] := rfl
  rw [save, hlines, readLines, List.mapM_cons, hparse]
  rfl

end Endless

end Source

end AccessControl
