import AccessControl.Proofs.Policy.Faults
import AccessControl.Proofs.Policy.Line
import AccessControl.Proofs.Policy.Stored
import AccessControl.Proofs.Text.Utf8

/-!
# Texts in memory and in files

A source in memory reads a text as a whole and keeps every row once; a file is read line by line,
and the model passes over the rows that it has.  Both load the same, `Source.load_text_eq`: a row
that has been loaded stays, and loading it again changes nothing.
-/

namespace AccessControl

namespace Source

open Model

variable {m m' : Model} {x : KeptRow}

/-! ### Rows that have been loaded -/

/-- A row of texts is loaded if it stands under the key of a definition and has its length; it is
added there unless it is present. -/
theorem loadRow_eq_ok :
  loadRow m x.stored = .ok m' ↔
    x.2 ≠ [] ∧ ∃ kind d, kindOfKey x.1 = .ok kind ∧ m.find? kind x.1 = some d ∧
      x.2.length = d.arity ∧ m' = (m.changed kind x.1 (Row.add? d.rows x.2)).1
  := by
  obtain ⟨key, row⟩ := x
  rcases row with _ | ⟨value, rest⟩
  · constructor
    · nofun
    · exact fun h => absurd rfl h.1
  · have hunfold : loadRow m (KeptRow.stored (key, value :: rest)) = (do
        let kind ← kindOfKey key
        if !m.has kind key then
          .error (.source (.noSection key (KeptRow.stored (key, value :: rest))))
        else
          let made ← m.addRow kind key ((value :: rest).map .text)
          return made.1) := rfl
    rw [hunfold, bind_eq_ok]
    constructor
    · rintro ⟨kind, hkind, h⟩
      use List.cons_ne_nil _ _, kind
      split at h
      · cases h
      · obtain ⟨made, hadd, h⟩ := bind_eq_ok.mp h
        obtain ⟨d, hd, hadd⟩ := bind_eq_ok.mp hadd
        obtain ⟨row, hrow, hadd⟩ := bind_eq_ok.mp hadd
        obtain ⟨hvalues, hlength⟩ := checkRow_eq_ok.mp hrow
        obtain rfl := KeptRow.map_text_injective hvalues
        cases hadd
        cases h
        exact ⟨d, hkind, get_eq_ok hd, hlength, rfl⟩
    · rintro ⟨-, kind, d, hkind, hd, hlength, rfl⟩
      use kind, hkind
      have hcheck : d.checkRow ((value :: rest).map .text) = .ok (value :: rest) :=
        checkRow_eq_ok.mpr ⟨rfl, hlength⟩
      rw [if_neg (by simp [has, hd]), bind_eq_ok]
      use m.changed kind key (Row.add? d.rows (value :: rest))
      constructor
      · exact bind_eq_ok.mpr ⟨d, get_eq hd, bind_eq_ok.mpr ⟨_, hcheck, rfl⟩⟩
      · rfl

/-- A model has a row where loading puts it: under its key, in a definition of its length. -/
inductive Holds (m : Model) (x : KeptRow) : Prop
  | intro {kind : SectionKind} {d : Definition} (hne : x.2 ≠ []) (hkind : kindOfKey x.1 = .ok kind)
      (hd : m.find? kind x.1 = some d) (hlength : x.2.length = d.arity) (hrow : x.2 ∈ d.rows)

/-- Loading a row that is there changes nothing. -/
theorem Holds.loadRow_eq (h : Holds m x) :
  loadRow m x.stored = .ok m
  := by
  obtain ⟨hne, hkind, hd, hlength, hrow⟩ := h
  rw [loadRow_eq_ok]
  refine ⟨hne, _, _, hkind, hd, hlength, ?_⟩
  rw [Row.add?, if_pos (by simpa using hrow)]
  rfl

/-- A row that is loaded is there, and so are the rows that were there before. -/
theorem holds_of_loadRow (h : loadRow m x.stored = .ok m') :
  Holds m' x ∧ ∀ y, Holds m y → Holds m' y
  := by
  obtain ⟨hne, kind, d, hkind, hd, hlength, rfl⟩ := loadRow_eq_ok.mp h
  rw [Row.add?]
  split
  case isTrue hrow => exact ⟨⟨hne, hkind, hd, hlength, by simpa using hrow⟩, fun y hy => hy⟩
  case isFalse =>
    have hfound : (m.changed kind x.1 (some (d.rows ++ [x.2]))).1.find? kind x.1
        = some { d with rows := d.rows ++ [x.2] } := by
      rw [changed, find?_withRows_same, hd]
      rfl
    constructor
    · exact ⟨hne, hkind, hfound, hlength, List.mem_append_right _ (List.mem_singleton_self _)⟩
    · rintro y ⟨hne', hkind', hd', hlength', hrow'⟩
      rename_i kind' d'
      by_cases hsame : kind' = kind ∧ y.1 = x.1
      · obtain ⟨rfl, hkey⟩ := hsame
        rw [hkey, hd, Option.some.injEq] at hd'
        subst hd'
        exact ⟨hne', hkind', (congrArg _ hkey).trans hfound, hlength',
          List.mem_append_left _ hrow'⟩
      · exact ⟨hne', hkind', (find?_withRows_other m _ hsame).trans hd', hlength', hrow'⟩

/-! ### Rows that are loaded again -/

theorem isPrefix_foldl_add (kept rows : List KeptRow) :
  kept <+: rows.foldl KeptRow.add kept
  := by
  induction rows generalizing kept with
  | nil => apply List.prefix_refl
  | cons x rest ih =>
      rw [List.foldl_cons]
      apply List.IsPrefix.trans _ (ih (KeptRow.add kept x))
      rw [KeptRow.add]
      split
      · apply List.prefix_refl
      · apply List.prefix_append

/-- Where the rows kept so far have led to a model that has all of them, more rows may be kept
first, each once, or loaded as they come. -/
theorem runSteps_foldl_add
    {kept : List KeptRow} {m₀ : Model}
    (hkept : runSteps loadRow m₀ (kept.map KeptRow.stored) = (.ok (), m))
    (hheld : ∀ x ∈ kept, Holds m x) (rows : List KeptRow) :
  runSteps loadRow m₀ ((rows.foldl KeptRow.add kept).map KeptRow.stored)
    = runSteps loadRow m (rows.map KeptRow.stored)
  := by
  induction rows generalizing kept m with
  | nil => apply hkept
  | cons x rest ih =>
      rw [List.foldl_cons, List.map_cons, runSteps, KeptRow.add]
      split
      case isTrue hx =>
        rw [(hheld x (by simpa using hx)).loadRow_eq]
        apply ih hkept hheld
      case isFalse =>
        have hconcat := runSteps_append_of_ok hkept [x.stored]
        rw [runSteps] at hconcat
        cases hload : loadRow m x.stored with
        | ok m' =>
            rw [hload] at hconcat
            obtain ⟨hx, hothers⟩ := holds_of_loadRow hload
            apply ih
            · rw [List.map_append]
              apply hconcat
            · intro y hy
              obtain hy | hy := List.mem_append.mp hy
              · apply hothers y (hheld y hy)
              · rw [List.mem_singleton.mp hy]
                apply hx
        | error failure =>
            -- the row is kept before those of the rest, so that nothing behind it is loaded
            rw [hload] at hconcat
            obtain ⟨more, hmore⟩ := isPrefix_foldl_add (kept ++ [x]) rest
            rw [← hmore, List.map_append, List.map_append]
            apply runSteps_append_of_error hconcat

theorem foldl_append_stored (kept rows : List KeptRow) :
  (rows.map KeptRow.stored).foldl append (kept.map KeptRow.stored)
    = (rows.foldl KeptRow.add kept).map KeptRow.stored
  := by
  induction rows generalizing kept with
  | nil => rfl
  | cons x rest ih =>
      rw [List.map_cons, List.foldl_cons, List.foldl_cons, ← ih]
      congr 1
      apply appended_stored kept x

/-! ### Lines -/

/-- The lines of a text that can be read hold rows, in memory as in a file. -/
theorem rows_of_lines
    {ls : List (List Char)}
    (h : ∀ line ∈ ls, ∃ row, PolicyLine.parse (String.ofList line) = .ok row) :
  ∃ rows : List KeptRow, readLines (ls.map String.ofList) = .ok (rows.map KeptRow.stored) ∧
    ∀ m, runSteps loadLine m ls = runSteps loadRow m (rows.map KeptRow.stored)
  := by
  induction ls with
  | nil => exact ⟨[], rfl, fun m => rfl⟩
  | cons line rest ih =>
      obtain ⟨⟨row, hrow⟩, hrest⟩ := List.forall_mem_cons.mp h
      obtain ⟨rows, hread, hload⟩ := ih hrest
      obtain ⟨parsed, hparsed, hrows⟩ := bind_eq_ok.mp hread
      have hmap : ((line :: rest).map String.ofList).mapM PolicyLine.parse = .ok (row :: parsed) :=
        mapM_eq_ok.mpr (.cons hrow (mapM_eq_ok.mp hparsed))
      cases row with
      | none =>
          use rows
          constructor
          · exact bind_eq_ok.mpr ⟨_, hmap, hrows⟩
          · intro m
            rw [runSteps, loadLine, hrow]
            apply hload
      | some row =>
          obtain ⟨key, values, rfl⟩ := List.exists_cons_of_ne_nil (PolicyLine.parse_ne_nil hrow)
          use (key, values) :: rows
          constructor
          · refine bind_eq_ok.mpr ⟨_, hmap, ?_⟩
            rw [List.map_cons, ← Except.ok.inj hrows]
            rfl
          · intro m
            have hline : loadLine m line = loadRow m (KeptRow.stored (key, values)) := by
              rw [loadLine, hrow]
              rfl
            rw [runSteps, List.map_cons, runSteps, hline]
            cases loadRow m (KeptRow.stored (key, values)) with
            | ok m' => apply hload
            | error failure => rfl

/-- **One text, two sources.**  A text each line of which can be read makes a source in memory.
That source and a file with the text load the same into any model: both return or both end with
the same error, which is one of the library, and the rows that they leave behind are the same. -/
theorem load_text_eq
    {files : Files} {path : Location} {text : String}
    (hfile : files.bytesAt path = .ok (Utf8.encode text))
    (hlines : ∀ line ∈ lines text.toList,
      ∃ row, PolicyLine.parse (String.ofList line) = .ok row) :
  ∃ s, ofText text = .ok s ∧ ∀ m,
    (load files m s).1 = (load files m (.file path)).1 ∧
      (load files m s).2.1 = (load files m (.file path)).2.1 ∧
      FailsOnly Failure.IsOwn (load files m s).1
  := by
  obtain ⟨rows, hread, hload⟩ := rows_of_lines hlines
  have htext : readFile files path = .ok text := by
    rw [readFile, Files.textAt, hfile]
    dsimp only [bind, Except.bind]
    rw [Utf8.decode_encode]
    rfl
  use .memory ((rows.foldl KeptRow.add []).map KeptRow.stored)
  constructor
  · rw [ofText, hread, ← foldl_append_stored]
    rfl
  · intro m
    have hsame := @runSteps_foldl_add m [] m rfl (by simp) rows
    have hfails : FailsOnly Failure.IsOwn (runSteps loadRow m (rows.map KeptRow.stored)).1 := by
      apply runSteps_failsOnly
      intro row hrow m
      obtain ⟨x, -, rfl⟩ := List.mem_map.mp hrow
      apply loadRow_failsOnly m (x.1 :: x.2)
    rw [load, load, htext]
    dsimp only
    rw [hsame, hload m]
    generalize runSteps loadRow m (rows.map KeptRow.stored) = result at hfails
    obtain ⟨failure | u, m'⟩ := result
    · exact ⟨rfl, rfl, hfails⟩
    · exact ⟨rfl, rfl, hfails⟩

/-! ### A text with a row that is given twice and a row that is too short -/

namespace Twice

def text : String := "p, alice, data\n# again\n\np,alice , \"data\"\np, bob\ng, bob, alice\n"

/-- A file with the text in the topmost folder. -/
def files : Files := { entries := [(["rows.csv"], .file (Utf8.encode text))] }

def path : Location := ⟨false, ["rows.csv"]⟩

/-- A model with a policy definition without rows. -/
def model : Model := ⟨[⟨"p", "sub, obj", .policy ["sub", "obj"], []⟩]⟩

/-- Both sources leave the first row, once, and fail at the short one. -/
theorem load_text_eq_twice :
  files.bytesAt path = .ok (Utf8.encode text) ∧
    (∀ line ∈ lines text.toList, ∃ row, PolicyLine.parse (String.ofList line) = .ok row) ∧
    (load files model (.file path)).1.toOption = none ∧
    (load files model (.file path)).2.1.snapshot .policy = [("p", [["alice", "data"]])] ∧
    ∃ s, ofText text = .ok s ∧
      (load files model s).1 = (load files model (.file path)).1 ∧
      (load files model s).2.1 = (load files model (.file path)).2.1
  := by
  have hfile : files.bytesAt path = .ok (Utf8.encode text) := rfl
  have hlines : ∀ line ∈ lines text.toList,
      ∃ row, PolicyLine.parse (String.ofList line) = .ok row := by
    have hread : ∀ line ∈ lines text.toList,
        (PolicyLine.parse (String.ofList line)).toOption.isSome = true := by
      rw [text, String.toList_ofList]
      decide +kernel
    intro line hline
    obtain ⟨row, hrow⟩ := Option.isSome_iff_exists.mp (hread line hline)
    exact ⟨row, ok_of_toOption hrow⟩
  have hfails : (load files model (.file path)).1.toOption = none
      ∧ (load files model (.file path)).2.1.snapshot .policy = [("p", [["alice", "data"]])] := by
    decide +kernel
  obtain ⟨s, hs, hload⟩ := load_text_eq hfile hlines
  obtain ⟨hresult, hrows, -⟩ := hload model
  exact ⟨hfile, hlines, hfails.1, hfails.2, s, hs, hresult, hrows⟩

end Twice

end Source

end AccessControl
