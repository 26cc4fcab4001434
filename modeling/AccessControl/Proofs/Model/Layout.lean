import AccessControl.Model.Text
import AccessControl.Proofs.Text.Blank

/-!
# The layout of model texts

The ways in which entries may be written down as lines: sections under headers of any of their
names, blank lines and comments between definitions, sections with other names in between, and
values that are broken over several lines at their spaces.  However it is done, the text is read as
these entries, `ModelText.entries_of_layout`.
-/

namespace AccessControl

namespace ModelText

/-! ### Ways of writing -/

/-- A line that says nothing: it is blank or a comment. -/
inductive Idle : List Char → Prop
  | blank {line : List Char} (h : Blanks line) : Idle line
  | comment {indent : List Char} {sign : Char} (hindent : Blanks indent)
      (hsign : sign = '#' ∨ sign = ';') (text : List Char) : Idle (indent ++ sign :: text)

/-- The header of a section with the name that stands between its brackets. -/
inductive Heads : List Char → String → Prop
  | intro {indent after : List Char} (hindent : Blanks indent) (hafter : Blanks after)
      (inner : List Char) :
      Heads (indent ++ '[' :: inner ++ ']' :: after) (String.ofList (trim inner))

/-- A line of a section that is skipped: it is no header and, but for blanks, does not end with a
backslash. -/
structure Foreign (line : List Char) : Prop where
  noHeader : ∀ name, ¬ Heads line name
  closed : (trim line).getLast? ≠ some '\\'

/-- The lines that hold a value, the first of them behind `front`.  The value may be broken at any
single space between two characters that are not blank: a backslash ends the line, and the value
goes on in the next one. -/
inductive Spread : List Char → List Char → List (List Char) → Prop
  | whole {front value after : List Char} (hafter : Blanks after) :
      Spread front value [front ++ value ++ after]
  | broken {front head value gap after indent : List Char} {rest : List (List Char)}
      (hleft : ∃ c ∈ head.getLast?, isBlank c = false)
      (hright : ∃ c ∈ value.head?, isBlank c = false) (hgap : Blanks gap) (hafter : Blanks after)
      (hindent : Blanks indent) (h : Spread indent value rest) :
      Spread front (head ++ ' ' :: value) ((front ++ head ++ gap ++ '\\' :: after) :: rest)

/-- The lines under a header of a kind of section, and their entries. -/
inductive Group (kind : SectionKind) : List (List Char) → List Entry → Prop
  | nil : Group kind [] []
  | idle {line : List Char} {rest : List (List Char)} {entries : List Entry} (hline : Idle line)
      (h : Group kind rest entries) : Group kind (line :: rest) entries
  | definition {key value : String} {indent before behind : List Char}
      {ls rest : List (List Char)} {entries : List Entry} (hindent : Blanks indent)
      (hbefore : Blanks before) (hbehind : Blanks behind)
      (hspread : Spread (indent ++ key.toList ++ before ++ '=' :: behind) value.toList ls)
      (h : Group kind rest entries) : Group kind (ls ++ rest) (⟨kind, key, value⟩ :: entries)

/-- The lines of a text, and its entries: sections under any of their names, with sections of
other names in between. -/
inductive Layout : List (List Char) → List Entry → Prop
  | nil : Layout [] []
  | idle {line : List Char} {rest : List (List Char)} {entries : List Entry} (hline : Idle line)
      (h : Layout rest entries) : Layout (line :: rest) entries
  | known {line : List Char} {name : String} {kind : SectionKind} {ls rest : List (List Char)}
      {own entries : List Entry} (hline : Heads line name)
      (hname : SectionKind.ofAlias? name = some kind) (hgroup : Group kind ls own)
      (h : Layout rest entries) : Layout (line :: ls ++ rest) (own ++ entries)
  | unknown {line : List Char} {name : String} {ls rest : List (List Char)} {entries : List Entry}
      (hline : Heads line name) (hname : SectionKind.ofAlias? name = none)
      (hforeign : ∀ line ∈ ls, Foreign line) (h : Layout rest entries) :
      Layout (line :: ls ++ rest) entries

/-- An entry that can be written down: its key is not empty, has no blanks at its ends and no
equals sign, and looks neither like a comment nor like a header; its value has no blanks at its ends
and does not end with a backslash. -/
structure Writable (entry : Entry) : Prop where
  named : entry.key ≠ ""
  key : strip entry.key = entry.key
  undivided : '=' ∉ entry.key.toList
  unmarked : ∀ c ∈ entry.key.toList.head?, c ≠ '#' ∧ c ≠ ';' ∧ c ≠ '['
  value : strip entry.value = entry.value
  closed : entry.value.toList.getLast? ≠ some '\\'

/-! ### Single lines -/

/-- A header has an opening bracket. -/
theorem Heads.opens {line : List Char} {name : String} (h : Heads line name) :
  '[' ∈ line
  := by
  obtain ⟨hindent, hafter, inner⟩ := h
  simp

section Lines

variable (place : Place) (number : Nat) (contents : Contents) (raw : List Char)
  (rest : List (List Char))

/-- A line where no other is to be continued. -/
theorem readLines_cons :
  readLines number ⟨place, [], 0⟩ contents (raw :: rest)
    = if isSkipped (trim raw) then readLines (number + 1) ⟨place, [], 0⟩ contents rest
      else if (trim raw).getLast? = some '\\' then
        readLines (number + 1) ⟨place, trimEnd isBlank (trim raw).dropLast, number⟩ contents rest
      else
        match take place number (trim raw) contents with
        | (.ok place, contents) => readLines (number + 1) ⟨place, [], 0⟩ contents rest
        | (.error e, contents) => (.error e, contents)
  := rfl

/-- A line that goes on with another. -/
theorem readLines_pending {pending : List Char} (h : pending ≠ []) (first : Nat) :
  readLines number ⟨place, pending, first⟩ contents (raw :: rest)
    = if (pending ++ ' ' :: trim raw).getLast? = some '\\' then
        readLines (number + 1)
          ⟨place, trimEnd isBlank (pending ++ ' ' :: trim raw).dropLast, first⟩ contents rest
      else
        match take place number (pending ++ ' ' :: trim raw) contents with
        | (.ok place, contents) => readLines (number + 1) ⟨place, [], 0⟩ contents rest
        | (.error e, contents) => (.error e, contents)
  := by
  obtain ⟨c, more, rfl⟩ := List.exists_cons_of_ne_nil h
  rfl

end Lines

/-! ### Definitions -/

namespace Writable

variable {entry : Entry} (h : Writable entry)

include h

/-- A key starts with a character of its own. -/
theorem key_eq_cons :
  ∃ c more, entry.key.toList = c :: more ∧ isBlank c = false ∧ c ≠ '#' ∧ c ≠ ';' ∧ c ≠ '['
  := by
  obtain ⟨c, more, hkey⟩ := List.exists_cons_of_ne_nil
    (fun hnil => h.named (String.toList_eq_nil_iff.mp hnil))
  have htrim : trim entry.key.toList = entry.key.toList := by
    rw [← String.toList_ofList (l := trim _), ← strip, h.key]
  have hblank : isBlank c = false := by
    apply isBlank_of_head?_trim entry.key.toList
    rw [htrim, hkey]
    rfl
  exact ⟨c, more, hkey, hblank, h.unmarked c (by rw [hkey]; rfl)⟩

theorem trim_key :
  trim entry.key.toList = entry.key.toList
  := by
  rw [← String.toList_ofList (l := trim _), ← strip, h.key]

theorem trim_value :
  trim entry.value.toList = entry.value.toList
  := by
  rw [← String.toList_ofList (l := trim _), ← strip, h.value]

end Writable

section Definitions

variable {kind : SectionKind} {key value : String} {indent before behind : List Char}
  (hentry : Writable ⟨kind, key, value⟩)

include hentry

/-- The line of a definition without the blanks at its ends. -/
theorem trim_definition (hindent : Blanks indent) (tail : List Char) :
  trim (indent ++ key.toList ++ before ++ '=' :: tail)
    = key.toList ++ before ++ '=' :: trimEnd isBlank tail
  := by
  obtain ⟨c, more, hkey, hblank, -⟩ := hentry.key_eq_cons
  dsimp only at hkey
  have hfirst : ∀ d ∈ (key.toList ++ before ++ '=' :: tail).head?, isBlank d = false := by
    rw [hkey]
    rintro d ⟨⟩
    apply hblank
  rw [List.append_assoc, List.append_assoc, trim_blanks_append hindent, ← List.append_assoc, trim,
    trimOf, dropWhile_eq_self hfirst, trimEnd_append_cons _ (by decide)]

theorem take_definition
    (hbefore : Blanks before) {tail : List Char} (htail : trim tail = value.toList) (number : Nat)
    (entries : List Entry) (skipped : List (String × Nat)) :
  take (.inside kind) number (key.toList ++ before ++ '=' :: tail) ⟨entries, skipped⟩
    = (.ok (.inside kind), ⟨entries ++ [⟨kind, key, value⟩], skipped⟩)
  := by
  obtain ⟨c, more, hkey, -, -, -, hbracket⟩ := hentry.key_eq_cons
  dsimp only at hkey
  have hplain : ∀ d ∈ key.toList ++ before, (d != '=') = true := by
    intro d hd
    rw [bne_iff_ne]
    rintro rfl
    obtain hd | hd := List.mem_append.mp hd
    · apply hentry.undivided hd
    · cases hbefore _ hd
  have hread : readLine (key.toList ++ before ++ '=' :: tail) = .definition key value := by
    have hheader : ¬ ((key.toList ++ before ++ '=' :: tail).head? = some '[' ∧
        (key.toList ++ before ++ '=' :: tail).getLast? = some ']') := by
      rintro ⟨hfirst, -⟩
      rw [hkey] at hfirst
      exact hbracket (Option.some.inj hfirst)
    have hne : key.toList.isEmpty = false := by rw [hkey]; rfl
    rw [readLine, if_neg hheader, if_pos (by simp), List.takeWhile_append_of_pos hplain,
      List.takeWhile_cons_of_neg (by decide), List.append_nil, trim_append_blanks _ hbefore,
      hentry.trim_key, List.dropWhile_append_of_pos hplain,
      List.dropWhile_cons_of_neg (by decide), List.drop_one, List.tail_cons, htail]
    dsimp only
    rw [hne, String.ofList_toList, String.ofList_toList]
    rfl
  rw [take, hread]

theorem closed_definition (hbehind : Blanks behind) :
  (key.toList ++ before ++ '=' :: trimEnd isBlank (behind ++ value.toList)).getLast? ≠ some '\\'
  := by
  cases htext : value.toList with
  | nil =>
      rw [List.append_nil, trimEnd_blanks hbehind, List.getLast?_concat]
      decide
  | cons c more =>
      have hlast : ∀ d ∈ (behind ++ c :: more).getLast?, isBlank d = false := by
        intro d hd
        rw [List.getLast?_append_of_ne_nil _ (List.cons_ne_nil _ _), ← htext,
          ← hentry.trim_value] at hd
        apply isBlank_of_getLast?_trim _ hd
      have hsplit : key.toList ++ before ++ '=' :: (behind ++ c :: more)
          = (key.toList ++ before ++ '=' :: behind) ++ value.toList := by simp [htext]
      rw [trimEnd_eq_self hlast, hsplit, List.getLast?_append_of_ne_nil _ (by simp [htext])]
      apply hentry.closed

theorem not_skipped (tail : List Char) :
  ¬ isSkipped (key.toList ++ before ++ tail) = true
  := by
  obtain ⟨c, more, hkey, -, hhash, hsemicolon, -⟩ := hentry.key_eq_cons
  dsimp only at hkey
  rw [hkey]
  simp [isSkipped, hhash, hsemicolon]

end Definitions

/-! ### Broken values -/

/-- What is left of a line that is to be continued, without its backslash and the blanks before
it. -/
theorem trimEnd_broken (lead : List Char) {head gap : List Char}
    (hleft : ∃ c ∈ head.getLast?, isBlank c = false) (hgap : Blanks gap) :
  trimEnd isBlank (lead ++ head ++ gap ++ ['\\']).dropLast = lead ++ head
  := by
  obtain ⟨c, hc, hblank⟩ := hleft
  rw [List.dropLast_concat, trimEnd_append_blanks _ hgap, trimEnd_eq_self]
  intro d hd
  rw [List.getLast?_append, Option.mem_def.mp hc, Option.some_or] at hd
  cases hd
  apply hblank

theorem trim_broken
    {indent head gap value after : List Char} (hindent : Blanks indent)
    (hfirst : ∃ c ∈ (head ++ ' ' :: value).head?, isBlank c = false)
    (hleft : ∃ c ∈ head.getLast?, isBlank c = false) (hafter : Blanks after) :
  trim (indent ++ head ++ gap ++ '\\' :: after) = head ++ gap ++ ['\\']
  := by
  obtain ⟨c, hc, hblank⟩ := hfirst
  obtain ⟨d, more, rfl⟩ : ∃ d more, head = d :: more := by
    apply List.exists_cons_of_ne_nil
    rintro rfl
    obtain ⟨d, hd, -⟩ := hleft
    cases hd
  cases hc
  have hassoc : indent ++ (c :: more) ++ gap ++ '\\' :: after
      = indent ++ (c :: more ++ gap ++ ['\\']) ++ after := by simp
  rw [hassoc]
  apply trim_between hindent _ _ hafter
  · rintro d ⟨⟩
    apply hblank
  · rw [List.getLast?_concat]
    rintro d ⟨⟩
    decide

/-- A value that is broken ends as its last part does. -/
theorem getLast?_broken {value : List Char} (h : ∃ c ∈ value.head?, isBlank c = false)
    (head : List Char) :
  (head ++ ' ' :: value).getLast? = value.getLast?
  := by
  obtain ⟨c, hc, -⟩ := h
  rw [List.append_cons]
  apply List.getLast?_append_of_ne_nil
  rintro rfl
  cases hc

/-- The lines that go on with a value complete the text that is to be continued. -/
theorem readLines_spread
    {place place' : Place} {contents contents' : Contents} {indent text : List Char}
    {ls : List (List Char)} (h : Spread indent text ls) (hindent : Blanks indent)
    (hfirst : ∃ c ∈ text.head?, isBlank c = false)
    (hlast : ∃ c ∈ text.getLast?, isBlank c = false ∧ c ≠ '\\') {pending : List Char}
    (hpending : pending ≠ [])
    (htake : ∀ number, take place number (pending ++ ' ' :: text) contents
      = (.ok place', contents')) (number first : Nat) (rest : List (List Char)) :
  ∃ number', readLines number ⟨place, pending, first⟩ contents (ls ++ rest)
    = readLines number' ⟨place', [], 0⟩ contents' rest
  := by
  induction h generalizing pending number with
  | @whole front text after hafter =>
      obtain ⟨c, hc, hblank⟩ := hfirst
      obtain ⟨d, hd, hend, hslash⟩ := hlast
      have hown : trim (front ++ text ++ after) = text := by
        apply trim_between hindent _ _ hafter
        · intro e he
          rw [Option.mem_unique he hc]
          apply hblank
        · intro e he
          rw [Option.mem_unique he hd]
          apply hend
      have hclosed : (pending ++ ' ' :: text).getLast? ≠ some '\\' := by
        rw [List.append_cons, List.getLast?_append, Option.mem_def.mp hd, Option.some_or]
        simpa using hslash
      use number + 1
      rw [List.singleton_append, readLines_pending _ _ _ _ _ hpending, hown, if_neg hclosed, htake]
  | @broken front head value gap after indent ls hleft hright hgap hafter hindent' hrest ih =>
      have hline : pending ++ ' ' :: (head ++ gap ++ ['\\'])
          = (pending ++ [' ']) ++ head ++ gap ++ ['\\'] := by simp
      have htext : pending ++ ' ' :: (head ++ ' ' :: value)
          = (pending ++ [' '] ++ head) ++ ' ' :: value := by simp
      rw [getLast?_broken hright] at hlast
      rw [htext] at htake
      obtain ⟨number', hread⟩ := ih hindent' hright hlast (by simp) htake (number + 1)
      use number'
      rw [List.cons_append, readLines_pending _ _ _ _ _ hpending,
        trim_broken hindent hfirst hleft hafter, hline, if_pos List.getLast?_concat,
        trimEnd_broken _ hleft hgap, hread]

/-- The last part of a value that is broken ends the value. -/
theorem ends_broken {entry : Entry} (hentry : Writable entry) {head more : List Char}
    (htext : entry.value.toList = head ++ ' ' :: more)
    (hright : ∃ c ∈ more.head?, isBlank c = false) :
  ∃ c ∈ more.getLast?, isBlank c = false ∧ c ≠ '\\'
  := by
  obtain ⟨c, hc⟩ : ∃ c, more.getLast? = some c := by
    obtain ⟨d, hd, -⟩ := hright
    cases more with
    | nil => cases hd
    | cons d rest => exact ⟨_, List.getLast?_eq_some_getLast (List.cons_ne_nil d rest)⟩
  have hlast : entry.value.toList.getLast? = some c := by
    rw [htext, getLast?_broken hright, hc]
  use c, hc
  constructor
  · apply isBlank_of_getLast?_trim entry.value.toList
    rw [hentry.trim_value]
    apply hlast
  · rintro rfl
    apply hentry.closed hlast

/-! ### Parts of a text -/

/-- Reading some lines, at one place of a text, gives some entries and leads to another place. -/
def Passes (place : Place) (ls : List (List Char)) (entries : List Entry) (place' : Place) :
    Prop :=
  ∀ number found skipped rest, ∃ number' skipped',
    readLines number ⟨place, [], 0⟩ ⟨found, skipped⟩ (ls ++ rest)
      = readLines number' ⟨place', [], 0⟩ ⟨found ++ entries, skipped'⟩ rest

namespace Passes

variable {place place' place'' : Place} {line : List Char} {ls ls' : List (List Char)}
  {entries entries' : List Entry}

theorem nil (place : Place) : Passes place [] [] place := by
  intro number found skipped rest
  use number, skipped
  rw [List.append_nil]
  rfl

theorem append (h : Passes place ls entries place') (h' : Passes place' ls' entries' place'') :
  Passes place (ls ++ ls') (entries ++ entries') place''
  := by
  intro number found skipped rest
  obtain ⟨number', skipped', hread⟩ := h number found skipped (ls' ++ rest)
  obtain ⟨number'', skipped'', hread'⟩ := h' number' (found ++ entries) skipped' rest
  use number'', skipped''
  rw [List.append_assoc, hread, hread', List.append_assoc]

theorem of_idle (place : Place) (h : Idle line) :
  Passes place [line] [] place
  := by
  have hskipped : isSkipped (trim line) = true := by
    cases h with
    | blank h =>
        have hempty := trim_blanks_append h []
        rw [List.append_nil] at hempty
        rw [hempty]
        rfl
    | @comment indent sign hindent hsign text =>
        have hsign' : isBlank sign = false := by
          obtain rfl | rfl := hsign <;> decide
        rw [trim_blanks_append hindent, trim, trimOf, List.dropWhile_cons_of_neg (by simp [hsign'])]
        have hkept := trimEnd_append_cons (p := isBlank) [] hsign' text
        rw [List.nil_append, List.nil_append] at hkept
        rw [hkept]
        obtain rfl | rfl := hsign <;> rfl
  intro number found skipped rest
  use number + 1, skipped
  rw [List.singleton_append, readLines_cons, if_pos hskipped, List.append_nil]

/-- A header leads to its section, whatever place it stands at. -/
theorem of_header {name : String} (place : Place) (h : Heads line name) :
  Passes place [line] [] ((SectionKind.ofAlias? name).elim .skipped .inside)
  := by
  obtain ⟨hindent, hafter, inner⟩ := h
  rename_i indent after
  have hassoc : indent ++ '[' :: inner ++ ']' :: after
      = indent ++ ('[' :: inner ++ [']']) ++ after := by simp
  have htrim : trim (indent ++ '[' :: inner ++ ']' :: after) = '[' :: inner ++ [']'] := by
    rw [hassoc]
    apply trim_between hindent _ _ hafter
    · rintro c ⟨⟩
      decide
    · rw [List.getLast?_concat]
      rintro c ⟨⟩
      decide
  have hread : readLine ('[' :: inner ++ [']']) = .header (String.ofList (trim inner)) := by
    rw [readLine, if_pos ⟨rfl, List.getLast?_concat⟩, List.cons_append, List.drop_one,
      List.tail_cons, List.dropLast_concat]
  have hclosed : ('[' :: inner ++ [']']).getLast? ≠ some '\\' := by
    rw [List.getLast?_concat]
    decide
  intro number found skipped rest
  rw [List.singleton_append, readLines_cons, htrim, if_neg (by simp [isSkipped]), if_neg hclosed,
    take, hread, List.append_nil]
  dsimp only
  cases SectionKind.ofAlias? (String.ofList (trim inner)) with
  | none => exact ⟨number + 1, _, rfl⟩
  | some kind => exact ⟨number + 1, skipped, rfl⟩

/-- A line that could be a header is one. -/
theorem exists_heads {name : String} (h : readLine (trim line) = .header name) :
  Heads line name
  := by
  rw [readLine] at h
  split at h
  case isTrue hends =>
    obtain ⟨hfirst, hlast⟩ := hends
    obtain ⟨front, hfront⟩ := List.getLast?_eq_some_iff.mp hlast
    obtain ⟨inner, hinner⟩ : ∃ inner, trim line = '[' :: inner ++ [']'] := by
      rw [hfront] at hfirst ⊢
      cases front with
      | nil => cases hfirst
      | cons c inner =>
          cases hfirst
          exact ⟨inner, rfl⟩
    obtain ⟨indent, after, hindent, hafter, hline⟩ := exists_blanks line
    have hname : name = String.ofList (trim inner) := by
      rw [hinner, List.cons_append, List.drop_one, List.tail_cons, List.dropLast_concat] at h
      cases h
      rfl
    rw [hline, hinner, hname, ← List.append_assoc, List.append_assoc, List.singleton_append]
    exact .intro hindent hafter inner
  case isFalse =>
    dsimp only at h
    split at h
    · split at h <;> cases h
    · cases h

theorem of_foreign (h : Foreign line) :
  Passes .skipped [line] [] .skipped
  := by
  intro number found skipped rest
  use number + 1, skipped
  rw [List.singleton_append, List.append_nil, readLines_cons]
  split
  · rfl
  · have htake : take .skipped number (trim line) ⟨found, skipped⟩
        = (.ok .skipped, ⟨found, skipped⟩) := by
      rw [take]
      split
      case h_1 name hread => exact absurd (exists_heads hread) (h.noHeader name)
      case h_2 => rfl
    rw [if_neg h.closed, htake]

/-- A definition is read however its value is broken. -/
theorem of_definition
    {kind : SectionKind} {key value : String} {indent before behind : List Char}
    (hentry : Writable ⟨kind, key, value⟩) (hindent : Blanks indent) (hbefore : Blanks before)
    (hbehind : Blanks behind)
    (h : Spread (indent ++ key.toList ++ before ++ '=' :: behind) value.toList ls) :
  Passes (.inside kind) ls [⟨kind, key, value⟩] (.inside kind)
  := by
  have hvalue : trim (behind ++ value.toList) = value.toList := by
    rw [trim_blanks_append hbehind, hentry.trim_value]
  intro number found skipped rest
  generalize hfront : indent ++ key.toList ++ before ++ '=' :: behind = front at h
  generalize htext : value.toList = text at h
  cases h with
  | @whole _ _ after hafter =>
      have hraw : front ++ text ++ after
          = indent ++ key.toList ++ before ++ '=' :: (behind ++ value.toList ++ after) := by
        simp [← hfront, htext]
      have htail : trim (trimEnd isBlank (behind ++ value.toList)) = value.toList := by
        rw [trim, trimOf_trimEnd, ← trim, hvalue]
      use number + 1, skipped
      rw [List.singleton_append, readLines_cons, hraw, trim_definition hentry hindent,
        trimEnd_append_blanks _ hafter, if_neg (not_skipped hentry _),
        if_neg (closed_definition hentry hbehind), take_definition hentry hbefore htail]
  | @broken _ head more gap after indent' others hleft hright hgap hafter hindent' hrest =>
      have hraw : front ++ head ++ gap ++ '\\' :: after
          = indent ++ key.toList ++ before ++ '=' :: ((behind ++ head ++ gap) ++ '\\' :: after) :=
        by simp [← hfront]
      have hown : key.toList ++ before ++ '=' :: ((behind ++ head ++ gap) ++ ['\\'])
          = (key.toList ++ before ++ '=' :: behind) ++ head ++ gap ++ ['\\'] := by simp
      have hwhole : (key.toList ++ before ++ '=' :: behind ++ head) ++ ' ' :: more
          = key.toList ++ before ++ '=' :: (behind ++ value.toList) := by simp [htext]
      have htake : ∀ number, take (.inside kind) number
          ((key.toList ++ before ++ '=' :: behind ++ head) ++ ' ' :: more) ⟨found, skipped⟩
          = (.ok (.inside kind), ⟨found ++ [⟨kind, key, value⟩], skipped⟩) := by
        intro number
        rw [hwhole, take_definition hentry hbefore hvalue]
      obtain ⟨number', hread⟩ := readLines_spread hrest hindent' hright
        (ends_broken hentry htext hright) (by simp) htake (number + 1) number rest
      use number', skipped
      rw [List.cons_append, readLines_cons, hraw, trim_definition hentry hindent,
        trimEnd_append_cons _ (by decide), trimEnd_blanks hafter, if_neg (not_skipped hentry _),
        hown, if_pos List.getLast?_concat, trimEnd_broken _ hleft hgap, hread]

end Passes

/-! ### Whole texts -/

/-- The lines under a header give the entries of its section. -/
theorem Group.passes
    {kind : SectionKind} {ls : List (List Char)} {entries : List Entry}
    (h : Group kind ls entries) (hentries : ∀ entry ∈ entries, Writable entry) :
  Passes (.inside kind) ls entries (.inside kind)
  := by
  induction h with
  | nil => apply Passes.nil
  | idle hline _ ih => exact (Passes.of_idle _ hline).append (ih hentries)
  | definition hindent hbefore hbehind hspread _ ih =>
      obtain ⟨hentry, hrest⟩ := List.forall_mem_cons.mp hentries
      exact (Passes.of_definition hentry hindent hbefore hbehind hspread).append (ih hrest)

/-- Lines of a section that is skipped give no entries. -/
theorem passes_foreign {ls : List (List Char)} (h : ∀ line ∈ ls, Foreign line) :
  Passes .skipped ls [] .skipped
  := by
  induction ls with
  | nil => apply Passes.nil
  | cons line rest ih =>
      obtain ⟨hline, hrest⟩ := List.forall_mem_cons.mp h
      exact (Passes.of_foreign hline).append (ih hrest)

/-- The lines of a layout give its entries, wherever they stand. -/
theorem Layout.passes
    {ls : List (List Char)} {entries : List Entry} (h : Layout ls entries)
    (hentries : ∀ entry ∈ entries, Writable entry) (place : Place) :
  ∃ place', Passes place ls entries place'
  := by
  induction h generalizing place with
  | nil => exact ⟨place, Passes.nil place⟩
  | idle hline _ ih =>
      obtain ⟨place', hrest⟩ := ih hentries place
      exact ⟨place', (Passes.of_idle place hline).append hrest⟩
  | @known line name kind ls rest own others hline hname hgroup _ ih =>
      obtain ⟨hown, hothers⟩ := List.forall_mem_append.mp hentries
      obtain ⟨place', hrest⟩ := ih hothers (.inside kind)
      have hheader := Passes.of_header place hline
      rw [hname] at hheader
      exact ⟨place', (hheader.append (hgroup.passes hown)).append hrest⟩
  | unknown hline hname hforeign _ ih =>
      obtain ⟨place', hrest⟩ := ih hentries .skipped
      have hheader := Passes.of_header place hline
      rw [hname] at hheader
      exact ⟨place', (hheader.append (passes_foreign hforeign)).append hrest⟩

/-- **The layout of a text does not matter.**  A text whose lines lay out some entries, in any of
the ways in which they may be written, is read as these entries in their order. -/
theorem entries_of_layout
    {text : String} {es : List Entry} (hentries : ∀ entry ∈ es, Writable entry)
    (h : Layout (lines text.toList) es) :
  entries text = .ok es
  := by
  obtain ⟨place, hpasses⟩ := h.passes hentries .outside
  obtain ⟨number, skipped, hread⟩ := hpasses 1 [] [] []
  have hwhole : read text = (.ok (), ⟨es, skipped⟩) := by
    rw [List.append_nil] at hread
    rw [read, hread]
    rfl
  rw [entries, hwhole]

/-- A value that is broken, a section that goes on under another of its names after a section that
is skipped, and an empty value. -/
theorem entries_of_layout_broken :
  entries "; first\n[policy]\n  p = a, \\\n\t b\n\n [notes]\nno more\n[policy_definition]\np2=\n"
    = .ok [⟨.policy, "p", "a, b"⟩, ⟨.policy, "p2", ""⟩]
  := by
  apply entries_of_layout
  · intro entry hentry
    rw [List.mem_cons, List.mem_singleton] at hentry
    obtain rfl | rfl := hentry
    · exact ⟨by decide, by decide, by decide, by rintro c ⟨⟩; decide, by decide, by decide⟩
    · exact ⟨by decide, by decide, by decide, by rintro c ⟨⟩; decide, by decide, by decide⟩
  · have hpolicy : Heads "[policy]".toList "policy" :=
      @Heads.intro [] [] (by decide) (by decide) "policy".toList
    have hnotes : Heads " [notes]".toList "notes" :=
      @Heads.intro [' '] [] (by decide) (by decide) "notes".toList
    have hagain : Heads "[policy_definition]".toList "policy_definition" :=
      @Heads.intro [] [] (by decide) (by decide) "policy_definition".toList
    have hforeign : ∀ line ∈ ["no more".toList], Foreign line := by
      rw [List.forall_mem_singleton]
      exact ⟨fun name hname => absurd hname.opens (by decide), by decide⟩
    have hvalue : Spread "  p = ".toList "a, b".toList ["  p = a, \\".toList, "\t b".toList] :=
      @Spread.broken "  p = ".toList "a,".toList "b".toList [' '] [] ['\t', ' '] _
        ⟨_, rfl, rfl⟩ ⟨_, rfl, rfl⟩ (by decide) (by decide) (by decide)
        (@Spread.whole _ _ [] (by decide))
    have hempty : Spread "p2=".toList "".toList ["p2=".toList] :=
      @Spread.whole _ _ [] (by decide)
    have hfirst : Group .policy ["  p = a, \\".toList, "\t b".toList, []]
        [⟨.policy, "p", "a, b"⟩] :=
      @Group.definition _ "p" "a, b" [' ', ' '] [' '] [' '] _ _ _ (by decide) (by decide)
        (by decide) hvalue (.idle (.blank (by decide)) .nil)
    have hsecond : Group .policy ["p2=".toList] [⟨.policy, "p2", ""⟩] :=
      @Group.definition _ "p2" "" [] [] [] _ _ _ (by decide) (by decide) (by decide) hempty .nil
    rw [String.toList_ofList]
    exact .idle (@Idle.comment [] ';' (by decide) (.inr rfl) " first".toList)
      (.known hpolicy (by decide) hfirst (.unknown hnotes (by decide) hforeign
        (.known hagain (by decide) hsecond .nil)))

end ModelText

end AccessControl
