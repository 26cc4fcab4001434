import AccessControl.Proofs.Pattern.Segments

/-!
# Patterns that stand for themselves

A pattern of letters, digits, slashes, underscores and hyphens has neither placeholders nor signs of
a regular expression.  It matches itself, and itself with a line feed at the end,
`PatternFunction.keyMatchOn_literal`.
-/

namespace AccessControl

/-- A letter, a digit, an underscore, a hyphen or a slash. -/
def isPathChar (c : Char) : Bool := isLiteralChar c || c == '/'

theorem not_isSpecial_of_isPathChar {c : Char} (h : isPathChar c = true) :
  PatternReader.isSpecial c = false
  := by
  have hall : ".\\[\x7b()*+?^$|".toList.all (fun d => !isPathChar d) = true := rfl
  cases hspecial : PatternReader.isSpecial c with
  | false => rfl
  | true =>
      rw [PatternReader.isSpecial, List.contains_iff_mem] at hspecial
      have hother := List.all_eq_true.mp hall c hspecial
      rw [h] at hother
      cases hother

theorem not_mem_of_isPathChar {cs : List Char} (h : ∀ c ∈ cs, isPathChar c = true) {c : Char}
    (hc : isPathChar c = false) :
  c ∉ cs
  := by
  intro hmem
  rw [h c hmem] at hc
  cases hc

namespace PatternFunction

/-! ### Calls -/

/-- A match of a text by a regular expression that is one. -/
theorem matchOn_text {text : String} {p : CompiledPattern} (h : compilePattern text = .ok p)
    (match_ : String → Except Failure Value) (key : String) :
  matchOn text match_ (.text key) = match_ key
  := by
  rw [matchOn, h]
  rfl

/-- A match that is decided is one of a regular expression. -/
theorem exists_compilePattern {α : Type} {text key : String} {a : α}
    {next : Option (List (Option (List Char))) → PatternResult α}
    (h : (matchGroups text key >>= next) = .ok a) :
  ∃ p, compilePattern text = .ok p
  := by
  rw [matchGroups] at h
  cases hcompile : compilePattern text with
  | error e =>
      rw [hcompile] at h
      cases h
  | ok p => exact ⟨p, rfl⟩

theorem receiver_bind {α : Type} (pattern : String) (f : String → Except Failure α) :
  ((Value.text pattern).receiver "replace" >>= f) = f pattern
  := rfl

theorem keyMatch2On_text {key pattern : String} {b : Bool} (h : keyMatch2 key pattern = .ok b) :
  keyMatch2On (.text key) (.text pattern) = .ok (.bool b)
  := by
  obtain ⟨p, hcompile⟩ := exists_compilePattern h
  rw [keyMatch2On, receiver_bind, matchOn_text hcompile, h]
  rfl

theorem keyMatch3On_text {key pattern : String} {b : Bool} (h : keyMatch3 key pattern = .ok b) :
  keyMatch3On (.text key) (.text pattern) = .ok (.bool b)
  := by
  obtain ⟨p, hcompile⟩ := exists_compilePattern h
  rw [keyMatch3On, receiver_bind, matchOn_text hcompile, h]
  rfl

theorem keyMatch4On_text {key pattern : String} {b : Bool} (h : keyMatch4 key pattern = .ok b) :
  keyMatch4On (.text key) (.text pattern) = .ok (.bool b)
  := by
  obtain ⟨p, hcompile⟩ := exists_compilePattern h
  rw [keyMatch4On, receiver_bind, matchOn_text hcompile, h]
  rfl

end PatternFunction

namespace KeyPart

/-! ### Parts -/

/-- Without a star there is none behind a slash. -/
theorem widenStars_of_not_mem {cs : List Char} (h : '*' ∉ cs) :
  widenStars cs = cs
  := by
  induction cs with
  | nil => rfl
  | cons c rest ih =>
      rw [List.mem_cons, not_or] at h
      by_cases hc : c = '/'
      · subst hc
        rw [widenStars_slash, ih h.2]
        intro hhead
        exact h.2 (List.mem_of_head? hhead)
      · rw [widenStars, ih h.2]
        rintro _ rfl
        exact absurd rfl hc

/-- Without a mark every character is a part by itself. -/
theorem scan_chars {mark : Char} (placeholder? : List Char → Option (List Char × List Char))
    {fuel : Nat} {cs : List Char} (h : mark ∉ cs) (hfuel : cs.length ≤ fuel) :
  scan mark placeholder? fuel cs = cs.map .char
  := by
  induction cs generalizing fuel with
  | nil => cases fuel <;> rfl
  | cons c rest ih =>
      obtain ⟨fuel, rfl⟩ := Nat.exists_eq_add_one_of_ne_zero (Nat.ne_zero_of_lt hfuel)
      rw [List.mem_cons, not_or] at h
      rw [scan, if_neg (Ne.symm h.1)]
      exact congrArg (KeyPart.char c :: ·) (ih h.2 (Nat.le_of_succ_le_succ hfuel))

/-- The regular expression of characters is the same whatever placeholders stand for. -/
theorem regexText_chars (placeholder : String) (cs : List Char) :
  regexText placeholder (cs.map .char) = String.ofList ('^' :: cs ++ ['$'])
  := by
  rw [regexText, List.flatMap_map]
  dsimp only
  rw [List.flatMap_singleton']

/-! ### Matches -/

theorem leads_chars {index : Nat} {cs : List Char} {s t : Cursor} {texts : List (List Char)} :
  Leads index (cs.map .char) s texts t ↔ s.Moves cs t ∧ t.isAt .finish = true ∧ texts = []
  := by
  induction cs generalizing s with
  | nil =>
      constructor
      · intro h
        cases h with
        | nil hat => exact ⟨.nil _, hat, rfl⟩
      · rintro ⟨hmoves, hat, rfl⟩
        rw [hmoves.eq_of_nil] at hat ⊢
        exact .nil hat
  | cons c rest ih =>
      constructor
      · intro h
        cases h with
        | char hc hrest =>
            obtain ⟨hmoves, hend⟩ := ih.mp hrest
            exact ⟨hc.append hmoves, hend⟩
      · rintro ⟨hmoves, hend⟩
        obtain ⟨m, hc, hrest⟩ := hmoves.of_cons
        exact .char hc (ih.mpr ⟨hrest, hend⟩)

end KeyPart

/-- A place where a line ends has nothing behind it, or a line feed only. -/
theorem Cursor.isAt_finish_iff {s : Cursor} :
  s.isAt .finish = true ↔ s.rest = [] ∨ s.rest = ['\n']
  := by
  rw [isAt, Bool.or_eq_true, List.isEmpty_iff, beq_iff_eq]

/-- A text is a line: the given text, or this text and a line feed. -/
def isLine (text line : String) : Bool := line == text || line == text ++ "\n"

/-- From its start a text leads past some characters to a place where a line ends, if it is the line
of these characters. -/
theorem exists_moves_iff_isLine {text line : String} :
  (∃ t, (Cursor.start line.toList).Moves text.toList t ∧ t.isAt .finish = true)
    ↔ isLine text line = true
  := by
  have hline : isLine text line = true
      ↔ line.toList = text.toList ++ [] ∨ line.toList = text.toList ++ ['\n'] := by
    rw [isLine, Bool.or_eq_true, beq_iff_eq, beq_iff_eq, ← String.toList_inj, ← String.toList_inj,
      String.toList_append, List.append_nil]
    rfl
  rw [hline]
  constructor
  · rintro ⟨t, hmoves, hat⟩
    have hrest : line.toList = text.toList ++ t.rest := hmoves.rest
    rw [hrest]
    exact (Cursor.isAt_finish_iff.mp hat).imp (congrArg _) (congrArg _)
  · rintro (hrest | hrest)
    all_goals
      obtain ⟨t, hmoves, hend⟩ := Cursor.Moves.exists_of_rest (s := .start line.toList) hrest
      exact ⟨t, hmoves, Cursor.isAt_finish_iff.mpr (by simp [hend])⟩

section Literal

variable {pattern : String} (h : ∀ c ∈ pattern.toList, isPathChar c = true)

include h

/-! ### Parts of a literal -/

theorem ofColons_literal :
  KeyPart.ofColons pattern = pattern.toList.map .char
  := by
  rw [KeyPart.ofColons, KeyPart.widenStars_of_not_mem (not_mem_of_isPathChar h rfl)]
  exact KeyPart.scan_chars _ (not_mem_of_isPathChar h rfl) (Nat.le_refl _)

theorem ofBraces_literal :
  KeyPart.ofBraces pattern = pattern.toList.map .char
  := by
  rw [KeyPart.ofBraces, KeyPart.widenStars_of_not_mem (not_mem_of_isPathChar h rfl)]
  exact KeyPart.scan_chars _ (not_mem_of_isPathChar h rfl) (Nat.le_refl _)

/-- Characters that stand for themselves are read as they are meant. -/
theorem compilePattern_literal (placeholder : String) :
  ∃ least, compilePattern (KeyPart.regexText placeholder (pattern.toList.map .char))
    = .ok ⟨.seq (.anchor .start) (KeyPart.regexFrom 1 (pattern.toList.map .char)), 0, [], false,
      least⟩
  := by
  have hspecial : ∀ c, .char c ∈ pattern.toList.map KeyPart.char →
      PatternReader.isSpecial c = false := by
    intro c hc
    obtain ⟨_, hmem, ⟨⟩⟩ := List.mem_map.mp hc
    exact not_isSpecial_of_isPathChar (h c hmem)
  have hnames : (KeyPart.names (pattern.toList.map .char)).length = 0 := by
    simp [KeyPart.names, List.filterMap_map]
  obtain ⟨least, hcompile⟩ := KeyPart.compilePattern_regexText hspecial
  rw [hnames, KeyPart.regexText_chars] at hcompile
  rw [KeyPart.regexText_chars]
  exact ⟨least, hcompile⟩

/-- The match of characters that stand for themselves has no groups. -/
theorem matchGroups_literal (placeholder key : String) :
  matchGroups (KeyPart.regexText placeholder (pattern.toList.map .char)) key
    = .ok (if isLine pattern key then some [] else none)
  := by
  obtain ⟨least, hcompile⟩ := compilePattern_literal h placeholder
  let regex : Regex :=
    .seq (.anchor .start) (KeyPart.regexFrom 1 (pattern.toList.map .char))
  have hsome : (regex.matchStart key.toList).isSome = isLine pattern key := by
    have hexplores := Regex.explores_seq (Regex.explores_anchor .start)
      (KeyPart.explores_parts 1 (pattern.toList.map .char))
    rw [Bool.eq_iff_iff, Regex.matchStart, Regex.matchAt, hexplores.isSome_first,
      ← exists_moves_iff_isLine]
    constructor
    · rintro ⟨t, _, ⟨-, rfl⟩, texts, hleads⟩
      obtain ⟨hmoves, hat, -⟩ := KeyPart.leads_chars.mp hleads
      exact ⟨t, hmoves, hat⟩
    · rintro ⟨t, hmoves, hat⟩
      exact ⟨t, _, ⟨rfl, rfl⟩, [], KeyPart.leads_chars.mpr ⟨hmoves, hat, rfl⟩⟩
  rw [matchGroups, hcompile, ← hsome]
  change (outcome _ ((CompiledPattern.mk regex 0 [] false least).checked
    (regex.matchStart key.toList))).bind _ = _
  cases regex.matchStart key.toList <;> rfl

theorem keyMatch3_literal (key : String) :
  keyMatch3 key pattern = .ok (isLine pattern key)
  := by
  rw [keyMatch3, ofBraces_literal h, matchGroups_literal h]
  cases isLine pattern key <;> rfl

namespace PatternFunction

/-! ### Matches of a literal -/

theorem keyMatch2On_literal (key : String) :
  keyMatch2On (.text key) (.text pattern) = .ok (.bool (isLine pattern key))
  := by
  apply keyMatch2On_text
  rw [keyMatch2, ofColons_literal h, matchGroups_literal h]
  cases isLine pattern key <;> rfl

theorem keyMatch3On_literal (key : String) :
  keyMatch3On (.text key) (.text pattern) = .ok (.bool (isLine pattern key))
  := keyMatch3On_text (keyMatch3_literal h key)

theorem keyMatch4On_literal (key : String) :
  keyMatch4On (.text key) (.text pattern) = .ok (.bool (isLine pattern key))
  := by
  apply keyMatch4On_text
  rw [keyMatch4, ofBraces_literal h, matchGroups_literal h]
  cases isLine pattern key
  · rfl
  · simp [KeyPart.names, List.filterMap_map, consistent, bind, Except.bind, pure, Except.pure]

/-- Where a query is left out, the path before it is matched. -/
theorem keyMatch5On_literal (key : String) :
  keyMatch5On (.text key) (.text pattern)
    = .ok (.bool (isLine pattern (String.ofList (key.toList.takeWhile (· != '?')))))
  := by
  have hkey : (Value.text key).receiver "find" = .ok key := rfl
  have hreceiver : (Value.text pattern).receiver "replace" = .ok pattern := rfl
  rw [keyMatch5On, hkey, hreceiver]
  simp only [bind, Except.bind]
  rw [keyMatch5, keyMatch3_literal h]
  rfl

/-- **A pattern that stands for itself matches itself.**  A path matches a pattern of letters,
digits, slashes, underscores and hyphens if and only if it is equal to it, or to it with a line feed
at the end; where a query is left out, so does the path before it.  Every such match is decided. -/
theorem keyMatchOn_literal (key : String) :
  let before := String.ofList (key.toList.takeWhile (· != '?'))
  keyMatch2On (.text key) (.text pattern) = .ok (.bool (isLine pattern key))
    ∧ keyMatch3On (.text key) (.text pattern) = .ok (.bool (isLine pattern key))
    ∧ keyMatch4On (.text key) (.text pattern) = .ok (.bool (isLine pattern key))
    ∧ keyMatch5On (.text key) (.text pattern) = .ok (.bool (isLine pattern before))
  := ⟨keyMatch2On_literal h key, keyMatch3On_literal h key, keyMatch4On_literal h key,
    keyMatch5On_literal h key⟩

end PatternFunction

end Literal

namespace PatternFunction

/-- A path with a query matches the pattern of the path without it where the query is left out. -/
theorem keyMatchOn_literal_query :
  (∀ c ∈ "/a-1".toList, isPathChar c = true)
    ∧ keyMatch2On (.text "/a-1?b=2") (.text "/a-1") = .ok (.bool false)
    ∧ keyMatch5On (.text "/a-1?b=2") (.text "/a-1") = .ok (.bool true)
  := by
  have hpattern : ∀ c ∈ "/a-1".toList, isPathChar c = true :=
    List.all_eq_true.mp (by decide)
  obtain ⟨hwhole, -, -, hbefore⟩ := keyMatchOn_literal hpattern "/a-1?b=2"
  exact ⟨hpattern, hwhole, hbefore⟩

/-- A path with a line feed at the end matches the pattern of the path without it, although the two
differ. -/
theorem keyMatchOn_lineFeed :
  keyMatch2On (.text "/a\n") (.text "/a") = .ok (.bool true)
    ∧ keyMatch3On (.text "/a\n") (.text "/a") = .ok (.bool true)
    ∧ keyMatch4On (.text "/a\n") (.text "/a") = .ok (.bool true)
    ∧ keyMatch5On (.text "/a\n?b=2") (.text "/a") = .ok (.bool true)
    ∧ "/a\n" ≠ "/a"
  := by
  have hpattern : ∀ c ∈ "/a".toList, isPathChar c = true := List.all_eq_true.mp (by decide)
  exact ⟨keyMatch2On_literal hpattern _, keyMatch3On_literal hpattern _,
    keyMatch4On_literal hpattern _, keyMatch5On_literal hpattern _, by decide⟩

end PatternFunction

end AccessControl
