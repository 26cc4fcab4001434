import AccessControl.Pattern.Function
import AccessControl.Proofs.Pattern.Reading
import AccessControl.Proofs.Pattern.Ways

/-!
# What globs match

The matching of a glob without brackets is given by the way in which a text splits along the
pattern, `Glob.Splits`.  The search for a match by its regular expression decides it,
`PatternFunction.globMatchOn_splits`.
-/

namespace AccessControl

open MatchWays (Explores)
open PatternReader (ReadsAs)

/-- A text splits along a glob that is read from left to right: two stars stand for any text, a
star that is left for a text without a slash, a question mark for a character other than a slash,
and every other character for itself. -/
inductive Glob.Splits : List Char → List Char → Prop
  | nil : Splits [] []
  | doubleStar {pattern key : List Char} (taken : List Char) (h : Splits pattern key) :
      Splits ('*' :: '*' :: pattern) (taken ++ key)
  | star {pattern key taken : List Char} (hlast : pattern.head? ≠ some '*') (htaken : '/' ∉ taken)
      (h : Splits pattern key) : Splits ('*' :: pattern) (taken ++ key)
  | question {pattern key : List Char} {c : Char} (hc : c ≠ '/') (h : Splits pattern key) :
      Splits ('?' :: pattern) (c :: key)
  | char {pattern key : List Char} {c : Char} (hstar : c ≠ '*') (hquestion : c ≠ '?')
      (h : Splits pattern key) : Splits (c :: pattern) (c :: key)

namespace GlobPart

/-! ### Parts -/

/-- The texts that a part takes in a search, which does not go beyond a line. -/
def Takes : GlobPart → List Char → Prop
  | .char c, taken => taken = [c]
  | .question, taken => ∃ c, taken = [c] ∧ c ≠ '/'
  | .star, taken => '/' ∉ taken
  | .doubleStar, taken => '\n' ∉ taken

/-- The expression of a part leads behind the texts that the part takes. -/
theorem reads_regex (part : GlobPart) :
  part.regex.Reads part.Takes
  := by
  cases part with
  | char c =>
      apply (Regex.takesOne_one _).reads.congr
      intro s t
      simp only [CharClass.contains_code, exists_eq_right, Takes]
  | question =>
      apply (Regex.takesOne_one _).reads.congr
      intro s t
      simp only [CharClass.contains_not_code, Takes]
  | star =>
      apply ((Regex.takesOne_one _).reads_repeated 0).congr
      intro s t
      simp only [CharClass.contains_not_code, Takes, Nat.zero_le, true_and, ne_eq,
        List.forall_mem_ne']
  | doubleStar =>
      apply ((Regex.takesOne_any false).reads_repeated 0).congr
      intro s t
      simp [Takes, List.forall_mem_ne']

/-- The expression of several parts leads to the end of the text behind a text that is put together
from what the parts take. -/
theorem explores_parts (parts : List GlobPart) :
  Explores (Regex.ways .whole (parts.foldr (fun p r => .seq p.regex r) (.anchor .finish)))
    fun s t => ∃ texts, List.Forall₂ Takes parts texts ∧ s.Moves texts.flatten t
      ∧ t.isAt .finish = true
  := by
  induction parts with
  | nil =>
      apply (Regex.explores_anchor .finish).congr
      intro s t
      constructor
      · rintro ⟨hat, rfl⟩
        exact ⟨[], .nil, .nil _, hat⟩
      · rintro ⟨_, ⟨⟩, hmoves, hat⟩
        rw [hmoves.eq_of_nil] at hat ⊢
        exact ⟨hat, rfl⟩
  | cons part parts ih =>
      apply (Regex.explores_seq part.reads_regex ih).congr
      intro s t
      constructor
      · rintro ⟨m, ⟨taken, htaken, hmoves⟩, texts, htexts, hrest, hat⟩
        exact ⟨taken :: texts, .cons htaken htexts, hmoves.append hrest, hat⟩
      · rintro ⟨_, htexts, hmoves, hat⟩
        obtain _ | ⟨htaken, htexts⟩ := htexts
        rename_i taken texts
        rw [List.flatten_cons] at hmoves
        obtain ⟨m, hfirst, hrest⟩ := hmoves.of_append
        exact ⟨m, ⟨taken, htaken, hfirst⟩, texts, htexts, hrest, hat⟩

/-- The piece of a part, as it is read from a regular expression. -/
def piece : GlobPart → Piece
  | .char c => PatternReader.literalPiece {} c.toNat
  | .question => PatternReader.notSlash
  | .star => PatternReader.repeated 0 PatternReader.notSlash
  | .doubleStar => PatternReader.repeated 0 (.single (.any false))

theorem regex_piece (part : GlobPart) :
  part.piece.regex = part.regex
  := by
  cases part <;> rfl

theorem fault_piece (part : GlobPart) :
  part.piece.fault = none
  := by
  cases part <;> rfl

/-- The pieces of several parts up to the end of a text. -/
theorem regex_pieces (parts : List GlobPart) :
  (Piece.sequence (parts.map piece ++ [.place (.anchor .finish) .anchor])).regex
    = parts.foldr (fun p r => .seq p.regex r) (.anchor .finish)
  := by
  induction parts with
  | nil => rfl
  | cons part parts ih =>
      rw [List.map_cons, List.cons_append, PatternReader.regex_sequence_cons _ (by simp), ih,
        part.regex_piece]
      rfl

end GlobPart

namespace Glob

/-! ### Patterns -/

theorem ofText_star {pattern : List Char} (h : pattern.head? ≠ some '*') :
  GlobPart.ofText ('*' :: pattern) = .star :: GlobPart.ofText pattern
  := by
  cases pattern with
  | nil => rfl
  | cons c rest =>
      rw [GlobPart.ofText]
      rintro _ ⟨⟩
      exact h rfl

/-- A star that is followed by no other is the last of its run. -/
theorem head?_ne_star {pattern : List Char} (h : ∀ rest, pattern = '*' :: rest → False) :
  pattern.head? ≠ some '*'
  := by
  intro hhead
  obtain ⟨rest, rfl⟩ := List.head?_eq_some_iff.mp hhead
  exact h rest rfl

theorem ofText_char {c : Char} {pattern : List Char} (hstar : c ≠ '*') (hquestion : c ≠ '?') :
  GlobPart.ofText (c :: pattern) = .char c :: GlobPart.ofText pattern
  := GlobPart.ofText.eq_5 c pattern (fun _ h _ => hstar h) hstar hquestion

/-- A text of one line splits along a pattern if it is put together from what the parts of the
pattern take. -/
theorem splits_iff {pattern key : List Char} (hkey : '\n' ∉ key) :
  Splits pattern key
    ↔ ∃ texts, List.Forall₂ GlobPart.Takes (GlobPart.ofText pattern) texts ∧ key = texts.flatten
  := by
  constructor
  · intro h
    induction h with
    | nil => exact ⟨[], .nil, rfl⟩
    | doubleStar taken _ ih =>
        rw [List.mem_append, not_or] at hkey
        obtain ⟨htaken, hrest⟩ := hkey
        obtain ⟨texts, htexts, rfl⟩ := ih hrest
        exact ⟨taken :: texts, .cons htaken htexts, rfl⟩
    | @star _ _ taken hlast htaken _ ih =>
        rw [List.mem_append, not_or] at hkey
        obtain ⟨texts, htexts, rfl⟩ := ih hkey.2
        rw [ofText_star hlast]
        exact ⟨taken :: texts, .cons htaken htexts, rfl⟩
    | @question _ _ c hc _ ih =>
        obtain ⟨texts, htexts, rfl⟩ := ih (List.not_mem_of_not_mem_cons hkey)
        exact ⟨[c] :: texts, .cons ⟨c, rfl, hc⟩ htexts, rfl⟩
    | @char _ _ c hstar hquestion _ ih =>
        obtain ⟨texts, htexts, rfl⟩ := ih (List.not_mem_of_not_mem_cons hkey)
        rw [ofText_char hstar hquestion]
        exact ⟨[c] :: texts, .cons rfl htexts, rfl⟩
  · rintro ⟨texts, htexts, rfl⟩
    clear hkey
    induction pattern using GlobPart.ofText.induct generalizing texts with
    | case1 =>
        cases htexts
        exact .nil
    | case2 pattern ih =>
        obtain _ | ⟨-, hrest⟩ := htexts
        exact .doubleStar _ (ih _ hrest)
    | case3 pattern hlast ih =>
        rw [ofText_star (head?_ne_star hlast)] at htexts
        obtain _ | ⟨htaken, hrest⟩ := htexts
        exact .star (head?_ne_star hlast) htaken (ih _ hrest)
    | case4 pattern ih =>
        obtain _ | ⟨⟨c, rfl, hc⟩, hrest⟩ := htexts
        exact .question hc (ih _ hrest)
    | case5 c pattern _ hstar hquestion ih =>
        rw [ofText_char hstar hquestion] at htexts
        obtain _ | ⟨htaken, hrest⟩ := htexts
        obtain rfl := htaken
        exact .char hstar hquestion (ih _ hrest)

/-! ### Regular expressions -/

/-- A character is escaped unless it stands for itself, and then it does. -/
theorem readsAs_escapeChar (c : Char) :
  ReadsAs (escapeChar c) (fun _ => [PatternReader.literalPiece {} c.toNat]) []
  := by
  let escaped := "()[]\x7b\x7d?*+-|^$\\.&~# \t\n\r\x0b\x0c".toList
  have hescaped : escaped.all (fun d => !d.isAlpha && !d.isDigit) = true := rfl
  have hspecial : ".\\[\x7b()*+?^$|".toList.all escaped.contains = true := rfl
  rw [escapeChar]
  split
  case isTrue h =>
    have hc := List.all_eq_true.mp hescaped c (List.contains_iff_mem.mp h)
    rw [Bool.and_eq_true, Bool.not_eq_true', Bool.not_eq_true'] at hc
    exact PatternReader.readsAs_escaped hc.1 hc.2
  case isFalse h =>
    apply PatternReader.readsAs_char
    rw [PatternReader.isSpecial, ← Bool.not_eq_true, List.contains_iff_mem]
    intro hc
    exact h (List.all_eq_true.mp hspecial c hc)

theorem regexChars_star {pattern : List Char} (h : pattern.head? ≠ some '*') (fuel : Nat) :
  regexChars (fuel + 1) ('*' :: pattern) = "[^/]*".toList ++ regexChars fuel pattern
  := by
  rw [regexChars]
  rintro rest rfl
  exact h rfl

theorem regexChars_char {c : Char} (hstar : c ≠ '*') (hquestion : c ≠ '?') (hopen : c ≠ '[')
    (fuel : Nat) (pattern : List Char) :
  regexChars (fuel + 1) (c :: pattern) = escapeChar c ++ regexChars fuel pattern
  := by
  rw [regexChars]
  · rintro _ rfl
    exact absurd rfl hstar
  · exact hstar
  · exact hquestion
  · exact hopen

/-- The regular expression that a glob is written as is read as the pieces of its parts. -/
theorem readsAs_regexChars (fuel : Nat) {pattern : List Char} (hpattern : '[' ∉ pattern)
    (hfuel : pattern.length ≤ fuel) :
  ReadsAs (regexChars fuel pattern) (fun _ => (GlobPart.ofText pattern).map GlobPart.piece) []
  := by
  induction pattern using GlobPart.ofText.induct generalizing fuel with
  | case1 =>
      cases fuel <;> exact .nil
  | case2 pattern ih =>
      obtain ⟨fuel, rfl⟩ := Nat.exists_eq_add_one_of_ne_zero (Nat.ne_zero_of_lt hfuel)
      have hshort : pattern.length ≤ fuel := Nat.le_of_succ_le (Nat.le_of_succ_le_succ hfuel)
      have hrest := ih fuel (by simpa using hpattern) hshort
      exact (PatternReader.readsAs_any.star rfl).append hrest
  | case3 pattern hlast ih =>
      obtain ⟨fuel, rfl⟩ := Nat.exists_eq_add_one_of_ne_zero (Nat.ne_zero_of_lt hfuel)
      have hrest := ih fuel (by simpa using hpattern) (Nat.le_of_succ_le_succ hfuel)
      rw [regexChars_star (head?_ne_star hlast), ofText_star (head?_ne_star hlast)]
      exact (PatternReader.readsAs_notSlash.star rfl).append hrest
  | case4 pattern ih =>
      obtain ⟨fuel, rfl⟩ := Nat.exists_eq_add_one_of_ne_zero (Nat.ne_zero_of_lt hfuel)
      have hrest := ih fuel (by simpa using hpattern) (Nat.le_of_succ_le_succ hfuel)
      exact PatternReader.readsAs_notSlash.append hrest
  | case5 c pattern _ hstar hquestion ih =>
      obtain ⟨fuel, rfl⟩ := Nat.exists_eq_add_one_of_ne_zero (Nat.ne_zero_of_lt hfuel)
      rw [List.mem_cons, not_or] at hpattern
      have hrest := ih fuel hpattern.2 (Nat.le_of_succ_le_succ hfuel)
      rw [regexChars_char hstar hquestion (Ne.symm hpattern.1), ofText_char hstar hquestion]
      exact (readsAs_escapeChar c).append hrest

/-- The pattern of a glob without brackets is the one of its text as a regular expression. -/
theorem compilePattern_regexChars {pattern : String} (hpattern : '[' ∉ pattern.toList) :
  ∃ least, compilePattern
      (String.ofList ('^' :: regexChars pattern.toList.length pattern.toList ++ ['$']))
    = .ok { ofParts (GlobPart.ofText pattern.toList) with least := least }
  := by
  have hfault : ∀ p ∈ (GlobPart.ofText pattern.toList).map GlobPart.piece, p.fault = none := by
    rw [List.forall_mem_map]
    exact fun part _ => part.fault_piece
  obtain ⟨least, hcompile⟩ :=
    compilePattern_between (readsAs_regexChars _ hpattern (Nat.le_refl _)) hfault
  rw [GlobPart.regex_pieces] at hcompile
  exact ⟨least, hcompile⟩

/-! ### Matches -/

/-- The search for a match of a whole text finds one if the text splits along the pattern. -/
theorem matches_iff {pattern key : String} (hkey : '\n' ∉ key.toList) :
  (ofParts (GlobPart.ofText pattern.toList)).matches key = true
    ↔ Splits pattern.toList key.toList
  := by
  have hexplores := Regex.explores_seq (Regex.explores_anchor .start)
    (GlobPart.explores_parts (GlobPart.ofText pattern.toList))
  rw [CompiledPattern.matches, Regex.matchStart, Regex.matchAt, ofParts, GlobPart.wholeRegex,
    hexplores.isSome_first, splits_iff hkey]
  constructor
  · rintro ⟨t, _, ⟨-, rfl⟩, texts, htexts, hmoves, hat⟩
    have hrest : key.toList = texts.flatten ++ t.rest := hmoves.rest
    rw [hrest, List.mem_append, not_or] at hkey
    rw [Cursor.isAt_finish hkey.2] at hat
    rw [hat, List.append_nil] at hrest
    exact ⟨texts, htexts, hrest⟩
  · rintro ⟨texts, htexts, hrest⟩
    have hwhole : (Cursor.start key.toList).rest = texts.flatten ++ [] := by
      rw [List.append_nil]
      exact hrest
    obtain ⟨t, hmoves, hend⟩ := Cursor.Moves.exists_of_rest hwhole
    refine ⟨t, _, ⟨rfl, rfl⟩, texts, htexts, hmoves, ?_⟩
    rw [Cursor.isAt, hend]
    rfl

end Glob

namespace PatternFunction

/-- **Globs split paths.**  A path of one line matches a glob without brackets if and only if it
splits along it, and every such match is decided. -/
theorem globMatchOn_splits {key pattern : String} (hpattern : '[' ∉ pattern.toList)
    (hkey : '\n' ∉ key.toList) :
  ∃ b, globMatchOn (.text key) (.text pattern) = .ok (.bool b)
    ∧ (b = true ↔ Glob.Splits pattern.toList key.toList)
  := by
  refine ⟨_, ?_, Glob.matches_iff hkey⟩
  have hcompile : Glob.compile pattern = .ok (Glob.ofParts (GlobPart.ofText pattern.toList)) := by
    rw [Glob.compile, if_neg (by simpa using hpattern)]
  rw [globMatchOn, globOf]
  simp only [hcompile, raw]
  rfl

/-- Of three stars the first two stand for any text. -/
theorem globMatchOn_splits_stars :
  globMatchOn (.text "/a/b") (.text "/***?") = .ok (.bool true)
  := by
  obtain ⟨b, hresult, hsplits⟩ :=
    globMatchOn_splits (show '[' ∉ "/***?".toList by decide) (show '\n' ∉ "/a/b".toList by decide)
  have hpath : Glob.Splits "/***?".toList "/a/b".toList := by
    have hlast : Glob.Splits ['?'] ['b'] := .question (by decide) .nil
    have hstar : Glob.Splits ['*', '?'] ['b'] :=
      @Glob.Splits.star _ _ [] (by decide) (by decide) hlast
    exact .char (by decide) (by decide) (.doubleStar ['a', '/'] hstar)
  rw [hresult, hsplits.mpr hpath]

end PatternFunction

end AccessControl
