import AccessControl.Proofs.Expr.Precedence
import AccessControl.Proofs.Number.Numeral
import Mathlib.Data.List.TakeWhile

/-!
# The spellings of symbols

How a symbol may be written as text, and that it is cut off the front of a text as one token when a
blank or nothing follows, `lexes_of_spells`.  A text of spellings with blanks between them is cut
into tokens that are written for the symbols, `tokenize_of_spaced`.
-/

namespace AccessControl

namespace Grammar

open AccessControl.Token

/-! ### Ends of tokens -/

/-- The text is at its end or starts with a blank. -/
def Breaks (tail : List Char) : Prop := ∀ c ∈ tail.head?, isBlank c = true

/-- The text `cs` is cut off the front of `cs ++ tail` as a token. -/
def Lexes (cs tail : List Char) (kind : TokenKind) (text : String) : Prop :=
  ∃ c more, cs = c :: more ∧ isBlank c = false ∧ lexeme c (more ++ tail) = .ok (kind, text, tail)

section Runs

variable {p : Char → Bool} {cs tail : List Char}

theorem Breaks.head? (hp : ∀ c, isBlank c = true → p c = false) (htail : Breaks tail) :
  ∀ c ∈ tail.head?, p c = false
  := fun c hc => hp c (htail c hc)

/-- A run of characters of a class ends where a character of another class follows. -/
theorem takeWhile_run (hcs : ∀ c ∈ cs, p c = true) (htail : ∀ c ∈ tail.head?, p c = false) :
  (cs ++ tail).takeWhile p = cs
  := by
  rw [List.takeWhile_append_of_pos hcs]
  cases tail with
  | nil => simp
  | cons c tail => rw [List.takeWhile_cons_of_neg (by rw [htail c rfl]; simp), List.append_nil]

theorem dropWhile_run (hcs : ∀ c ∈ cs, p c = true) (htail : ∀ c ∈ tail.head?, p c = false) :
  (cs ++ tail).dropWhile p = tail
  := by
  rw [List.dropWhile_append_of_pos hcs]
  apply dropWhile_eq_self htail

end Runs

/-! ### Numbers, texts and words -/

section Lexemes

variable {c d : Char} {cs ds tail : List Char}

/-- An operator of two characters starts with one of six. -/
theorem pairOperator?_eq_none (h : c ∉ ['&', '|', '=', '!', '<', '>']) :
  pairOperator? c d = none
  := by
  unfold pairOperator?
  split
  all_goals first | rfl | simp at h

/-- The second character of an operator is no blank. -/
theorem pairOperator?_of_isBlank (h : isBlank d = true) :
  pairOperator? c d = none
  := by
  unfold pairOperator?
  split
  all_goals first | rfl | cases h

theorem pairOperator?_of_breaks (h : Breaks tail) :
  tail.head?.bind (pairOperator? c) = none
  := by
  cases tail with
  | nil => rfl
  | cons d tail => exact pairOperator?_of_isBlank (h d rfl)

/-- A token that starts like no operator of two characters is none. -/
theorem no_pair (h : c ∉ ['&', '|', '=', '!', '<', '>']) :
  ds.head?.bind (pairOperator? c) = none
  := by
  cases ds with
  | nil => rfl
  | cons d ds => exact pairOperator?_eq_none h

theorem spanNumber_of_base (hcs : ∀ c ∈ cs, c.isDigit = true) (htail : Breaks tail) :
  spanNumber (cs ++ tail) = (cs, tail)
  := by
  have hdigits : ∀ c ∈ cs, isDigit c = true := fun c hc => isDigit_of_base (hcs c hc)
  have hend := htail.head? fun _ => isDigit_of_isBlank
  rw [spanNumber, takeWhile_run hdigits hend, dropWhile_run hdigits hend]
  split
  · cases htail '.' rfl
  · rfl

theorem lexes_number (hcs : ∀ c ∈ cs, c.isDigit = true) (hsome : cs ≠ []) (htail : Breaks tail) :
  Lexes cs tail .number (String.ofList cs)
  := by
  cases cs with
  | nil => exact absurd rfl hsome
  | cons c more =>
      have hc : c.isDigit = true := hcs c (by simp)
      have hpair : c ∉ ['&', '|', '=', '!', '<', '>'] := by
        intro hmem
        fin_cases hmem <;> cases hc
      use c, more, rfl, isBlank_of_isDigit (isDigit_of_base hc)
      rw [lexeme, no_pair hpair]
      simp only [isDigit_of_base hc, if_true]
      rw [← List.cons_append, spanNumber_of_base hcs htail]

/-- The ways to write characters between two quotes: most stand for themselves, and a backslash
goes before one that is written otherwise. -/
inductive Escaped (quote : Char) : List Char → List Char → Prop where
  | nil : Escaped quote [] []
  | plain {c : Char} {cs ds : List Char} (hslash : c ≠ '\\') (hquote : c ≠ quote)
      (rest : Escaped quote cs ds) :
    Escaped quote (c :: cs) (c :: ds)
  | escape {c e : Char} {cs ds : List Char} (h : unescape e = [c]) (rest : Escaped quote cs ds) :
    Escaped quote (c :: cs) ('\\' :: e :: ds)

/-- What is written between two quotes is read up to the second. -/
theorem spanText_of_escaped {quote : Char} (hquote : quote ≠ '\\') (h : Escaped quote cs ds) :
  spanText quote (ds ++ quote :: tail) = some (cs, tail)
  := by
  induction h with
  | nil =>
      rw [List.nil_append, spanText.eq_3 _ _ _ (by intro _ _ h; exact absurd h hquote), if_pos rfl]
  | plain hslash hplain rest ih =>
      rw [List.cons_append, spanText.eq_3 _ _ _ (by intro _ _ h; exact absurd h hslash),
        if_neg hplain, ih]
      rfl
  | escape h rest ih =>
      rw [List.cons_append, List.cons_append, spanText, ih, h]
      rfl

theorem lexes_text {quote : Char} (hquote : quote = '\'' ∨ quote = '"') (h : Escaped quote cs ds)
    (tail : List Char) :
  Lexes (quote :: (ds ++ [quote])) tail .text (String.ofList cs)
  := by
  have hplain : quote ≠ '\\' ∧ isBlank quote = false ∧ isDigit quote = false
      ∧ quote ∉ ['&', '|', '=', '!', '<', '>'] := by
    obtain rfl | rfl := hquote <;> decide
  obtain ⟨hslash, hblank, hdigit, hpair⟩ := hplain
  use quote, ds ++ [quote], rfl, hblank
  rw [lexeme, no_pair hpair]
  simp only [hdigit, if_pos hquote, List.append_assoc, List.singleton_append,
    spanText_of_escaped hslash h]
  rfl

/-- What starts a word is a part of it. -/
theorem isWordPart_of_isWordStart (h : isWordStart c = true) :
  isWordPart c = true
  := by
  rw [isWordStart, Bool.or_eq_true] at h
  rw [isWordPart, Bool.or_eq_true]
  apply h.imp_left
  intro hletter
  rw [isLetter] at hletter
  rw [isLetterOrNumeral]
  split at hletter
  case isTrue hc => rw [if_pos hc, Char.isAlphanum, hletter, Bool.true_or]
  case isFalse hc => rw [if_neg hc, hletter, Bool.true_or]

/-- A word starts with a character that starts words, is no digit, and has parts of words only. -/
theorem IsWord.exists_chars {s : String} (h : IsWord s) :
  ∃ c more, s.toList = c :: more ∧ isWordStart c = true ∧ isDigit c = false
    ∧ ∀ d ∈ c :: more, isWordPart d = true
  := by
  obtain ⟨hidentifier, hascii⟩ := h
  rw [isIdentifier] at hidentifier
  split at hidentifier
  · cases hidentifier
  case h_2 c more hchars =>
    obtain ⟨hstart, hparts⟩ := (Bool.and_eq_true _ _).mp hidentifier
    rw [hchars] at hascii
    obtain ⟨hc, hmore⟩ := List.forall_mem_cons.mp hascii
    have hword : isWordStart c = true := isWordStart_of_isIdentifierStart hc hstart
    have hdigit : isDigit c = false := by
      by_contra hdigit
      rw [isIdentifierStart_of_isDigit (Bool.eq_true_of_not_eq_false hdigit)] at hstart
      cases hstart
    use c, more, hchars, hword, hdigit
    rw [List.forall_mem_cons]
    use isWordPart_of_isWordStart hword
    intro d hd
    exact isWordPart_of_isIdentifierPart (hmore d hd) (List.all_eq_true.mp hparts d hd)

theorem lexes_word {s : String} (h : IsWord s) (htail : Breaks tail) :
  Lexes s.toList tail (wordKind s) s
  := by
  obtain ⟨c, more, hchars, hword, hdigit, hrun⟩ := h.exists_chars
  have hs : String.ofList (c :: more) = s := by rw [← hchars, String.ofList_toList]
  have hblank : isBlank c = false := by
    by_contra hblank
    rw [Bool.not_eq_false] at hblank
    have hpart := hrun c (by simp)
    rw [isWordPart_of_isBlank hblank] at hpart
    cases hpart
  have hpair : c ∉ ['&', '|', '=', '!', '<', '>'] := by
    intro hmem
    fin_cases hmem <;> cases hword
  have hquote : ¬ (c = '\'' ∨ c = '"') := by
    rintro (rfl | rfl) <;> cases hword
  have hend := htail.head? fun _ => isWordPart_of_isBlank
  use c, more, hchars, hblank
  rw [lexeme, no_pair hpair]
  simp only [hdigit, if_neg hquote, hword, if_true]
  rw [← List.cons_append, takeWhile_run hrun hend, dropWhile_run hrun hend, hs]
  rfl

theorem lexes_pair {kind : TokenKind} (h : pairOperator? c d = some kind)
    (hblank : isBlank c = false) (tail : List Char) :
  Lexes [c, d] tail kind (String.ofList [c, d])
  := by
  use c, [d], rfl, hblank
  rw [lexeme]
  simp [h]

theorem lexes_char {kind : TokenKind} (h : charOperator? c = some kind) (htail : Breaks tail) :
  Lexes [c] tail kind (String.singleton c)
  := by
  have hplain : isBlank c = false ∧ isDigit c = false ∧ ¬ (c = '\'' ∨ c = '"')
      ∧ isWordStart c = false := by
    unfold charOperator? at h
    split at h
    all_goals first | decide | cases h
  obtain ⟨hblank, hdigit, hquote, hword⟩ := hplain
  use c, [], rfl, hblank
  rw [List.nil_append, lexeme, pairOperator?_of_breaks htail]
  simp only [hdigit, if_neg hquote, hword, h]
  rfl

end Lexemes

/-! ### Spellings -/

/-- The word for a logical operator. -/
def conjunctionWord : LogicalOp → String
  | .and => "and"
  | .or => "or"

/-- The text is a spelling of the symbol. -/
def Symbol.Spells : Symbol → List Char → Prop
  | .int n, cs => cs = (toString n).toList
  | .text s, cs =>
    ∃ quote ds, (quote = '\'' ∨ quote = '"') ∧ Escaped quote s.toList ds
      ∧ cs = quote :: (ds ++ [quote])
  | .bool b, cs => cs = (toString b).toList
  | .word s, cs => cs = s.toList
  | .connective (.logical op), cs => cs = op.symbol.toList ∨ cs = (conjunctionWord op).toList
  | .connective (.binary op), cs => cs = op.symbol.toList
  | .not, cs => cs = "!".toList ∨ cs = "not".toList
  | .opening, cs => cs = "(".toList
  | .closing, cs => cs = ")".toList
  | .comma, cs => cs = ",".toList
  | .dot, cs => cs = ".".toList

/-- The number or the word of a symbol can be read. -/
def Symbol.Readable : Symbol → Prop
  | .int n => IsShort n
  | .word s => IsWord s
  | _ => True

theorem numberLiteral_toString {n : Nat} (h : IsShort n) :
  Parser.numberLiteral (toString n) = .ok (.int n)
  := by
  have hdot : (toString n).toList.contains '.' = false := by
    rw [List.contains_eq_mem, decide_eq_false_iff_not]
    intro hmem
    cases isDigit_of_mem_toString hmem
  rw [Parser.numberLiteral, hdot, readInt_toString h]
  rfl

/-- A spelling with a blank or nothing after it is cut off as one token, which is written for the
symbol. -/
theorem lexes_of_spells {s : Symbol} {cs tail : List Char} (h : s.Spells cs) (hs : s.Readable)
    (htail : Breaks tail) :
  ∃ kind text, Lexes cs tail kind text ∧ ∀ position, s.Matches ⟨kind, text, position⟩
  := by
  cases s with
  | int n =>
      cases h
      refine ⟨_, _, lexes_number (fun _ => isDigit_of_mem_toString) (toString_ne_nil n) htail, ?_⟩
      intro _
      rw [String.ofList_toList]
      exact ⟨rfl, numberLiteral_toString hs⟩
  | text s =>
      obtain ⟨quote, ds, hquote, hescaped, rfl⟩ := h
      refine ⟨_, _, lexes_text hquote hescaped tail, ?_⟩
      intro _
      exact ⟨rfl, String.ofList_toList⟩
  | bool b =>
      cases h
      refine ⟨_, _, lexes_word (by cases b <;> decide) htail, ?_⟩
      intro _
      cases b <;> rfl
  | word s =>
      cases h
      refine ⟨_, _, lexes_word hs htail, ?_⟩
      intro _
      exact ⟨rfl, rfl⟩
  | connective j =>
      cases j with
      | logical op =>
          obtain rfl | rfl := h
          · cases op <;> exact ⟨_, _, lexes_pair rfl rfl tail, fun _ => rfl⟩
          · cases op <;>
              exact ⟨_, _, lexes_word (by decide) htail, fun _ => rfl⟩
      | binary op =>
          cases h
          cases op with
          | eq | ne | le | ge => exact ⟨_, _, lexes_pair rfl rfl tail, fun _ => ⟨rfl, rfl⟩⟩
          | lt | gt | add | sub | mul | div | mod =>
              exact ⟨_, _, lexes_char rfl htail, fun _ => ⟨rfl, rfl⟩⟩
          | isIn => exact ⟨_, _, lexes_word (by decide) htail, fun _ => rfl⟩
  | not =>
      obtain rfl | rfl := h
      · refine ⟨_, _, lexes_char rfl htail, ?_⟩
        intro _
        rfl
      · refine ⟨_, _, lexes_word (by decide) htail, ?_⟩
        intro _
        rfl
  | opening | closing | comma | dot =>
      cases h
      refine ⟨_, _, lexes_char rfl htail, ?_⟩
      intro _
      rfl

/-! ### Texts of symbols -/

/-- The text is made of spellings of the symbols, with a blank or more between two of them and any
blanks before the first and after the last. -/
inductive Spaced : List Symbol → List Char → Prop where
  | nil {gap : List Char} (hgap : ∀ c ∈ gap, isBlank c = true) : Spaced [] gap
  | cons {s : Symbol} {ss : List Symbol} {gap cs tail : List Char}
      (hgap : ∀ c ∈ gap, isBlank c = true) (hspells : s.Spells cs) (hbreaks : Breaks tail)
      (rest : Spaced ss tail) :
    Spaced (s :: ss) (gap ++ (cs ++ tail))

/-- Blanks between tokens are skipped. -/
theorem scan_gap {gap : List Char} (hgap : ∀ c ∈ gap, isBlank c = true) (total fuel : Nat)
    (cs : List Char) :
  scan total (gap.length + fuel) (gap ++ cs) = scan total fuel cs
  := by
  induction gap with
  | nil => rw [List.length_nil, Nat.zero_add, List.nil_append]
  | cons c gap ih =>
      obtain ⟨hc, hgap⟩ := List.forall_mem_cons.mp hgap
      rw [List.length_cons, Nat.add_right_comm, List.cons_append, scan, if_pos hc, ih hgap]

theorem scan_nil (total fuel : Nat) :
  scan total fuel [] = .ok [⟨.endOfText, "", total⟩]
  := by
  cases fuel <;> rfl

theorem scan_lexes {cs tail : List Char} {kind : TokenKind} {text : String}
    (h : Lexes cs tail kind text) {total fuel : Nat} {ts : List Token}
    (hscan : scan total fuel tail = .ok ts) :
  ∃ position, scan total (fuel + 1) (cs ++ tail) = .ok (⟨kind, text, position⟩ :: ts)
  := by
  obtain ⟨c, more, rfl, hblank, hlexeme⟩ := h
  use total - ((more ++ tail).length + 1)
  rw [List.cons_append, scan, if_neg (by rw [hblank]; simp), hlexeme]
  simp only [hscan]

/-- A text of spellings is cut into tokens that are written for the symbols. -/
theorem scan_of_spaced {ss : List Symbol} {cs : List Char} (h : Spaced ss cs)
    (hss : ∀ s ∈ ss, s.Readable) (total : Nat) {fuel : Nat} (hfuel : cs.length < fuel) :
  ∃ ts, scan total fuel cs = .ok (ts ++ [⟨.endOfText, "", total⟩]) ∧ Writes ss ts
  := by
  induction h generalizing fuel with
  | @nil gap hgap =>
      obtain ⟨left, rfl⟩ := Nat.exists_eq_add_of_le (Nat.le_of_lt hfuel)
      refine ⟨[], ?_, .nil⟩
      have hscan := scan_gap hgap total left []
      rwa [List.append_nil, scan_nil] at hscan
  | @cons s ss gap cs tail hgap hspells hbreaks _ ih =>
      obtain ⟨hs, hss⟩ := List.forall_mem_cons.mp hss
      obtain ⟨kind, text, hlexes, hmatches⟩ := lexes_of_spells hspells hs hbreaks
      have hcs : cs.length ≠ 0 := by
        obtain ⟨c, more, rfl, -⟩ := hlexes
        simp
      simp only [List.length_append] at hfuel
      obtain ⟨left, rfl⟩ : ∃ left, fuel = gap.length + (left + 1) :=
        ⟨fuel - gap.length - 1, by omega⟩
      obtain ⟨ts, hscan, hwrites⟩ := ih hss (show tail.length < left by omega)
      obtain ⟨position, hfirst⟩ := scan_lexes hlexes hscan
      use ⟨kind, text, position⟩ :: ts
      rw [scan_gap hgap, hfirst]
      exact ⟨rfl, .cons (hmatches position) hwrites⟩

theorem tokenize_of_spaced {ss : List Symbol} {text : String} (h : Spaced ss text.toList)
    (hss : ∀ s ∈ ss, s.Readable) :
  ∃ ts u, tokenize text = .ok (ts ++ [u]) ∧ Writes ss ts ∧ u.kind = .endOfText
  := by
  obtain ⟨ts, hscan, hwrites⟩ := scan_of_spaced h hss text.toList.length (Nat.lt_succ_self _)
  refine ⟨ts, ⟨.endOfText, "", text.toList.length⟩, ?_, hwrites, rfl⟩
  simp only [tokenize, hscan]

end Grammar

end AccessControl
