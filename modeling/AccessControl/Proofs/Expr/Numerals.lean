import AccessControl.Expr.Parser
import AccessControl.Proofs.Number.Decimal

/-!
# Numerals that cannot be read

Parsing fails because of the grammar, or because of a numeral: a token that the lexer takes for
a number may be none that can be read.  Nothing else fails.  The parsers are followed from the
primaries up; each leaves tokens at the end of those that it is given, and complains of a numeral
only if one of these tokens cannot be read.
-/

namespace AccessControl

namespace Parser

/-- Some token is a number that cannot be read. -/
def Unreadable (ts : List Token) (error : NumeralError) : Prop :=
  ∃ t ∈ ts, t.kind = .number ∧ numberLiteral t.text = .error error

theorem Unreadable.widen
    {ts ts' : List Token} {error : NumeralError} (h : Unreadable ts error) (hts : ts <:+ ts') :
  Unreadable ts' error
  := by
  obtain ⟨t, ht, hnumber⟩ := h
  exact ⟨t, hts.subset ht, hnumber⟩

/-- What a parser gives is accounted for by its tokens: what is left stands at their end, and a
numeral that cannot be read is among them. -/
structure Accounted {α : Type} (ts : List Token) (r : Except ParseFault (α × List Token)) :
    Prop where
  suffix : ∀ a rest, r = .ok (a, rest) → rest <:+ ts
  numeral : ∀ error, r = .error (.numeral error) → Unreadable ts error

namespace Accounted

variable {α β : Type} {ts ts' rest : List Token} {r : Except ParseFault (α × List Token)}

theorem ok (a : α) (h : rest <:+ ts) :
  Accounted ts (.ok (a, rest))
  := by
  constructor
  · intro b rest' heq
    cases heq
    apply h
  · intro error heq
    cases heq

theorem fail (fault : GrammarFault) (position : List Token) :
  Accounted ts (Parser.fail fault position : Except ParseFault (α × List Token))
  := by
  constructor
  · intro a rest heq
    cases heq
  · intro error heq
    cases heq

/-- A fault is accounted for wherever it is passed on. -/
theorem error {e : ParseFault} (h : Accounted ts r) (hr : r = .error e) :
  Accounted ts (.error e : Except ParseFault (β × List Token))
  := by
  constructor
  · intro a rest heq
    cases heq
  · intro error heq
    cases heq
    apply h.numeral error hr

theorem widen (h : Accounted ts r) (hts : ts <:+ ts') :
  Accounted ts' r
  := by
  constructor
  · intro a rest hr
    apply (h.suffix a rest hr).trans hts
  · intro error hr
    apply (h.numeral error hr).widen hts

theorem map (h : Accounted ts r) (f : α → β) :
  Accounted ts (r.map fun (a, rest) => (f a, rest))
  := by
  cases hr : r with
  | error e => apply h.error hr
  | ok found =>
      obtain ⟨a, rest⟩ := found
      apply ok
      apply h.suffix a rest hr

end Accounted

/-- Whatever a parser gives is accounted for by its tokens. -/
def Accounts {α : Type} (p : Parser α) : Prop := ∀ ts, Accounted ts (p ts)

/-! ### Levels -/

theorem close_accounts (what : String) :
  Accounts (close what)
  := by
  intro ts
  cases ts with
  | nil => apply Accounted.fail
  | cons t ts =>
      rw [close]
      by_cases hclosing : t.kind = .closing
      · rw [if_pos hclosing]
        apply Accounted.ok
        apply List.suffix_cons
      · rw [if_neg hclosing]
        apply Accounted.fail

section Levels

variable (op? : Token → Option (Expr → Expr → Expr)) {operand : Parser Expr}
  (hoperand : Accounts operand)

include hoperand

theorem chainFrom_accounts (fuel : Nat) (left : Expr) :
  Accounts (chainFrom op? operand fuel left)
  := by
  induction fuel generalizing left with
  | zero =>
      intro ts
      apply Accounted.ok
      apply List.suffix_rfl
  | succ fuel ih =>
      rintro (_ | ⟨t, ts⟩)
      · apply Accounted.ok
        apply List.suffix_rfl
      · rw [chainFrom]
        cases op? t with
        | none =>
            apply Accounted.ok
            apply List.suffix_rfl
        | some join =>
            dsimp only
            have hts := List.suffix_cons t ts
            cases hr : operand ts with
            | error e => apply ((hoperand ts).error hr).widen hts
            | ok found =>
                obtain ⟨right, rest⟩ := found
                apply (ih (join left right) rest).widen
                apply ((hoperand ts).suffix right rest hr).trans hts

theorem chain_accounts :
  Accounts (chain op? operand)
  := by
  intro ts
  rw [chain]
  cases hr : operand ts with
  | error e => apply (hoperand ts).error hr
  | ok found =>
      obtain ⟨left, rest⟩ := found
      apply (chainFrom_accounts op? hoperand rest.length left rest).widen
      apply (hoperand ts).suffix left rest hr

theorem atMostOne_accounts :
  Accounts (atMostOne op? operand)
  := by
  intro ts
  rw [atMostOne]
  cases hr : operand ts with
  | error e => apply (hoperand ts).error hr
  | ok found =>
      obtain ⟨left, rest⟩ := found
      have hrest := (hoperand ts).suffix left rest hr
      cases rest with
      | nil => apply Accounted.ok left hrest
      | cons t rest =>
          dsimp only
          cases op? t with
          | none => apply Accounted.ok left hrest
          | some join =>
              have hrest := (List.suffix_cons t rest).trans hrest
              dsimp only
              cases hr' : operand rest with
              | error e => apply ((hoperand rest).error hr').widen hrest
              | ok found =>
                  obtain ⟨right, rest'⟩ := found
                  apply Accounted.ok
                  apply ((hoperand rest).suffix right rest' hr').trans hrest

theorem prefixed_accounts (fuel : Nat) :
  Accounts (prefixed operand fuel)
  := by
  induction fuel with
  | zero => apply hoperand
  | succ fuel ih =>
      rintro (_ | ⟨t, ts⟩)
      · apply hoperand
      · rw [prefixed]
        cases prefixOp? t with
        | none => apply hoperand
        | some op =>
            dsimp only
            have hts := List.suffix_cons t ts
            cases hr : prefixed operand fuel ts with
            | error e => apply ((ih ts).error hr).widen hts
            | ok found =>
                obtain ⟨e, rest⟩ := found
                apply Accounted.ok
                apply ((ih ts).suffix e rest hr).trans hts

end Levels

/-! ### Primaries -/

section Primaries

variable {inner : Parser Expr} (hinner : Accounts inner)

include hinner

theorem moreItems_accounts (fuel : Nat) :
  Accounts (moreItems inner fuel)
  := by
  induction fuel with
  | zero =>
      intro ts
      apply Accounted.ok
      apply List.suffix_rfl
  | succ fuel ih =>
      rintro (_ | ⟨t, ts⟩)
      · apply Accounted.ok
        apply List.suffix_rfl
      · rw [moreItems]
        by_cases hcomma : t.kind = .comma
        · rw [if_pos hcomma]
          have hts := List.suffix_cons t ts
          cases hr : inner ts with
          | error e => apply ((hinner ts).error hr).widen hts
          | ok found =>
              obtain ⟨e, rest⟩ := found
              have hrest := ((hinner ts).suffix e rest hr).trans hts
              dsimp only
              cases hmore : moreItems inner fuel rest with
              | error e => apply ((ih rest).error hmore).widen hrest
              | ok found =>
                  obtain ⟨es, rest'⟩ := found
                  apply Accounted.ok
                  apply ((ih rest).suffix es rest' hmore).trans hrest
        · rw [if_neg hcomma]
          apply Accounted.ok
          apply List.suffix_rfl

theorem items_accounts :
  Accounts (items inner)
  := by
  intro ts
  rw [items]
  cases hr : inner ts with
  | error e => apply (hinner ts).error hr
  | ok found =>
      obtain ⟨e, rest⟩ := found
      have hrest := (hinner ts).suffix e rest hr
      have hmany := moreItems_accounts hinner rest.length rest
      dsimp only
      cases hmore : moreItems inner rest.length rest with
      | error e => apply (hmany.error hmore).widen hrest
      | ok found =>
          obtain ⟨es, rest'⟩ := found
          apply Accounted.ok
          apply (hmany.suffix es rest' hmore).trans hrest

theorem group_accounts :
  Accounts (group inner)
  := by
  intro ts
  rw [group]
  by_cases hclosing : nextKind ts = .closing
  · rw [if_pos hclosing]
    apply Accounted.ok
    apply List.drop_suffix
  · rw [if_neg hclosing]
    cases hr : items inner ts with
    | error e => apply (items_accounts hinner ts).error hr
    | ok found =>
        obtain ⟨es, rest⟩ := found
        have hrest := (items_accounts hinner ts).suffix es rest hr
        have hclose := fun what => (close_accounts what rest).widen hrest
        -- the closing parenthesis is asked for in other words after a tuple
        rcases es with _ | ⟨e, _ | ⟨e', es⟩⟩
        · apply (hclose "Expected ')' after tuple").map fun _ => Expr.tuple []
        · apply (hclose "Expected ')'").map fun _ => e
        · apply (hclose "Expected ')' after tuple").map fun _ => Expr.tuple (e :: e' :: es)

theorem arguments_accounts (function : String) :
  Accounts (arguments inner function)
  := by
  intro ts
  rw [arguments]
  by_cases hclosing : nextKind ts = .closing
  · rw [if_pos hclosing]
    apply Accounted.ok
    apply List.drop_suffix
  · rw [if_neg hclosing]
    cases hr : items inner ts with
    | error e => apply (items_accounts hinner ts).error hr
    | ok found =>
        obtain ⟨es, rest⟩ := found
        have hrest := (items_accounts hinner ts).suffix es rest hr
        apply ((close_accounts _ rest).widen hrest).map fun _ => Expr.call function es

omit hinner in
theorem pathNames_accounts :
  Accounts pathNames
  := by
  intro ts
  induction ts using pathNames.induct with
  | case1 _ _ t rest hname ih =>
      rw [pathNames, if_pos hname]
      apply (ih.map (t.text :: ·)).widen
      exact (List.suffix_cons t rest).trans (List.suffix_cons _ _)
  | case2 _ _ t rest hname =>
      rw [pathNames, if_neg hname]
      apply Accounted.fail
  | case3 ts hother =>
      rw [pathNames]
      · apply Accounted.ok
        apply List.suffix_rfl
      · apply hother

omit hinner in
theorem reference_accounts (head : String) :
  Accounts (reference head)
  := by
  intro ts
  rw [reference]
  cases hr : pathNames ts with
  | error e => apply (pathNames_accounts ts).error hr
  | ok found =>
      obtain ⟨names, rest⟩ := found
      have hrest := (pathNames_accounts ts).suffix names rest hr
      dsimp only
      by_cases hopening : nextKind rest = .opening
      · rw [if_pos hopening]
        apply Accounted.fail
      · rw [if_neg hopening]
        cases names with
        | nil => apply Accounted.ok _ hrest
        | cons name attributes => apply Accounted.ok _ hrest

/-- The number tokens are where a numeral is read. -/
theorem primary_accounts :
  Accounts (primary inner)
  := by
  rintro (_ | ⟨t, ts⟩)
  · apply Accounted.fail
  · have hts := List.suffix_cons t ts
    rw [primary]
    split
    case h_1 hnumber =>
      cases hread : numberLiteral t.text with
      | ok l => apply Accounted.ok _ hts
      | error e =>
          constructor
          · intro a rest heq
            cases heq
          · intro error heq
            cases heq
            exact ⟨t, List.mem_cons_self, hnumber, hread⟩
    case h_2 => apply Accounted.ok _ hts
    case h_3 => apply Accounted.ok _ hts
    case h_4 => apply Accounted.ok _ hts
    case h_5 => apply (group_accounts hinner ts).widen hts
    case h_6 =>
      split
      · apply (arguments_accounts hinner t.text (ts.drop 1)).widen
        apply (List.drop_suffix 1 ts).trans hts
      · apply (reference_accounts t.text ts).widen hts
    case h_7 => apply Accounted.fail

theorem levels_accounts :
  Accounts (levels inner)
  := by
  apply chain_accounts
  apply chain_accounts
  apply atMostOne_accounts
  apply chain_accounts
  apply chain_accounts
  intro ts
  apply prefixed_accounts (primary_accounts hinner)

end Primaries

theorem expression_accounts (depth : Nat) :
  Accounts (expression depth)
  := by
  induction depth with
  | zero =>
      intro ts
      apply Accounted.fail
  | succ depth ih => apply levels_accounts ih

/-- A tree is not refused for a numeral unless one of the tokens cannot be read. -/
theorem unreadable_of_wholeExpression
    {ts : List Token} {error : NumeralError} (h : wholeExpression ts = .error (.numeral error)) :
  Unreadable ts error
  := by
  rw [wholeExpression] at h
  split at h
  · cases h
  · cases hr : expression (ts.length + 1) ts with
    | error e =>
        rw [hr] at h
        cases h
        apply (expression_accounts (ts.length + 1) ts).numeral error hr
    | ok found =>
        obtain ⟨e, rest⟩ := found
        rw [hr] at h
        dsimp only at h
        split at h <;> cases h

end Parser

/-! ### Tokens of a text -/

namespace Token

theorem spanText_suffix {quote : Char} {cs found tail : List Char}
    (h : spanText quote cs = some (found, tail)) :
  tail <:+ cs
  := by
  induction cs using spanText.induct quote generalizing found with
  | case1 => cases h
  | case2 e rest ih =>
      rw [spanText] at h
      obtain ⟨⟨found', tail'⟩, hrest, heq⟩ := Option.map_eq_some_iff.mp h
      cases heq
      exact (ih hrest).trans ((List.suffix_cons e rest).trans (List.suffix_cons _ _))
  | case3 rest hslash =>
      rw [spanText.eq_3 _ _ _ hslash, if_pos rfl] at h
      cases h
      apply List.suffix_cons
  | case4 c rest hslash hplain ih =>
      rw [spanText.eq_3 _ _ _ hslash, if_neg hplain] at h
      obtain ⟨⟨found', tail'⟩, hrest, heq⟩ := Option.map_eq_some_iff.mp h
      cases heq
      exact (ih hrest).trans (List.suffix_cons c rest)

/-- A number is digits, or digits on both sides of a point, at the start of a text. -/
theorem spanNumber_spec (cs : List Char) :
  (spanNumber cs).1 ++ (spanNumber cs).2 = cs ∧
    ((spanNumber cs).1 = cs.takeWhile isDigit ∨
      ∃ frac, frac ≠ [] ∧ (∀ d ∈ frac, isDigit d = true) ∧
        (spanNumber cs).1 = cs.takeWhile isDigit ++ '.' :: frac)
  := by
  have hwhole := List.takeWhile_append_dropWhile (p := isDigit) (l := cs)
  rw [spanNumber]
  split
  case h_1 d rest hdrop =>
    rw [hdrop] at hwhole
    by_cases hd : isDigit d = true
    · rw [if_pos hd]
      constructor
      · rw [List.append_assoc, List.cons_append, List.takeWhile_append_dropWhile, hwhole]
      · right
        refine ⟨(d :: rest).takeWhile isDigit, ?_, ?_, rfl⟩
        · rw [List.takeWhile_cons_of_pos hd]
          simp
        · intro c hc
          apply List.mem_takeWhile_imp hc
    · rw [if_neg hd]
      exact ⟨hwhole, .inl rfl⟩
  case h_2 => exact ⟨hwhole, .inl rfl⟩

/-- How the lexer takes a token off the front of the text `c :: rest`, in the order in which it
tries: a pair of signs, a number, a text, a word, a single sign. -/
inductive Taken (c : Char) : List Char → TokenKind → String → List Char → Prop where
  | pair {d : Char} {tail : List Char} {kind : TokenKind} (hkind : pairOperator? c d = some kind) :
    Taken c (d :: tail) kind (String.ofList [c, d]) tail
  | number {rest : List Char} (hpair : rest.head?.bind (pairOperator? c) = none)
      (hdigit : isDigit c = true) :
    Taken c rest .number (String.ofList (spanNumber (c :: rest)).1) (spanNumber (c :: rest)).2
  | text {rest found tail : List Char} (hpair : rest.head?.bind (pairOperator? c) = none)
      (hdigit : ¬ isDigit c = true) (hquote : c = '\'' ∨ c = '"')
      (hspan : spanText c rest = some (found, tail)) :
    Taken c rest .text (String.ofList found) tail
  | word {rest : List Char} (hpair : rest.head?.bind (pairOperator? c) = none)
      (hdigit : ¬ isDigit c = true) (hquote : ¬ (c = '\'' ∨ c = '"'))
      (hword : isWordStart c = true) :
    Taken c rest (wordKind (String.ofList ((c :: rest).takeWhile isWordPart)))
      (String.ofList ((c :: rest).takeWhile isWordPart)) ((c :: rest).dropWhile isWordPart)
  | sign {rest : List Char} {kind : TokenKind}
      (hpair : rest.head?.bind (pairOperator? c) = none) (hdigit : ¬ isDigit c = true)
      (hquote : ¬ (c = '\'' ∨ c = '"')) (hword : ¬ isWordStart c = true)
      (hkind : charOperator? c = some kind) :
    Taken c rest kind (String.singleton c) rest

theorem lexeme_taken {c : Char} {rest tail : List Char} {kind : TokenKind} {text : String}
    (h : lexeme c rest = .ok (kind, text, tail)) :
  Taken c rest kind text tail
  := by
  rw [lexeme] at h
  split at h
  case h_1 hpair =>
    cases h
    obtain ⟨d, hd, hkind⟩ := Option.bind_eq_some_iff.mp hpair
    obtain ⟨rest, rfl⟩ := List.head?_eq_some_iff.mp hd
    exact .pair hkind
  case h_2 hpair =>
    split at h
    case isTrue hdigit =>
      cases h
      exact .number hpair hdigit
    case isFalse hdigit =>
      split at h
      case isTrue hquote =>
        split at h
        case h_1 hspan =>
          cases h
          exact .text hpair hdigit hquote hspan
        case h_2 => cases h
      case isFalse hquote =>
        split at h
        case isTrue hword =>
          cases h
          exact .word hpair hdigit hquote hword
        case isFalse hword =>
          split at h
          case h_1 hkind =>
            cases h
            exact .sign hpair hdigit hquote hword hkind
          case h_2 => cases h

/-- A token is taken off the front of a text. -/
theorem lexeme_suffix {c : Char} {rest tail : List Char} {kind : TokenKind} {text : String}
    (h : lexeme c rest = .ok (kind, text, tail)) :
  tail <:+ c :: rest
  := by
  cases lexeme_taken h with
  | pair => exact (List.suffix_cons _ _).trans (List.suffix_cons _ _)
  | number => exact ⟨_, (spanNumber_spec (c :: rest)).1⟩
  | text _ _ _ hspan => exact (spanText_suffix hspan).trans (List.suffix_cons c rest)
  | word => apply List.dropWhile_suffix
  | sign => apply List.suffix_cons

theorem pairOperator?_ne {c d : Char} {kind : TokenKind} (h : pairOperator? c d = some kind) :
  kind ≠ .number ∧ kind ≠ .endOfText
  := by
  unfold pairOperator? at h
  split at h
  all_goals first | cases h; decide | cases h

theorem charOperator?_ne {c : Char} {kind : TokenKind} (h : charOperator? c = some kind) :
  kind ≠ .number ∧ kind ≠ .endOfText
  := by
  unfold charOperator? at h
  split at h
  all_goals first | cases h; decide | cases h

/-- A word is a keyword or a name. -/
theorem wordKind_ne {word : String} {kind : TokenKind}
    (h : kind ∉ [.and, .or, .not, .isIn, .isTrue, .isFalse, .name]) :
  wordKind word ≠ kind
  := by
  unfold wordKind
  split_ifs
  all_goals
    rintro rfl
    simp at h

/-- What is taken for a number starts with a digit. -/
theorem lexeme_number {c : Char} {rest tail : List Char} {text : String}
    (h : lexeme c rest = .ok (.number, text, tail)) :
  isDigit c = true ∧ text = String.ofList (spanNumber (c :: rest)).1
  := by
  generalize hnumber : TokenKind.number = kind at h
  cases lexeme_taken h with
  | pair hkind => exact absurd hnumber.symm (pairOperator?_ne hkind).1
  | number _ hdigit => exact ⟨hdigit, rfl⟩
  | text => cases hnumber
  | word => exact absurd hnumber.symm (wordKind_ne (by decide))
  | sign _ _ _ _ hkind => exact absurd hnumber.symm (charOperator?_ne hkind).1

/-- The number tokens of a text are numbers at the start of parts of it. -/
theorem scan_number {total fuel : Nat} {cs : List Char} {ts : List Token}
    (h : scan total fuel cs = .ok ts) {t : Token} (ht : t ∈ ts) (hnumber : t.kind = .number) :
  ∃ c rest, c :: rest <:+ cs ∧ isDigit c = true ∧
    t.text = String.ofList (spanNumber (c :: rest)).1
  := by
  induction fuel generalizing cs ts with
  | zero =>
      cases h
      cases List.mem_singleton.mp ht
      cases hnumber
  | succ fuel ih =>
      cases cs with
      | nil =>
          cases h
          cases List.mem_singleton.mp ht
          cases hnumber
      | cons c rest =>
          rw [scan] at h
          split at h
          · obtain ⟨d, more, hsuffix, hd⟩ := ih h ht
            exact ⟨d, more, hsuffix.trans (List.suffix_cons c rest), hd⟩
          · cases hlex : lexeme c rest with
            | error fault =>
                rw [hlex] at h
                cases h
            | ok found =>
                obtain ⟨kind, text, tail⟩ := found
                rw [hlex] at h
                dsimp only at h
                cases hscan : scan total fuel tail with
                | error e =>
                    rw [hscan] at h
                    cases h
                | ok tokens =>
                    rw [hscan] at h
                    cases h
                    obtain rfl | ht := List.mem_cons.mp ht
                    · cases hnumber
                      exact ⟨c, rest, List.suffix_rfl, lexeme_number hlex⟩
                    · obtain ⟨d, more, hsuffix, hd⟩ := ih hscan ht
                      exact ⟨d, more, hsuffix.trans (lexeme_suffix hlex), hd⟩

end Token

/-! ### Texts -/

/-- A number token whose digits are decimal, and no more than an integer may have, is read. -/
theorem Parser.numberLiteral_of_decimal
    {c : Char} {rest : List Char} (hc : isDigit c = true)
    (hdecimal : ∀ d ∈ (Token.spanNumber (c :: rest)).1, isDigit d = true → isDecimal d = true)
    (hlength : (Token.spanNumber (c :: rest)).1.length ≤ maxDigits) :
  ∃ l, numberLiteral (String.ofList (Token.spanNumber (c :: rest)).1) = .ok l
  := by
  have hsome : (c :: rest).takeWhile isDigit ≠ [] := by
    rw [List.takeWhile_cons_of_pos hc]
    simp
  have hdigits : ∀ d ∈ (c :: rest).takeWhile isDigit, isDigit d = true :=
    fun d hd => List.mem_takeWhile_imp hd
  rw [numberLiteral, String.toList_ofList]
  obtain hspan | ⟨frac, hfrac, hfracDigits, hspan⟩ := (Token.spanNumber_spec (c :: rest)).2
  · rw [hspan] at hdecimal hlength ⊢
    have hdot : ((c :: rest).takeWhile isDigit).contains '.' = false := by
      rw [List.contains_eq_mem, decide_eq_false_iff_not]
      intro hmem
      cases hdigits '.' hmem
    obtain ⟨z, hz⟩ := readInt_of_decimal (fun d hd => hdecimal d hd (hdigits d hd)) hsome hlength
    rw [hdot, hz]
    exact ⟨_, rfl⟩
  · rw [hspan] at hdecimal ⊢
    have hwhole : ∀ d ∈ (c :: rest).takeWhile isDigit, isDecimal d = true :=
      fun d hd => hdecimal d (List.mem_append_left _ hd) (hdigits d hd)
    have hfracWhole : ∀ d ∈ frac, isDecimal d = true := by
      intro d hd
      apply hdecimal d _ (hfracDigits d hd)
      apply List.mem_append_right _ (List.mem_cons_of_mem _ hd)
    obtain ⟨x, hx⟩ := readFloat_of_decimal hwhole hsome hfracWhole hfrac
    rw [if_pos (by simp), hx]
    exact ⟨_, rfl⟩

/-- A failure is the host's complaint about a numeral of a text that cannot be read. -/
def Expr.NumeralFails (source : String) (failure : Failure) : Prop :=
  ∃ tokens error, tokenize source = .ok tokens ∧ Parser.Unreadable tokens error ∧
    failure = .ofHost .value error.message

/-- A text has a numeral that cannot be read only if it has a digit that belongs to no decimal
script, or more characters than an integer may have digits. -/
theorem Expr.NumeralFails.strange {source : String} {failure : Failure}
    (h : NumeralFails source failure) :
  (∃ c ∈ source.toList, isDigit c = true ∧ isDecimal c = false) ∨
    maxDigits < source.toList.length
  := by
  obtain ⟨tokens, error, htokens, ⟨t, ht, hnumber, hread⟩, -⟩ := h
  have hscan : Token.scan source.toList.length (source.toList.length + 1) source.toList
      = .ok tokens := by
    rw [tokenize] at htokens
    split at htokens
    case h_1 hscan => rwa [← Except.ok.inj htokens]
    case h_2 => cases htokens
  obtain ⟨c, rest, hsuffix, hc, htext⟩ := Token.scan_number hscan ht hnumber
  have hstart : (Token.spanNumber (c :: rest)).1 <+: c :: rest :=
    ⟨_, (Token.spanNumber_spec (c :: rest)).1⟩
  by_contra hplain
  rw [not_or, not_lt] at hplain
  obtain ⟨hplain, hshort⟩ := hplain
  obtain ⟨l, hl⟩ : ∃ l, Parser.numberLiteral t.text = .ok l := by
    rw [htext]
    apply Parser.numberLiteral_of_decimal hc
    · intro d hd hdigit
      by_contra hother
      apply hplain
      exact ⟨d, hsuffix.subset (hstart.subset hd), hdigit, Bool.eq_false_of_not_eq_true hother⟩
    · exact (hstart.length_le.trans hsuffix.length_le).trans hshort
  rw [hl] at hread
  cases hread

/-- A text is no expression because of the grammar or because of a numeral. -/
theorem Expr.parse_eq_error {source : String} {failure : Failure}
    (h : Expr.parse source = .error failure) :
  (∃ fault position, failure = .grammar fault source position) ∨ NumeralFails source failure
  := by
  rw [Expr.parse] at h
  cases htokens : tokenize source with
  | error e =>
      rw [htokens] at h
      cases h
      rw [tokenize] at htokens
      split at htokens
      case h_1 => cases htokens
      case h_2 fault position _ =>
        cases htokens
        exact .inl ⟨fault, position, rfl⟩
  | ok tokens =>
      rw [htokens] at h
      dsimp only at h
      cases hwhole : Parser.wholeExpression tokens with
      | ok e =>
          rw [hwhole] at h
          cases h
      | error fault =>
          rw [hwhole] at h
          cases h
          cases fault with
          | grammar fault position => exact .inl ⟨fault, position, rfl⟩
          | numeral error =>
              right
              exact ⟨tokens, error, htokens, Parser.unreadable_of_wholeExpression hwhole, rfl⟩

end AccessControl
