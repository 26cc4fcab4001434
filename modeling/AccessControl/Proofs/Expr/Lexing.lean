import AccessControl.Proofs.Expr.Numerals
import AccessControl.Proofs.Expr.Spelling

/-!
# Boundaries between tokens

What stands behind a token decides where it ends, but only by its first two characters.  The
relation `Token.EndsAlike` between two texts says that a token that ends before one of them ends
before the other; and `Token.Scans.split` says that the tokens before any token are cut off in the
same way when another text that ends them alike follows.
-/

namespace AccessControl

namespace Token

open Grammar (Breaks dropWhile_run isWordPart_of_isWordStart pairOperator?_of_breaks takeWhile_run)

/-! ### What ends a token -/

/-- The text starts with a point and a digit, which a number before it takes. -/
def StartsFraction (tail : List Char) : Prop := ∃ d rest, tail = '.' :: d :: rest ∧ isDigit d = true

theorem not_startsFraction_of_breaks {tail : List Char} (h : Breaks tail) :
  ¬ StartsFraction tail
  := by
  rintro ⟨d, rest, rfl, -⟩
  cases h '.' rfl

/-- A token that ends before `tail` ends before `tail'`: this one breaks it off or starts with the
same character, and starts a fraction only if the other one does. -/
structure EndsAlike (tail tail' : List Char) : Prop where
  head : Breaks tail' ∨ tail'.head? = tail.head?
  fraction : StartsFraction tail' → StartsFraction tail

namespace EndsAlike

variable {tail tail' : List Char}

theorem of_breaks (h : Breaks tail') :
  EndsAlike tail tail'
  := ⟨.inl h, fun hfraction => absurd hfraction (not_startsFraction_of_breaks h)⟩

theorem nil (tail : List Char) :
  EndsAlike tail []
  := of_breaks nofun

/-- Blanks may be put in front. -/
theorem gap {blanks : List Char} (h : ∀ c ∈ blanks, isBlank c = true) (tail : List Char) :
  EndsAlike tail (blanks ++ tail)
  := by
  cases blanks with
  | nil => exact ⟨.inr rfl, id⟩
  | cons c blanks =>
      apply of_breaks
      intro d hd
      cases hd
      apply h c List.mem_cons_self

/-- The same text may be put in front of both. -/
theorem append (xs : List Char) (h : EndsAlike tail tail') :
  EndsAlike (xs ++ tail) (xs ++ tail')
  := by
  match xs with
  | [] => exact h
  | [c] =>
      use .inr rfl
      rintro ⟨d, rest, heq, hd⟩
      obtain ⟨rfl, rfl⟩ := List.cons.inj heq
      -- a digit is no blank, so it starts the other text, too
      obtain hbreaks | hhead := h.head
      · rw [isDigit_of_isBlank (hbreaks d rfl)] at hd
        cases hd
      · obtain ⟨more, rfl⟩ := List.head?_eq_some_iff.mp hhead.symm
        exact ⟨d, more, rfl, hd⟩
  | c :: d :: xs =>
      use .inr rfl
      rintro ⟨e, rest, heq, he⟩
      rw [List.cons_append, List.cons_append, List.cons.injEq, List.cons.injEq] at heq
      obtain ⟨rfl, rfl, -⟩ := heq
      exact ⟨d, xs ++ tail, rfl, he⟩

/-- What ends a run of characters of a class that blanks are not of. -/
theorem head? (h : EndsAlike tail tail') {p : Char → Bool}
    (hp : ∀ c, isBlank c = true → p c = false) (htail : ∀ c ∈ tail.head?, p c = false) :
  ∀ c ∈ tail'.head?, p c = false
  := by
  obtain hbreaks | hhead := h.head
  · apply Breaks.head? hp hbreaks
  · rw [hhead]
    apply htail

end EndsAlike

/-! ### Tokens that end alike -/

section Lexemes

variable {cs found tail : List Char}

/-- A quoted text ends at its quote, whatever follows. -/
theorem spanText_append {quote : Char} (hquote : quote ≠ '\\')
    (h : spanText quote cs = some (found, tail)) :
  ∃ more, cs = more ++ tail ∧ ∀ tail', spanText quote (more ++ tail') = some (found, tail')
  := by
  induction cs using spanText.induct quote generalizing found with
  | case1 => cases h
  | case2 e rest ih =>
      rw [spanText] at h
      obtain ⟨⟨found', _⟩, hrest, heq⟩ := Option.map_eq_some_iff.mp h
      cases heq
      obtain ⟨more, rfl, hmore⟩ := ih hrest
      use '\\' :: e :: more, rfl
      intro tail'
      rw [List.cons_append, List.cons_append, spanText, hmore]
      rfl
  | case3 rest hslash =>
      rw [spanText.eq_3 _ _ _ hslash, if_pos rfl] at h
      cases h
      use [quote], rfl
      intro tail'
      rw [List.singleton_append, spanText.eq_3 _ _ _ fun _ _ heq => absurd heq hquote, if_pos rfl]
  | case4 c rest hslash hplain ih =>
      rw [spanText.eq_3 _ _ _ hslash, if_neg hplain] at h
      obtain ⟨⟨found', _⟩, hrest, heq⟩ := Option.map_eq_some_iff.mp h
      cases heq
      have hc : c ≠ '\\' := by
        -- a backslash at the end is not closed
        rintro rfl
        cases rest with
        | nil => cases hrest
        | cons e rest => exact hslash e rest rfl rfl
      obtain ⟨more, rfl, hmore⟩ := ih hrest
      use c :: more, rfl
      intro tail'
      rw [List.cons_append, spanText.eq_3 _ _ _ fun _ _ heq => absurd heq hc, if_neg hplain, hmore]
      rfl

/-- Digits without a fraction after them are a number. -/
theorem spanNumber_digits (hcs : ∀ c ∈ cs, isDigit c = true)
    (htail : ∀ c ∈ tail.head?, isDigit c = false) (hfraction : ¬ StartsFraction tail) :
  spanNumber (cs ++ tail) = (cs, tail)
  := by
  rw [spanNumber, takeWhile_run hcs htail, dropWhile_run hcs htail]
  split
  case h_1 d rest =>
    rw [if_neg]
    intro hd
    exact hfraction ⟨d, rest, rfl, hd⟩
  case h_2 => rfl

/-- Digits on both sides of a point are a number. -/
theorem spanNumber_fraction {fraction : List Char} (hcs : ∀ c ∈ cs, isDigit c = true)
    (hsome : fraction ≠ []) (hfraction : ∀ c ∈ fraction, isDigit c = true)
    (htail : ∀ c ∈ tail.head?, isDigit c = false) :
  spanNumber ((cs ++ '.' :: fraction) ++ tail) = (cs ++ '.' :: fraction, tail)
  := by
  have hpoint : ∀ c ∈ ('.' :: fraction ++ tail).head?, isDigit c = false := by
    intro c hc
    cases hc
    rfl
  rw [List.append_assoc, spanNumber, takeWhile_run hcs hpoint, dropWhile_run hcs hpoint]
  cases fraction with
  | nil => exact absurd rfl hsome
  | cons d fraction =>
      have hd := hfraction d List.mem_cons_self
      simp only [List.cons_append, if_pos hd]
      rw [← List.cons_append, takeWhile_run hfraction htail, dropWhile_run hfraction htail]

theorem head?_dropWhile {p : Char → Bool} (cs : List Char) :
  ∀ c ∈ (cs.dropWhile p).head?, p c = false
  := by
  intro c hc
  have hnot := List.head?_dropWhile_not p cs
  rw [hc] at hnot
  simpa using hnot

/-- A number is taken with a fraction or without one. -/
theorem spanNumber_cases (cs : List Char) :
  (∃ d rest, isDigit d = true ∧ spanNumber cs
      = (cs.takeWhile isDigit ++ '.' :: (d :: rest).takeWhile isDigit,
        (d :: rest).dropWhile isDigit)) ∨
    (¬ StartsFraction (cs.dropWhile isDigit) ∧
      spanNumber cs = (cs.takeWhile isDigit, cs.dropWhile isDigit))
  := by
  rw [spanNumber]
  split
  case h_1 d rest hdrop =>
    by_cases hd : isDigit d = true
    · left
      use d, rest, hd
      rw [if_pos hd]
    · right
      rw [if_neg hd, hdrop]
      refine ⟨?_, rfl⟩
      rintro ⟨e, rest', heq, he⟩
      rw [List.cons.injEq, List.cons.injEq] at heq
      obtain ⟨-, rfl, -⟩ := heq
      exact hd he
  case h_2 hother =>
    right
    refine ⟨?_, rfl⟩
    rintro ⟨d, rest, heq, -⟩
    exact hother d rest heq

/-- A number ends before a text that ends it alike. -/
theorem spanNumber_alike {number tail' : List Char} (hspan : spanNumber cs = (number, tail))
    (h : EndsAlike tail tail') :
  spanNumber (number ++ tail') = (number, tail')
  := by
  have hdigits : ∀ ds : List Char, ∀ c ∈ ds.takeWhile isDigit, isDigit c = true :=
    fun _ _ hc => List.mem_takeWhile_imp hc
  obtain ⟨d, rest, hd, heq⟩ | ⟨hnone, heq⟩ := spanNumber_cases cs
  · cases hspan.symm.trans heq
    have hsome : (d :: rest).takeWhile isDigit ≠ [] := by
      rw [List.takeWhile_cons_of_pos hd]
      simp
    apply spanNumber_fraction (hdigits cs) hsome (hdigits _)
    apply h.head? (fun _ => isDigit_of_isBlank) (head?_dropWhile _)
  · cases hspan.symm.trans heq
    apply spanNumber_digits (hdigits cs)
    · apply h.head? (fun _ => isDigit_of_isBlank) (head?_dropWhile cs)
    · intro hfraction
      apply hnone (h.fraction hfraction)

/-- Where no operator of two characters stands, none stands when the text behind is another one
that ends the first character alike. -/
theorem no_pair_alike {c : Char} {more tail' : List Char} (h : EndsAlike tail tail')
    (hpair : (more ++ tail).head?.bind (pairOperator? c) = none) :
  (more ++ tail').head?.bind (pairOperator? c) = none
  := by
  cases more with
  | cons d more => exact hpair
  | nil =>
      obtain hbreaks | hhead := h.head
      · exact pairOperator?_of_breaks hbreaks
      · rwa [List.nil_append, hhead]

/-- A number starts with its first digit. -/
theorem spanNumber_cons {c : Char} (hc : isDigit c = true) (rest : List Char) :
  ∃ more tail, spanNumber (c :: rest) = (c :: more, tail) ∧ rest = more ++ tail
  := by
  have happend := (spanNumber_spec (c :: rest)).1
  have hstart : ∃ more, (spanNumber (c :: rest)).1 = c :: more := by
    obtain ⟨d, rest', -, heq⟩ | ⟨-, heq⟩ := spanNumber_cases (c :: rest)
    all_goals
      rw [heq, List.takeWhile_cons_of_pos hc]
      exact ⟨_, rfl⟩
  obtain ⟨more, hmore⟩ := hstart
  use more, (spanNumber (c :: rest)).2
  rw [← hmore]
  rw [hmore, List.cons_append] at happend
  exact ⟨rfl, (List.cons.inj happend).2.symm⟩

/-- A token ends before a text that ends it alike. -/
theorem lexeme_alike {c : Char} {rest : List Char} {kind : TokenKind} {text : String}
    (h : lexeme c rest = .ok (kind, text, tail)) :
  ∃ more, rest = more ++ tail ∧
    ∀ tail', EndsAlike tail tail' → lexeme c (more ++ tail') = .ok (kind, text, tail')
  := by
  cases lexeme_taken h with
  | @pair d _ _ hkind =>
      use [d], rfl
      intro tail' _
      rw [lexeme]
      simp only [List.singleton_append, List.head?_cons, Option.bind_some, hkind]
      rfl
  | number hpair hdigit =>
      obtain ⟨more, tail, hspan, rfl⟩ := spanNumber_cons hdigit rest
      rw [hspan]
      use more, rfl
      intro tail' halike
      rw [lexeme, no_pair_alike halike hpair]
      simp only [if_pos hdigit]
      rw [← List.cons_append, spanNumber_alike hspan halike]
  | text hpair hdigit hquote hspan =>
      have hslash : c ≠ '\\' := by obtain rfl | rfl := hquote <;> decide
      obtain ⟨more, rfl, hmore⟩ := spanText_append hslash hspan
      use more, rfl
      intro tail' halike
      rw [lexeme, no_pair_alike halike hpair]
      simp only [if_neg hdigit, if_pos hquote, hmore]
  | word hpair hdigit hquote hword =>
      have hpart := isWordPart_of_isWordStart hword
      have hrun : ∀ d ∈ c :: rest.takeWhile isWordPart, isWordPart d = true :=
        List.forall_mem_cons.mpr ⟨hpart, fun _ hd => List.mem_takeWhile_imp hd⟩
      rw [List.dropWhile_cons_of_pos hpart, List.takeWhile_cons_of_pos hpart]
      use rest.takeWhile isWordPart, List.takeWhile_append_dropWhile.symm
      intro tail' halike
      have hend := halike.head? (fun _ => isWordPart_of_isBlank) (head?_dropWhile rest)
      rw [lexeme, no_pair_alike halike (by rwa [List.takeWhile_append_dropWhile])]
      simp only [if_neg hdigit, if_neg hquote, hword, if_true]
      rw [← List.cons_append, takeWhile_run hrun hend, dropWhile_run hrun hend]
  | sign hpair hdigit hquote hword hkind =>
      use [], rfl
      intro tail' halike
      have hnone : ([] ++ tail).head?.bind (pairOperator? c) = none := hpair
      rw [lexeme, no_pair_alike halike hnone]
      simp only [if_neg hdigit, if_neg hquote, hword, hkind]
      rfl

end Lexemes

/-! ### Token lists -/

/-- What a token is, wherever it stands. -/
def lexical (t : Token) : TokenKind × String := (t.kind, t.text)

/-- The text `cs` at the end of a text of `total` characters is cut into the tokens. -/
inductive Scans (total : Nat) : List Char → List Token → Prop where
  | stop : Scans total [] [⟨.endOfText, "", total⟩]
  | blank {c : Char} {cs : List Char} {ts : List Token} (hblank : isBlank c = true)
      (rest : Scans total cs ts) :
    Scans total (c :: cs) ts
  | token {c : Char} {cs tail : List Char} {kind : TokenKind} {text : String} {ts : List Token}
      (hblank : isBlank c = false) (hlexeme : lexeme c cs = .ok (kind, text, tail))
      (rest : Scans total tail ts) :
    Scans total (c :: cs) (⟨kind, text, total - (cs.length + 1)⟩ :: ts)

theorem length_of_lexeme {c : Char} {rest tail : List Char} {kind : TokenKind} {text : String}
    (h : lexeme c rest = .ok (kind, text, tail)) :
  tail.length ≤ rest.length
  := by
  obtain ⟨more, rfl, -⟩ := lexeme_alike h
  rw [List.length_append]
  omega

/-- The scanner finds the tokens when it may take a step for each character. -/
theorem scan_iff {total fuel : Nat} {cs : List Char} {ts : List Token} (hfuel : cs.length < fuel) :
  scan total fuel cs = .ok ts ↔ Scans total cs ts
  := by
  induction fuel generalizing cs ts with
  | zero => exact absurd hfuel (Nat.not_lt_zero _)
  | succ fuel ih =>
      cases cs with
      | nil =>
          constructor
          · intro h
            cases h
            exact .stop
          · intro h
            cases h
            rfl
      | cons c cs =>
          have hlength : cs.length < fuel := Nat.lt_of_succ_lt_succ hfuel
          constructor
          · intro h
            rw [scan] at h
            split at h
            case isTrue hblank => exact .blank hblank ((ih hlength).mp h)
            case isFalse hblank =>
              split at h
              case h_1 => cases h
              case h_2 kind text tail hlexeme =>
                have htail := length_of_lexeme hlexeme
                split at h
                case h_1 => cases h
                case h_2 ts hscan =>
                  cases h
                  apply Scans.token (Bool.eq_false_of_not_eq_true hblank) hlexeme
                  exact (ih (by omega)).mp hscan
          · intro h
            cases h with
            | blank hblank rest => rw [scan, if_pos hblank, (ih hlength).mpr rest]
            | token hblank hlexeme rest =>
                have htail := length_of_lexeme hlexeme
                rw [scan, hblank, hlexeme]
                simp only [(ih (by omega)).mpr rest]
                rfl

namespace Scans

variable {total : Nat} {cs : List Char} {ts : List Token}

/-- Blanks in front are skipped. -/
theorem gap {blanks : List Char} (hblanks : ∀ c ∈ blanks, isBlank c = true)
    (h : Scans total cs ts) :
  Scans total (blanks ++ cs) ts
  := by
  induction blanks with
  | nil => exact h
  | cons c blanks ih =>
      obtain ⟨hc, hblanks⟩ := List.forall_mem_cons.mp hblanks
      exact .blank hc (ih hblanks)

/-- At the end of another text the same tokens are found elsewhere. -/
theorem elsewhere (h : Scans total cs ts) (total' : Nat) :
  ∃ us, Scans total' cs us ∧ us.map lexical = ts.map lexical
  := by
  induction h with
  | stop => exact ⟨_, .stop, rfl⟩
  | blank hblank _ ih =>
      obtain ⟨us, hscans, hus⟩ := ih
      exact ⟨us, .blank hblank hscans, hus⟩
  | token hblank hlexeme _ ih =>
      obtain ⟨us, hscans, hus⟩ := ih
      refine ⟨_, .token hblank hlexeme hscans, ?_⟩
      rw [List.map_cons, List.map_cons, hus]
      rfl

/-- Each token stands in the text or is the end token. -/
theorem within (h : Scans total cs ts) (hcs : cs.length ≤ total) :
  ∀ t ∈ ts, t.position < total ∨ t = ⟨.endOfText, "", total⟩
  := by
  induction h with
  | stop =>
      intro t ht
      exact .inr (List.mem_singleton.mp ht)
  | blank _ _ ih => exact ih (Nat.le_of_succ_le hcs)
  | token _ hlexeme _ ih =>
      have htail := length_of_lexeme hlexeme
      rw [List.length_cons] at hcs
      rw [List.forall_mem_cons]
      refine ⟨.inl ?_, ih (by omega)⟩
      dsimp only
      omega

/-- No token stands before the text. -/
theorem after (h : Scans total cs ts) :
  ∀ t ∈ ts, total ≤ t.position + cs.length
  := by
  induction h with
  | stop => simp
  | blank _ _ ih =>
      intro t ht
      have := ih t ht
      rw [List.length_cons]
      omega
  | token _ hlexeme _ ih =>
      have htail := length_of_lexeme hlexeme
      rw [List.length_cons, List.forall_mem_cons]
      constructor
      · dsimp only
        omega
      · intro t ht
        have := ih t ht
        omega

/-- Each token stands before the ones that follow it. -/
theorem increasing (h : Scans total cs ts) (hcs : cs.length ≤ total) :
  ts.Pairwise fun t u => t.position < u.position
  := by
  induction h with
  | stop => exact List.pairwise_singleton _ _
  | blank _ _ ih => exact ih (Nat.le_of_succ_le hcs)
  | token _ hlexeme rest ih =>
      have htail := length_of_lexeme hlexeme
      rw [List.length_cons] at hcs
      apply List.Pairwise.cons
      · intro u hu
        have := rest.after u hu
        dsimp only
        omega
      · apply ih
        omega

/-- A text can be cut before any of its tokens.  When the rest is replaced by a text before which
tokens end alike, the tokens before the cut stay the same. -/
theorem split {before : List Token} {t : Token} {after : List Token}
    (h : Scans total cs (before ++ t :: after)) (hcs : cs.length ≤ total) :
  ∃ front back, cs = front ++ back ∧ t.position + back.length = total ∧
    Scans total back (t :: after) ∧
    ∀ back' total' us, EndsAlike back back' → Scans total' back' us →
      ∃ us', Scans total' (front ++ back') us' ∧
        us'.map lexical = before.map lexical ++ us.map lexical
  := by
  generalize hts : before ++ t :: after = ts at h
  induction h generalizing before with
  | stop =>
      obtain ⟨rfl, heq⟩ := (List.append_eq_singleton_iff.mp hts).resolve_right (by simp)
      cases heq
      exact ⟨[], [], rfl, rfl, .stop, fun _ _ us _ hscans => ⟨us, hscans, rfl⟩⟩
  | @blank c cs ts hblank _ ih =>
      -- a blank before the cut stays in front
      obtain ⟨front, back, rfl, hposition, hback, hcut⟩ := ih (Nat.le_of_succ_le hcs) hts
      use c :: front, back, rfl, hposition, hback
      intro back' total' us halike hscans
      obtain ⟨us', hus', hlexical⟩ := hcut back' total' us halike hscans
      exact ⟨us', .blank hblank hus', hlexical⟩
  | @token c cs tail kind text ts hblank hlexeme rest ih =>
      obtain ⟨more, rfl, hmore⟩ := lexeme_alike hlexeme
      cases before with
      | nil =>
          cases hts
          refine ⟨[], _, rfl, ?_, .token hblank hlexeme rest,
            fun _ _ us _ hscans => ⟨us, hscans, rfl⟩⟩
          rw [List.length_cons] at hcs ⊢
          dsimp only
          omega
      | cons b before =>
          obtain ⟨rfl, hbefore⟩ := List.cons.inj hts
          rw [List.length_cons, List.length_append] at hcs
          obtain ⟨front, back, rfl, hposition, hback, hcut⟩ := ih (by omega) hbefore
          refine ⟨c :: (more ++ front), back, ?_, hposition, hback, ?_⟩
          · rw [List.cons_append, List.append_assoc]
          · intro back' total' us halike hscans
            obtain ⟨us', hus', hlexical⟩ := hcut back' total' us halike hscans
            -- the first token sees the other text behind what is left of the front
            have hfirst := hmore _ (halike.append front)
            rw [← List.append_assoc] at hfirst
            refine ⟨_, .token hblank hfirst hus', ?_⟩
            rw [List.map_cons, hlexical]
            rfl

end Scans

end Token

/-- The tokens of a text are the ones that it is cut into. -/
theorem tokenize_iff {source : String} {ts : List Token} :
  tokenize source = .ok ts ↔ Token.Scans source.length source.toList ts
  := by
  rw [← Token.scan_iff (Nat.lt_succ_self _), ← String.length_toList, tokenize]
  split
  case h_1 tokens hscan => rw [hscan, Except.ok.injEq, Except.ok.injEq]
  case h_2 hscan =>
    rw [hscan]
    simp

end AccessControl
