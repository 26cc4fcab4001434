import AccessControl.Proofs.Expr.Lexing
import AccessControl.Proofs.Failure.Results

/-!
# Positions of tokens

Parsers do not look at positions, `Parser.expression_blind`: tokens that are the same but for their
positions are taken for the same tree, or both refused.  With the cuts of `Token.Scans.split` this
gives `tokenize_boundaries`: the positions of the tokens of a text are where the text may be cut, or
blanks may be put in.
-/

namespace AccessControl

namespace Parser

/-- The tokens are the same but for their positions. -/
def Alike (ts us : List Token) : Prop := List.Forall₂ (fun t u => t.lexical = u.lexical) ts us

theorem alike_iff {ts us : List Token} :
  Alike ts us ↔ ts.map Token.lexical = us.map Token.lexical
  := by
  rw [Alike, ← List.forall₂_eq_eq_eq, List.forall₂_map_left_iff, List.forall₂_map_right_iff]

/-- Both results are faults, or both are the same value with the same tokens left. -/
def Agree {α : Type} (r r' : Except ParseFault (α × List Token)) : Prop :=
  (∃ e e', r = .error e ∧ r' = .error e') ∨
    ∃ a rest rest', r = .ok (a, rest) ∧ r' = .ok (a, rest') ∧ Alike rest rest'

theorem Agree.fault {α : Type} (e e' : ParseFault) :
  Agree (.error e : Except ParseFault (α × List Token)) (.error e')
  := .inl ⟨e, e', rfl, rfl⟩

theorem Agree.ok {α : Type} (a : α) {ts us : List Token} (h : Alike ts us) :
  Agree (.ok (a, ts)) (.ok (a, us))
  := .inr ⟨a, ts, us, rfl, rfl, h⟩

theorem Agree.map {α β : Type} {r r' : Except ParseFault (α × List Token)} (h : Agree r r')
    (f : α → β) :
  Agree (r.map fun (a, rest) => (f a, rest)) (r'.map fun (a, rest) => (f a, rest))
  := by
  obtain ⟨e, e', rfl, rfl⟩ | ⟨a, ts, us, rfl, rfl, h⟩ := h
  · apply Agree.fault
  · exact Agree.ok (f a) h

/-- The parser does not look at positions. -/
def Blind {α : Type} (p : Parser α) : Prop := ∀ ⦃ts us⦄, Alike ts us → Agree (p ts) (p us)

theorem nextKind_alike {ts us : List Token} (h : Alike ts us) :
  nextKind ts = nextKind us
  := by
  cases h with
  | nil => rfl
  | cons htu _ => exact congrArg Prod.fst htu

theorem nextText?_alike {ts us : List Token} (h : Alike ts us) :
  nextText? ts = nextText? us
  := by
  cases h with
  | nil => rfl
  | @cons t u _ _ htu _ =>
      obtain ⟨kind, text, position⟩ := t
      cases htu
      rfl

theorem Alike.symm {ts us : List Token} (h : Alike ts us) :
  Alike us ts
  := by
  rw [alike_iff] at h ⊢
  exact h.symm

theorem Alike.drop {ts us : List Token} (h : Alike ts us) :
  Alike (ts.drop 1) (us.drop 1)
  := List.forall₂_drop 1 h

theorem close_blind (what : String) :
  Blind (close what)
  := by
  intro ts us h
  cases h with
  | nil => apply Agree.fault
  | cons htu h =>
      have hkind := congrArg Prod.fst htu
      dsimp only [Token.lexical] at hkind
      rw [close, close, hkind]
      split
      · exact Agree.ok () h
      · apply Agree.fault

/-! ### Levels -/

/-- Operators are known by what their tokens are. -/
def Sightless {α : Type} (op? : Token → Option α) : Prop :=
  ∀ ⦃t u : Token⦄, t.lexical = u.lexical → op? t = op? u

theorem Sightless.of_kind_text {α : Type} {op? : Token → Option α}
    (h : ∀ kind text position position', op? ⟨kind, text, position⟩ = op? ⟨kind, text, position'⟩) :
  Sightless op?
  := by
  rintro ⟨kind, text, position⟩ ⟨kind', text', position'⟩ heq
  cases heq
  exact h kind text position position'

section Levels

variable {op? : Token → Option (Expr → Expr → Expr)} (hop : Sightless op?) {operand : Parser Expr}
  (hoperand : Blind operand)

include hop hoperand

theorem chainFrom_blind (fuel : Nat) (left : Expr) :
  Blind (chainFrom op? operand fuel left)
  := by
  induction fuel generalizing left with
  | zero => exact fun ts us h => Agree.ok left h
  | succ fuel ih =>
      intro ts us h
      cases h with
      | nil => exact Agree.ok left .nil
      | cons htu h =>
          rw [chainFrom, chainFrom, hop htu]
          split
          · exact Agree.ok left (.cons htu h)
          case h_2 join _ =>
            obtain ⟨e, e', he, he'⟩ | ⟨right, rest, rest', hr, hr', hrest⟩ := hoperand h
            · rw [he, he']
              apply Agree.fault
            · rw [hr, hr']
              apply ih (join left right) hrest

theorem chain_blind :
  Blind (chain op? operand)
  := by
  intro ts us h
  rw [chain, chain]
  obtain ⟨e, e', he, he'⟩ | ⟨left, rest, rest', hr, hr', hrest⟩ := hoperand h
  · rw [he, he']
    apply Agree.fault
  · rw [hr, hr']
    dsimp only
    rw [hrest.length_eq]
    apply chainFrom_blind hop hoperand rest'.length left hrest

theorem atMostOne_blind :
  Blind (atMostOne op? operand)
  := by
  intro ts us h
  rw [atMostOne, atMostOne]
  obtain ⟨e, e', he, he'⟩ | ⟨left, rest, rest', hr, hr', hrest⟩ := hoperand h
  · rw [he, he']
    apply Agree.fault
  · rw [hr, hr']
    cases hrest with
    | nil => exact Agree.ok left .nil
    | cons htu hrest =>
        dsimp only
        rw [hop htu]
        split
        · exact Agree.ok left (.cons htu hrest)
        case h_2 join _ =>
          obtain ⟨e, e', he, he'⟩ | ⟨right, rest, rest', hr, hr', hrest⟩ := hoperand hrest
          · rw [he, he']
            apply Agree.fault
          · rw [hr, hr']
            exact Agree.ok (join left right) hrest

omit hop in
theorem prefixed_blind (fuel : Nat) :
  Blind (prefixed operand fuel)
  := by
  have hsign : Sightless prefixOp? := Sightless.of_kind_text fun _ _ _ _ => rfl
  induction fuel with
  | zero => exact hoperand
  | succ fuel ih =>
      intro ts us h
      cases h with
      | nil => exact hoperand .nil
      | cons htu h =>
          rw [prefixed, prefixed, hsign htu]
          split
          · exact hoperand (.cons htu h)
          case h_2 op _ =>
            obtain ⟨e, e', he, he'⟩ | ⟨operand, rest, rest', hr, hr', hrest⟩ := ih h
            · rw [he, he']
              apply Agree.fault
            · rw [hr, hr']
              exact Agree.ok (Expr.unary op operand) hrest

end Levels

/-! ### Primaries -/

/-- A dot and the token after it are matched by a dot and a token with the same text. -/
theorem Alike.dot_cons {text : String} {position : Nat} {t : Token} {ts us : List Token}
    (h : Alike (⟨.dot, text, position⟩ :: t :: ts) us) :
  ∃ position' u us', us = ⟨.dot, text, position'⟩ :: u :: us' ∧ t.text = u.text ∧ Alike ts us'
  := by
  obtain ⟨⟨kind, text', position'⟩, rest, hdot, hrest, rfl⟩ := List.forall₂_cons_left_iff.mp h
  obtain ⟨u, us, htu, hus, rfl⟩ := List.forall₂_cons_left_iff.mp hrest
  cases hdot
  exact ⟨position', u, us, rfl, congrArg Prod.snd htu, hus⟩

section Primaries

variable {inner : Parser Expr} (hinner : Blind inner)

include hinner

theorem moreItems_blind (fuel : Nat) :
  Blind (moreItems inner fuel)
  := by
  induction fuel with
  | zero => exact fun ts us h => Agree.ok [] h
  | succ fuel ih =>
      intro ts us h
      cases h with
      | nil => exact Agree.ok [] .nil
      | cons htu h =>
          have hkind := congrArg Prod.fst htu
          dsimp only [Token.lexical] at hkind
          rw [moreItems, moreItems, hkind]
          split
          · obtain ⟨e, e', he, he'⟩ | ⟨item, rest, rest', hr, hr', hrest⟩ := hinner h
            · rw [he, he']
              apply Agree.fault
            · rw [hr, hr']
              dsimp only
              obtain ⟨e, e', he, he'⟩ | ⟨items, rest, rest', hr, hr', hrest⟩ := ih hrest
              · rw [he, he']
                apply Agree.fault
              · rw [hr, hr']
                exact Agree.ok (item :: items) hrest
          · exact Agree.ok [] (.cons htu h)

theorem items_blind :
  Blind (items inner)
  := by
  intro ts us h
  rw [items, items]
  obtain ⟨e, e', he, he'⟩ | ⟨item, rest, rest', hr, hr', hrest⟩ := hinner h
  · rw [he, he']
    apply Agree.fault
  · rw [hr, hr']
    dsimp only
    rw [hrest.length_eq]
    have hmore := moreItems_blind hinner rest'.length hrest
    obtain ⟨e, e', he, he'⟩ | ⟨items, rest, rest', hr, hr', hrest⟩ := hmore
    · rw [he, he']
      apply Agree.fault
    · rw [hr, hr']
      exact Agree.ok (item :: items) hrest

theorem group_blind :
  Blind (group inner)
  := by
  intro ts us h
  rw [group, group, nextKind_alike h]
  split
  · exact Agree.ok (Expr.tuple []) h.drop
  · obtain ⟨e, e', he, he'⟩ | ⟨es, rest, rest', hr, hr', hrest⟩ := items_blind hinner h
    · rw [he, he']
      apply Agree.fault
    · rw [hr, hr']
      -- one item is no tuple
      rcases es with _ | ⟨e, _ | ⟨e', es⟩⟩
      · apply (close_blind _ hrest).map fun _ => Expr.tuple []
      · apply (close_blind _ hrest).map fun _ => e
      · apply (close_blind _ hrest).map fun _ => Expr.tuple (e :: e' :: es)

theorem arguments_blind (function : String) :
  Blind (arguments inner function)
  := by
  intro ts us h
  rw [arguments, arguments, nextKind_alike h]
  split
  · exact Agree.ok (Expr.call function []) h.drop
  · obtain ⟨e, e', he, he'⟩ | ⟨es, rest, rest', hr, hr', hrest⟩ := items_blind hinner h
    · rw [he, he']
      apply Agree.fault
    · rw [hr, hr']
      apply (close_blind _ hrest).map fun _ => Expr.call function es

omit hinner in
theorem pathNames_blind :
  Blind pathNames
  := by
  intro ts us h
  induction ts using pathNames.induct generalizing us with
  | case1 text position t rest hname ih =>
      obtain ⟨position', u, us, rfl, htext, hrest⟩ := h.dot_cons
      rw [pathNames, if_pos hname, pathNames, ← htext, if_pos hname]
      exact (ih hrest).map _
  | case2 text position t rest hname =>
      obtain ⟨position', u, us, rfl, htext, -⟩ := h.dot_cons
      rw [pathNames, if_neg hname, pathNames, ← htext, if_neg hname]
      apply Agree.fault
  | case3 ts hother =>
      have hother' : ∀ text position u rest, us ≠ ⟨.dot, text, position⟩ :: u :: rest := by
        rintro text position u rest rfl
        obtain ⟨position', t, ts, rfl, -⟩ := h.symm.dot_cons
        exact hother text position' t ts rfl
      rw [pathNames.eq_2 _ hother, pathNames.eq_2 _ hother']
      exact Agree.ok [] h

omit hinner in
theorem reference_blind (head : String) :
  Blind (reference head)
  := by
  intro ts us h
  rw [reference, reference]
  obtain ⟨e, e', he, he'⟩ | ⟨names, rest, rest', hr, hr', hrest⟩ := pathNames_blind h
  · rw [he, he']
    apply Agree.fault
  · rw [hr, hr']
    dsimp only
    rw [nextKind_alike hrest]
    split
    · apply Agree.fault
    · cases names with
      | nil => exact Agree.ok (Expr.identifier head) hrest
      | cons name attributes => exact Agree.ok (Expr.field head name attributes) hrest

theorem primary_blind :
  Blind (primary inner)
  := by
  intro ts us h
  cases h with
  | nil => apply Agree.fault
  | @cons t u ts us htu h =>
      obtain ⟨kind, text, position⟩ := t
      obtain ⟨kind', text', position'⟩ := u
      cases htu
      rw [primary, primary]
      cases kind
      case number =>
        dsimp only
        split
        case h_1 l _ => exact Agree.ok (Expr.literal l) h
        case h_2 => apply Agree.fault
      case text => exact Agree.ok (Expr.literal (.text text)) h
      case isTrue => exact Agree.ok (Expr.literal (.bool true)) h
      case isFalse => exact Agree.ok (Expr.literal (.bool false)) h
      case opening => apply group_blind hinner h
      case name =>
        dsimp only
        rw [nextKind_alike h]
        split
        · exact arguments_blind hinner text (Alike.drop h)
        · apply reference_blind text h
      all_goals apply Agree.fault

theorem levels_blind :
  Blind (levels inner)
  := by
  have hor : Sightless orOp? := Sightless.of_kind_text fun _ _ _ _ => rfl
  have hand : Sightless andOp? := Sightless.of_kind_text fun _ _ _ _ => rfl
  have hcomparison : Sightless comparisonOp? := Sightless.of_kind_text fun _ _ _ _ => rfl
  have hsum : Sightless sumOp? := Sightless.of_kind_text fun _ _ _ _ => rfl
  have hproduct : Sightless productOp? := Sightless.of_kind_text fun _ _ _ _ => rfl
  apply chain_blind hor
  apply chain_blind hand
  apply atMostOne_blind hcomparison
  apply chain_blind hsum
  apply chain_blind hproduct
  intro ts us h
  dsimp only
  rw [h.length_eq]
  exact prefixed_blind (primary_blind hinner) us.length h

end Primaries

theorem expression_blind (depth : Nat) :
  Blind (expression depth)
  := by
  induction depth with
  | zero => exact fun ts us _ => Agree.fault _ _
  | succ depth ih => apply levels_blind ih

/-- Tokens that are the same but for their positions make the same tree, or none. -/
theorem wholeExpression_alike {ts us : List Token} (h : Alike ts us) :
  (wholeExpression ts).toOption = (wholeExpression us).toOption
  := by
  rw [wholeExpression, wholeExpression, nextKind_alike h, h.length_eq]
  split
  · rfl
  · obtain ⟨e, e', he, he'⟩ | ⟨tree, rest, rest', hr, hr', hrest⟩ :=
      expression_blind (us.length + 1) h
    · rw [he, he']
      rfl
    · rw [hr, hr']
      dsimp only
      rw [nextText?_alike hrest]
      split
      · rfl
      · rfl

end Parser

/-! ### Boundaries -/

/-- What the tokens of a text are, wherever they stand. -/
def lexemes (source : String) : Except Failure (List (TokenKind × String)) :=
  (tokenize source).map (·.map Token.lexical)

/-- The part of a text between two positions. -/
def between (source : String) (first last : Nat) : String :=
  String.ofList ((source.toList.drop first).take (last - first))

/-- The text with another text put in at a position. -/
def putIn (source : String) (position : Nat) (text : String) : String :=
  String.ofList (source.toList.take position ++ (text.toList ++ source.toList.drop position))

theorem lexemes_of_scans {cs : List Char} {ts : List Token} (h : Token.Scans cs.length cs ts) :
  lexemes (String.ofList cs) = .ok (ts.map Token.lexical)
  := by
  have htokens : tokenize (String.ofList cs) = .ok ts := by
    rw [tokenize_iff, String.length_ofList, String.toList_ofList]
    exact h
  rw [lexemes, htokens]
  rfl

/-- Texts with the same tokens, wherever they stand, have the same tree, or none. -/
theorem parse_of_lexemes {source other : String} {tokens : List Token}
    (h : tokenize source = .ok tokens) (hother : lexemes other = .ok (tokens.map Token.lexical)) :
  (Expr.parse other).toOption = (Expr.parse source).toOption
  := by
  rw [lexemes] at hother
  cases hus : tokenize other with
  | error e =>
      rw [hus] at hother
      cases hother
  | ok us =>
      rw [hus] at hother
      have halike := Parser.wholeExpression_alike (Parser.alike_iff.mpr (Except.ok.inj hother))
      rw [Expr.parse, Expr.parse, h, hus]
      dsimp only
      cases htree : Parser.wholeExpression tokens with
      | error e =>
          rw [htree] at halike
          cases htree' : Parser.wholeExpression us with
          | error e' => rfl
          | ok tree =>
              rw [htree'] at halike
              cases halike
      | ok tree =>
          rw [htree] at halike
          rw [ok_of_toOption halike]

/-- The positions of the tokens of a text are boundaries in it. -/
structure Boundaries (source : String) (tokens : List Token) : Prop where
  /-- The positions increase. -/
  increasing : tokens.Pairwise fun t u => t.position < u.position
  /-- They are positions of characters, except for the end token's, which is the end. -/
  within : ∀ t ∈ tokens, t.position < source.length ∨ t = ⟨.endOfText, "", source.length⟩
  /-- The text from one to the next, taken for itself, has the token at the first one only. -/
  cut : ∀ before t u after, tokens = before ++ t :: u :: after →
    lexemes (between source t.position u.position) = .ok [t.lexical, (.endOfText, "")]
  /-- Blanks put in at one of them leave the tokens what they are. -/
  gap : ∀ t ∈ tokens, ∀ blanks : String, (∀ c ∈ blanks.toList, isBlank c = true) →
    lexemes (putIn source t.position blanks) = .ok (tokens.map Token.lexical)
  /-- Such blanks leave the tree as it is, or the text without a tree. -/
  tree : ∀ t ∈ tokens, ∀ blanks : String, (∀ c ∈ blanks.toList, isBlank c = true) →
    (Expr.parse (putIn source t.position blanks)).toOption = (Expr.parse source).toOption

theorem lexemes_between {source : String} {before after : List Token} {t u : Token}
    (h : tokenize source = .ok (before ++ t :: u :: after)) :
  lexemes (between source t.position u.position) = .ok [t.lexical, (.endOfText, "")]
  := by
  rw [tokenize_iff, ← String.length_toList] at h
  obtain ⟨front, back, hsource, ht, hback, -⟩ := h.split (Nat.le_refl _)
  have hlength := congrArg List.length hsource
  rw [List.length_append] at hlength
  have hfirst : Token.Scans source.toList.length back ([t] ++ u :: after) := hback
  obtain ⟨middle, rest, rfl, hu, -, hcut⟩ := hfirst.split (by omega)
  rw [List.length_append] at ht hlength
  have hslice : between source t.position u.position = String.ofList middle := by
    rw [between, hsource, List.drop_left' (by omega), List.take_left' (by omega)]
  rw [hslice]
  obtain ⟨us, hscans, hus⟩ := hcut [] middle.length _ (Token.EndsAlike.nil rest) .stop
  rw [List.append_nil] at hscans
  rw [lexemes_of_scans hscans, hus]
  rfl

theorem lexemes_putIn {source : String} {tokens : List Token} (h : tokenize source = .ok tokens)
    {t : Token} (ht : t ∈ tokens) {blanks : String}
    (hblanks : ∀ c ∈ blanks.toList, isBlank c = true) :
  lexemes (putIn source t.position blanks) = .ok (tokens.map Token.lexical)
  := by
  rw [tokenize_iff, ← String.length_toList] at h
  obtain ⟨before, after, rfl⟩ := List.append_of_mem ht
  obtain ⟨front, back, hsource, hposition, hback, hcut⟩ := h.split (Nat.le_refl _)
  have hlength := congrArg List.length hsource
  rw [List.length_append] at hlength
  have hput : putIn source t.position blanks
      = String.ofList (front ++ (blanks.toList ++ back)) := by
    rw [putIn, hsource, List.take_left' (by omega), List.drop_left' (by omega)]
  rw [hput]
  obtain ⟨us, hus, hlexical⟩ :=
    hback.elsewhere (front ++ (blanks.toList ++ back)).length
  obtain ⟨us', hus', hlexical'⟩ :=
    hcut _ _ _ (Token.EndsAlike.gap hblanks back) (hus.gap hblanks)
  rw [lexemes_of_scans hus', hlexical', hlexical, ← List.map_append]

/-- Every text that is cut into tokens has its boundaries at their positions. -/
theorem tokenize_boundaries {source : String} {tokens : List Token}
    (h : tokenize source = .ok tokens) :
  Boundaries source tokens
  := by
  have hscans := tokenize_iff.mp h
  have hlength : source.toList.length ≤ source.length := Nat.le_of_eq String.length_toList
  constructor
  case increasing => exact hscans.increasing hlength
  case within => exact hscans.within hlength
  case cut =>
    rintro before t u after rfl
    exact lexemes_between h
  case gap =>
    intro t ht blanks hblanks
    exact lexemes_putIn h ht hblanks
  case tree =>
    intro t ht blanks hblanks
    exact parse_of_lexemes h (lexemes_putIn h ht hblanks)

/-- The points of `1.5.b` are told apart by what follows them. -/
theorem tokenize_boundaries_points :
  ∃ tokens, tokenize "1.5.b>= 'x'" = .ok tokens ∧ tokens.length = 6 ∧
    Boundaries "1.5.b>= 'x'" tokens
  := by
  have htokens : tokenize "1.5.b>= 'x'"
      = .ok [⟨.number, "1.5", 0⟩, ⟨.dot, ".", 3⟩, ⟨.name, "b", 4⟩, ⟨.operator, ">=", 5⟩,
        ⟨.text, "x", 8⟩, ⟨.endOfText, "", 11⟩] := by
    apply ok_of_toOption
    rw [tokenize, String.toList_ofList]
    decide +kernel
  exact ⟨_, htokens, rfl, tokenize_boundaries htokens⟩

end AccessControl
