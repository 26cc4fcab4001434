import AccessControl.Proofs.Expr.Lexing
import AccessControl.Proofs.Failure.Results

/-!
# Paths of field references

The tokens of an expression that is accepted spell the paths of its field references,
`Parser.expression_takes`: every dot stands in a path, between its head and a name or between two
names.  A name here is a token whose text is an identifier, and `parse_paths` says which tokens
these are: words, and quoted texts that look like words.
-/

namespace AccessControl

namespace Expr

/-! ### The paths of a tree -/

/-- The path of a field reference. -/
def segments? : Expr → Option (List String)
  | .field scope name attributes => some (scope :: name :: attributes)
  | _ => none

/-- The paths of the field references in an expression, in the order of its text. -/
def paths (e : Expr) : List (List String) := e.nodes.filterMap segments?

/-- The paths of the field references in a list of expressions. -/
def pathsOf (es : List Expr) : List (List String) := (nodesOf es).filterMap segments?

@[simp]
theorem paths_unary (op : UnaryOp) (e : Expr) :
  (unary op e).paths = e.paths
  := by
  rw [paths, nodes]
  rfl

@[simp]
theorem paths_binary (op : BinaryOp) (l r : Expr) :
  (binary op l r).paths = l.paths ++ r.paths
  := by
  rw [paths, nodes, List.filterMap_cons_none rfl, List.filterMap_append]
  rfl

@[simp]
theorem paths_logical (op : LogicalOp) (l r : Expr) :
  (logical op l r).paths = l.paths ++ r.paths
  := by
  rw [paths, nodes, List.filterMap_cons_none rfl, List.filterMap_append]
  rfl

@[simp]
theorem paths_call (function : String) (es : List Expr) :
  (call function es).paths = pathsOf es
  := by
  rw [paths, nodes]
  rfl

@[simp]
theorem paths_tuple (es : List Expr) :
  (tuple es).paths = pathsOf es
  := by
  rw [paths, nodes]
  rfl

@[simp]
theorem pathsOf_nil :
  pathsOf [] = []
  := by
  rw [pathsOf, nodesOf]
  rfl

@[simp]
theorem pathsOf_cons (e : Expr) (es : List Expr) :
  pathsOf (e :: es) = e.paths ++ pathsOf es
  := by
  rw [pathsOf, nodesOf, List.filterMap_append]
  rfl

end Expr

namespace Parser

/-! ### The paths of tokens -/

/-- The tokens are a dot and a name, any number of times. -/
inductive Segments : List Token → List String → Prop where
  | nil : Segments [] []
  | cons {dot t : Token} {ts : List Token} {names : List String} (hdot : dot.kind = .dot)
      (hname : isIdentifier t.text = true) (rest : Segments ts names) :
    Segments (dot :: t :: ts) (t.text :: names)

/-- The tokens spell the paths: each dot stands in the path of a head and one name or more. -/
inductive Paths : List Token → List (List String) → Prop where
  | nil : Paths [] []
  | other {t : Token} {ts : List Token} {ps : List (List String)} (ht : t.kind ≠ .dot)
      (rest : Paths ts ps) :
    Paths (t :: ts) ps
  | path {head : Token} {ts us : List Token} {name : String} {names : List String}
      {ps : List (List String)} (hhead : head.kind = .name)
      (hsegments : Segments ts (name :: names)) (rest : Paths us ps) :
    Paths (head :: (ts ++ us)) ((head.text :: name :: names) :: ps)

theorem Paths.append {ts us : List Token} {ps qs : List (List String)} (h : Paths ts ps)
    (h' : Paths us qs) :
  Paths (ts ++ us) (ps ++ qs)
  := by
  induction h with
  | nil => exact h'
  | other ht _ ih => exact .other ht ih
  | path hhead hsegments _ ih =>
      rw [List.cons_append, List.append_assoc]
      exact .path hhead hsegments ih

theorem Paths.single {t : Token} (h : t.kind ≠ .dot) :
  Paths [t] []
  := .other h .nil

/-- What the parser takes off the front of its tokens spells the paths of what it gives. -/
def Takes {α : Type} (p : Parser α) (paths : α → List (List String)) : Prop :=
  ∀ ⦃ts a rest⦄, p ts = .ok (a, rest) → ∃ used, ts = used ++ rest ∧ Paths used (paths a)

/-- A token that is no dot is taken without a path. -/
theorem takes_one {t : Token} (h : t.kind ≠ .dot) (ts : List Token) :
  ∃ used, t :: ts = used ++ ts ∧ Paths used []
  := ⟨[t], rfl, .single h⟩

theorem close_takes (what : String) :
  Takes (close what) fun _ => []
  := by
  intro ts a rest h
  cases ts with
  | nil => cases h
  | cons t ts =>
      rw [close] at h
      split at h
      case isTrue hclosing =>
        cases h
        exact takes_one (by simp [hclosing]) _
      case isFalse => cases h

/-! ### Levels -/

/-- The tokens of the operators are no dots, and they add no paths to those of their operands. -/
def Joins (op? : Token → Option (Expr → Expr → Expr)) : Prop :=
  ∀ ⦃t join⦄, op? t = some join →
    t.kind ≠ .dot ∧ ∀ l r, (join l r).paths = l.paths ++ r.paths

theorem joins_none :
  Joins fun _ => none
  := fun _ _ h => nomatch h

/-- One more operator, known by the kind of its token. -/
theorem Joins.or_kind {op? : Token → Option (Expr → Expr → Expr)} (hop : Joins op?)
    {kind : TokenKind} (hkind : kind ≠ .dot) {join : Expr → Expr → Expr}
    (hjoin : ∀ l r, (join l r).paths = l.paths ++ r.paths) :
  Joins fun t => if t.kind = kind then some join else op? t
  := by
  intro t join' h
  dsimp only at h
  split at h
  case isTrue ht =>
    cases h
    exact ⟨by rwa [ht], hjoin⟩
  case isFalse => exact hop h

theorem orOp?_joins :
  Joins orOp?
  := joins_none.or_kind (by decide) (Expr.paths_logical .or)

theorem andOp?_joins :
  Joins andOp?
  := joins_none.or_kind (by decide) (Expr.paths_logical .and)

theorem spelled?_joins (ops : List BinaryOp) :
  Joins (spelled? ops)
  := by
  intro t join h
  rw [spelled?] at h
  split at h
  case isTrue hkind =>
    obtain ⟨op, -, rfl⟩ := Option.map_eq_some_iff.mp h
    exact ⟨by simp [hkind], Expr.paths_binary op⟩
  case isFalse => cases h

theorem comparisonOp?_joins :
  Joins comparisonOp?
  := (spelled?_joins _).or_kind (by decide) (Expr.paths_binary .isIn)

section Levels

variable {op? : Token → Option (Expr → Expr → Expr)} (hop : Joins op?) {operand : Parser Expr}
  (hoperand : Takes operand Expr.paths)

include hop hoperand

/-- The operands after the first one add their paths to those of the first one. -/
theorem chainFrom_takes {fuel : Nat} {left e : Expr} {ts rest : List Token}
    (h : chainFrom op? operand fuel left ts = .ok (e, rest)) :
  ∃ used ps, ts = used ++ rest ∧ Paths used ps ∧ e.paths = left.paths ++ ps
  := by
  have hnone : ∀ (left : Expr) (ts : List Token),
      ∃ used ps, ts = used ++ ts ∧ Paths used ps ∧ left.paths = left.paths ++ ps :=
    fun _ ts => ⟨[], [], rfl, .nil, (List.append_nil _).symm⟩
  induction fuel generalizing left ts with
  | zero =>
      cases h
      exact hnone _ _
  | succ fuel ih =>
      cases ts with
      | nil =>
          cases h
          exact hnone _ _
      | cons t ts =>
          rw [chainFrom] at h
          split at h
          case h_1 =>
            cases h
            exact hnone _ _
          case h_2 join hjoin =>
            obtain ⟨ht, hpaths⟩ := hop hjoin
            split at h
            case h_1 => cases h
            case h_2 right rest' hright =>
              obtain ⟨used, rfl, hused⟩ := hoperand hright
              obtain ⟨more, ps, rfl, hmore, he⟩ := ih h
              use t :: (used ++ more), right.paths ++ ps
              refine ⟨?_, .other ht (hused.append hmore), ?_⟩
              · rw [List.cons_append, List.append_assoc]
              · rw [he, hpaths, List.append_assoc]

theorem chain_takes :
  Takes (chain op? operand) Expr.paths
  := by
  intro ts e rest h
  rw [chain] at h
  split at h
  case h_1 => cases h
  case h_2 left rest' hleft =>
    obtain ⟨used, rfl, hused⟩ := hoperand hleft
    obtain ⟨more, ps, rfl, hmore, he⟩ := chainFrom_takes hop hoperand h
    refine ⟨used ++ more, (List.append_assoc _ _ _).symm, ?_⟩
    rw [he]
    exact hused.append hmore

theorem atMostOne_takes :
  Takes (atMostOne op? operand) Expr.paths
  := by
  intro ts e rest h
  rw [atMostOne] at h
  split at h
  case h_1 => cases h
  case h_2 left hleft =>
    cases h
    exact hoperand hleft
  case h_3 left t rest' hleft =>
    split at h
    case h_1 =>
      cases h
      exact hoperand hleft
    case h_2 join hjoin =>
      obtain ⟨ht, hpaths⟩ := hop hjoin
      split at h
      case h_1 => cases h
      case h_2 right rest'' hright =>
        cases h
        obtain ⟨used, rfl, hused⟩ := hoperand hleft
        obtain ⟨more, rfl, hmore⟩ := hoperand hright
        refine ⟨used ++ t :: more, by rw [List.append_assoc, List.cons_append], ?_⟩
        rw [hpaths]
        exact hused.append (.other ht hmore)

omit hop in
theorem prefixed_takes (fuel : Nat) :
  Takes (prefixed operand fuel) Expr.paths
  := by
  induction fuel with
  | zero => exact hoperand
  | succ fuel ih =>
      intro ts e rest h
      cases ts with
      | nil => exact hoperand h
      | cons t ts =>
          rw [prefixed] at h
          split at h
          case h_1 => exact hoperand h
          case h_2 op hsign =>
            have ht : t.kind ≠ .dot := by
              intro hdot
              simp [prefixOp?, hdot] at hsign
            split at h
            case h_1 => cases h
            case h_2 e rest' he =>
              cases h
              obtain ⟨used, rfl, hused⟩ := ih he
              refine ⟨t :: used, rfl, ?_⟩
              rw [Expr.paths_unary]
              exact .other ht hused

end Levels

/-! ### Primaries -/

section Primaries

variable {inner : Parser Expr} (hinner : Takes inner Expr.paths)

include hinner

theorem moreItems_takes (fuel : Nat) :
  Takes (moreItems inner fuel) Expr.pathsOf
  := by
  have hnone : ∀ ts : List Token, ∃ used, ts = used ++ ts ∧ Paths used (Expr.pathsOf []) :=
    fun ts => ⟨[], rfl, by rw [Expr.pathsOf_nil]; exact .nil⟩
  induction fuel with
  | zero =>
      intro ts es rest h
      cases h
      exact hnone ts
  | succ fuel ih =>
      intro ts es rest h
      cases ts with
      | nil =>
          cases h
          exact hnone []
      | cons t ts =>
          rw [moreItems] at h
          split at h
          case isTrue hcomma =>
            split at h
            case h_1 => cases h
            case h_2 e rest' he =>
              split at h
              case h_1 => cases h
              case h_2 es rest'' hes =>
                cases h
                obtain ⟨used, rfl, hused⟩ := hinner he
                obtain ⟨more, rfl, hmore⟩ := ih hes
                refine ⟨t :: (used ++ more), by simp, ?_⟩
                rw [Expr.pathsOf_cons]
                exact .other (by simp [hcomma]) (hused.append hmore)
          case isFalse =>
            cases h
            exact hnone _

theorem items_takes :
  Takes (items inner) Expr.pathsOf
  := by
  intro ts es rest h
  rw [items] at h
  split at h
  case h_1 => cases h
  case h_2 e rest' he =>
    split at h
    case h_1 => cases h
    case h_2 es rest'' hes =>
      cases h
      obtain ⟨used, rfl, hused⟩ := hinner he
      obtain ⟨more, rfl, hmore⟩ := moreItems_takes hinner _ hes
      refine ⟨used ++ more, (List.append_assoc _ _ _).symm, ?_⟩
      rw [Expr.pathsOf_cons]
      exact hused.append hmore

omit hinner in
/-- Parts in parentheses end with the closing one. -/
theorem takes_closed {ts rest rest' : List Token} {ps : List (List String)} {what : String}
    {e e' : Expr} (h : ∃ used, ts = used ++ rest ∧ Paths used ps) (hps : e.paths = ps)
    (hclose : (close what rest).map (fun (_, rest) => (e, rest)) = .ok (e', rest')) :
  ∃ used, ts = used ++ rest' ∧ Paths used e'.paths
  := by
  obtain ⟨used, rfl, hused⟩ := h
  cases hr : close what rest with
  | error fault =>
      rw [hr] at hclose
      cases hclose
  | ok found =>
      rw [hr] at hclose
      cases hclose
      obtain ⟨last, hlast, hpaths⟩ := close_takes what hr
      refine ⟨used ++ last, by rw [List.append_assoc, ← hlast], ?_⟩
      rw [hps, ← List.append_nil ps]
      exact hused.append hpaths

omit hinner in
/-- Empty parentheses hold no paths. -/
theorem takes_closing {ts : List Token} (h : nextKind ts = .closing) :
  ∃ used, ts = used ++ ts.drop 1 ∧ Paths used []
  := by
  cases ts with
  | nil => cases h
  | cons t ts =>
      rw [nextKind] at h
      exact takes_one (by simp [h]) ts

theorem group_takes :
  Takes (group inner) Expr.paths
  := by
  intro ts e rest h
  rw [group] at h
  split at h
  case isTrue hclosing =>
    cases h
    rw [Expr.paths_tuple, Expr.pathsOf_nil]
    exact takes_closing hclosing
  case isFalse =>
    split at h
    case h_1 => cases h
    case h_2 e' rest' he => exact takes_closed (items_takes hinner he) (by simp) h
    case h_3 es rest' _ hes => exact takes_closed (items_takes hinner hes) (Expr.paths_tuple es) h

theorem arguments_takes (function : String) :
  Takes (arguments inner function) Expr.paths
  := by
  intro ts e rest h
  rw [arguments] at h
  split at h
  case isTrue hclosing =>
    cases h
    rw [Expr.paths_call, Expr.pathsOf_nil]
    exact takes_closing hclosing
  case isFalse =>
    split at h
    case h_1 => cases h
    case h_2 es rest' hes =>
      exact takes_closed (items_takes hinner hes) (Expr.paths_call function es) h

omit hinner in
theorem pathNames_segments {ts rest : List Token} {names : List String}
    (h : pathNames ts = .ok (names, rest)) :
  ∃ used, ts = used ++ rest ∧ Segments used names
  := by
  induction ts using pathNames.induct generalizing names with
  | case1 text position t ts hname ih =>
      rw [pathNames, if_pos hname] at h
      cases hr : pathNames ts with
      | error e =>
          rw [hr] at h
          cases h
      | ok found =>
          rw [hr] at h
          cases h
          obtain ⟨used, rfl, hused⟩ := ih hr
          exact ⟨_ :: t :: used, rfl, .cons rfl hname hused⟩
  | case2 text position t ts hname =>
      rw [pathNames, if_neg hname] at h
      cases h
  | case3 ts hother =>
      rw [pathNames.eq_2 _ hother] at h
      cases h
      exact ⟨[], rfl, .nil⟩

omit hinner in
theorem reference_takes {head : Token} (hhead : head.kind = .name) {ts rest : List Token}
    {e : Expr} (h : reference head.text ts = .ok (e, rest)) :
  ∃ used, ts = used ++ rest ∧ Paths (head :: used) e.paths
  := by
  rw [reference] at h
  split at h
  case h_1 => cases h
  case h_2 names rest' hnames =>
    obtain ⟨used, rfl, hused⟩ := pathNames_segments hnames
    split at h
    case isTrue => cases h
    case isFalse =>
      cases hused with
      | nil =>
          cases h
          exact ⟨[], rfl, .single (by simp [hhead])⟩
      | @cons dot t us names hdot hname hus =>
          cases h
          refine ⟨dot :: t :: us, rfl, ?_⟩
          have hpath := Paths.path hhead (.cons hdot hname hus) .nil
          rw [List.append_nil] at hpath
          exact hpath

theorem primary_takes :
  Takes (primary inner) Expr.paths
  := by
  intro ts e rest h
  cases ts with
  | nil => cases h
  | cons t ts =>
      rw [primary] at h
      split at h
      case h_1 hkind =>
        split at h
        case h_1 =>
          cases h
          exact takes_one (by simp [hkind]) _
        case h_2 => cases h
      case h_2 hkind =>
        cases h
        exact takes_one (by simp [hkind]) _
      case h_3 hkind =>
        cases h
        exact takes_one (by simp [hkind]) _
      case h_4 hkind =>
        cases h
        exact takes_one (by simp [hkind]) _
      case h_5 hkind =>
        obtain ⟨used, rfl, hused⟩ := group_takes hinner h
        exact ⟨t :: used, rfl, .other (by simp [hkind]) hused⟩
      case h_6 hkind =>
        split at h
        case isTrue hopening =>
          obtain ⟨used, hts, hused⟩ := arguments_takes hinner t.text h
          cases ts with
          | nil => cases hopening
          | cons opening ts =>
              rw [nextKind] at hopening
              refine ⟨t :: opening :: used, by simpa using hts, ?_⟩
              exact .other (by simp [hkind]) (.other (by simp [hopening]) hused)
        case isFalse =>
          obtain ⟨used, rfl, hused⟩ := reference_takes hkind h
          exact ⟨t :: used, rfl, hused⟩
      case h_7 => cases h

theorem levels_takes :
  Takes (levels inner) Expr.paths
  := by
  apply chain_takes orOp?_joins
  apply chain_takes andOp?_joins
  apply atMostOne_takes comparisonOp?_joins
  apply chain_takes (spelled?_joins _)
  apply chain_takes (spelled?_joins _)
  intro ts e rest h
  exact prefixed_takes (primary_takes hinner) ts.length h

end Primaries

theorem expression_takes (depth : Nat) :
  Takes (expression depth) Expr.paths
  := by
  induction depth with
  | zero =>
      intro ts e rest h
      cases h
  | succ depth ih => exact levels_takes ih

/-! ### Dots -/

/-- Every dot is followed by a name. -/
def DotsNamed (ts : List Token) : Prop :=
  ∀ before dot after, ts = before ++ dot :: after → dot.kind = .dot →
    ∃ t rest, after = t :: rest ∧ isIdentifier t.text = true

theorem DotsNamed.cons {t : Token} {ts : List Token} (ht : t.kind ≠ .dot) (h : DotsNamed ts) :
  DotsNamed (t :: ts)
  := by
  intro before dot after hts hdot
  cases before with
  | nil =>
      cases hts
      exact absurd hdot ht
  | cons _ before =>
      obtain ⟨-, hbefore⟩ := List.cons.inj hts
      exact h before dot after hbefore hdot

theorem Segments.dotsNamed {ts us : List Token} {names : List String} (h : Segments ts names)
    (hts : ∀ t ∈ ts, isIdentifier t.text = true → t.kind ≠ .dot) (hus : DotsNamed us) :
  DotsNamed (ts ++ us)
  := by
  induction h with
  | nil => exact hus
  | @cons first t ts names _ hname _ ih =>
      rw [List.forall_mem_cons, List.forall_mem_cons] at hts
      obtain ⟨-, ht, hts⟩ := hts
      intro before dot after heq hdot
      cases before with
      | nil =>
          cases heq
          exact ⟨t, ts ++ us, rfl, hname⟩
      | cons _ before =>
          obtain ⟨-, hbefore⟩ := List.cons.inj heq
          exact (ih hts).cons (ht hname) before dot after hbefore hdot

/-- Tokens that spell paths have a name behind every dot, provided that no name is a dot. -/
theorem Paths.dotsNamed {ts : List Token} {ps : List (List String)} (h : Paths ts ps)
    (hts : ∀ t ∈ ts, isIdentifier t.text = true → t.kind ≠ .dot) :
  DotsNamed ts
  := by
  induction h with
  | nil =>
      intro before dot after heq
      simp at heq
  | other ht _ ih => exact (ih (List.forall_mem_cons.mp hts).2).cons ht
  | path hhead hsegments _ ih =>
      obtain ⟨-, hts⟩ := List.forall_mem_cons.mp hts
      rw [List.forall_mem_append] at hts
      apply DotsNamed.cons
      · simp [hhead]
      · exact hsegments.dotsNamed hts.1 (ih hts.2)

/-- The tokens of an expression spell the paths of its tree. -/
theorem wholeExpression_paths {ts : List Token} {e : Expr} (h : wholeExpression ts = .ok e)
    (hend : ∀ before t after, ts = before ++ t :: after → t.kind = .endOfText → after = []) :
  Paths ts e.paths
  := by
  rw [wholeExpression] at h
  split at h
  case isTrue => cases h
  case isFalse =>
    split at h
    case h_1 => cases h
    case h_2 e' rest hread =>
      split at h
      case h_2 => cases h
      case h_1 hnone =>
        cases h
        obtain ⟨used, rfl, hused⟩ := expression_takes _ hread
        cases rest with
        | nil => rwa [List.append_nil]
        | cons t after =>
            have ht : t.kind = .endOfText := by
              by_contra hother
              rw [nextText?, if_neg hother] at hnone
              cases hnone
            rw [hend used t after rfl ht, ← List.append_nil e.paths]
            exact hused.append (.single (by simp [ht]))

end Parser

/-! ### Texts -/

namespace Token

theorem isIdentifier_ofList {c : Char} (hc : isIdentifierStart c = false) (cs : List Char) :
  isIdentifier (String.ofList (c :: cs)) = false
  := by
  rw [isIdentifier, String.toList_ofList]
  dsimp only
  rw [hc, Bool.false_and]

theorem pairOperator?_start {c d : Char} {kind : TokenKind} (h : pairOperator? c d = some kind) :
  isIdentifierStart c = false
  := by
  unfold pairOperator? at h
  split at h
  all_goals first | decide | cases h

theorem charOperator?_start {c : Char} {kind : TokenKind} (h : charOperator? c = some kind) :
  isIdentifierStart c = false
  := by
  unfold charOperator? at h
  split at h
  all_goals first | decide | cases h

/-- A token is a quoted text, or a word, or does not look like a word. -/
theorem lexeme_kind {c : Char} {rest tail : List Char} {kind : TokenKind} {text : String}
    (h : lexeme c rest = .ok (kind, text, tail)) :
  kind = .text ∨ kind = wordKind text ∨ (kind ≠ .endOfText ∧ isIdentifier text = false)
  := by
  cases lexeme_taken h with
  | pair hkind =>
      right; right
      exact ⟨(pairOperator?_ne hkind).2, isIdentifier_ofList (pairOperator?_start hkind) _⟩
  | number _ hdigit =>
      right; right
      obtain ⟨more, tail, hspan, -⟩ := spanNumber_cons hdigit rest
      rw [hspan]
      exact ⟨nofun, isIdentifier_ofList (isIdentifierStart_of_isDigit hdigit) more⟩
  | text =>
      left
      rfl
  | word =>
      right; left
      rfl
  | sign _ _ _ _ hkind =>
      right; right
      exact ⟨(charOperator?_ne hkind).2, isIdentifier_ofList (charOperator?_start hkind) []⟩

/-- A name among the tokens is a word, or a quoted text that looks like one. -/
theorem Scans.names {total : Nat} {cs : List Char} {ts : List Token} (h : Scans total cs ts) :
  ∀ t ∈ ts, isIdentifier t.text = true → t.kind = .text ∨ t.kind = wordKind t.text
  := by
  induction h with
  | stop =>
      intro t ht hname
      cases List.mem_singleton.mp ht
      cases hname
  | blank _ _ ih => exact ih
  | token _ hlexeme _ ih =>
      rw [List.forall_mem_cons]
      refine ⟨?_, ih⟩
      intro hname
      obtain hkind | hkind | ⟨-, hother⟩ := lexeme_kind hlexeme
      · exact .inl hkind
      · exact .inr hkind
      · rw [hother] at hname
        cases hname

/-- Nothing follows the end token. -/
theorem Scans.end_last {total : Nat} {cs : List Char} {ts before after : List Token} {t : Token}
    (h : Scans total cs ts) (hts : ts = before ++ t :: after) (ht : t.kind = .endOfText) :
  after = []
  := by
  induction h generalizing before with
  | stop =>
      obtain ⟨-, heq⟩ := (List.append_eq_singleton_iff.mp hts.symm).resolve_right (by simp)
      exact (List.cons.inj heq).2
  | blank _ _ ih => exact ih hts
  | token _ hlexeme _ ih =>
      cases before with
      | nil =>
          cases hts
          obtain hkind | hkind | ⟨hkind, -⟩ := lexeme_kind hlexeme
          · cases ht.symm.trans hkind
          · exact absurd (hkind.symm.trans ht) (wordKind_ne (by decide))
          · exact absurd ht hkind
      | cons _ before =>
          obtain ⟨-, hbefore⟩ := List.cons.inj hts
          exact ih hbefore

end Token

/-- The tokens of an accepted text spell the paths of the field references of its tree, and every
dot among them is followed by a token whose text is an identifier: a name or a keyword, or a quoted
text that looks like one. -/
theorem Expr.parse_paths {source : String} {e : Expr} (h : Expr.parse source = .ok e) :
  ∃ tokens, tokenize source = .ok tokens ∧ Parser.Paths tokens e.paths ∧
    ∀ before dot after, tokens = before ++ dot :: after → dot.kind = .dot →
      ∃ t rest, after = t :: rest ∧ isIdentifier t.text = true ∧
        (t.kind = Token.wordKind t.text ∨ t.kind = .text)
  := by
  rw [Expr.parse] at h
  cases htokens : tokenize source with
  | error e =>
      rw [htokens] at h
      cases h
  | ok tokens =>
      rw [htokens] at h
      dsimp only at h
      split at h
      case h_2 => cases h
      case h_1 tree htree =>
        cases h
        have hscans := tokenize_iff.mp htokens
        have hpaths := Parser.wholeExpression_paths htree fun _ _ _ => hscans.end_last
        refine ⟨tokens, rfl, hpaths, ?_⟩
        have hdot : ∀ t ∈ tokens, isIdentifier t.text = true → t.kind ≠ .dot := by
          intro t ht hname
          obtain hkind | hkind := hscans.names t ht hname
          · rw [hkind]
            rintro ⟨⟩
          · rw [hkind]
            exact Token.wordKind_ne (by decide)
        intro before dot after hts hkind
        obtain ⟨t, rest, rfl, hname⟩ := hpaths.dotsNamed hdot before dot after hts hkind
        have ht : t ∈ tokens := by simp [hts]
        exact ⟨t, rest, rfl, hname, (hscans.names t ht hname).symm⟩

/-- In `r.sub.in` both dots are followed by words. -/
theorem Expr.parse_paths_keyword :
  ∃ e, Expr.parse "r.sub.in" = .ok e ∧ e.paths = [["r", "sub", "in"]] ∧
    ∃ tokens, tokenize "r.sub.in" = .ok tokens ∧ Parser.Paths tokens e.paths ∧
      ∀ before dot after, tokens = before ++ dot :: after → dot.kind = .dot →
        ∃ t rest, after = t :: rest ∧ isIdentifier t.text = true ∧
          (t.kind = Token.wordKind t.text ∨ t.kind = .text)
  := by
  have htokens : tokenize "r.sub.in"
      = .ok [⟨.name, "r", 0⟩, ⟨.dot, ".", 1⟩, ⟨.name, "sub", 2⟩, ⟨.dot, ".", 5⟩, ⟨.isIn, "in", 6⟩,
        ⟨.endOfText, "", 8⟩] := by
    apply ok_of_toOption
    rw [tokenize, String.toList_ofList]
    decide +kernel
  have hparse : Expr.parse "r.sub.in" = .ok (.field "r" "sub" ["in"]) :=
    parse_of_tokens htokens rfl
  exact ⟨_, hparse, rfl, parse_paths hparse⟩

/-- A quoted text is taken for a name of a path, too. -/
theorem Expr.parse_quoted_name :
  tokenize "r.'sub'"
      = .ok [⟨.name, "r", 0⟩, ⟨.dot, ".", 1⟩, ⟨.text, "sub", 2⟩, ⟨.endOfText, "", 7⟩] ∧
    Expr.parse "r.'sub'" = .ok (.field "r" "sub" [])
  := by
  have htokens : tokenize "r.'sub'"
      = .ok [⟨.name, "r", 0⟩, ⟨.dot, ".", 1⟩, ⟨.text, "sub", 2⟩, ⟨.endOfText, "", 7⟩] := by
    apply ok_of_toOption
    rw [tokenize, String.toList_ofList]
    decide +kernel
  exact ⟨htokens, parse_of_tokens htokens rfl⟩

end AccessControl
