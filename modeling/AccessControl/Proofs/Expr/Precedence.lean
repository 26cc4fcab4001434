import AccessControl.Expr.Parser
import AccessControl.Proofs.Expr.Grammar

/-!
# The parser reads what the grammar writes

A derivation of the grammar, given as tokens, is read back to its expression:
`wholeExpression_of_derives`.  A level of the parser reads as far as no operator of its own or of a
tighter level follows (`Stops`), and a level that associates to the left may stop earlier, with the
rest of its chain still to come (`Begins`).
-/

namespace AccessControl

namespace Grammar

open AccessControl.Parser

/-! ### Symbols as tokens -/

/-- The token is one that the symbol is written as. -/
def Symbol.Matches : Symbol → Token → Prop
  | .int n, t => t.kind = .number ∧ numberLiteral t.text = .ok (.int n)
  | .text s, t => t.kind = .text ∧ t.text = s
  | .bool true, t => t.kind = .isTrue
  | .bool false, t => t.kind = .isFalse
  | .word s, t => t.kind = Token.wordKind s ∧ t.text = s
  | .connective (.logical .and), t => t.kind = .and
  | .connective (.logical .or), t => t.kind = .or
  | .connective (.binary .isIn), t => t.kind = .isIn
  | .connective (.binary op), t => t.kind = .operator ∧ t.text = op.symbol
  | .not, t => t.kind = .not
  | .opening, t => t.kind = .opening
  | .closing, t => t.kind = .closing
  | .comma, t => t.kind = .comma
  | .dot, t => t.kind = .dot

/-- The tokens are written for the symbols, one for each. -/
abbrev Writes (ss : List Symbol) (ts : List Token) : Prop := List.Forall₂ Symbol.Matches ss ts

theorem Writes.of_append {ss rs : List Symbol} {ts : List Token} (h : Writes (ss ++ rs) ts) :
  ∃ us vs, ts = us ++ vs ∧ Writes ss us ∧ Writes rs vs
  := by
  induction ss generalizing ts with
  | nil => exact ⟨[], ts, rfl, .nil, h⟩
  | cons s ss ih =>
      obtain _ | ⟨hs, hrest⟩ := h
      obtain ⟨us, vs, rfl, hus, hvs⟩ := ih hrest
      exact ⟨_ :: us, vs, rfl, .cons hs hus, hvs⟩

theorem Writes.of_cons {s : Symbol} {ss : List Symbol} {ts : List Token}
    (h : Writes (s :: ss) ts) :
  ∃ t us, ts = t :: us ∧ s.Matches t ∧ Writes ss us
  := List.forall₂_cons_left_iff.mp h |>.imp fun _ ⟨us, hs, hss, hts⟩ => ⟨us, hts, hs, hss⟩

theorem Writes.of_group {ss : List Symbol} {ts : List Token}
    (h : Writes (.opening :: (ss ++ [.closing])) ts) :
  ∃ first us last, ts = first :: (us ++ [last]) ∧ first.kind = .opening ∧ last.kind = .closing
    ∧ Writes ss us
  := by
  obtain ⟨first, _, rfl, hfirst, hrest⟩ := h.of_cons
  obtain ⟨us, _, rfl, hus, hlast⟩ := Writes.of_append hrest
  obtain ⟨last, _, rfl, hclosing, ⟨⟩⟩ := Writes.of_cons hlast
  exact ⟨first, us, last, rfl, hfirst, hclosing, hus⟩

/-! ### The levels of the parser -/

/-- The operators of a level among the tokens. -/
def Level.operator? : Level → Token → Option (Expr → Expr → Expr)
  | .disjunction => orOp?
  | .conjunction => andOp?
  | .comparison => comparisonOp?
  | .sum => sumOp?
  | .product => productOp?
  | .unary | .primary => fun _ => none

/-- A token of none of the kinds that operators have is no operator of any level. -/
theorem Level.operator?_eq_none {t : Token} (h : t.kind ∉ [.and, .or, .isIn, .operator])
    (level : Level) :
  level.operator? t = none
  := by
  simp only [List.mem_cons, List.not_mem_nil, or_false, not_or] at h
  cases level <;>
    simp [operator?, orOp?, andOp?, comparisonOp?, sumOp?, productOp?, spelled?, h]

/-- A connective is an operator of its own level and of no other. -/
theorem Level.operator?_eq_ite {j : Connective} {t : Token} (h : Symbol.Matches (.connective j) t)
    (level : Level) :
  level.operator? t = if level = j.level then some j.apply else none
  := by
  cases j with
  | logical op =>
      cases op <;> rw [Symbol.Matches] at h <;> cases level <;>
        simp [operator?, orOp?, andOp?, comparisonOp?, sumOp?, productOp?, spelled?, h,
          Connective.level, Connective.apply]
  | binary op =>
      cases op <;> simp only [Symbol.Matches] at h <;> cases level <;>
        simp [operator?, orOp?, andOp?, comparisonOp?, sumOp?, productOp?, spelled?, h,
          Connective.level, Connective.apply, BinaryOp.symbol]

/-- The parser of unary operations over the parser of parenthesised parts. -/
def unaries (inner : Parser Expr) : Parser Expr := fun ts => prefixed (primary inner) ts.length ts

/-- The parser of products over the parser of parenthesised parts. -/
def products (inner : Parser Expr) : Parser Expr := chain productOp? (unaries inner)

/-- The parser of sums over the parser of parenthesised parts. -/
def sums (inner : Parser Expr) : Parser Expr := chain sumOp? (products inner)

/-- The parser of comparisons over the parser of parenthesised parts. -/
def comparisons (inner : Parser Expr) : Parser Expr := atMostOne comparisonOp? (sums inner)

/-- The parser of conjunctions over the parser of parenthesised parts. -/
def conjunctions (inner : Parser Expr) : Parser Expr := chain andOp? (comparisons inner)

/-- The parser of a level over the parser of parenthesised parts. -/
def Level.parser (inner : Parser Expr) : Level → Parser Expr
  | .disjunction => levels inner
  | .conjunction => conjunctions inner
  | .comparison => comparisons inner
  | .sum => sums inner
  | .product => products inner
  | .unary => unaries inner
  | .primary => Parser.primary inner

/-- The operators of a level associate to the left. -/
def Level.isChain : Level → Bool
  | .disjunction | .conjunction | .sum | .product => true
  | .comparison | .unary | .primary => false

theorem Level.parser_eq_chain {level : Level} (h : level.isChain = true) (inner : Parser Expr) :
  level.parser inner = chain level.operator? (level.next.parser inner)
  := by
  cases level <;> first | rfl | cases h

/-! ### What ends a level -/

/-- The tokens start with nothing that an operand of the given level could go on with. -/
def Stops (level : Level) : List Token → Prop
  | [] => True
  | t :: _ =>
    (∀ tighter : Level, level.rank ≤ tighter.rank → tighter.operator? t = none)
      ∧ t.kind ≠ .dot ∧ t.kind ≠ .opening

theorem Stops.tighten {level tighter : Level} {ts : List Token} (h : level.rank ≤ tighter.rank)
    (hstops : Stops level ts) :
  Stops tighter ts
  := by
  cases ts with
  | nil => trivial
  | cons t ts =>
      obtain ⟨hop, hrest⟩ := hstops
      exact ⟨fun other hother => hop other (Nat.le_trans h hother), hrest⟩

/-- A token of none of the kinds that go on with an operand ends every level. -/
theorem stops_of_kind {t : Token} (h : t.kind ∉ [.and, .or, .isIn, .operator, .dot, .opening])
    (level : Level) (ts : List Token) :
  Stops level (t :: ts)
  := by
  simp only [List.mem_cons, List.not_mem_nil, or_false, not_or] at h
  obtain ⟨hand, hor, hin, hoperator, hdot, hopening⟩ := h
  have hop : t.kind ∉ [.and, .or, .isIn, .operator] := by simp [hand, hor, hin, hoperator]
  exact ⟨fun other _ => Level.operator?_eq_none hop other, hdot, hopening⟩

/-- A connective ends the levels that are tighter than its own. -/
theorem stops_of_connective {j : Connective} {t : Token}
    (h : Symbol.Matches (.connective j) t) {level : Level} (hlevel : j.level.rank < level.rank)
    (ts : List Token) :
  Stops level (t :: ts)
  := by
  refine ⟨fun other hother => ?_, ?_, ?_⟩
  · rw [Level.operator?_eq_ite h, if_neg]
    rintro rfl
    omega
  all_goals
    intro hkind
    unfold Symbol.Matches at h
    split at h <;> simp_all

/-! ### Reading a level -/

/-- With parentheses nested at most `depth` deep, the parser of a level reads the tokens `ts` as
the expression `t`. -/
def Reads (depth : Nat) (level : Level) (t : Expr) (ts : List Token) : Prop :=
  ∀ rest, Stops level rest → level.parser (expression depth) (ts ++ rest) = .ok (t, rest)

/-- With parentheses nested at most `depth` deep, the parser of a level reads the tokens `ts` as
the operands so far of a chain, joined to the expression `t`. -/
def Begins (depth : Nat) (level : Level) (t : Expr) (ts : List Token) : Prop :=
  ∀ rest, Stops level.next rest → ∃ fuel, rest.length ≤ fuel ∧
    level.parser (expression depth) (ts ++ rest)
      = chainFrom level.operator? (level.next.parser (expression depth)) fuel t rest

theorem Level.rank_le_next (level : Level) :
  level.rank ≤ level.next.rank
  := by
  cases level <;> decide

theorem Level.rank_lt_next {level : Level} (h : level.isChain = true) :
  level.rank < level.next.rank
  := by
  cases level <;> first | decide | cases h

/-- A chain has ended where no operator of its level follows. -/
theorem chainFrom_of_stops {level : Level} {rest : List Token} (h : Stops level rest)
    (operand : Parser Expr) (fuel : Nat) (t : Expr) :
  chainFrom level.operator? operand fuel t rest = .ok (t, rest)
  := by
  cases fuel with
  | zero => rfl
  | succ fuel =>
      cases rest with
      | nil => rfl
      | cons u rest => rw [chainFrom, h.1 level (Nat.le_refl _)]

section Levels

variable {depth : Nat} {level : Level} {t : Expr} {ts : List Token}

theorem Begins.reads (h : Begins depth level t ts) :
  Reads depth level t ts
  := by
  intro rest hstops
  obtain ⟨fuel, -, heq⟩ := h rest (hstops.tighten level.rank_le_next)
  rw [heq, chainFrom_of_stops hstops]

/-- One operand begins a chain. -/
theorem Reads.begins (hchain : level.isChain = true) (h : Reads depth level.next t ts) :
  Begins depth level t ts
  := by
  intro rest hstops
  use rest.length, Nat.le_refl _
  rw [Level.parser_eq_chain hchain, chain, h rest hstops]

/-- A chain goes on with an operator of its level and one more operand. -/
theorem Begins.join {j : Connective} {op : Token} {l r : Expr} {ls rs : List Token}
    (hchain : j.level.isChain = true) (hop : Symbol.Matches (.connective j) op)
    (left : Begins depth j.level l ls) (right : Reads depth j.level.next r rs) :
  Begins depth j.level (j.apply l r) (ls ++ op :: rs)
  := by
  intro rest hstops
  have hbreak : Stops j.level.next (op :: (rs ++ rest)) :=
    stops_of_connective hop (Level.rank_lt_next hchain) _
  obtain ⟨_ | fuel, hfuel, heq⟩ := left _ hbreak
  · cases hfuel
  · refine ⟨fuel, ?_, ?_⟩
    · simp only [List.length_cons, List.length_append] at hfuel
      omega
    · rw [List.append_assoc, List.cons_append, heq, chainFrom, Level.operator?_eq_ite hop,
        if_pos rfl]
      simp only [right rest hstops]

/-- A comparison has one operand on each side. -/
theorem Reads.compare {j : Connective} {op : Token} {l r : Expr} {ls rs : List Token}
    (hlevel : j.level = .comparison) (hop : Symbol.Matches (.connective j) op)
    (left : Reads depth .sum l ls) (right : Reads depth .sum r rs) :
  Reads depth .comparison (j.apply l r) (ls ++ op :: rs)
  := by
  intro rest hstops
  have hbreak : Stops .sum (op :: (rs ++ rest)) :=
    stops_of_connective hop (by rw [hlevel]; decide) _
  have hl : sums (expression depth) (ls ++ op :: (rs ++ rest)) = .ok (l, op :: (rs ++ rest)) :=
    left _ hbreak
  have hr : sums (expression depth) (rs ++ rest) = .ok (r, rest) :=
    right rest (hstops.tighten (by decide))
  have hjoin : comparisonOp? op = some j.apply := by
    have := Level.operator?_eq_ite hop .comparison
    rwa [if_pos hlevel.symm] at this
  rw [List.append_assoc, List.cons_append, Level.parser, comparisons, atMostOne, hl]
  simp only [hjoin, hr]

/-- No primary starts with an operator. -/
theorem primary_of_prefixOp? {inner : Parser Expr} {u : Token} {op : UnaryOp}
    (h : prefixOp? u = some op) (us : List Token) :
  primary inner (u :: us) = fail (.expectedValue (nextText? (u :: us))) (u :: us)
  := by
  unfold prefixOp? at h
  split_ifs at h with hnot hminus
  · simp only [primary, hnot]
  · simp only [primary, hminus.1]

theorem prefixed_of_primary {inner : Parser Expr} {us rest : List Token}
    (h : primary inner us = .ok (t, rest)) (fuel : Nat) :
  prefixed (primary inner) fuel us = .ok (t, rest)
  := by
  cases fuel with
  | zero => exact h
  | succ fuel =>
      cases us with
      | nil => exact h
      | cons u us =>
          rw [prefixed]
          cases hop : prefixOp? u with
          | none => exact h
          | some op =>
              rw [primary_of_prefixOp? hop] at h
              cases h

theorem prefixOp?_of_matches {op : UnaryOp} {u : Token} (h : (prefixSymbol op).Matches u) :
  prefixOp? u = some op
  := by
  cases op with
  | not =>
      rw [prefixSymbol, Symbol.Matches] at h
      rw [prefixOp?, if_pos h]
  | minus =>
      simp only [prefixSymbol, Symbol.Matches] at h
      simp [prefixOp?, h, BinaryOp.symbol]

/-- An operator before an operand. -/
theorem Reads.unary {op : UnaryOp} {u : Token} (hop : (prefixSymbol op).Matches u)
    (operand : Reads depth .unary t ts) :
  Reads depth .unary (.unary op t) (u :: ts)
  := by
  intro rest hstops
  have hoperand : prefixed (primary (expression depth)) (ts ++ rest).length (ts ++ rest)
      = .ok (t, rest) := operand rest hstops
  rw [List.cons_append, Level.parser, unaries, List.length_cons, prefixed,
    prefixOp?_of_matches hop]
  simp only [hoperand]

/-- What a tighter level reads, a looser one reads as a single operand. -/
theorem Reads.loosen (hlevel : level ≠ .primary) (h : Reads depth level.next t ts) :
  Reads depth level t ts
  := by
  cases level with
  | disjunction | conjunction | sum | product =>
      apply Begins.reads
      apply Reads.begins rfl h
  | comparison =>
      intro rest hstops
      have hoperand : sums (expression depth) (ts ++ rest) = .ok (t, rest) :=
        h rest (hstops.tighten (by decide))
      rw [Level.parser, comparisons, atMostOne, hoperand]
      cases rest with
      | nil => rfl
      | cons u rest =>
          have hnone : comparisonOp? u = none := hstops.1 .comparison (Nat.le_refl _)
          simp only [hnone]
  | unary =>
      intro rest hstops
      apply prefixed_of_primary
      apply h rest (hstops.tighten (by decide))
  | primary => exact absurd rfl hlevel

end Levels

/-! ### Lists of items -/

/-- The parser `item` reads the tokens `ts`, up to a closing parenthesis, as the expressions `es`
with commas between them. -/
def ReadsAll (item : Parser Expr) : List Expr → List Token → Prop
  | [], ts => ts = []
  | e :: es, ts =>
    ∀ rest, nextKind rest = .closing → ∃ others, item (ts ++ rest) = .ok (e, others) ∧
      others.length ≤ (ts ++ rest).length ∧
        ∀ fuel, others.length ≤ fuel → moreItems item fuel others = .ok (es, rest)

/-- After the items a closing parenthesis adds none. -/
theorem moreItems_of_closing {item : Parser Expr} {rest : List Token}
    (h : nextKind rest = .closing) (fuel : Nat) :
  moreItems item fuel rest = .ok ([], rest)
  := by
  cases fuel with
  | zero => rfl
  | succ fuel =>
      cases rest with
      | nil => rfl
      | cons u rest =>
          have hkind : u.kind = .closing := h
          rw [moreItems, if_neg (by rw [hkind]; nofun)]

/-- No expression starts where one has to end. -/
theorem expression_of_end {ts : List Token}
    (h : nextKind ts = .closing ∨ nextKind ts = .endOfText) (depth : Nat) :
  ∃ fault, expression depth ts = .error fault
  := by
  cases depth with
  | zero => exact ⟨_, rfl⟩
  | succ depth =>
      cases ts with
      | nil => exact ⟨_, rfl⟩
      | cons u us =>
          have hkind : u.kind = .closing ∨ u.kind = .endOfText := h
          rcases hkind with hkind | hkind <;>
            simp [expression, levels, chain, atMostOne, prefixed, prefixOp?, primary, fail, hkind]

section Items

variable {item : Parser Expr} {e d : Expr} {es : List Expr} {ts us rest : List Token}

theorem stops_of_closing (h : nextKind rest = .closing) (level : Level) :
  Stops level rest
  := by
  cases rest with
  | nil => trivial
  | cons u rest =>
      have hkind : u.kind = .closing := h
      apply stops_of_kind
      simp [hkind]

theorem stops_of_comma {u : Token} (h : u.kind = .comma) (level : Level) (rest : List Token) :
  Stops level (u :: rest)
  := by
  apply stops_of_kind
  simp [h]

theorem Reads.readsOne {depth : Nat} (h : Reads depth .disjunction e ts) :
  ReadsAll (expression (depth + 1)) [e] ts
  := by
  intro rest hclosing
  use rest
  refine ⟨h rest (stops_of_closing hclosing _), ?_, ?_⟩
  · rw [List.length_append]
    apply Nat.le_add_left
  · intro fuel _
    apply moreItems_of_closing hclosing

theorem Reads.readsMore {depth : Nat} {u : Token} (hcomma : u.kind = .comma)
    (h : Reads depth .disjunction e ts) (hmore : ReadsAll (expression (depth + 1)) (d :: es) us) :
  ReadsAll (expression (depth + 1)) (e :: d :: es) (ts ++ u :: us)
  := by
  intro rest hclosing
  obtain ⟨others, hitem, hlength, hothers⟩ := hmore rest hclosing
  use u :: (us ++ rest)
  refine ⟨?_, ?_, ?_⟩
  · rw [List.append_assoc, List.cons_append]
    apply h _ (stops_of_comma hcomma _ _)
  · simp
  · rintro (_ | fuel) hfuel
    · cases hfuel
    · rw [List.length_cons] at hfuel
      rw [moreItems, if_pos hcomma, hitem]
      simp only [hothers fuel (by omega)]

theorem ReadsAll.items (h : ReadsAll item (e :: es) ts) (hclosing : nextKind rest = .closing) :
  Parser.items item (ts ++ rest) = .ok (e :: es, rest)
  := by
  obtain ⟨others, hitem, -, hothers⟩ := h rest hclosing
  rw [Parser.items, hitem]
  simp only [hothers _ (Nat.le_refl _)]

theorem ReadsAll.not_closing {depth : Nat} (h : ReadsAll (expression depth) (e :: es) ts)
    (hclosing : nextKind rest = .closing) :
  nextKind (ts ++ rest) ≠ .closing
  := by
  intro hfirst
  obtain ⟨others, hitem, -⟩ := h rest hclosing
  obtain ⟨fault, hfault⟩ := expression_of_end (.inl hfirst) depth
  rw [hfault] at hitem
  cases hitem

end Items

/-! ### Primaries -/

section Primaries

variable {depth : Nat} {ts rest : List Token} {u close : Token}

theorem close_of_closing (h : close.kind = .closing) (what : String) (rest : List Token) :
  Parser.close what (close :: rest) = .ok ((), rest)
  := by
  rw [Parser.close, if_pos h]

/-- A path has ended where no dot follows. -/
theorem pathNames_of_stops {level : Level} (h : Stops level rest) :
  pathNames rest = .ok ([], rest)
  := by
  unfold pathNames
  split
  · exact absurd rfl h.2.1
  · rfl

theorem pathNames_append {parts : List String} (hparts : ∀ part ∈ parts, IsWord part)
    (hwrites : Writes (dotted parts) ts) {level : Level} (hstops : Stops level rest) :
  pathNames (ts ++ rest) = .ok (parts, rest)
  := by
  induction parts generalizing ts with
  | nil =>
      cases hwrites
      apply pathNames_of_stops hstops
  | cons part parts ih =>
      obtain ⟨hpart, hparts⟩ := List.forall_mem_cons.mp hparts
      obtain ⟨dot, us, rfl, hdot, hafter⟩ := hwrites.of_cons
      obtain ⟨word, us, rfl, ⟨-, hword⟩, hrest⟩ := Writes.of_cons hafter
      obtain ⟨kind, text, position⟩ := dot
      obtain rfl : kind = .dot := hdot
      have hidentifier : isIdentifier word.text = true := by
        rw [hword]
        exact hpart.identifier
      rw [List.cons_append, List.cons_append, pathNames, if_pos hidentifier, ih hparts hrest,
        hword]
      rfl

theorem Stops.not_opening {level : Level} (h : Stops level rest) :
  nextKind rest ≠ .opening
  := by
  cases rest with
  | nil => nofun
  | cons u rest => exact h.2.2

/-- A name with the parts of a path after it. -/
theorem reads_reference {s : String} {parts : List String} (hs : IsName s)
    (hparts : ∀ part ∈ parts, IsWord part) (hu : (Symbol.word s).Matches u)
    (hwrites : Writes (dotted parts) ts) (hstops : Stops .primary rest) :
  primary (expression depth) (u :: (ts ++ rest)) = .ok (match parts with
    | [] => .identifier s
    | name :: attributes => .field s name attributes, rest)
  := by
  obtain ⟨hkind, htext⟩ := hu
  rw [hs.wordKind_eq] at hkind
  have hopening : nextKind (ts ++ rest) ≠ .opening := by
    cases parts with
    | nil =>
        cases hwrites
        exact hstops.not_opening
    | cons part parts =>
        obtain ⟨dot, ts, rfl, hdot, -⟩ := hwrites.of_cons
        have hkind : dot.kind = .dot := hdot
        rw [List.cons_append, nextKind, hkind]
        nofun
  simp only [primary, hkind, if_neg hopening, reference, pathNames_append hparts hwrites hstops,
    if_neg hstops.not_opening, htext]
  cases parts <;> rfl

theorem primary_of_opening (h : u.kind = .opening) (inner : Parser Expr) (rest : List Token) :
  primary inner (u :: rest) = group inner rest
  := by
  simp only [primary, h]

theorem primary_of_call {f : String} {v : Token} (hf : IsName f) (hu : (Symbol.word f).Matches u)
    (hv : v.kind = .opening) (inner : Parser Expr) (rest : List Token) :
  primary inner (u :: v :: rest) = arguments inner f rest
  := by
  obtain ⟨hkind, htext⟩ := hu
  rw [hf.wordKind_eq] at hkind
  have hopening : nextKind (v :: rest) = .opening := hv
  simp only [primary, hkind, if_pos hopening, htext, List.drop_one, List.tail_cons]

/-- The arguments of a call and the parenthesis after them. -/
theorem ReadsAll.arguments {es : List Expr} (h : ReadsAll (expression depth) es ts)
    (hclose : close.kind = .closing) (f : String) :
  Parser.arguments (expression depth) f (ts ++ close :: rest) = .ok (.call f es, rest)
  := by
  have hclosing : nextKind (close :: rest) = .closing := hclose
  cases es with
  | nil =>
      cases h
      rw [List.nil_append, Parser.arguments, if_pos hclosing]
      rfl
  | cons e es =>
      rw [Parser.arguments, if_neg (h.not_closing hclosing), h.items hclosing]
      simp only [close_of_closing hclose]
      rfl

/-- The items of a tuple and the parenthesis after them. -/
theorem ReadsAll.tuple {es : List Expr} (h : ReadsAll (expression depth) es ts)
    (hclose : close.kind = .closing) (hlength : es.length ≠ 1) :
  Parser.group (expression depth) (ts ++ close :: rest) = .ok (.tuple es, rest)
  := by
  have hclosing : nextKind (close :: rest) = .closing := hclose
  match es, hlength, h with
  | [], _, h =>
      cases h
      rw [List.nil_append, Parser.group, if_pos hclosing]
      rfl
  | [_], hlength, _ => exact absurd rfl hlength
  | e :: d :: es, _, h =>
      rw [Parser.group, if_neg (h.not_closing hclosing), h.items hclosing]
      simp only [close_of_closing hclose]
      rfl

/-- One item in parentheses is the item. -/
theorem ReadsAll.group {e : Expr} (h : ReadsAll (expression depth) [e] ts)
    (hclose : close.kind = .closing) :
  Parser.group (expression depth) (ts ++ close :: rest) = .ok (e, rest)
  := by
  have hclosing : nextKind (close :: rest) = .closing := hclose
  rw [Parser.group, if_neg (h.not_closing hclosing), h.items hclosing]
  simp only [close_of_closing hclose]
  rfl

end Primaries

/-! ### Reading derivations -/

/-- With parentheses nested at most `depth` deep, a level reads the tokens `ts` as the expression
`t`, in the middle of a chain too when the level has chains. -/
structure Understands (depth : Nat) (level : Level) (t : Expr) (ts : List Token) : Prop where
  reads : Reads depth level t ts
  begins : level.isChain = true → Begins depth level t ts

theorem Understands.of_reads {depth : Nat} {level : Level} {t : Expr} {ts : List Token}
    (hlevel : level.isChain = false) (h : Reads depth level t ts) :
  Understands depth level t ts
  := ⟨h, fun hchain => by rw [hlevel] at hchain; cases hchain⟩

theorem Understands.of_begins {depth : Nat} {level : Level} {t : Expr} {ts : List Token}
    (h : Begins depth level t ts) :
  Understands depth level t ts
  := ⟨h.reads, fun _ => h⟩

theorem Understands.loosen {depth : Nat} {level : Level} {t : Expr} {ts : List Token}
    (hlevel : level ≠ .primary) (h : Understands depth level.next t ts) :
  Understands depth level t ts
  := ⟨h.reads.loosen hlevel, fun hchain => h.reads.begins hchain⟩

/-- An operation between two operands is understood when they are. -/
theorem Understands.connective {depth : Nat} {j : Connective} {op : Token} {l r : Expr}
    {ls rs : List Token} (hop : Symbol.Matches (.connective j) op)
    (left : Understands depth j.left l ls) (right : Understands depth j.right r rs) :
  Understands depth j.level (j.apply l r) (ls ++ op :: rs)
  := by
  rw [Connective.left] at left
  rw [Connective.right] at right
  split_ifs at left with hlevel
  · rw [hlevel] at left right ⊢
    apply Understands.of_reads rfl
    apply Reads.compare hlevel hop left.reads right.reads
  · have hchain : j.level.isChain = true := by
      cases j with
      | logical op => cases op <;> rfl
      | binary op => cases op <;> first | rfl | exact absurd rfl hlevel
    apply Understands.of_begins
    apply Begins.join hchain hop (left.begins hchain) right.reads

theorem Understands.call {depth : Nat} {f : String} {es : List Expr} {u first last : Token}
    {us : List Token} (hf : IsName f) (hu : (Symbol.word f).Matches u)
    (hfirst : first.kind = .opening) (hlast : last.kind = .closing)
    (arguments : ReadsAll (expression depth) es us) :
  Understands depth .primary (.call f es) (u :: first :: (us ++ [last]))
  := by
  apply Understands.of_reads rfl
  intro rest _
  rw [List.cons_append, List.cons_append, List.append_assoc, Level.parser,
    primary_of_call hf hu hfirst]
  apply arguments.arguments hlast

theorem Understands.tuple {depth : Nat} {es : List Expr} {first last : Token} {us : List Token}
    (hlength : es.length ≠ 1) (hfirst : first.kind = .opening) (hlast : last.kind = .closing)
    (items : ReadsAll (expression depth) es us) :
  Understands depth .primary (.tuple es) (first :: (us ++ [last]))
  := by
  apply Understands.of_reads rfl
  intro rest _
  rw [List.cons_append, List.append_assoc, Level.parser, primary_of_opening hfirst]
  apply items.tuple hlast hlength

theorem Understands.group {depth : Nat} {t : Expr} {first last : Token} {us : List Token}
    (hfirst : first.kind = .opening) (hlast : last.kind = .closing)
    (inner : Understands depth .disjunction t us) :
  Understands (depth + 1) .primary t (first :: (us ++ [last]))
  := by
  apply Understands.of_reads rfl
  intro rest _
  rw [List.cons_append, List.append_assoc, Level.parser, primary_of_opening hfirst]
  apply inner.reads.readsOne.group hlast

theorem Understands.constant {depth : Nat} {l : Literal} {u : Token}
    (h : ∀ inner rest, primary inner (u :: rest) = .ok (.literal l, rest)) :
  Understands depth .primary (.literal l) [u]
  := by
  apply Understands.of_reads rfl
  intro rest _
  apply h

mutual

/-- The parser understands whatever the grammar writes. -/
theorem Derives.understood {level : Level} {t : Expr} {ss : List Symbol} (d : Derives level t ss)
    {depth : Nat} {ts : List Token} (hwrites : Writes ss ts) (hdepth : ts.length ≤ depth) :
  Understands depth level t ts
  := by
  match d with
  | .int _ =>
      obtain ⟨u, _, rfl, ⟨hkind, htext⟩, ⟨⟩⟩ := hwrites.of_cons
      apply Understands.constant
      intro inner rest
      simp only [primary, hkind, htext]
  | .text s =>
      obtain ⟨u, _, rfl, ⟨hkind, htext⟩, ⟨⟩⟩ := hwrites.of_cons
      apply Understands.constant
      intro inner rest
      simp only [primary, hkind, htext]
  | .bool b =>
      obtain ⟨u, _, rfl, hkind, ⟨⟩⟩ := hwrites.of_cons
      apply Understands.constant
      intro inner rest
      cases b <;> rw [Symbol.Matches] at hkind <;> simp only [primary, hkind]
  | .identifier h =>
      obtain ⟨u, _, rfl, hu, ⟨⟩⟩ := hwrites.of_cons
      apply Understands.of_reads rfl
      intro rest hstops
      have hparts : ∀ part ∈ ([] : List String), IsWord part := by simp
      exact reads_reference h hparts hu .nil hstops
  | .field hscope hparts =>
      obtain ⟨u, us, rfl, hu, hrest⟩ := hwrites.of_cons
      apply Understands.of_reads rfl
      intro rest hstops
      exact reads_reference hscope hparts hu hrest hstops
  | .call hf arguments =>
      obtain ⟨u, _, rfl, hu, hgroup⟩ := hwrites.of_cons
      obtain ⟨first, us, last, rfl, hfirst, hlast, hitems⟩ := Writes.of_group hgroup
      simp only [List.length_cons, List.length_append] at hdepth
      apply Understands.call hf hu hfirst hlast
      apply arguments.understood hitems (by omega)
  | .tuple hlength items =>
      obtain ⟨first, us, last, rfl, hfirst, hlast, hitems⟩ := hwrites.of_group
      simp only [List.length_cons, List.length_append] at hdepth
      apply Understands.tuple hlength hfirst hlast
      apply items.understood hitems (by omega)
  | .group inner =>
      obtain ⟨first, us, last, rfl, hfirst, hlast, hinner⟩ := hwrites.of_group
      simp only [List.length_cons, List.length_append] at hdepth
      obtain ⟨depth, rfl⟩ := Nat.exists_eq_add_one_of_ne_zero (show depth ≠ 0 by omega)
      apply Understands.group hfirst hlast
      apply inner.understood hinner (by omega)
  | .unary op operand =>
      obtain ⟨u, us, rfl, hop, hrest⟩ := hwrites.of_cons
      rw [List.length_cons] at hdepth
      apply Understands.of_reads rfl
      apply Reads.unary hop
      apply (operand.understood hrest (by omega)).reads
  | .connective j left right =>
      obtain ⟨ls, _, rfl, hleft, hrest⟩ := hwrites.of_append
      obtain ⟨op, rs, rfl, hop, hright⟩ := Writes.of_cons hrest
      rw [List.length_append, List.length_cons] at hdepth
      apply Understands.connective hop
      · exact left.understood hleft (by omega)
      · exact right.understood hright (by omega)
  | .loosen h tighter => exact (tighter.understood hwrites hdepth).loosen h

theorem DerivesAll.understood {es : List Expr} {ss : List Symbol} (d : DerivesAll es ss)
    {depth : Nat} {ts : List Token} (hwrites : Writes ss ts) (hdepth : ts.length < depth) :
  ReadsAll (expression depth) es ts
  := by
  obtain ⟨depth, rfl⟩ := Nat.exists_eq_add_one_of_ne_zero (show depth ≠ 0 by omega)
  match d with
  | .nil =>
      cases hwrites
      rfl
  | .one item => exact (item.understood hwrites (by omega)).reads.readsOne
  | .more item others =>
      obtain ⟨ts, _, rfl, hitem, hrest⟩ := hwrites.of_append
      obtain ⟨u, us, rfl, hcomma, hothers⟩ := Writes.of_cons hrest
      rw [List.length_append, List.length_cons] at hdepth
      apply Reads.readsMore hcomma
      · exact (item.understood hitem (by omega)).reads
      · exact others.understood hothers (by omega)

end

/-- What the grammar writes is read as its expression, up to the end of the tokens. -/
theorem wholeExpression_of_derives {t : Expr} {ss : List Symbol}
    (d : Derives .disjunction t ss) {ts : List Token} (hwrites : Writes ss ts) {u : Token}
    (hend : u.kind = .endOfText) :
  wholeExpression (ts ++ [u]) = .ok t
  := by
  have hstops : Stops .disjunction [u] := stops_of_kind (by simp [hend]) _ _
  have hlength : ts.length ≤ (ts ++ [u]).length := by simp
  have hread : expression ((ts ++ [u]).length + 1) (ts ++ [u]) = .ok (t, [u]) :=
    (d.understood hwrites hlength).reads [u] hstops
  have hbegun : nextKind (ts ++ [u]) ≠ .endOfText := by
    intro hkind
    obtain ⟨fault, hfault⟩ := expression_of_end (.inr hkind) ((ts ++ [u]).length + 1)
    rw [hread] at hfault
    cases hfault
  rw [wholeExpression, if_neg hbegun, hread]
  simp [nextText?, hend]

end Grammar

end AccessControl
