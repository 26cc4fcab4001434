import AccessControl.Expr.Token
import AccessControl.Expr.Tree
import AccessControl.Number.Numeral
import AccessControl.Text.Identifier
import Mathlib.Data.List.Count
import Mathlib.Tactic

/-!
# The grammar of expressions

Which symbols may be written for an expression: the table of precedence, the grammar that follows
it, and the printing of an expression with parentheses where the table needs them.  A printed
expression is derived by the grammar, `derives_printed`, and no derivation has fewer parentheses
than the sparsest printing, `count_sparse_le`.
-/

namespace AccessControl

namespace Grammar

/-! ### The table of precedence -/

/-- The levels of precedence, loosest first. -/
inductive Level where
  | disjunction
  | conjunction
  | comparison
  | sum
  | product
  | unary
  | primary
  deriving DecidableEq

namespace Level

/-- How tightly a level binds. -/
def rank : Level → Nat
  | .disjunction => 0
  | .conjunction => 1
  | .comparison => 2
  | .sum => 3
  | .product => 4
  | .unary => 5
  | .primary => 6

/-- The next tighter level; nothing binds tighter than a primary. -/
def next : Level → Level
  | .disjunction => .conjunction
  | .conjunction => .comparison
  | .comparison => .sum
  | .sum => .product
  | .product => .unary
  | .unary => .primary
  | .primary => .primary

theorem eq_of_rank {level other : Level} (h : level.rank = other.rank) :
  level = other
  := by
  cases level <;> cases other <;> first | rfl | cases h

theorem rank_next {level : Level} (h : level ≠ .primary) :
  level.next.rank = level.rank + 1
  := by
  cases level <;> first | rfl | exact absurd rfl h

theorem rank_le_primary (level : Level) :
  level.rank ≤ Level.primary.rank
  := by
  cases level <;> decide

end Level

/-- The operators between two operands. -/
inductive Connective where
  | logical (op : LogicalOp)
  | binary (op : BinaryOp)
  deriving DecidableEq

namespace Connective

/-- The expression that a connective makes of its operands. -/
def apply : Connective → Expr → Expr → Expr
  | .logical op => .logical op
  | .binary op => .binary op

/-- The level of a connective. -/
def level : Connective → Level
  | .logical .or => .disjunction
  | .logical .and => .conjunction
  | .binary .eq | .binary .ne | .binary .lt | .binary .le | .binary .gt | .binary .ge
  | .binary .isIn => .comparison
  | .binary .add | .binary .sub => .sum
  | .binary .mul | .binary .div | .binary .mod => .product

/-- The level of the right operand of a connective. -/
def right (j : Connective) : Level := j.level.next

/-- The level of the left operand of a connective.  A comparison has no comparison on its left; the
other connectives associate to the left. -/
def left (j : Connective) : Level :=
  if j.level = .comparison then j.level.next else j.level

end Connective

/-- The level of an expression that stands without parentheses around it. -/
def levelOf : Expr → Level
  | .literal _ | .field .. | .identifier _ | .call .. | .tuple _ => .primary
  | .unary .. => .unary
  | .binary op _ _ => (Connective.binary op).level
  | .logical op _ _ => (Connective.logical op).level

theorem levelOf_apply (j : Connective) (l r : Expr) :
  levelOf (j.apply l r) = j.level
  := by
  cases j <;> rfl

/-! ### Words -/

/-- The words that are no names. -/
def keywords : List String := ["and", "or", "not", "in", "true", "false"]

/-- An identifier of the first 128 characters. -/
structure IsWord (s : String) : Prop where
  identifier : isIdentifier s = true
  ascii : ∀ c ∈ s.toList, isAscii c = true

theorem isWord_iff {s : String} :
  IsWord s ↔ (isIdentifier s && s.toList.all isAscii) = true
  := by
  rw [Bool.and_eq_true, List.all_eq_true]
  exact ⟨fun ⟨hidentifier, hascii⟩ => ⟨hidentifier, hascii⟩, fun ⟨hidentifier, hascii⟩ =>
    ⟨hidentifier, hascii⟩⟩

/-- Whether a text is a word can be computed. -/
instance (s : String) : Decidable (IsWord s) := decidable_of_iff _ isWord_iff.symm

/-- A word that is no keyword. -/
structure IsName (s : String) : Prop extends IsWord s where
  fresh : s ∉ keywords

theorem isName_iff {s : String} :
  IsName s ↔ IsWord s ∧ s ∉ keywords
  := ⟨fun h => ⟨h.toIsWord, h.fresh⟩, fun ⟨hword, hfresh⟩ => ⟨hword, hfresh⟩⟩

/-- Whether a word is a name can be computed. -/
instance (s : String) : Decidable (IsName s) := decidable_of_iff _ isName_iff.symm

theorem IsName.wordKind_eq {s : String} (h : IsName s) :
  Token.wordKind s = .name
  := by
  have hfresh := h.fresh
  simp only [keywords, List.mem_cons, List.not_mem_nil, or_false, not_or] at hfresh
  simp [Token.wordKind, hfresh]

/-- The number has no more digits than are read. -/
def IsShort (n : Nat) : Prop := (toString n).length ≤ maxDigits

instance (n : Nat) : Decidable (IsShort n) := inferInstanceAs (Decidable (_ ≤ _))

mutual

/-- The expressions that the grammar can write: their numbers are short integers, their names are
words and the heads of them no keywords, and no tuple has one item only. -/
def WellFormed : Expr → Prop
  | .literal (.int n) => IsShort n
  | .literal (.float _) => False
  | .literal (.text _) | .literal (.bool _) => True
  | .field scope name attributes =>
    IsName scope ∧ ∀ part ∈ name :: attributes, IsWord part
  | .identifier s => IsName s
  | .unary _ e => WellFormed e
  | .binary _ l r | .logical _ l r => WellFormed l ∧ WellFormed r
  | .call f es => IsName f ∧ AllWellFormed es
  | .tuple es => es.length ≠ 1 ∧ AllWellFormed es

def AllWellFormed : List Expr → Prop
  | [] => True
  | e :: es => WellFormed e ∧ AllWellFormed es

end

/-! ### The grammar -/

/-- What an expression is written with. -/
inductive Symbol where
  | int (n : Nat)
  | text (s : String)
  | bool (b : Bool)
  | word (s : String)
  | connective (j : Connective)
  | not
  | opening
  | closing
  | comma
  | dot
  deriving DecidableEq

/-- The symbol of an operator before an operand. -/
def prefixSymbol : UnaryOp → Symbol
  | .not => .not
  | .minus => .connective (.binary .sub)

/-- The symbols of the parts of a path, with a dot before each. -/
def dotted : List String → List Symbol
  | [] => []
  | part :: parts => .dot :: .word part :: dotted parts

mutual

/-- `Derives level t ss` says that the grammar writes the expression `t` as the symbols `ss` where
an operand of the given level is due. -/
inductive Derives : Level → Expr → List Symbol → Prop where
  | int {n : Nat} (h : IsShort n) :
    Derives .primary (.literal (.int n)) [.int n]
  | text (s : String) : Derives .primary (.literal (.text s)) [.text s]
  | bool (b : Bool) : Derives .primary (.literal (.bool b)) [.bool b]
  | identifier {s : String} (h : IsName s) : Derives .primary (.identifier s) [.word s]
  | field {scope name : String} {attributes : List String} (hscope : IsName scope)
      (hparts : ∀ part ∈ name :: attributes, IsWord part) :
    Derives .primary (.field scope name attributes)
      (.word scope :: dotted (name :: attributes))
  | call {f : String} {es : List Expr} {ss : List Symbol} (hf : IsName f)
      (arguments : DerivesAll es ss) :
    Derives .primary (.call f es) (.word f :: .opening :: (ss ++ [.closing]))
  | tuple {es : List Expr} {ss : List Symbol} (hlength : es.length ≠ 1)
      (items : DerivesAll es ss) :
    Derives .primary (.tuple es) (.opening :: (ss ++ [.closing]))
  | group {t : Expr} {ss : List Symbol} (inner : Derives .disjunction t ss) :
    Derives .primary t (.opening :: (ss ++ [.closing]))
  | unary {t : Expr} {ss : List Symbol} (op : UnaryOp) (operand : Derives .unary t ss) :
    Derives .unary (.unary op t) (prefixSymbol op :: ss)
  | connective {l r : Expr} {ls rs : List Symbol} (j : Connective) (left : Derives j.left l ls)
      (right : Derives j.right r rs) :
    Derives j.level (j.apply l r) (ls ++ .connective j :: rs)
  | loosen {level : Level} {t : Expr} {ss : List Symbol} (h : level ≠ .primary)
      (tighter : Derives level.next t ss) :
    Derives level t ss

/-- The grammar writes expressions as symbols with commas between them. -/
inductive DerivesAll : List Expr → List Symbol → Prop where
  | nil : DerivesAll [] []
  | one {e : Expr} {ss : List Symbol} (item : Derives .disjunction e ss) : DerivesAll [e] ss
  | more {e d : Expr} {es : List Expr} {ss rs : List Symbol} (item : Derives .disjunction e ss)
      (others : DerivesAll (d :: es) rs) :
    DerivesAll (e :: d :: es) (ss ++ .comma :: rs)

end

/-- What binds tighter may stand where something looser is due. -/
theorem Derives.loosen_le {level tighter : Level} {t : Expr} {ss : List Symbol}
    (h : level.rank ≤ tighter.rank) (d : Derives tighter t ss) :
  Derives level t ss
  := by
  obtain ⟨k, hk⟩ := Nat.exists_eq_add_of_le h
  induction k generalizing level with
  | zero =>
      have hsame : level = tighter := Level.eq_of_rank (by omega)
      rw [hsame]
      exact d
  | succ k ih =>
      have hlevel : level ≠ .primary := by
        rintro rfl
        have := tighter.rank_le_primary
        omega
      have hnext := Level.rank_next hlevel
      apply Derives.loosen hlevel
      apply ih (by omega) (by omega)

/-! ### Printing -/

/-- The symbols of a constant. -/
def literalSymbols : Literal → List Symbol
  | .int n => [.int n]
  | .text s => [.text s]
  | .bool b => [.bool b]
  | .float _ => []

/-- The symbols `ss` of the expression `t` where an operand of the given level is due, with
parentheses when the level or `extra` asks for them. -/
def enclosed (extra : Expr → Bool) (level : Level) (t : Expr) (ss : List Symbol) : List Symbol :=
  if (levelOf t).rank < level.rank ∨ extra t = true then .opening :: (ss ++ [.closing]) else ss

mutual

/-- The symbols of an expression without parentheses around the whole. -/
def bare (extra : Expr → Bool) : Expr → List Symbol
  | .literal l => literalSymbols l
  | .field scope name attributes => .word scope :: dotted (name :: attributes)
  | .identifier s => [.word s]
  | .unary op e => prefixSymbol op :: enclosed extra .unary e (bare extra e)
  | .binary op l r =>
    enclosed extra (Connective.binary op).left l (bare extra l)
      ++ .connective (.binary op) :: enclosed extra (Connective.binary op).right r (bare extra r)
  | .logical op l r =>
    enclosed extra (Connective.logical op).left l (bare extra l)
      ++ .connective (.logical op) :: enclosed extra (Connective.logical op).right r (bare extra r)
  | .call f es => .word f :: .opening :: (bareAll extra es ++ [.closing])
  | .tuple es => .opening :: (bareAll extra es ++ [.closing])

/-- The symbols of expressions with commas between them. -/
def bareAll (extra : Expr → Bool) : List Expr → List Symbol
  | [] => []
  | [e] => enclosed extra .disjunction e (bare extra e)
  | e :: d :: es =>
    enclosed extra .disjunction e (bare extra e) ++ .comma :: bareAll extra (d :: es)

end

/-- The symbols of an expression where an operand of the given level is due, with parentheses
where the table needs them and around the expressions that `extra` chooses. -/
def printed (extra : Expr → Bool) (level : Level) (t : Expr) : List Symbol :=
  enclosed extra level t (bare extra t)

/-- An expression with parentheses only where the table needs them. -/
def sparse (t : Expr) : List Symbol := printed (fun _ => false) .disjunction t

/-- An expression with parentheses around every operation in it, itself included. -/
def full (t : Expr) : List Symbol :=
  printed (fun e => decide (levelOf e ≠ .primary)) .disjunction t

theorem bare_apply (extra : Expr → Bool) (j : Connective) (l r : Expr) :
  bare extra (j.apply l r)
    = printed extra j.left l ++ .connective j :: printed extra j.right r
  := by
  cases j <;> simp only [Connective.apply, bare, printed]

/-- With parentheses or without, an expression may stand where an operand of any level is due. -/
theorem derives_enclosed {extra : Expr → Bool} {t : Expr} {ss : List Symbol}
    (d : Derives (levelOf t) t ss) (level : Level) :
  Derives level t (enclosed extra level t ss)
  := by
  rw [enclosed]
  split
  case isTrue =>
    apply Derives.loosen_le level.rank_le_primary
    apply Derives.group
    apply Derives.loosen_le (Nat.zero_le _) d
  case isFalse h =>
    rw [not_or, Nat.not_lt] at h
    apply Derives.loosen_le h.1 d

mutual

theorem derives_bare (extra : Expr → Bool) :
    (t : Expr) → WellFormed t → Derives (levelOf t) t (bare extra t)
  | .literal (.int _), h => Derives.int h
  | .literal (.text s), _ => Derives.text s
  | .literal (.bool b), _ => Derives.bool b
  | .literal (.float _), h => h.elim
  | .field .., h => Derives.field h.1 h.2
  | .identifier _, h => Derives.identifier h
  | .unary op e, h => Derives.unary op (derives_enclosed (derives_bare extra e h) .unary)
  | .binary op l r, h =>
    Derives.connective (.binary op) (derives_enclosed (derives_bare extra l h.1) _)
      (derives_enclosed (derives_bare extra r h.2) _)
  | .logical op l r, h =>
    Derives.connective (.logical op) (derives_enclosed (derives_bare extra l h.1) _)
      (derives_enclosed (derives_bare extra r h.2) _)
  | .call _ es, h => Derives.call h.1 (derives_bareAll extra es h.2)
  | .tuple es, h => Derives.tuple h.1 (derives_bareAll extra es h.2)

theorem derives_bareAll (extra : Expr → Bool) :
    (es : List Expr) → AllWellFormed es → DerivesAll es (bareAll extra es)
  | [], _ => DerivesAll.nil
  | [e], h => DerivesAll.one (derives_enclosed (derives_bare extra e h.1) .disjunction)
  | e :: d :: es, h =>
    DerivesAll.more (derives_enclosed (derives_bare extra e h.1) .disjunction)
      (derives_bareAll extra (d :: es) h.2)

end

/-- A printed expression is derived by the grammar. -/
theorem derives_printed {t : Expr} (h : WellFormed t) (extra : Expr → Bool) (level : Level) :
  Derives level t (printed extra level t)
  := by
  apply derives_enclosed (derives_bare extra t h)

/-! ### The fewest parentheses -/

/-- The number of opening parentheses among symbols. -/
def parens (ss : List Symbol) : Nat := ss.count .opening

theorem parens_append (ss rs : List Symbol) :
  parens (ss ++ rs) = parens ss + parens rs
  := List.count_append

theorem parens_cons {s : Symbol} (h : s ≠ .opening) (ss : List Symbol) :
  parens (s :: ss) = parens ss
  := List.count_cons_of_ne h

theorem parens_group (ss : List Symbol) :
  parens (.opening :: (ss ++ [.closing])) = parens ss + 1
  := by
  simp [parens]

theorem parens_call (f : String) (ss : List Symbol) :
  parens (.word f :: .opening :: (ss ++ [.closing])) = parens ss + 1
  := by
  rw [parens_cons (by nofun), parens_group]

/-- Symbols with one more, not an opening parenthesis, between them. -/
theorem parens_between {s : Symbol} (h : s ≠ .opening) (ss rs : List Symbol) :
  parens (ss ++ s :: rs) = parens ss + parens rs
  := by
  rw [parens_append, parens_cons h]

theorem prefixSymbol_ne_opening (op : UnaryOp) :
  prefixSymbol op ≠ .opening
  := by
  cases op <;> simp [prefixSymbol]

/-- An expression with parentheses only where the table needs them, where an operand of the given
level is due. -/
def sparseAt (level : Level) (t : Expr) : List Symbol := printed (fun _ => false) level t

theorem sparseAt_eq_bare {level : Level} {t : Expr} (h : level.rank ≤ (levelOf t).rank) :
  sparseAt level t = bare (fun _ => false) t
  := by
  rw [sparseAt, printed, enclosed, if_neg]
  simpa using h

/-- An expression needs no parentheses at its own level. -/
theorem sparseAt_own {level : Level} {t : Expr} (h : levelOf t = level) :
  sparseAt level t = bare (fun _ => false) t
  := sparseAt_eq_bare (by rw [h])

/-- A tighter place asks for more parentheses. -/
theorem parens_sparseAt_mono {level tighter : Level} (h : level.rank ≤ tighter.rank) (t : Expr) :
  parens (sparseAt level t) ≤ parens (sparseAt tighter t)
  := by
  by_cases hlevel : level.rank ≤ (levelOf t).rank
  case pos =>
    rw [sparseAt_eq_bare hlevel, sparseAt, printed, enclosed]
    split
    · rw [parens_group]
      apply Nat.le_succ
    · apply Nat.le_refl
  case neg =>
    rw [sparseAt, sparseAt, printed, printed, enclosed, enclosed, if_pos (by left; omega),
      if_pos (by left; omega)]

/-- One pair of parentheses is enough at every level. -/
theorem parens_sparseAt_le (level : Level) (t : Expr) :
  parens (sparseAt level t) ≤ parens (sparseAt .disjunction t) + 1
  := by
  have hbare : sparseAt .disjunction t = bare (fun _ => false) t :=
    sparseAt_eq_bare (Nat.zero_le _)
  rw [hbare, sparseAt, printed, enclosed]
  split
  · rw [parens_group]
  · apply Nat.le_succ

mutual

/-- No derivation has fewer parentheses than the sparse printing. -/
theorem Derives.parens_le {level : Level} {t : Expr} {ss : List Symbol} (d : Derives level t ss) :
  parens (sparseAt level t) ≤ parens ss
  := by
  match d with
  | .int _ | .text _ | .bool _ | .identifier _ | .field _ _ =>
      rw [sparseAt_own (by rfl)]
      apply Nat.le_refl
  | .call _ arguments =>
      rw [sparseAt_own (by rfl), bare, parens_call, parens_call]
      have := arguments.parens_le
      omega
  | .tuple _ items =>
      rw [sparseAt_own (by rfl), bare, parens_group, parens_group]
      have := items.parens_le
      omega
  | .group inner =>
      rw [parens_group]
      have hinner := inner.parens_le
      have hlevel := parens_sparseAt_le .primary t
      omega
  | .unary op operand =>
      have hop := prefixSymbol_ne_opening op
      rw [sparseAt_own (by rfl), bare, parens_cons hop, parens_cons hop]
      exact operand.parens_le
  | .connective (l := l) (r := r) j left right =>
      rw [sparseAt_own (levelOf_apply j l r), bare_apply, parens_between (by nofun),
        parens_between (by nofun)]
      exact Nat.add_le_add left.parens_le right.parens_le
  | .loosen h tighter =>
      have hnext := Level.rank_next h
      apply Nat.le_trans (parens_sparseAt_mono (by omega) t) tighter.parens_le

theorem DerivesAll.parens_le {es : List Expr} {ss : List Symbol} (d : DerivesAll es ss) :
  parens (bareAll (fun _ => false) es) ≤ parens ss
  := by
  match d with
  | .nil => apply Nat.le_refl
  | .one item => exact item.parens_le
  | .more item others =>
      rw [bareAll, parens_between (by nofun), parens_between (by nofun)]
      exact Nat.add_le_add item.parens_le others.parens_le

end

end Grammar

end AccessControl
