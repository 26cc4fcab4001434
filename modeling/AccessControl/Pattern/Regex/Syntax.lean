import AccessControl.Text.Blank
import AccessControl.Text.Case
import AccessControl.Text.Digits
import AccessControl.Text.Letters

/-!
# Regular expressions

The syntax trees of regular expressions, with every option resolved: a class of
characters knows whether it ignores case, an anchor knows whether it looks at lines.
Groups are numbered from one.
-/

namespace AccessControl

/-- How letter case is ignored. -/
inductive CaseRule where
  | exact
  | ascii
  | unicode
  deriving DecidableEq, Inhabited

/-- The kinds of character that a class may name. -/
inductive CharKind where
  | digit
  | space
  | word
  deriving DecidableEq, Inhabited

/-- The character is of the kind; `ascii` restricts the kind to the first 128
characters. -/
def CharKind.contains (kind : CharKind) (ascii : Bool) (c : Char) : Bool :=
  match kind with
  | .digit => if ascii then c.isDigit else isDecimal c
  | .space => if ascii then c == ' ' || ('\t' ≤ c && c ≤ '\r') else isBlank c
  | .word =>
    if ascii then isAscii c && (c.isAlphanum || c == '_') else isLetterOrNumeral c || c == '_'

/-- A member of a class of characters. -/
inductive ClassItem where
  | code (n : Nat)
  | range (lo hi : Nat)
  | kind (kind : CharKind) (negated : Bool)
  deriving DecidableEq, Inhabited

/-- A class of characters. -/
structure CharClass where
  items : List ClassItem
  negated : Bool := false
  caseRule : CaseRule := .exact
  ascii : Bool := false
  deriving DecidableEq, Inhabited

/-- The end of the basic plane of code points. -/
def basicPlane : Nat := 0xFFFF

namespace CaseRule

/-- The lower case of a code point under a rule. -/
def lower : CaseRule → Nat → Nat
  | .exact, n => n
  | .ascii, n => lowerAscii n
  | .unicode, n => lowerCode n

/-- The code points that equal a lower-case one. -/
def variants : CaseRule → Nat → List Nat
  | .unicode, n => caseVariants n
  | _, n => [n]

/-- The code points whose lower case is the given one, itself a lower-case one. -/
def forms : CaseRule → Nat → List Nat
  | .exact, n => [n]
  | .ascii, n => if 97 ≤ n ∧ n ≤ 122 then [n, n - 32] else if n = lowerAscii n then [n] else []
  | .unicode, n => n :: capitalsOf n

/-- The code point has another case. -/
def isCased : CaseRule → Nat → Bool
  | .exact, _ => false
  | .ascii, n => (65 ≤ n && n ≤ 90) || (97 ≤ n && n ≤ 122)
  | .unicode, n => lowerCode n != n || upperCode n != n

/-- The code points are equal under a rule. -/
def equal (rule : CaseRule) (n m : Nat) : Bool :=
  (rule.variants (rule.lower n)).contains (rule.lower m)

/-- Some code point of an interval equals the lower-case one `n`.  Beyond the basic plane
it is `n` itself or its upper case that must lie in the interval. -/
def inRange (rule : CaseRule) (lo hi n : Nat) : Bool :=
  let within := fun m => lo ≤ m && m ≤ hi
  if rule == .exact then within n
  else
    (rule.variants n).any (fun m => (rule.forms m).any fun k => k ≤ basicPlane && within k)
      || basicPlane < hi && (within n || within (upperCode n))

end CaseRule

namespace CharClass

/-- The class has a single code point. -/
def isSingle (cls : CharClass) : Bool :=
  match cls.items with
  | [.code _] => true
  | _ => false

/-- The character is a member.  Beyond the basic plane a code point among other members
is compared as it is written with the lower case of the character. -/
def itemContains (cls : CharClass) (c : Char) : ClassItem → Bool
  | .code n =>
    if cls.isSingle || cls.caseRule.lower n ≤ basicPlane then cls.caseRule.equal n c.toNat
    else cls.caseRule.lower c.toNat == n
  | .range lo hi => cls.caseRule.inRange lo hi (cls.caseRule.lower c.toNat)
  | .kind kind negated => kind.contains cls.ascii c != negated

/-- The class contains the character. -/
def contains (cls : CharClass) (c : Char) : Bool :=
  cls.items.any (cls.itemContains c) != cls.negated

/-- The case of letters matters to some member. -/
def isCased (cls : CharClass) : Bool :=
  cls.caseRule != .exact && cls.items.any fun
    | .code n => cls.caseRule.isCased n
    | .range lo hi =>
      basicPlane < hi || (List.range (hi + 1 - lo)).any fun i => cls.caseRule.isCased (lo + i)
    | .kind _ _ => false

end CharClass

/-- The places that an expression may ask for without taking a character. -/
inductive Anchor where
  | start
  | lineStart
  /-- The end of the text, or the place before a line feed that ends it. -/
  | finish
  | lineFinish
  | textFinish
  | boundary (ascii negated : Bool)
  deriving DecidableEq, Inhabited

/-- How often a repetition tries to repeat first. -/
inductive RepeatMode where
  | greedy
  | lazy
  | possessive
  deriving DecidableEq, Inhabited

/-- A regular expression. -/
inductive Regex where
  | empty
  /-- Any character; a line feed only if `newline`. -/
  | any (newline : Bool)
  | one (cls : CharClass)
  | anchor (a : Anchor)
  | seq (r s : Regex)
  | alt (r s : Regex)
  | group (index : Nat) (r : Regex)
  | atomic (r : Regex)
  | repeated (mode : RepeatMode) (least : Nat) (most : Option Nat) (r : Regex)
  /-- The text of a group again. -/
  | backref (index : Nat) (rule : CaseRule)
  | conditional (index : Nat) (r s : Regex)
  | lookahead (negated : Bool) (r : Regex)
  | lookbehind (negated : Bool) (width : Nat) (r : Regex)
  deriving DecidableEq, Inhabited

/-- The class of several members with which an expression begins. -/
def Regex.lead? : Regex → Option CharClass
  | .one cls => if cls.isSingle then none else some cls
  | .seq r _ => r.lead?
  | .group _ r => r.lead?
  | _ => none

end AccessControl
