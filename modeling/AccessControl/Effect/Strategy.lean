import AccessControl.Failure.Cause
import AccessControl.Text.Blank

/-!
# Effects

The effect that a policy row carries, the strategies that combine the effects of the
rows that match into one decision, and the texts that name the strategies.  The
spacing of such a text is free around its signs.
-/

namespace AccessControl

/-- The effect of a policy row. -/
inductive Effect where
  | allow
  | deny
  | indeterminate
  deriving DecidableEq, Inhabited

/-- The name of an effect. -/
def Effect.name : Effect → String
  | .allow => "ALLOW"
  | .deny => "DENY"
  | .indeterminate => "INDETERMINATE"

/-- The effect that a row's label names; a row without a label allows. -/
def Effect.ofLabel : Option String → Effect
  | none => .allow
  | some label =>
    if label = "allow" then .allow
    else if label = "deny" then .deny
    else .indeterminate

/-- The effect that a label names as a host gives it: none is no label, and a value that is
no text names nothing. -/
def Effect.ofValue : Value → Effect
  | .none => .ofLabel none
  | .text label => .ofLabel (some label)
  | _ => .indeterminate

/-- How the effects of the matching rows are combined. -/
inductive Strategy where
  /-- Some row matches. -/
  | someAllow
  /-- No row that denies matches. -/
  | notSomeDeny
  /-- Some row that allows matches and none that denies. -/
  | someAllowNotDeny
  /-- The first row that matches decides. -/
  | priority
  deriving DecidableEq, Inhabited

namespace Strategy

/-- The strategies in the order of their texts. -/
def all : List Strategy := [.someAllow, .notSomeDeny, .someAllowNotDeny, .priority]

/-- The name of a strategy. -/
def name : Strategy → String
  | .someAllow => "SOME_ALLOW"
  | .notSomeDeny => "NOT_SOME_DENY"
  | .someAllowNotDeny => "SOME_ALLOW_AND_NOT_DENY"
  | .priority => "PRIORITY"

/-- The text of a strategy. -/
def text : Strategy → String
  | .someAllow => "some(where (p.eft == allow))"
  | .notSomeDeny => "!some(where (p.eft == deny))"
  | .someAllowNotDeny => "some(where (p.eft == allow)) && !some(where (p.eft == deny))"
  | .priority => "priority(p.eft) || deny"

/-! ### Spacing -/

/-- The signs around which spacing is free. -/
def isSign (c : Char) : Bool := ['(', ')', '!', '&', '|', '='].contains c

/-- The text without the spaces beside signs; `afterSign` says that a sign comes before
it. -/
def tighten (afterSign : Bool) : List Char → List Char
  | [] => []
  | c :: rest =>
    if c = ' ' && (afterSign || rest.head?.any isSign) then tighten afterSign rest
    else c :: tighten (isSign c) rest

/-- The canonical spacing of a text. -/
def canonical (cs : List Char) : List Char := tighten false (foldBlanks cs)

/-- The strategy that a text names. -/
def ofText? (s : String) : Option Strategy :=
  all.find? fun strategy => canonical strategy.text.toList == canonical s.toList

/-- The strategy that a text names, or a fault of the model. -/
def ofText (s : String) : Except Failure Strategy :=
  match ofText? s with
  | some strategy => .ok strategy
  | none => .error (.model (.unsupportedEffect s (all.map text)))

/-- The strategy that a value names, or a fault of the model. -/
def ofName (name : Value) : Except Failure Strategy :=
  match all.find? fun strategy => name.equals (.text strategy.name) with
  | some strategy => .ok strategy
  | none => .error (.model (.unsupportedStrategy name))

end Strategy

end AccessControl
