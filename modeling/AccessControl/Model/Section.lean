import AccessControl.Call.Argument

/-!
# Sections

The kinds of definition that a model holds, the letters that stand for them and the
names under which a host or a text may refer to them.
-/

namespace AccessControl

/-- The kinds of definition. -/
inductive SectionKind where
  | request
  | policy
  | role
  | effect
  | matcher
  deriving DecidableEq, Inhabited

namespace SectionKind

/-- All kinds. -/
def all : List SectionKind := [.request, .policy, .role, .effect, .matcher]

/-- The letter of a kind. -/
def letter : SectionKind → String
  | .request => "r"
  | .policy => "p"
  | .role => "g"
  | .effect => "e"
  | .matcher => "m"

/-- The longer names of the kinds. -/
def aliases : List (String × SectionKind) :=
  [("request", .request), ("request_definition", .request), ("policy", .policy),
   ("policy_definition", .policy), ("role", .role), ("role_definition", .role),
   ("effect", .effect), ("policy_effect", .effect), ("matcher", .matcher),
   ("matchers", .matcher)]

/-- The kind of a longer name. -/
def ofAlias? (name : String) : Option SectionKind := aliases.lookup name

/-- The kind of a letter or a longer name. -/
def ofName (name : String) : Except Failure SectionKind :=
  match ofAlias? name with
  | some kind => .ok kind
  | none =>
    match all.find? (·.letter == name) with
    | some kind => .ok kind
    | none => .error (.model (.unknownKind (.text name)))

/-- The kind that a value names. -/
def ofValue : Value → Except Failure SectionKind
  | .text name => ofName name
  | v => do
    v.checkKey
    .error (.model (.unknownKind v))

/-- The kinds that every model needs. -/
def required : List SectionKind := [.request, .policy, .effect, .matcher]

end SectionKind

end AccessControl
