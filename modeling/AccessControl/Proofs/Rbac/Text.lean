import AccessControl.Proofs.Model.Text

/-!
# The model of roles

The model in which a subject has the permissions of its roles: requests and policy rows of a
subject, an object and an action, role rows of a user and a role, and a matcher that asks for
the role.  Every text with these entries makes the same model, `Rbac.ofText`.
-/

namespace AccessControl

namespace Rbac

/-! ### Texts -/

/-- The fields of requests and policy rows. -/
def fields : List String := ["sub", "obj", "act"]

/-- The text of the matcher. -/
def matcherText : String := "g(r.sub, p.sub) && r.obj == p.obj && r.act == p.act"

/-- The entries of the text of the model. -/
def entries : List Entry :=
  [⟨.request, "r", "sub, obj, act"⟩,
   ⟨.policy, "p", "sub, obj, act"⟩,
   ⟨.role, "g", "_, _"⟩,
   ⟨.effect, "e", "some(where (p.eft == allow))"⟩,
   ⟨.matcher, "m", matcherText⟩]

/-- A text of the model. -/
def text : String :=
"[request_definition]
r = sub, obj, act

[policy_definition]
p = sub, obj, act

[role_definition]
g = _, _

[policy_effect]
e = some(where (p.eft == allow))

[matchers]
m = g(r.sub, p.sub) && r.obj == p.obj && r.act == p.act
"

theorem entries_text :
  ModelText.entries text = .ok entries
  := by
  have hread : (ModelText.read text).1.toOption = some () := by
    rw [ModelText.read, text, String.toList_ofList]
    rfl
  have hcontents : (ModelText.read text).2 = ⟨entries, []⟩ := by
    rw [ModelText.read, text, String.toList_ofList]
    rfl
  exact ModelText.entries_of_read hread hcontents

/-! ### Definitions -/

/-- The tree of the matcher. -/
def tree : Expr :=
  .logical .and
    (.logical .and
      (.call "g" [.field "r" "sub" [], .field "p" "sub" []])
      (.binary .eq (.field "r" "obj" []) (.field "p" "obj" [])))
    (.binary .eq (.field "r" "act" []) (.field "p" "act" []))

/-- The matcher. -/
def matcher : Matcher := ⟨matcherText, tree⟩

def requestDefinition : Definition := ⟨"r", "sub, obj, act", .request fields, []⟩

def policyDefinition (rows : List Row) : Definition := ⟨"p", "sub, obj, act", .policy fields, rows⟩

def roleDefinition (rows : List Row) : Definition := ⟨"g", "_, _", .role ["_", "_"], rows⟩

def effectDefinition : Definition := ⟨"e", "some(where (p.eft == allow))", .effect .someAllow, []⟩

def matcherDefinition : Definition := ⟨"m", matcherText, .matcher matcher, []⟩

/-- The model with some policy rows and some role rows. -/
def model (permissions roles : List Row) : Model :=
  ⟨[requestDefinition, policyDefinition permissions, roleDefinition roles, effectDefinition,
    matcherDefinition]⟩

/-! ### Reading -/

/-- The tokens of the text of the matcher. -/
def tokens : List Token :=
  [⟨.name, "g", 0⟩, ⟨.opening, "(", 1⟩, ⟨.name, "r", 2⟩, ⟨.dot, ".", 3⟩, ⟨.name, "sub", 4⟩,
   ⟨.comma, ",", 7⟩, ⟨.name, "p", 9⟩, ⟨.dot, ".", 10⟩, ⟨.name, "sub", 11⟩, ⟨.closing, ")", 14⟩,
   ⟨.and, "&&", 16⟩, ⟨.name, "r", 19⟩, ⟨.dot, ".", 20⟩, ⟨.name, "obj", 21⟩,
   ⟨.operator, "==", 25⟩, ⟨.name, "p", 28⟩, ⟨.dot, ".", 29⟩, ⟨.name, "obj", 30⟩,
   ⟨.and, "&&", 34⟩, ⟨.name, "r", 37⟩, ⟨.dot, ".", 38⟩, ⟨.name, "act", 39⟩,
   ⟨.operator, "==", 43⟩, ⟨.name, "p", 46⟩, ⟨.dot, ".", 47⟩, ⟨.name, "act", 48⟩,
   ⟨.endOfText, "", 51⟩]

theorem tokenize_matcherText :
  tokenize matcherText = .ok tokens
  := by
  apply ok_of_toOption
  rw [tokenize, matcherText, String.toList_ofList]
  rfl

set_option maxRecDepth 20000 in
theorem wholeExpression_tokens : Parser.wholeExpression tokens = .ok tree := by rfl

theorem parse_matcherText :
  Expr.parse matcherText = .ok tree
  := Expr.parse_of_tokens tokenize_matcherText wholeExpression_tokens

/-- The entry of the strategy that allows when some row matches. -/
theorem defines_effect :
  Model.Defines ⟨.effect, "e", "some(where (p.eft == allow))"⟩ effectDefinition
  := .effect (by decide) rfl (by decide) (ok_of_toOption rfl)

theorem defines : List.Forall₂ Model.Defines entries (model [] []).definitions := by
  have hstrip : strip "sub, obj, act" = "sub, obj, act" := rfl
  have hnames : ∀ key, Meaning.readNames key "sub, obj, act" = .ok fields := by
    intro key
    apply ok_of_toOption
    rfl
  apply List.Forall₂.cons (.request (by decide) hstrip (by decide) (hnames "r"))
  apply List.Forall₂.cons (.policy (by decide) hstrip (by decide) (hnames "p"))
  apply List.Forall₂.cons
  · apply Model.Defines.role (by decide) rfl (by decide)
    apply ok_of_toOption rfl
  · apply List.Forall₂.cons defines_effect
    apply List.Forall₂.cons _ .nil
    apply Model.Defines.matcher (by decide) rfl (by decide) parse_matcherText

/-- A text of these entries is a text of the model, which has no rows yet. -/
theorem ofText {text : String} (h : ModelText.entries text = .ok entries) :
  ∃ events, Model.ofText text = (.ok (model [] []), events)
  := Model.ofText_of_entries h defines (by decide) rfl

end Rbac

end AccessControl
