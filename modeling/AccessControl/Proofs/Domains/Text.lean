import AccessControl.Proofs.Rbac.Text

/-!
# The model of roles in domains

The model in which a subject has the permissions of its roles within a domain: requests and
policy rows of a subject, a domain, an object and an action, role rows of a user, a role and a
domain, and a matcher that asks for the role in the domain of the request.  Every text with
these entries makes the same model, `Domains.ofText`.
-/

namespace AccessControl

namespace Domains

/-! ### Texts -/

/-- The fields of requests and policy rows. -/
def fields : List String := ["sub", "dom", "obj", "act"]

/-- The text of the matcher. -/
def matcherText : String :=
  "g(r.sub, p.sub, r.dom) && r.dom == p.dom && r.obj == p.obj && r.act == p.act"

/-- The entries of the text of the model. -/
def entries : List Entry :=
  [⟨.request, "r", "sub, dom, obj, act"⟩,
   ⟨.policy, "p", "sub, dom, obj, act"⟩,
   ⟨.role, "g", "_, _, _"⟩,
   ⟨.effect, "e", "some(where (p.eft == allow))"⟩,
   ⟨.matcher, "m", matcherText⟩]

/-- A text of the model. -/
def text : String :=
"[request_definition]
r = sub, dom, obj, act

[policy_definition]
p = sub, dom, obj, act

[role_definition]
g = _, _, _

[policy_effect]
e = some(where (p.eft == allow))

[matchers]
m = g(r.sub, p.sub, r.dom) && r.dom == p.dom && r.obj == p.obj && r.act == p.act
"

theorem entries_text :
  ModelText.entries text = .ok entries
  := by
  have hread : (ModelText.read text).1.toOption = some () := by
    rw [ModelText.read, text, String.toList_ofList]
    rfl
  have hcontents : (ModelText.read text).2 = ⟨entries, []⟩ := by
    rw [ModelText.read, text, String.toList_ofList]
    rfl
  exact ModelText.entries_of_read hread hcontents

/-! ### Definitions -/

/-- The tree of the matcher. -/
def tree : Expr :=
  .logical .and
    (.logical .and
      (.logical .and
        (.call "g" [.field "r" "sub" [], .field "p" "sub" [], .field "r" "dom" []])
        (.binary .eq (.field "r" "dom" []) (.field "p" "dom" [])))
      (.binary .eq (.field "r" "obj" []) (.field "p" "obj" [])))
    (.binary .eq (.field "r" "act" []) (.field "p" "act" []))

/-- The matcher. -/
def matcher : Matcher := ⟨matcherText, tree⟩

def requestDefinition : Definition := ⟨"r", "sub, dom, obj, act", .request fields, []⟩

def policyDefinition (rows : List Row) : Definition :=
  ⟨"p", "sub, dom, obj, act", .policy fields, rows⟩

def roleDefinition (rows : List Row) : Definition := ⟨"g", "_, _, _", .role ["_", "_", "_"], rows⟩

def matcherDefinition : Definition := ⟨"m", matcherText, .matcher matcher, []⟩

/-- The model with some policy rows and some role rows. -/
def model (permissions roles : List Row) : Model :=
  ⟨[requestDefinition, policyDefinition permissions, roleDefinition roles, Rbac.effectDefinition,
    matcherDefinition]⟩

/-! ### Reading -/

/-- The tokens of the text of the matcher. -/
def tokens : List Token :=
  [⟨.name, "g", 0⟩, ⟨.opening, "(", 1⟩, ⟨.name, "r", 2⟩, ⟨.dot, ".", 3⟩, ⟨.name, "sub", 4⟩,
   ⟨.comma, ",", 7⟩, ⟨.name, "p", 9⟩, ⟨.dot, ".", 10⟩, ⟨.name, "sub", 11⟩, ⟨.comma, ",", 14⟩,
   ⟨.name, "r", 16⟩, ⟨.dot, ".", 17⟩, ⟨.name, "dom", 18⟩, ⟨.closing, ")", 21⟩, ⟨.and, "&&", 23⟩,
   ⟨.name, "r", 26⟩, ⟨.dot, ".", 27⟩, ⟨.name, "dom", 28⟩, ⟨.operator, "==", 32⟩,
   ⟨.name, "p", 35⟩, ⟨.dot, ".", 36⟩, ⟨.name, "dom", 37⟩, ⟨.and, "&&", 41⟩, ⟨.name, "r", 44⟩,
   ⟨.dot, ".", 45⟩, ⟨.name, "obj", 46⟩, ⟨.operator, "==", 50⟩, ⟨.name, "p", 53⟩, ⟨.dot, ".", 54⟩,
   ⟨.name, "obj", 55⟩, ⟨.and, "&&", 59⟩, ⟨.name, "r", 62⟩, ⟨.dot, ".", 63⟩, ⟨.name, "act", 64⟩,
   ⟨.operator, "==", 68⟩, ⟨.name, "p", 71⟩, ⟨.dot, ".", 72⟩, ⟨.name, "act", 73⟩,
   ⟨.endOfText, "", 76⟩]

theorem tokenize_matcherText :
  tokenize matcherText = .ok tokens
  := by
  apply ok_of_toOption
  rw [tokenize, matcherText, String.toList_ofList]
  rfl

set_option maxRecDepth 30000 in
theorem wholeExpression_tokens : Parser.wholeExpression tokens = .ok tree := by rfl

theorem parse_matcherText :
  Expr.parse matcherText = .ok tree
  := Expr.parse_of_tokens tokenize_matcherText wholeExpression_tokens

theorem defines : List.Forall₂ Model.Defines entries (model [] []).definitions := by
  have hstrip : strip "sub, dom, obj, act" = "sub, dom, obj, act" := rfl
  have hnames : ∀ key, Meaning.readNames key "sub, dom, obj, act" = .ok fields := by
    intro key
    apply ok_of_toOption
    rfl
  apply List.Forall₂.cons (.request (by decide) hstrip (by decide) (hnames "r"))
  apply List.Forall₂.cons (.policy (by decide) hstrip (by decide) (hnames "p"))
  apply List.Forall₂.cons
  · apply Model.Defines.role (by decide) rfl (by decide)
    apply ok_of_toOption rfl
  · apply List.Forall₂.cons Rbac.defines_effect
    apply List.Forall₂.cons _ .nil
    apply Model.Defines.matcher (by decide) rfl (by decide) parse_matcherText

/-- A text of these entries is a text of the model, which has no rows yet. -/
theorem ofText {text : String} (h : ModelText.entries text = .ok entries) :
  ∃ events, Model.ofText text = (.ok (model [] []), events)
  := Model.ofText_of_entries h defines (by decide) rfl

end Domains

end AccessControl
