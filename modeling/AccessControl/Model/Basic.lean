import AccessControl.Failure.Steps
import AccessControl.Model.Definition
import AccessControl.Model.Text

/-!
# Models

A model is a list of definitions, in the order in which they were first made.  A
definition is known by its kind and its key; making it again replaces it where it
stands, and a shape of rows then keeps its rows if the number of fields is the same.
-/

namespace AccessControl

/-- The definitions of a model. -/
structure Model where
  definitions : List Definition := []
  deriving Inhabited

namespace Model

/-! ### Access -/

/-- The definition of a kind and key. -/
def find? (m : Model) (kind : SectionKind) (key : String) : Option Definition :=
  m.definitions.find? fun d => d.kind == kind && d.key == key

/-- The definition of a kind and key, which must exist. -/
def get (m : Model) (kind : SectionKind) (key : String) : Except Failure Definition :=
  match m.find? kind key with
  | some d => .ok d
  | none => .error (.model (.noSection kind.letter (.text key)))

/-- The key of a definition that a value gives; no definition has a key that is no
text. -/
def keyOf (kind : SectionKind) : Value → Except Failure String
  | .text key => .ok key
  | v => do
    v.checkKey
    .error (.model (.noSection kind.letter v))

/-- The definition of a kind and the key that a value gives, which must exist. -/
def lookUp (m : Model) (kind : SectionKind) (key : Value) : Except Failure Definition := do
  let key ← keyOf kind key
  m.get kind key

/-- The definitions of a kind. -/
def ofKind (m : Model) (kind : SectionKind) : List Definition :=
  m.definitions.filter fun d => d.kind == kind

/-- The model has a definition of a kind. -/
def hasKind (m : Model) (kind : SectionKind) : Bool := !(m.ofKind kind).isEmpty

/-- The model has the definition of a kind and key. -/
def has (m : Model) (kind : SectionKind) (key : String) : Bool := (m.find? kind key).isSome

/-- The position of a field in a policy definition. -/
def fieldIndex (m : Model) (key : String) (name : Value) : Except Failure Nat := do
  let d ← m.get .policy key
  match name.text?.bind d.fieldIndex? with
  | some i => return i
  | none => .error (.field name key)

/-- The model with the definition of a kind and key changed. -/
def update (m : Model) (kind : SectionKind) (key : String) (f : Definition → Definition) :
    Model :=
  ⟨m.definitions.map fun d => if d.kind == kind && d.key == key then f d else d⟩

/-! ### Definitions -/

/-- A key is the letter of its kind and digits after it. -/
def isKeyOf (kind : SectionKind) (key : String) : Bool :=
  match key.toList with
  | [] => false
  | c :: digits => String.singleton c == kind.letter && digits.all isDigit

/-- The rows that a definition takes over from the one that it replaces. -/
def inherited (d : Definition) : Option Definition → Except Failure (List Row)
  | none => .ok []
  | some old =>
    match d.meaning with
    | .request _ | .policy _ | .role _ =>
      if old.arity = d.arity then .ok old.rows
      else .error (.model (.redefined d.key d.arity old.arity))
    | .effect _ | .matcher _ => .ok []

/-- The model with a definition in place of the one of its kind and key, or at the
end. -/
def put (m : Model) (d : Definition) : Model :=
  if m.has d.kind d.key then m.update d.kind d.key fun _ => d else ⟨m.definitions ++ [d]⟩

/-- The report of a definition that has been made. -/
def definedEvent (d : Definition) : LogEvent :=
  { level := .debug, source := "contextauthz.model.model",
    message := "Defined " ++ d.key ++ " = " ++ d.text }

/-- A definition of a kind must have a key of the kind. -/
def checkKeyOf (kind : SectionKind) (key : String) : Except Failure Unit :=
  if isKeyOf kind key then .ok () else .error (.model (.badKey key kind.letter))

/-- Makes a definition of a kind; a blank text makes none. -/
def defineKind (m : Model) (kind : SectionKind) (key text : String) :
    Except Failure (Model × Option Definition) := do
  checkKeyOf kind key
  if strip text = "" then return (m, none)
  else
    let meaning ← Meaning.ofText kind key text
    let d : Definition := ⟨key, strip text, meaning, []⟩
    let rows ← inherited d (m.find? kind key)
    let d := { d with rows }
    return (m.put d, some d)

/-- Makes a definition of the kind of the given name. -/
def define (m : Model) (name key text : String) : Except Failure (Model × Option Definition) := do
  let kind ← SectionKind.ofName name
  m.defineKind kind key text

/-- The letters of the kinds that are required and absent. -/
def missing (m : Model) : List String :=
  (SectionKind.required.filter fun kind => !m.hasKind kind).map (·.letter)

/-- A model must have a definition of every required kind. -/
def validate (m : Model) : Except Failure Unit :=
  if m.missing.isEmpty then .ok () else .error (.model (.missingSections m.missing))

/-! ### Texts -/

/-- Makes the definition of an entry and reports it. -/
def defineEntry (state : Model × List LogEvent) (entry : Entry) :
    Except Failure (Model × List LogEvent) := do
  let (m, d) ← state.1.defineKind entry.kind entry.key entry.value
  return (m, state.2 ++ (d.map definedEvent).toList)

/-- Makes the definitions of a text.  Those before a failure stay, and so do their
reports. -/
def load (m : Model) (text : String) : Except Failure Unit × Model × List LogEvent :=
  let warnings := ModelText.warnings text
  match ModelText.entries text with
  | .error e => (.error e, m, warnings)
  | .ok entries =>
    match runSteps defineEntry (m, warnings) entries with
    | (.error e, m, events) => (.error e, m, events)
    | (.ok (), m, events) => (m.validate, m, events)

/-- The model of a text, and what is reported while it is read. -/
def ofText (text : String) : Except Failure Model × List LogEvent :=
  match (Model.mk []).load text with
  | (.error e, _, events) => (.error e, events)
  | (.ok (), m, events) => (.ok m, events)

/-! ### Printing -/

/-- The kinds of the definitions, in the order in which the kinds were first used. -/
def kinds (m : Model) : List SectionKind := (m.definitions.map (·.kind)).eraseDups

/-- The definitions, kind by kind. -/
def grouped (m : Model) : List Definition := m.kinds.flatMap m.ofKind

/-- The text of a model as messages show it. -/
def shown (m : Model) : String := "Model(" ++ (Value.texts (m.grouped.map (·.key))).shown ++ ")"

/-- The lines that report a whole model. -/
def lineEvents (m : Model) : List LogEvent :=
  ("Model:" :: m.grouped.map fun d => d.kind.letter ++ "." ++ d.key ++ ": " ++ d.text).map
    fun message => { level := .debug, source := "contextauthz.model.model", message }

end Model

end AccessControl
