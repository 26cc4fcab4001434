import AccessControl.Number.Numeral
import AccessControl.Number.Shortest
import AccessControl.Text.Quoted

/-!
# Values

The dynamic values that requests, expressions and hosts exchange: their kinds,
texts, equality and truth.  Numbers of different kinds are equal when they are the
same number, and mappings are equal whatever their order.  A `nan` equals nothing, but
two collections are equal when they hold one and the same `nan` in the same place.
-/

namespace AccessControl

/-- A dynamic value.  A `nan` that a host gives is known by its number, one that is
computed is a `float`.  An `entity` is a host's object with attributes, a `selection`
holds the names of the definitions used by one decision, a `function` is known by its
name, and a `handle` stands for an object that lives elsewhere, by its class and a
number. -/
inductive Value where
  | none
  | bool (b : Bool)
  | int (n : Int)
  | float (x : Binary64)
  | nan (id : Nat)
  | text (s : String)
  | list (items : List Value)
  | tuple (items : List Value)
  | mapping (entries : List (String × Value))
  | entity (attributes : List (String × Value))
  | selection (request policy effect matcher : Value)
  | function (name : String)
  | handle (kind : String) (id : Nat)
  deriving Inhabited

/-- The names of the request, policy, effect and matcher definitions used by one
decision.  They are texts unless a host gives other values. -/
structure Selection where
  request : Value := .text "r"
  policy : Value := .text "p"
  effect : Value := .text "e"
  matcher : Value := .text "m"
  deriving Inhabited

/-- The definitions whose names end in a common suffix. -/
def Selection.withSuffix (suffix : String) : Selection :=
  ⟨.text ("r" ++ suffix), .text ("p" ++ suffix), .text ("e" ++ suffix), .text ("m" ++ suffix)⟩

/-- A selection as a value. -/
def Selection.value (s : Selection) : Value :=
  .selection s.request s.policy s.effect s.matcher

namespace Value

/-- The name of a value's kind. -/
def kind : Value → String
  | .none => "NoneType"
  | .bool _ => "bool"
  | .int _ => "int"
  | .float _ | .nan _ => "float"
  | .text _ => "str"
  | .list _ => "list"
  | .tuple _ => "tuple"
  | .mapping _ => "dict"
  | .entity _ => "Obj"
  | .selection .. => "EnforceContext"
  | .function _ => "function"
  | .handle kind _ => kind

/-- A list of texts as a value. -/
def texts (items : List String) : Value := .list (items.map .text)

/-- The text that a value is. -/
def text? : Value → Option String
  | .text s => some s
  | _ => Option.none

/-- The first of some values that is no text. -/
def firstOther? (vs : List Value) : Option Value := vs.find? fun v => v.text?.isNone

/-- The texts that some values are, if all are texts. -/
def allTexts? (vs : List Value) : Option (List String) := vs.mapM text?

/-- The items of a value that can be gone through: the items of a sequence, the
characters of a text, the keys of a mapping. -/
def items? : Value → Option (List Value)
  | .list items | .tuple items => some items
  | .text s => some (s.toList.map fun c => .text (String.singleton c))
  | .mapping entries => some (entries.map fun (key, _) => .text key)
  | _ => Option.none

/-! ### Text -/

/-- Texts with a comma and a space between them. -/
def commas (items : List String) : String := ", ".intercalate items

/-- The text of a truth value. -/
def boolText (b : Bool) : String := if b then "True" else "False"

/-- The text of a selection of names that are shown already. -/
def selectionText (request policy effect matcher : String) : String :=
  "EnforceContext(r_type=" ++ request ++ ", p_type=" ++ policy ++ ", e_type=" ++ effect
    ++ ", m_type=" ++ matcher ++ ")"

/-- A tuple is written with a comma after a single item. -/
def tupleText (items : List String) : String :=
  match items with
  | [item] => "(" ++ item ++ ",)"
  | items => "(" ++ commas items ++ ")"

mutual

/-- The text of a value as messages show it, with texts between quotes. -/
def shown : Value → String
  | .none => "None"
  | .bool b => boolText b
  | .int n => toString n
  | .float x => x.toText
  | .nan _ => Binary64.nan.toText
  | .text s => quoted s
  | .list items => "[" ++ commas (shownItems items) ++ "]"
  | .tuple items => tupleText (shownItems items)
  | .mapping entries => "\x7b" ++ commas (shownEntries entries) ++ "\x7d"
  | .entity attributes => "Obj(" ++ commas (shownAttributes attributes) ++ ")"
  | .selection r p e m => selectionText (shown r) (shown p) (shown e) (shown m)
  | .function name => "<function " ++ name ++ ">"
  | .handle kind _ => "<" ++ kind ++ " object>"

def shownItems : List Value → List String
  | [] => []
  | v :: rest => shown v :: shownItems rest

def shownEntries : List (String × Value) → List String
  | [] => []
  | (key, v) :: rest => (quoted key ++ ": " ++ shown v) :: shownEntries rest

def shownAttributes : List (String × Value) → List String
  | [] => []
  | (key, v) :: rest => (key ++ "=" ++ shown v) :: shownAttributes rest

end

/-- The text of a value: a text is its own, any other value is as it is shown. -/
def display : Value → String
  | .text s => s
  | v => shown v

mutual

/-- Every integer in the value has few enough digits to be written. -/
def isWritable : Value → Bool
  | .int n => AccessControl.isWritable n
  | .list items | .tuple items => areWritable items
  | .mapping entries | .entity entries => entriesWritable entries
  | .selection r p e m => isWritable r && isWritable p && isWritable e && isWritable m
  | .none | .bool _ | .float _ | .nan _ | .text _ | .function _ | .handle .. => true

def areWritable : List Value → Bool
  | [] => true
  | v :: rest => isWritable v && areWritable rest

def entriesWritable : List (String × Value) → Bool
  | [] => true
  | (_, v) :: rest => isWritable v && entriesWritable rest

end

/-- The text of a value as messages show it, if all its integers can be written. -/
def written (v : Value) : Except NumeralError String :=
  if v.isWritable then .ok v.shown else .error .unwritable

/-! ### Numbers -/

/-- The number of double precision that a value is. -/
def real? : Value → Option Binary64
  | .float x => some x
  | .nan _ => some .nan
  | _ => Option.none

/-! ### Equality -/

/-- The numeric value of a truth value or an integer. -/
def asInt? : Value → Option Int
  | .bool b => some (if b then 1 else 0)
  | .int n => some n
  | _ => Option.none

/-- Equality of two values of which the first has no parts. -/
def equalsAtom (v w : Value) : Bool :=
  match v, w with
  | .none, .none => true
  | .text s, .text t => s == t
  | .float x, .float y => x.beq y
  | .float x, w =>
    match asInt? w with
    | some n => Binary64.orderInt n x == some .eq
    | Option.none => false
  | .function f, .function g => f == g
  | .handle k i, .handle l j => k == l && i == j
  | v, .float y =>
    match asInt? v with
    | some n => Binary64.orderInt n y == some .eq
    | Option.none => false
  | v, w =>
    match asInt? v, asInt? w with
    | some m, some n => m == n
    | _, _ => false

/-- Two values are one and the same `nan`. -/
def sameNaN : Value → Value → Bool
  | .nan i, .nan j => i == j
  | _, _ => false

mutual

/-- Equality of values. -/
def equals : Value → Value → Bool
  | .list items, w =>
    match w with
    | .list others => equalsItems items others
    | _ => false
  | .tuple items, w =>
    match w with
    | .tuple others => equalsItems items others
    | _ => false
  | .mapping entries, w =>
    match w with
    | .mapping others => entries.length == others.length && equalsEntries entries others
    | _ => false
  | .entity attributes, w =>
    match w with
    | .entity others => attributes.length == others.length && equalsEntries attributes others
    | _ => false
  | .selection r p e m, w =>
    match w with
    | .selection r₂ p₂ e₂ m₂ =>
      (sameNaN r r₂ || equals r r₂) && (sameNaN p p₂ || equals p p₂)
        && (sameNaN e e₂ || equals e e₂) && (sameNaN m m₂ || equals m m₂)
    | _ => false
  | .none, w => equalsAtom .none w
  | .bool b, w => equalsAtom (.bool b) w
  | .int n, w => equalsAtom (.int n) w
  | .float x, w => equalsAtom (.float x) w
  | .nan i, w => equalsAtom (.nan i) w
  | .text s, w => equalsAtom (.text s) w
  | .function f, w => equalsAtom (.function f) w
  | .handle k i, w => equalsAtom (.handle k i) w

def equalsItems : List Value → List Value → Bool
  | [], others => others.isEmpty
  | v :: rest, others =>
    match others with
    | [] => false
    | w :: more => (sameNaN v w || equals v w) && equalsItems rest more

/-- Every entry has an equal one under its key. -/
def equalsEntries : List (String × Value) → List (String × Value) → Bool
  | [], _ => true
  | (key, v) :: rest, others =>
    (match others.lookup key with
      | some w => sameNaN v w || equals v w
      | Option.none => false)
    && equalsEntries rest others

end

/-! ### Truth -/

/-- The value counts as true where a condition is expected. -/
def isTruthy : Value → Bool
  | .none => false
  | .bool b => b
  | .int n => n != 0
  | .float x => !x.isZero
  | .text s => s != ""
  | .list items | .tuple items => !items.isEmpty
  | .mapping entries => !entries.isEmpty
  | _ => true

/-! ### Keys -/

mutual

/-- The kind of the first part of a value that is no key: a list, a mapping or an
entity. -/
def notKey? : Value → Option String
  | .list items => some (kind (.list items))
  | .mapping entries => some (kind (.mapping entries))
  | .entity attributes => some (kind (.entity attributes))
  | .tuple items => firstNotKey? items
  | .selection r p e m => (notKey? r).or ((notKey? p).or ((notKey? e).or (notKey? m)))
  | .none | .bool _ | .int _ | .float _ | .nan _ | .text _ | .function _ | .handle .. =>
    Option.none

def firstNotKey? : List Value → Option String
  | [] => Option.none
  | v :: rest => (notKey? v).or (firstNotKey? rest)

end

/-- Some values may be parts of a key. -/
def areKeys (vs : List Value) : Bool := (firstNotKey? vs).isNone

/-- Two values are one and the same, or equal. -/
instance : BEq Value := ⟨fun v w => sameNaN v w || equals v w⟩

/-- Texts are the same when they have the same characters. -/
theorem text_beq_text (s t : String) : (Value.text s == Value.text t) = (s == t) := rfl

end Value

end AccessControl
