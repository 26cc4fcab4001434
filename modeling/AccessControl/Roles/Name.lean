import AccessControl.Value.Basic

/-!
# Names

The names of users, roles and domains.  A name is a text as a rule, but a host may give
any value for it.  Values that are equal give one name: a name keeps nothing of a value
but what equality sees, so names are equal only if they are the same.
-/

namespace AccessControl

/-- A name.  A sequence is an empty one with items in front, and a mapping is an empty one
with entries in front, in the order of their keys. -/
inductive Name where
  | text (s : String)
  | none
  | int (n : Int)
  | real (x : Binary64)
  | nan (id : Nat)
  | list
  | tuple
  | mapping
  | entity
  | item (head rest : Name)
  | entry (key : String) (head rest : Name)
  | selection (request policy effect matcher : Name)
  | function (name : String)
  | handle (kind : String) (id : Nat)
  deriving DecidableEq, Inhabited

namespace Name

/-! ### Names of values -/

/-- The name of a number of double precision. -/
def ofReal (x : Binary64) : Name :=
  if x.isIntegral then .int (x.truncate.getD 0) else .real x

/-- A mapping with one more entry, in its place by key. -/
def addEntry (key : String) (head : Name) : Name → Name
  | .entry k h rest =>
    if k < key then .entry k h (addEntry key head rest) else .entry key head (.entry k h rest)
  | rest => .entry key head rest

mutual

/-- The name that a value gives. -/
def ofValue : Value → Name
  | .none => .none
  | .bool b => .int (if b then 1 else 0)
  | .int n => .int n
  | .float x => ofReal x
  | .nan id => .nan id
  | .text s => .text s
  | .list items => ofItems .list items
  | .tuple items => ofItems .tuple items
  | .mapping entries => ofEntries .mapping entries
  | .entity attributes => ofEntries .entity attributes
  | .selection r p e m => .selection (ofValue r) (ofValue p) (ofValue e) (ofValue m)
  | .function name => .function name
  | .handle kind id => .handle kind id

def ofItems (empty : Name) : List Value → Name
  | [] => empty
  | v :: rest => .item (ofValue v) (ofItems empty rest)

def ofEntries (empty : Name) : List (String × Value) → Name
  | [] => empty
  | (key, v) :: rest => addEntry key (ofValue v) (ofEntries empty rest)

end

/-- A text is its own name. -/
theorem ofValue_text (s : String) : ofValue (.text s) = .text s := rfl

/-! ### Values of names -/

/-- A sequence with one more item in front. -/
def itemValue (head : Value) : Value → Value
  | .list items => .list (head :: items)
  | .tuple items => .tuple (head :: items)
  | v => v

/-- A mapping with one more entry in front. -/
def entryValue (key : String) (head : Value) : Value → Value
  | .mapping entries => .mapping ((key, head) :: entries)
  | .entity attributes => .entity ((key, head) :: attributes)
  | v => v

/-- A value of a name. -/
def value : Name → Value
  | .text s => .text s
  | .none => .none
  | .int n => .int n
  | .real x => .float x
  | .nan id => .nan id
  | .list => .list []
  | .tuple => .tuple []
  | .mapping => .mapping []
  | .entity => .entity []
  | .item head rest => itemValue head.value rest.value
  | .entry key head rest => entryValue key head.value rest.value
  | .selection r p e m => .selection r.value p.value e.value m.value
  | .function name => .function name
  | .handle kind id => .handle kind id

end Name

/-- The name of the default domain. -/
def defaultDomain : Name := .text ""

end AccessControl
