import AccessControl.Model.Rows
import AccessControl.Number.Numeral

/-!
# Priorities

Ordering the rows of policy definitions that have a priority field, lowest number
first.  Rows of one priority keep their order.  Numbers are read in double precision;
`nan` has no place in an order, and rows with it stay where insertion by halving leaves
them.
-/

namespace AccessControl

/-- The name of the field that holds a priority. -/
def priorityField : String := "priority"

/-- A row with its priority. -/
abbrev Ranked := Binary64 × Row

namespace Ranked

/-- A row comes strictly before another. -/
def before (a b : Ranked) : Bool := Binary64.order a.1 b.1 == some .lt

/-- A row may stand before another. -/
def notAfter (a b : Ranked) : Bool := !before b a

/-- The rows up to the first that comes before its predecessor, and the rest. -/
def ascending (last : Ranked) : List Ranked → List Ranked × List Ranked
  | [] => ([], [])
  | a :: rest =>
    if before a last then ([], a :: rest)
    else
      let (run, others) := ascending a rest
      (a :: run, others)

/-- The rows up to the first that does not come before its predecessor, and the
rest. -/
def descending (last : Ranked) : List Ranked → List Ranked × List Ranked
  | [] => ([], [])
  | a :: rest =>
    if before a last then
      let (run, others) := descending a rest
      (a :: run, others)
    else ([], a :: rest)

/-- The ordered run at the start of some rows, and the rest. -/
def firstRun : List Ranked → List Ranked × List Ranked
  | [] => ([], [])
  | [a] => ([a], [])
  | a :: b :: rest =>
    if before b a then
      let (run, others) := descending b rest
      ((a :: b :: run).reverse, others)
    else
      let (run, others) := ascending b rest
      (a :: b :: run, others)

/-- The place between `low` and `high` at which a row is put, found by halving. -/
def place (sorted : List Ranked) (a : Ranked) : Nat → Nat → Nat → Nat
  | 0, low, _ => low
  | fuel + 1, low, high =>
    if high ≤ low then low
    else
      let middle := (low + high) / 2
      match sorted[middle]? with
      | none => low
      | some b => if before a b then place sorted a fuel low middle
        else place sorted a fuel (middle + 1) high

/-- Puts a row among ordered rows. -/
def insert (sorted : List Ranked) (a : Ranked) : List Ranked :=
  let i := place sorted a (sorted.length + 1) 0 sorted.length
  sorted.take i ++ a :: sorted.drop i

/-- The rows in the order of their priorities. -/
def sort (rows : List Ranked) : List Ranked :=
  if rows.any fun a => a.1 == Binary64.nan then
    let (run, others) := firstRun rows
    others.foldl insert run
  else rows.mergeSort notAfter

end Ranked

/-- A row with the number at a position. -/
def rankRow (i : Nat) (row : Row) : Except NumeralError Ranked := do
  let x ← readFloat ((row[i]?).getD "")
  return (x, row)

namespace Definition

/-- The rows of a definition in the order of their priorities. -/
def sortedRows (d : Definition) (i : Nat) : Except Failure (List Row) :=
  match d.rows.mapM (rankRow i) with
  | .ok ranked => .ok ((Ranked.sort ranked).map (·.2))
  | .error e => .error (.row (.priority d.key ⟨.value, e.message⟩))

/-- Orders the rows of a policy definition that has a priority field. -/
def sortByPriority (d : Definition) : Except Failure Definition :=
  if d.kind == .policy then
    match d.fieldIndex? priorityField with
    | none => .ok d
    | some i => (d.sortedRows i).map fun rows => { d with rows }
  else .ok d

end Definition

/-- Orders the rows of definitions one after the other; those behind a failure stay as
they are. -/
def sortDefinitions : List Definition → Except Failure Unit × List Definition
  | [] => (.ok (), [])
  | d :: rest =>
    match d.sortByPriority with
    | .error e => (.error e, d :: rest)
    | .ok d =>
      let (result, rest) := sortDefinitions rest
      (result, d :: rest)

/-- Orders the rows of all policy definitions that have a priority field. -/
def Model.sortByPriority (m : Model) : Except Failure Unit × Model :=
  let (result, definitions) := sortDefinitions m.definitions
  (result, ⟨definitions⟩)

end AccessControl
