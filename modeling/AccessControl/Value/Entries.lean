/-!
# Entries

Lists of values by key in which every key occurs once, in the order in which the keys
were added.
-/

namespace AccessControl

/-- Gives a key a value.  A key that is present keeps its place, and a new one goes to
the end. -/
def putEntry {κ α : Type} [DecidableEq κ] (key : κ) (a : α) : List (κ × α) → List (κ × α)
  | [] => [(key, a)]
  | (k, b) :: rest => if k = key then (key, a) :: rest else (k, b) :: putEntry key a rest

/-- The entries without the one of a key. -/
def dropEntry {κ α : Type} [DecidableEq κ] (key : κ) (entries : List (κ × α)) : List (κ × α) :=
  entries.filter fun entry => entry.1 ≠ key

end AccessControl
