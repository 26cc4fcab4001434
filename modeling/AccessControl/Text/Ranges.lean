/-!
# Ranges of code points

A set of characters given by finitely many closed intervals of code points, and
the compact text in which the tables of this library are written: hexadecimal
intervals such as `41-5A`, or single code points, separated by blanks.
-/

namespace AccessControl

/-- Finitely many closed intervals of code points. -/
abbrev Ranges := List (Nat × Nat)

namespace Ranges

/-- The value of an upper-case hexadecimal digit. -/
def hexValue (c : Char) : Nat :=
  if c.isDigit then c.toNat - '0'.toNat else c.toNat - 'A'.toNat + 10

/-- Reads the rest of a table, where `first` is the first bound of an interval once
its dash has been read and `n` is the number being read. -/
def read : List Char → Option Nat → Nat → Ranges
  | [], first, n => [(first.getD n, n)]
  | ' ' :: rest, first, n => (first.getD n, n) :: read rest none 0
  | '-' :: rest, _, n => read rest (some n) 0
  | c :: rest, first, n => read rest first (16 * n + hexValue c)

/-- The intervals written in the lines of a table. -/
def ofLines (lines : List String) : Ranges :=
  lines.flatMap fun line => read line.toList none 0

/-- Some interval contains the code point. -/
def contains (ranges : Ranges) (n : Nat) : Bool :=
  ranges.any fun (a, b) => a ≤ n && n ≤ b

end Ranges

/-- The character is one of the first 128. -/
def isAscii (c : Char) : Bool := c.toNat < 128

end AccessControl
