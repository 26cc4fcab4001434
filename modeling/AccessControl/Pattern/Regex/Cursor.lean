import AccessControl.Pattern.Regex.Syntax

/-!
# Places in a text

A match goes through a text with a cursor, which knows the text on either side of it and
the marks that the groups have left.  A group leaves a mark where it begins and a mark
where it ends, and a later round of it replaces them one at a time.
-/

namespace AccessControl

/-- The marks of groups.  The group numbered `n` begins at mark `2 * n` and ends at the
mark after that; only the marks below `count` are in force. -/
structure Marks where
  places : List (Nat × Nat) := []
  count : Nat := 0
  deriving DecidableEq, Inhabited

namespace Marks

/-- Sets a mark.  It brings all lower marks into force, those that were not in force
before without a place. -/
def put (m : Marks) (mark position : Nat) : Marks :=
  ⟨(mark, position) :: m.places.filter fun (i, _) => i < m.count && i != mark,
    max m.count (mark + 1)⟩

/-- The place of a mark that is in force. -/
def get? (m : Marks) (mark : Nat) : Option Nat :=
  if mark < m.count then m.places.lookup mark else none

/-- The places where a group begins and ends. -/
def bounds? (m : Marks) (group : Nat) : Option (Nat × Nat) :=
  match m.get? (2 * group), m.get? (2 * group + 1) with
  | some start, some finish => some (start, finish)
  | _, _ => none

/-- The part of the text that a group took; a group that has begun anew behind its last
end has taken none. -/
def span? (m : Marks) (group : Nat) : Option (Nat × Nat) :=
  match m.bounds? group with
  | some (start, finish) => if start ≤ finish then some (start, finish) else none
  | none => none

/-- One of the first groups ends before it begins. -/
def areCrossed (m : Marks) (groups : Nat) : Bool :=
  (List.range groups).any fun i => (m.bounds? (i + 1)).any fun (start, finish) => finish < start

end Marks

/-- A place in a text: the characters before it, last first, those after it, their
number before it, and the marks of the groups. -/
structure Cursor where
  before : List Char
  rest : List Char
  position : Nat
  marks : Marks := {}
  deriving DecidableEq, Inhabited

namespace Cursor

/-- The start of a text. -/
def start (text : List Char) : Cursor := ⟨[], text, 0, {}⟩

/-- The place after the next character, if it satisfies a condition. -/
def step? (p : Char → Bool) (s : Cursor) : Option Cursor :=
  match s.rest with
  | [] => none
  | c :: rest => if p c then some ⟨c :: s.before, rest, s.position + 1, s.marks⟩ else none

/-- The place `n` characters back, if there are as many. -/
def back? (s : Cursor) (n : Nat) : Option Cursor :=
  if s.position < n then none
  else some ⟨s.before.drop n, (s.before.take n).reverse ++ s.rest, s.position - n, s.marks⟩

/-- Sets a mark at the cursor. -/
def mark (s : Cursor) (i : Nat) : Cursor := { s with marks := s.marks.put i s.position }

/-- The text that a group took. -/
def group? (s : Cursor) (index : Nat) : Option (List Char) :=
  (s.marks.span? index).map fun (start, finish) =>
    ((s.before.reverse ++ s.rest).drop start).take (finish - start)

/-- The character before the cursor is a word character, and so is the one after it. -/
def wordsBeside (ascii : Bool) (s : Cursor) : Bool × Bool :=
  (s.before.head?.any (CharKind.word.contains ascii),
    s.rest.head?.any (CharKind.word.contains ascii))

/-- The cursor is where the anchor asks; no boundary is found in an empty text. -/
def isAt (s : Cursor) : Anchor → Bool
  | .start => s.before.isEmpty
  | .lineStart => s.before.isEmpty || s.before.head? == some '\n'
  | .finish => s.rest.isEmpty || s.rest == ['\n']
  | .lineFinish => s.rest.isEmpty || s.rest.head? == some '\n'
  | .textFinish => s.rest.isEmpty
  | .boundary ascii negated =>
    if s.before.isEmpty && s.rest.isEmpty then false
    else
      let (left, right) := s.wordsBeside ascii
      (left != right) != negated

end Cursor

end AccessControl
