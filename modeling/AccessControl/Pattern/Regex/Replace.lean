import AccessControl.Pattern.Regex.Matcher

/-!
# Replacement

Templates of replacement text, in which a backslash names a control character, an
octal code or a group of the match, and the replacement of every match in a text.
-/

namespace AccessControl

/-- A part of a template: characters, or the text of a group. -/
inductive TemplatePart where
  | chars (text : List Char)
  | group (index : Nat)
  deriving DecidableEq, Inhabited

namespace TemplatePart

open PatternReader

/-- The group that a template names between angle brackets. -/
def namedGroup (pattern : CompiledPattern) : PatternReader TemplatePart := do
  if !(← accept '<') then failBack (.missing "<") 0
  let name ← groupName '>'
  let text := String.ofList name
  let back := name.length + 1
  let index ←
    if isIdentifier text then
      match pattern.names.lookup text with
      | none => throw (.unknownName text)
      | some index => pure index
    else
      match readInt text with
      | .ok (.ofNat n) =>
        if maxGroups ≤ n then failBack (.invalidGroup n) back else pure n
      | _ => failBack (.badGroupName text) back
  if pattern.groups < index then failBack (.invalidGroup index) back
  else return .group index

/-- A group named by its digits. -/
def numberedGroup (pattern : CompiledPattern) (digits : List Char) :
    PatternReader TemplatePart := do
  let index := numberIn 10 digits
  if pattern.groups < index then failBack (.invalidGroup index) digits.length
  else return .group index

/-- A part that begins with a backslash and a digit other than zero. -/
def digitPart (pattern : CompiledPattern) (c : Char) : PatternReader TemplatePart := do
  match (← peek?).bind PatternUnit.char? with
  | some d =>
    if d.isDigit then
      advance
      match (← peek?).bind PatternUnit.char? with
      | some e =>
        if isOctal c && isOctal d && isOctal e then
          advance
          return .chars [Char.ofNat (← octalEscape [c, d, e] 0)]
        else numberedGroup pattern [c, d]
      | none => numberedGroup pattern [c, d]
    else numberedGroup pattern [c]
  | none => numberedGroup pattern [c]

/-- A part that begins with a backslash. -/
def escaped (pattern : CompiledPattern) (c : Char) : PatternReader TemplatePart := do
  if c == 'g' then namedGroup pattern
  else if c == '0' then
    let digits ← takeWhile isOctal 2
    return .chars [Char.ofNat (numberIn 8 (c :: digits) % 256)]
  else if c.isDigit then digitPart pattern c
  else
    match controlCode? c with
    | some n => return .chars [Char.ofNat n]
    | none => if isAscii c && c.isAlpha then badEscape c else return .chars ['\\', c]

/-- The parts of a template. -/
def parts (pattern : CompiledPattern) : Nat → PatternReader (List TemplatePart)
  | 0 => return []
  | fuel + 1 => do
    match ← take? with
    | none => return []
    | some u =>
      let part ← match u.text with
        | ['\\', c] => escaped pattern c
        | text => pure (.chars text)
      return part :: (← parts pattern fuel)

/-- Reads a template for a pattern. -/
def ofText (pattern : CompiledPattern) (template : String) :
    Except PatternError (List TemplatePart) :=
  let cs := template.toList
  let start : PatternState := { units := PatternUnit.split 0 cs, total := cs.length }
  let reader : PatternReader (List TemplatePart) := do
    checkDangling start.units start.total
    parts pattern (cs.length + 1)
  (reader start).map (·.1)

/-- The text of a part for a match that ended at a cursor and took `whole`; a group
that took part in no way is empty. -/
def expand (whole : List Char) (s : Cursor) : TemplatePart → List Char
  | .chars text => text
  | .group 0 => whole
  | .group index => (s.group? index).getD []

end TemplatePart

/-- The text from a cursor on with every match replaced.  After a match that took
nothing the next character is kept. -/
def Regex.replaceFrom (r : Regex) (template : List TemplatePart) : Nat → Cursor → List Char
  | 0, s => s.rest
  | fuel + 1, s =>
    match r.searchFrom (fun _ => true) s.rest s with
    | none => s.rest
    | some (first, last) =>
      let whole := first.rest.take (last.position - first.position)
      let kept := s.rest.take (first.position - s.position)
      let text := template.flatMap (TemplatePart.expand whole last)
      if first.position = last.position then
        match last.rest with
        | [] => kept ++ text
        | c :: rest =>
          kept ++ text ++ c :: r.replaceFrom template fuel
            ⟨c :: last.before, rest, last.position + 1, {}⟩
      else kept ++ text ++ r.replaceFrom template fuel { last with marks := {} }

/-- The text with every match replaced. -/
def Regex.replaceAll (r : Regex) (template : List TemplatePart) (text : List Char) : List Char :=
  r.replaceFrom template (text.length + 1) (.start text)

end AccessControl
