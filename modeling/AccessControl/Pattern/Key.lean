import AccessControl.Pattern.Regex.Matcher

/-!
# Path patterns

Patterns for paths.  A star stands for any rest, and a placeholder, written `:name` or
`{name}`, stands for one segment.  All but the simplest patterns are regular
expressions in which the placeholders and the stars after a slash are written short.
-/

namespace AccessControl

/-- The text before the first star of a pattern, if it has one. -/
def beforeStar? (pattern : List Char) : Option (List Char) :=
  if pattern.contains '*' then some (pattern.takeWhile (· != '*')) else none

/-- A path matches a pattern whose star stands for any rest that is not empty, or for
nothing when nothing follows the text before it. -/
def keyMatch (key pattern : String) : Bool :=
  match beforeStar? pattern.toList with
  | none => key == pattern
  | some head =>
    if head.length < key.toList.length then key.toList.take head.length == head
    else key.toList == head

/-- The part of a path that the star of a pattern stands for. -/
def keyGet (key pattern : String) : String :=
  match beforeStar? pattern.toList with
  | none => ""
  | some head =>
    if head.length < key.toList.length && key.toList.take head.length == head then
      String.ofList (key.toList.drop head.length)
    else ""

/-! ### Placeholders -/

/-- A part of a pattern: a character or a placeholder with its name. -/
inductive KeyPart where
  | char (c : Char)
  | name (n : List Char)
  deriving DecidableEq, Inhabited

namespace KeyPart

/-- The pattern with a dot before each star that follows a slash. -/
def widenStars : List Char → List Char
  | '/' :: '*' :: rest => '/' :: '.' :: '*' :: widenStars rest
  | c :: rest => c :: widenStars rest
  | [] => []

/-- The name up to the next closing brace; it has no slash. -/
def braceName? : List Char → Option (List Char × List Char)
  | [] => none
  | '\x7d' :: rest => some ([], rest)
  | c :: rest => if c = '/' then none else (braceName? rest).map fun (n, tail) => (c :: n, tail)

/-- The placeholder that follows a colon: a run of characters up to the next slash. -/
def colonPlaceholder? (cs : List Char) : Option (List Char × List Char) :=
  match cs.takeWhile (· != '/') with
  | [] => none
  | n => some (n, cs.dropWhile (· != '/'))

/-- The placeholder that follows an opening brace: one character at least, up to the
next closing brace. -/
def bracePlaceholder? : List Char → Option (List Char × List Char)
  | [] => none
  | c :: rest => if c = '/' then none else (braceName? rest).map fun (n, tail) => (c :: n, tail)

/-- The parts of a pattern in which `mark` begins a placeholder, read in at most `fuel`
steps. -/
def scan (mark : Char) (placeholder? : List Char → Option (List Char × List Char)) :
    Nat → List Char → List KeyPart
  | 0, _ | _ + 1, [] => []
  | fuel + 1, c :: rest =>
    match if c = mark then placeholder? rest else none with
    | some (n, tail) => .name n :: scan mark placeholder? fuel tail
    | none => .char c :: scan mark placeholder? fuel rest

/-- The parts of a pattern with placeholders `:name`. -/
def ofColons (pattern : String) : List KeyPart :=
  let cs := widenStars pattern.toList
  scan ':' colonPlaceholder? cs.length cs

/-- The parts of a pattern with placeholders in braces. -/
def ofBraces (pattern : String) : List KeyPart :=
  let cs := widenStars pattern.toList
  scan '\x7b' bracePlaceholder? cs.length cs

/-- The names of the placeholders, in order. -/
def names (parts : List KeyPart) : List (List Char) :=
  parts.filterMap fun
    | .char _ => none
    | .name n => some n

/-- The regular expression of some parts, with the given text for a placeholder. -/
def regexText (placeholder : String) (parts : List KeyPart) : String :=
  String.ofList ('^' :: parts.flatMap (fun
    | .char c => [c]
    | .name _ => placeholder.toList) ++ ['$'])

end KeyPart

/-! ### Matching -/

/-- The outcome of using a pattern, or the error of its regular expression with the
text of that expression. -/
abbrev PatternResult (α : Type) := Except (PatternError × String) α

/-- The outcome of using the regular expression `text`. -/
def outcome {α : Type} (text : String) (result : Except PatternError α) : PatternResult α :=
  result.mapError (·, text)

/-- Reads a regular expression. -/
def compilePattern (text : String) : PatternResult CompiledPattern :=
  outcome text (CompiledPattern.ofText text)

/-- The regular expression `text` matches at the start of a key; the result holds the
texts of its groups. -/
def matchGroups (text key : String) : PatternResult (Option (List (Option (List Char)))) := do
  let pattern ← compilePattern text
  let found ← outcome text (pattern.matchStart key.toList)
  return found.map pattern.groupTexts

/-- A path matches a pattern with placeholders `:name`. -/
def keyMatch2 (key pattern : String) : PatternResult Bool := do
  return (← matchGroups (KeyPart.regexText "[^/]+" (KeyPart.ofColons pattern)) key).isSome

/-- The text that the first placeholder of a name stands for.  The placeholders are
paired with the groups of the whole pattern in order; no text is found when the pattern
does not match. -/
def keyGet2 (key pattern name : String) : PatternResult (Option String) := do
  let parts := KeyPart.ofColons pattern
  match ← matchGroups (KeyPart.regexText "([^/]+)" parts) key with
  | none => return some ""
  | some groups =>
    match ((KeyPart.names parts).zip groups).lookup name.toList with
    | none => return some ""
    | some text => return text.map String.ofList

/-- A path matches a pattern with placeholders in braces. -/
def keyMatch3 (key pattern : String) : PatternResult Bool := do
  return (← matchGroups (KeyPart.regexText "[^/]+?" (KeyPart.ofBraces pattern)) key).isSome

/-- Names that occur several times stand for the same text each time. -/
def consistent : List (List Char × Option (List Char)) → Bool
  | [] => true
  | (name, text) :: rest =>
    rest.all (fun (n, t) => n != name || t == text) && consistent rest

/-- A path matches a pattern with placeholders in braces, and placeholders of one name
stand for the same text. -/
def keyMatch4 (key pattern : String) : PatternResult Bool := do
  let parts := KeyPart.ofBraces pattern
  match ← matchGroups (KeyPart.regexText "([^/]+)" parts) key with
  | none => return false
  | some groups => return consistent ((KeyPart.names parts).zip groups)

/-- The path before its question mark matches a pattern with placeholders in braces. -/
def keyMatch5 (key pattern : String) : PatternResult Bool :=
  keyMatch3 (String.ofList (key.toList.takeWhile (· != '?'))) pattern

/-- A regular expression is found in a text. -/
def regexMatch (text source : String) : PatternResult Bool := do
  let pattern ← compilePattern source
  return (← outcome source (pattern.search text.toList)).isSome

end AccessControl
