import AccessControl.Pattern.Key

/-!
# Globs

Patterns for paths in which `*` and `?` stand for characters other than a slash, `**`
stands for any characters, and brackets hold a class of characters.  A pattern without
brackets is turned into a regular expression directly; brackets are read as those of a
regular expression, which may refuse them.
-/

namespace AccessControl

/-- A part of a glob without brackets. -/
inductive GlobPart where
  | char (c : Char)
  | question
  | star
  | doubleStar
  deriving DecidableEq, Inhabited

namespace GlobPart

/-- The parts of a glob without brackets, read from left to right. -/
def ofText : List Char → List GlobPart
  | [] => []
  | '*' :: '*' :: rest => .doubleStar :: ofText rest
  | '*' :: rest => .star :: ofText rest
  | '?' :: rest => .question :: ofText rest
  | c :: rest => .char c :: ofText rest

/-- The class of the characters other than a slash. -/
def notSlash : Regex := .one ⟨[.code '/'.toNat], true, .exact, false⟩

/-- The regular expression of a part. -/
def regex : GlobPart → Regex
  | .char c => .one ⟨[.code c.toNat], false, .exact, false⟩
  | .question => notSlash
  | .star => .repeated .greedy 0 none notSlash
  | .doubleStar => .repeated .greedy 0 none (.any false)

/-- The regular expression of a glob without brackets. -/
def wholeRegex (parts : List GlobPart) : Regex :=
  .seq (.anchor .start) (parts.foldr (fun p r => .seq p.regex r) (.anchor .finish))

end GlobPart

namespace Glob

/-- The character as a regular expression that stands for it. -/
def escapeChar (c : Char) : List Char :=
  if "()[]\x7b\x7d?*+-|^$\\.&~# \t\n\r\x0b\x0c".toList.contains c then ['\\', c] else [c]

/-- A class in brackets as one of a regular expression. -/
def classText : List Char → List Char
  | '!' :: rest => '[' :: '^' :: rest ++ [']']
  | body => '[' :: body ++ [']']

/-- The regular expression of a glob with brackets, made in at most `fuel` steps. -/
def regexChars : Nat → List Char → List Char
  | 0, _ | _ + 1, [] => []
  | fuel + 1, '*' :: '*' :: rest => '.' :: '*' :: regexChars fuel rest
  | fuel + 1, '*' :: rest => "[^/]*".toList ++ regexChars fuel rest
  | fuel + 1, '?' :: rest => "[^/]".toList ++ regexChars fuel rest
  | fuel + 1, '[' :: rest =>
    if rest.contains ']' then
      classText (rest.takeWhile (· != ']'))
        ++ regexChars fuel ((rest.dropWhile (· != ']')).drop 1)
    else escapeChar '[' ++ regexChars fuel rest
  | fuel + 1, c :: rest => escapeChar c ++ regexChars fuel rest

/-- The pattern of the parts of a glob. -/
def ofParts (parts : List GlobPart) : CompiledPattern where
  regex := GlobPart.wholeRegex parts
  groups := 0
  names := []

/-- The pattern of a glob. -/
def compile (pattern : String) : PatternResult CompiledPattern :=
  let cs := pattern.toList
  if cs.contains '[' then
    compilePattern (String.ofList ('^' :: regexChars cs.length cs ++ ['$']))
  else .ok (ofParts (GlobPart.ofText cs))

end Glob

/-- A path matches a pattern from its start on. -/
def CompiledPattern.matches (pattern : CompiledPattern) (key : String) : Bool :=
  (pattern.regex.matchStart key.toList).isSome

/-- A path matches a glob. -/
def globMatch (key pattern : String) : PatternResult Bool := do
  return (← Glob.compile pattern).matches key

end AccessControl
