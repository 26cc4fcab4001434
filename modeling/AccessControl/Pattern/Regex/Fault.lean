import AccessControl.Number.Numeral

/-!
# Faults in patterns

Why a text is no regular expression or no replacement, with the place of the fault.
-/

namespace AccessControl

/-- What is wrong with a pattern. -/
inductive PatternFault where
  | danglingEscape
  | badEscape (text : String)
  | incompleteEscape (text : String)
  | octalEscape (text : String)
  | missing (what : String)
  | unterminatedName (mark : String)
  | undefinedCharacter (name : String)
  | openGroup
  | lookbehindGroup
  | invalidGroup (index : Nat)
  | openSet
  | badRange (first last : String)
  | crossedRepeat
  | nothingToRepeat
  | multipleRepeat
  | unexpectedEnd
  | badGroupName (name : String)
  | unknownGroupName (name : String)
  | unknownExtension (text : String)
  | openComment
  | openSubpattern
  | thirdBranch
  | badGroupNumber
  | lateFlags
  | redefinedName (name : String) (index previous : Nat)
  | unbalanced
  | inlineFlags (problem : String)
  | unknownFlag
  | variableLookbehind
  /-- Options that do not go together with a repetition. -/
  | unsupportedOperator (name : String)
  deriving DecidableEq, Inhabited

/-- The wording of a fault. -/
def PatternFault.message : PatternFault → String
  | .danglingEscape => "bad escape (end of pattern)"
  | .badEscape text => "bad escape " ++ text
  | .incompleteEscape text => "incomplete escape " ++ text
  | .octalEscape text => "octal escape value " ++ text ++ " outside of range 0-0o377"
  | .missing what => "missing " ++ what
  | .unterminatedName mark => "missing " ++ mark ++ ", unterminated name"
  | .undefinedCharacter name => "undefined character name " ++ quoted name
  | .openGroup => "cannot refer to an open group"
  | .lookbehindGroup => "cannot refer to group defined in the same lookbehind subpattern"
  | .invalidGroup n => "invalid group reference " ++ toString n
  | .openSet => "unterminated character set"
  | .badRange first last => "bad character range " ++ first ++ "-" ++ last
  | .crossedRepeat => "min repeat greater than max repeat"
  | .nothingToRepeat => "nothing to repeat"
  | .multipleRepeat => "multiple repeat"
  | .unexpectedEnd => "unexpected end of pattern"
  | .badGroupName name => "bad character in group name " ++ quoted name
  | .unknownGroupName name => "unknown group name " ++ quoted name
  | .unknownExtension text => "unknown extension ?" ++ text
  | .openComment => "missing ), unterminated comment"
  | .openSubpattern => "missing ), unterminated subpattern"
  | .thirdBranch => "conditional backref with more than two branches"
  | .badGroupNumber => "bad group number"
  | .lateFlags => "global flags not at the start of the expression"
  | .redefinedName name n previous =>
    "redefinition of group name " ++ quoted name ++ " as group " ++ toString n
      ++ "; was group " ++ toString previous
  | .unbalanced => "unbalanced parenthesis"
  | .inlineFlags problem => "bad inline flags: " ++ problem
  | .unknownFlag => "unknown flag"
  | .variableLookbehind => "look-behind requires fixed-width pattern"
  | .unsupportedOperator name => "internal: unsupported template operator " ++ name

/-- Why a pattern cannot be used. -/
inductive PatternError where
  /-- A fault at a position of the pattern. -/
  | fault (problem : PatternFault) (position : Nat)
  /-- A fault of the pattern as a whole. -/
  | whole (problem : PatternFault)
  /-- Two options exclude each other. -/
  | incompatible
  /-- A repetition count is too large. -/
  | tooManyRepeats
  /-- A repetition count has more digits than are read. -/
  | longCount (digits : Nat)
  /-- A group of a match ends before it begins. -/
  | crossedGroup
  /-- A replacement names a group that the pattern does not have. -/
  | unknownName (name : String)
  deriving DecidableEq, Inhabited

/-- The line and the column of a position, both from one. -/
def lineAndColumn (pattern : List Char) (position : Nat) : Nat × Nat :=
  let before := pattern.take position
  (before.count '\n' + 1, (before.reverse.takeWhile (· != '\n')).length + 1)

/-- The message of an error in `pattern`. -/
def PatternError.message (pattern : String) : PatternError → String
  | .fault problem position =>
    let text := problem.message ++ " at position " ++ toString position
    if pattern.toList.contains '\n' then
      let (line, column) := lineAndColumn pattern.toList position
      text ++ " (line " ++ toString line ++ ", column " ++ toString column ++ ")"
    else text
  | .whole problem => problem.message
  | .incompatible => "ASCII and UNICODE flags are incompatible"
  | .tooManyRepeats => "the repetition number is too large"
  | .longCount digits => (NumeralError.tooManyDigits digits).message
  | .crossedGroup =>
    "The span of capturing group is wrong, please report a bug for the re module."
  | .unknownName name => "unknown group name " ++ quoted name

end AccessControl
