/-!
# Blanks and line breaks

The characters that count as blank space and those that end a line, trimming, the
words of a text and its lines.
-/

namespace AccessControl

/-- The character is blank space. -/
def isBlank (c : Char) : Bool :=
  ('\t' ≤ c && c ≤ '\r') || ('\x1c' ≤ c && c ≤ ' ')
    || c == '\u0085' || c == '\u00a0' || c == '\u1680'
    || ('\u2000' ≤ c && c ≤ '\u200a') || c == '\u2028' || c == '\u2029'
    || c == '\u202f' || c == '\u205f' || c == '\u3000'

/-- The character is blank space in the narrow sense, which leaves out the four separators
of records. -/
def isSpacing (c : Char) : Bool := isBlank c && !('\x1c' ≤ c && c ≤ '\x1f')

/-- The character ends a line. -/
def isLineBreak (c : Char) : Bool :=
  ('\n' ≤ c && c ≤ '\r') || ('\x1c' ≤ c && c ≤ '\x1e')
    || c == '\u0085' || c == '\u2028' || c == '\u2029'

/-! ### Trimming -/

/-- The text without the characters of a class at its end. -/
def trimEnd (p : Char → Bool) : List Char → List Char
  | [] => []
  | c :: rest =>
    match trimEnd p rest with
    | [] => if p c then [] else [c]
    | kept => c :: kept

/-- The text without the characters of a class at either end. -/
def trimOf (p : Char → Bool) (cs : List Char) : List Char := trimEnd p (cs.dropWhile p)

/-- The text without the blanks at either end. -/
def trim (cs : List Char) : List Char := trimOf isBlank cs

/-- The string without the blanks at either end. -/
def strip (s : String) : String := String.ofList (trim s.toList)

/-! ### Words -/

/-- The words of a text, where `word` holds the letters read of the current one, last
first. -/
def wordsFrom (word : List Char) : List Char → List (List Char)
  | [] => if word.isEmpty then [] else [word.reverse]
  | c :: rest =>
    if isBlank c then
      if word.isEmpty then wordsFrom [] rest else word.reverse :: wordsFrom [] rest
    else wordsFrom (c :: word) rest

/-- The words of a text, which are its longest runs without blanks. -/
def words (cs : List Char) : List (List Char) := wordsFrom [] cs

/-- The text with every run of blanks replaced by one space and none at the ends. -/
def foldBlanks (cs : List Char) : List Char := [' '].intercalate (words cs)

/-! ### Lines -/

/-- The lines of a text without their line breaks; a return followed by a line feed
is one break, and a break at the end starts no further line. -/
def lines : List Char → List (List Char)
  | [] => []
  | '\r' :: '\n' :: rest => [] :: lines rest
  | c :: rest =>
    if isLineBreak c then [] :: lines rest
    else
      match lines rest with
      | [] => [[c]]
      | line :: others => (c :: line) :: others

/-! ### Separators -/

/-- The parts of a text between the occurrences of a separator. -/
def splitAt (sep : Char) : List Char → List (List Char)
  | [] => [[]]
  | c :: rest =>
    if c = sep then [] :: splitAt sep rest
    else
      match splitAt sep rest with
      | [] => [[c]]
      | part :: others => (c :: part) :: others

/-- `needle` occurs in the text. -/
def occursIn (needle : List Char) : List Char → Bool
  | [] => needle.isEmpty
  | c :: rest => needle.isPrefixOf (c :: rest) || occursIn needle rest

end AccessControl
