import AccessControl.Text.Name.Aliases
import AccessControl.Text.Name.Alphabets
import AccessControl.Text.Name.Pictures
import AccessControl.Text.Name.Scripts
import AccessControl.Text.Name.Syllables
import AccessControl.Text.Name.Symbols
import AccessControl.Text.Ranges

/-!
# Names of characters

The character that a name stands for.  Most names are written out in tables; the names
of ideographs hold the code point, and those of the Korean syllables spell their sounds.

A table is a list of lines.  A line may begin with the code point of its first name,
else it goes on where the line before it ended.  A name is written as a letter from a to
l that counts the words it has in common with the beginning of the name before it, and
the words after those; some words that are frequent are written as a single sign.
-/

namespace AccessControl

namespace CharacterName

/-! ### Tables -/

/-- The word that a sign stands for in a table. -/
def signWord? : Char → Option String
  | '!' => some "LETTER"
  | '#' => some "WITH"
  | '$' => some "CAPITAL"
  | '%' => some "SMALL"
  | '&' => some "ARROW"
  | '(' => some "FORM"
  | ')' => some "SIGN"
  | '*' => some "RIGHT"
  | '+' => some "ISOLATED"
  | ',' => some "ABOVE"
  | '.' => some "RIGHTWARDS"
  | ':' => some "DOUBLE"
  | ';' => some "AND"
  | '<' => some "LEFT"
  | '=' => some "FINAL"
  | '>' => some "INITIAL"
  | '?' => some "LEFTWARDS"
  | '@' => some "VERTICAL"
  | '[' => some "BELOW"
  | ']' => some "THREE"
  | '^' => some "BLACK"
  | '_' => some "WHITE"
  | '|' => some "TRIANGLE-HEADED"
  | '~' => some "STROKE"
  | 'm' => some "SYMBOL"
  | 'n' => some "HORIZONTAL"
  | 'o' => some "MIDDLE"
  | 'p' => some "MARK"
  | 'q' => some "DOWNWARDS"
  | 'r' => some "HUNDRED"
  | 's' => some "HEAVY"
  | 't' => some "BRACKET"
  | 'u' => some "THOUSAND"
  | 'v' => some "DOT"
  | 'w' => some "TWO"
  | 'x' => some "CIRCUMFLEX"
  | 'y' => some "WEST-CREE"
  | 'z' => some "TIMES"
  | _ => none

/-- Words with their signs spelled out; there is a blank after each word, also the
last. -/
def spelled : List Char → List Char
  | [] => []
  | [c] =>
    match signWord? c with
    | some word => word.toList ++ [' ']
    | none => [c, ' ']
  | c :: rest =>
    match signWord? c with
    | some word => word.toList ++ ' ' :: spelled rest
    | none => c :: spelled rest

/-- The first `n` words of a name, each with the blank after it. -/
def firstWords : Nat → List Char → List Char
  | 0, _ => []
  | _, [] => []
  | n + 1, ' ' :: rest => ' ' :: firstWords n rest
  | n + 1, c :: rest => c :: firstWords (n + 1) rest

/-- A table that has been read to some place: the code point that comes next, the name
before it, and the names so far, last first. -/
structure Progress where
  next : Nat := 0
  previous : List Char := []
  found : List (Nat × List Char) := []
  deriving Inhabited

/-- The number of common words that a letter counts. -/
def commonWords? (c : Char) : Option Nat :=
  if 'a' ≤ c ∧ c ≤ 'l' then some (c.toNat - 'a'.toNat) else none

/-- Cuts a line into what stands before its first name, and its names. -/
def entries (line : List Char) : List Char × List (Nat × List Char) :=
  line.foldr (fun c (pending, names) =>
    match commonWords? c with
    | some n => ([], (n, pending) :: names)
    | none => (c :: pending, names)) ([], [])

/-- Reads a name. -/
def Progress.readName (p : Progress) (entry : Nat × List Char) : Progress :=
  let name := firstWords entry.1 p.previous ++ spelled entry.2
  ⟨p.next + 1, name, (p.next, name) :: p.found⟩

/-- The number that upper-case hexadecimal digits write. -/
def hexNumber (digits : List Char) : Nat :=
  digits.foldl (fun n c => 16 * n + Ranges.hexValue c) 0

/-- Reads a line. -/
def Progress.readLine (p : Progress) (line : String) : Progress :=
  let (digits, names) := entries line.toList
  let start := if digits.isEmpty then p else { p with next := hexNumber digits }
  names.foldl Progress.readName start

/-- The names of a table with their code points; there is a blank after each word. -/
def ofTable (table : List String) : List (Nat × List Char) :=
  (table.foldl Progress.readLine {}).found

/-- The tables. -/
def tables : List (List String) :=
  [alphabetNames, symbolNames, syllableNames, scriptNames, pictureNames]

/-- The character of a name that is written in a table. -/
def inTables? (name : List Char) : Option Nat :=
  let ended := name ++ [' ']
  tables.findSome? fun table => ((ofTable table).find? (·.2 == ended)).map Prod.fst

/-! ### Numbered names -/

/-- What follows a stem at the beginning of a name. -/
def after? : List Char → List Char → Option (List Char)
  | [], name => some name
  | _ :: _, [] => none
  | s :: stem, c :: name => if s = c then after? stem name else none

/-- The characters are upper-case hexadecimal digits. -/
def areHexDigits (digits : List Char) : Bool :=
  digits.all fun c => c.isDigit || ('A' ≤ c && c ≤ 'F')

/-- The code point that a name has after a stem, in exactly the digits that it needs, at
least four. -/
def numbered? (stem : String) (ranges : Ranges) (name : List Char) : Option Nat :=
  match after? stem.toList name with
  | none => none
  | some digits =>
    let code := hexNumber digits
    if areHexDigits digits && digits.length == (if code < 0x10000 then 4 else 5)
        && ranges.contains code then some code else none

/-- The code points of the compatibility ideographs. -/
def compatibilityRanges : Ranges := Ranges.ofLines ["F900-FA6D FA70-FAD9 2F800-2FA1D"]

/-- The character of a name that holds its code point. -/
def inNumbered? (name : List Char) : Option Nat :=
  numbered? "CJK COMPATIBILITY IDEOGRAPH-" compatibilityRanges name
    <|> numbered? "KHITAN SMALL SCRIPT CHARACTER-" [(0x18B00, 0x18CD5)] name
    <|> numbered? "NUSHU CHARACTER-" [(0x1B170, 0x1B2FB)] name

/-- The code points of the unified ideographs. -/
def unifiedRanges : Ranges := Ranges.ofLines
  ["3400-4DBF 4E00-9FFF 20000-2A6DF 2A700-2B738 2B740-2B81D 2B820-2CEA1 2CEB0-2EBE0",
   "30000-3134A"]

/-- The unified ideograph of the digits after the stem of its name, four or five. -/
def unified? (digits : List Char) : Option Nat :=
  let code := hexNumber digits
  if areHexDigits digits && (digits.length == 4 || digits.length == 5)
      && unifiedRanges.contains code then some code else none

/-- The selector of a variant, by its number from 1 to 256. -/
def variantSelector? (name : List Char) : Option Nat :=
  match name with
  | 'V' :: 'S' :: digits =>
    let n := digits.foldl (fun n c => 10 * n + (c.toNat - '0'.toNat)) 0
    if !digits.all Char.isDigit || digits.length > 3 || digits.head? == some '0' then none
    else if 1 ≤ n ∧ n ≤ 16 then some (0xFDFF + n)
    else if 17 ≤ n ∧ n ≤ 256 then some (0xE00EF + n)
    else none
  | _ => none

/-! ### Korean syllables -/

/-- The sounds that may begin a syllable. -/
def initials : List String :=
  ["G", "GG", "N", "D", "DD", "R", "M", "B", "BB", "S", "SS", "", "J", "JJ", "C", "K", "T", "P",
   "H"]

/-- The sounds in the middle of a syllable. -/
def vowels : List String :=
  ["A", "AE", "YA", "YAE", "EO", "E", "YEO", "YE", "O", "WA", "WAE", "OE", "YO", "U", "WEO", "WE",
   "WI", "YU", "EU", "YI", "I"]

/-- The sounds that may end a syllable. -/
def finals : List String :=
  ["", "G", "GG", "GS", "N", "NJ", "NH", "D", "L", "LG", "LM", "LB", "LS", "LT", "LP", "LH", "M",
   "B", "BS", "S", "SS", "NG", "J", "C", "K", "T", "P", "H"]

/-- The number of the longest sound at the beginning of a text, and what follows it. -/
def longestSound? (sounds : List String) (text : List Char) : Option (Nat × List Char) :=
  (sounds.zipIdx.foldl (fun best (sound, i) =>
    match after? sound.toList text with
    | none => best
    | some rest =>
      match best with
      | some (length, _) =>
        if length < sound.length then some (sound.length, i, rest) else best
      | none => some (sound.length, i, rest)) (none : Option (Nat × Nat × List Char))).map Prod.snd

/-- The syllable of the sounds after the stem of its name. -/
def syllable? (text : List Char) : Option Nat := do
  let (l, text) ← longestSound? initials text
  let (v, text) ← longestSound? vowels text
  let (t, text) ← longestSound? finals text
  if text.isEmpty then some (0xAC00 + (l * vowels.length + v) * finals.length + t) else none

/-! ### All names -/

/-- The code point of the character of a name.  The case of letters does not matter,
save in the names of syllables and of unified ideographs. -/
def find? (name : String) : Option Nat :=
  let cs := name.toList
  match after? "HANGUL SYLLABLE ".toList cs, after? "CJK UNIFIED IDEOGRAPH-".toList cs with
  | some sounds, _ => syllable? sounds
  | none, some digits => unified? digits
  | none, none =>
    let upper := cs.map Char.toUpper
    variantSelector? upper
      <|> (aliasNames.find? (·.2.toList == upper)).map Prod.fst
      <|> inNumbered? upper
      <|> inTables? upper

end CharacterName

end AccessControl
