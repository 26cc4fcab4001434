import AccessControl.Failure.Cause
import AccessControl.Text.Blank
import AccessControl.Text.Digits
import AccessControl.Text.Letters

/-!
# Tokens

The tokens of matcher expressions.  `lexeme` takes the longest token off the front of
a text, trying operators of two characters first, and `tokenize` cuts a whole text
into tokens with their positions, skipping blanks between them.
-/

namespace AccessControl

/-- The kinds of token. -/
inductive TokenKind where
  | name
  | number
  | text
  | and
  | or
  | not
  | isIn
  | isTrue
  | isFalse
  | operator
  | opening
  | closing
  | comma
  | dot
  | endOfText
  deriving DecidableEq, Inhabited

/-- The label of a kind of token. -/
def TokenKind.label : TokenKind → String
  | .name => "IDENT"
  | .number => "NUMBER"
  | .text => "STRING"
  | .and => "AND"
  | .or => "OR"
  | .not => "NOT"
  | .isIn => "IN"
  | .isTrue => "TRUE"
  | .isFalse => "FALSE"
  | .operator => "OP"
  | .opening => "LPAREN"
  | .closing => "RPAREN"
  | .comma => "COMMA"
  | .dot => "DOT"
  | .endOfText => "EOF"

/-- A token: its kind, its text with escapes resolved, and the position of its first
character. -/
structure Token where
  kind : TokenKind
  text : String
  position : Nat
  deriving DecidableEq, Inhabited

namespace Token

/-! ### Lexemes -/

/-- The operator of two characters that a text starts with. -/
def pairOperator? : Char → Char → Option TokenKind
  | '&', '&' => some .and
  | '|', '|' => some .or
  | '=', '=' => some .operator
  | '!', '=' => some .operator
  | '<', '=' => some .operator
  | '>', '=' => some .operator
  | _, _ => none

/-- The kind of a token of one character that is no name, number or text. -/
def charOperator? : Char → Option TokenKind
  | '!' => some .not
  | '<' | '>' | '+' | '-' | '*' | '/' | '%' => some .operator
  | '(' => some .opening
  | ')' => some .closing
  | ',' => some .comma
  | '.' => some .dot
  | _ => none

/-- The kind of a word: a keyword or a name. -/
def wordKind (word : String) : TokenKind :=
  if word = "and" then .and
  else if word = "or" then .or
  else if word = "not" then .not
  else if word = "in" then .isIn
  else if word = "true" then .isTrue
  else if word = "false" then .isFalse
  else .name

/-- The character starts a name or a keyword. -/
def isWordStart (c : Char) : Bool := isLetter c || c == '_'

/-- The character continues a name or a keyword. -/
def isWordPart (c : Char) : Bool := isLetterOrNumeral c || c == '_'

/-- A number at the start of a text, and the rest; a dot belongs to the number when a
digit follows it. -/
def spanNumber (cs : List Char) : List Char × List Char :=
  let whole := cs.takeWhile isDigit
  match cs.dropWhile isDigit with
  | '.' :: d :: rest =>
    if isDigit d then (whole ++ '.' :: (d :: rest).takeWhile isDigit, (d :: rest).dropWhile isDigit)
    else (whole, '.' :: d :: rest)
  | rest => (whole, rest)

/-- The characters that a backslash and the character after it stand for. -/
def unescape : Char → List Char
  | 'n' => ['\n']
  | 't' => ['\t']
  | 'r' => ['\r']
  | '\\' => ['\\']
  | '\'' => ['\'']
  | '"' => ['"']
  | c => ['\\', c]

/-- The characters up to the closing quote with escapes resolved, and the text after
the quote; none when there is no closing quote. -/
def spanText (quote : Char) : List Char → Option (List Char × List Char)
  | [] => none
  | '\\' :: e :: rest => (spanText quote rest).map fun (cs, tail) => (unescape e ++ cs, tail)
  | c :: rest =>
    if c = quote then some ([], rest)
    else (spanText quote rest).map fun (cs, tail) => (c :: cs, tail)

/-- The first token of the text `c :: rest`, which does not start with a blank: its
kind, its text and the text after it. -/
def lexeme (c : Char) (rest : List Char) : Except GrammarFault (TokenKind × String × List Char) :=
  match rest.head?.bind (pairOperator? c) with
  | some kind => .ok (kind, String.ofList (c :: rest.take 1), rest.drop 1)
  | none =>
    if isDigit c then
      let (digits, tail) := spanNumber (c :: rest)
      .ok (.number, String.ofList digits, tail)
    else if c = '\'' ∨ c = '"' then
      match spanText c rest with
      | some (cs, tail) => .ok (.text, String.ofList cs, tail)
      | none => .error .openText
    else if isWordStart c then
      let word := String.ofList ((c :: rest).takeWhile isWordPart)
      .ok (wordKind word, word, (c :: rest).dropWhile isWordPart)
    else
      match charOperator? c with
      | some kind => .ok (kind, String.singleton c, rest)
      | none => .error (.unexpectedCharacter c)

/-! ### Token lists -/

/-- The tokens of the end of a text of `total` characters, taken in at most `fuel`
steps; a fault comes with its position. -/
def scan (total : Nat) : Nat → List Char → Except (GrammarFault × Nat) (List Token)
  | 0, _ | _ + 1, [] => .ok [⟨.endOfText, "", total⟩]
  | fuel + 1, c :: rest =>
    if isBlank c then scan total fuel rest
    else
      let position := total - (rest.length + 1)
      match lexeme c rest with
      | .error fault => .error (fault, position)
      | .ok (kind, text, tail) =>
        match scan total fuel tail with
        | .error e => .error e
        | .ok tokens => .ok (⟨kind, text, position⟩ :: tokens)

end Token

/-- The tokens of an expression, with an end token after the last. -/
def tokenize (source : String) : Except Failure (List Token) :=
  let cs := source.toList
  match Token.scan cs.length (cs.length + 1) cs with
  | .ok tokens => .ok tokens
  | .error (fault, position) => .error (.grammar fault source position)

end AccessControl
