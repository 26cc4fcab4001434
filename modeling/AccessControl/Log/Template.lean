import AccessControl.Failure.Cause
import AccessControl.Number.Shortest
import AccessControl.Text.Quoted

/-!
# Message templates

Templates in which a percent sign starts a conversion: the place of a value and the way
in which it is written.  The values are taken in order, or by name from a mapping.
-/

namespace AccessControl

namespace Template

/-- A conversion: the name of its value, its marks, its least width, its precision and
its letter. -/
structure Conversion where
  left : Bool := false
  plus : Bool := false
  space : Bool := false
  alternate : Bool := false
  zero : Bool := false
  width : Nat := 0
  precision : Option Nat := none
  letter : Char := 's'
  deriving DecidableEq, Inhabited

/-! ### Writing -/

/-- The character as plain text, by its code if it is beyond the first 128. -/
def plainChar (c : Char) : List Char :=
  if c.toNat < 0x80 then [c]
  else if c.toNat < 0x100 then '\\' :: 'x' :: hexText 2 c.toNat
  else if c.toNat < 0x10000 then '\\' :: 'u' :: hexText 4 c.toNat
  else '\\' :: 'U' :: hexText 8 c.toNat

/-- Fills a text up to the width of a conversion. -/
def fill (c : Conversion) (cs : List Char) : List Char :=
  let blanks := List.replicate (c.width - cs.length) ' '
  if c.left then cs ++ blanks else blanks ++ cs

/-- The sign that a number is written with. -/
def signText (c : Conversion) (negative : Bool) : List Char :=
  if negative then ['-'] else if c.plus then ['+'] else if c.space then [' '] else []

/-- Fills the text of a number, whose sign and mark of its base stand before all
zeros. -/
def fillNumber (c : Conversion) (sign body : List Char) : List Char :=
  if c.zero then
    let zeros := List.replicate (c.width - sign.length - body.length) '0'
    if c.left then fill c (sign ++ body) else sign ++ zeros ++ body
  else fill c (sign ++ body)

/-- A text, cut to the precision. -/
def textForm (c : Conversion) (s : String) : List Char :=
  fill c (match c.precision with
    | some n => s.toList.take n
    | none => s.toList)

/-- The digits of a number in the base of a letter. -/
def digits (letter : Char) (n : Nat) : List Char :=
  match letter with
  | 'o' => Nat.toDigits 8 n
  | 'x' => Nat.toDigits 16 n
  | 'X' => (Nat.toDigits 16 n).map Char.toUpper
  | _ => Nat.toDigits 10 n

/-- The mark of the base of a letter. -/
def baseMark (letter : Char) : List Char :=
  if ['o', 'x', 'X'].contains letter then ['0', letter] else []

/-- An integer. -/
def intForm (c : Conversion) (n : Int) : List Char :=
  let ds := digits c.letter n.natAbs
  let ds := List.replicate (c.precision.getD 0 - ds.length) '0' ++ ds
  let mark := if c.alternate then baseMark c.letter else []
  fillNumber c (signText c (n < 0) ++ mark) ds

/-- The text without zeros at its end, and without a point there. -/
def dropZeros (cs : List Char) : List Char :=
  if cs.contains '.' then
    match (cs.reverse.dropWhile (· == '0')) with
    | '.' :: rest => rest.reverse
    | rest => rest.reverse
  else cs

/-- A fraction with a number of places. -/
def fixedForm (alternate : Bool) (num den places : Nat) : List Char :=
  (Binary64.fixedText num den places).toList ++ if places = 0 && alternate then ['.'] else []

/-- The first digits of a positive fraction, and its exponent. -/
def leadingDigits (num den places : Nat) : List Char × Int :=
  if num = 0 then (List.replicate (places + 1) '0', 0)
  else
    let (n, e) := Binary64.significant num den places
    (Nat.toDigits 10 n, e)

/-- A fraction with an exponent. -/
def exponentForm (alternate : Bool) (ds : List Char) (e : Int) : List Char :=
  ds.take 1 ++ (if ds.length ≤ 1 && !alternate then [] else '.' :: ds.drop 1)
    ++ 'e' :: (Binary64.exponentText e).toList

/-- A fraction in the shorter of the two forms. -/
def generalForm (alternate : Bool) (num den precision : Nat) : List Char :=
  let p := if precision = 0 then 1 else precision
  let (ds, e) := leadingDigits num den (p - 1)
  let tidy := fun cs => if alternate then cs else dropZeros cs
  if -4 ≤ e ∧ e < p then tidy (fixedForm alternate num den (p - 1 - e).toNat)
  else
    let ds := if alternate then ds else
      match (ds.drop 1).reverse.dropWhile (· == '0') with
      | [] => ds.take 1
      | rest => ds.take 1 ++ rest.reverse
    exponentForm alternate ds e

/-- The digits of a finite number in the form of a letter. -/
def magnitudeForm (c : Conversion) (m : Nat) (q : Int) : List Char :=
  let (num, den) := Binary64.magnitude m q
  let places := c.precision.getD 6
  match c.letter.toLower with
  | 'f' => fixedForm c.alternate num den places
  | 'e' =>
    let (ds, e) := leadingDigits num den places
    exponentForm c.alternate ds e
  | _ => generalForm c.alternate num den places

/-- A number of double precision. -/
def floatForm (c : Conversion) (x : Binary64) : List Char :=
  let (negative, body) :=
    match x with
    | .nan => (false, "nan".toList)
    | .infinite s => (s, "inf".toList)
    | .finite s m q => (s, magnitudeForm c m q)
  fillNumber c (signText c negative) (if c.letter.isUpper then body.map Char.toUpper else body)

/-! ### Converting -/

/-- The failure of a value of the wrong kind. -/
def wrongKind (letter : Char) (what : String) (v : Value) : Failure :=
  .type ("%" ++ String.singleton letter ++ " format: " ++ what ++ " is required, not " ++ v.kind)

/-- The integer that a value stands for. -/
def toInteger (letter : Char) (v : Value) : Except Failure Int :=
  match v.asInt?, v.real? with
  | some n, _ => .ok n
  | none, some x =>
    if ['o', 'x', 'X'].contains letter then .error (wrongKind letter "an integer" v)
    else
      match x with
      | .nan => .error (.ofHost .value "cannot convert float NaN to integer")
      | .infinite _ => .error (.ofHost .overflow "cannot convert float infinity to integer")
      | x => .ok (x.truncate.getD 0)
  | none, none =>
    .error (wrongKind letter
      (if ['o', 'x', 'X'].contains letter then "an integer" else "a real number") v)

/-- The number of double precision that a value stands for. -/
def toReal (v : Value) : Except Failure Binary64 :=
  match v.asInt?, v.real? with
  | some n, _ =>
    match Binary64.ofInt n with
    | .infinite _ => .error (.ofHost .overflow "int too large to convert to float")
    | x => .ok x
  | none, some x => .ok x
  | none, none => .error (.type ("must be real number, not " ++ v.kind))

/-- The character that a value stands for. -/
def toCharacter (v : Value) : Except Failure (List Char) :=
  match v.asInt?, v with
  | some n, _ =>
    if 0 ≤ n ∧ n < 0x110000 then .ok [Char.ofNat n.toNat]
    else .error (.ofHost .overflow "%c arg not in range(0x110000)")
  | none, .text s => if s.length = 1 then .ok s.toList else .error (.type "%c requires int or char")
  | none, _ => .error (.type "%c requires int or char")

/-- A letter as messages show it; a question mark stands for one beyond plain text. -/
def shownLetter (letter : Char) : String :=
  if 31 ≤ letter.toNat ∧ letter.toNat ≤ 126 then String.singleton letter else "?"

/-- The text of a value under a conversion at a position. -/
def convert (c : Conversion) (position : Nat) (v : Value) : Except Failure (List Char) :=
  match c.letter with
  | 's' => .ok (textForm c v.display)
  | 'r' => .ok (textForm c v.shown)
  | 'a' => .ok (textForm c (String.ofList (v.shown.toList.flatMap plainChar)))
  | 'c' => (toCharacter v).map (fill c)
  | 'd' | 'i' | 'u' | 'o' | 'x' | 'X' => (toInteger c.letter v).map (intForm c)
  | 'e' | 'E' | 'f' | 'F' | 'g' | 'G' => (toReal v).map (floatForm c)
  | letter =>
    .error (.ofHost .value ("unsupported format character '" ++ shownLetter letter ++ "' (0x"
      ++ String.ofList (Nat.toDigits 16 letter.toNat) ++ ") at index " ++ toString position))

/-! ### Reading -/

/-- The values of a template: those still to be taken in order, and the collection from
which values are taken by name. -/
structure Source where
  waiting : List Value
  named : Option Value := none
  deriving Inhabited

/-- Takes the next value. -/
def Source.next (s : Source) : Except Failure (Value × Source) :=
  match s.waiting with
  | v :: rest => .ok (v, { s with waiting := rest })
  | [] => .error (.type "not enough arguments for format string")

/-- Takes the value of a name. -/
def Source.choose (s : Source) (name : String) : Except Failure Source :=
  match s.named with
  | some (.mapping entries) =>
    match entries.lookup name with
    | some v => .ok { s with waiting := [v] }
    | none => .error (.ofHost .key (quoted name))
  | some v => .error (.type (v.kind ++ " indices must be integers or slices, not str"))
  | none => .error (.type "format requires a mapping")

/-- A template ends inside a conversion. -/
def incomplete : Failure := .ofHost .value "incomplete format"

/-- The name in parentheses, which may be nested, and the text behind it. -/
def nameFrom : Nat → List Char → Except Failure (List Char × List Char)
  | _, [] => .error (.ofHost .value "incomplete format key")
  | depth, c :: rest =>
    if c = ')' && depth = 0 then .ok ([], rest)
    else do
      let depth := if c = '(' then depth + 1 else if c = ')' then depth - 1 else depth
      let (name, rest) ← nameFrom depth rest
      return (c :: name, rest)

/-- The marks at the start of a conversion. -/
def marks (c : Conversion) : List Char → Conversion × List Char
  | '-' :: rest => marks { c with left := true } rest
  | '+' :: rest => marks { c with plus := true } rest
  | ' ' :: rest => marks { c with space := true } rest
  | '#' :: rest => marks { c with alternate := true } rest
  | '0' :: rest => marks { c with zero := true } rest
  | rest => (c, rest)

/-- A number that a conversion states, as messages name it: its word, the most that it
may be, and the word for numbers of that size. -/
structure CountLimit where
  word : String
  most : Nat
  size : String
  deriving DecidableEq, Inhabited

/-- The least width of a conversion. -/
def widthLimit : CountLimit := ⟨"width", twoPow 63 - 1, "ssize_t"⟩

/-- The precision of a conversion. -/
def precisionLimit : CountLimit := ⟨"precision", twoPow 31 - 1, "int"⟩

/-- The value that stands for a count. -/
def givenCount (limit : CountLimit) (v : Value) : Except Failure Int :=
  match v.asInt? with
  | none => .error (.type "* wants int")
  | some n =>
    if limit.most < n ∨ n < -limit.most - 1 then
      .error (.ofHost .overflow ("Python int too large to convert to C " ++ limit.size))
    else .ok n

/-- A count, written or taken from the values. -/
def count (limit : CountLimit) (s : Source) :
    List Char → Except Failure (Int × Source × List Char)
  | '*' :: rest => do
    let (v, s) ← s.next
    let n ← givenCount limit v
    return (n, s, rest)
  | cs =>
    let n := (cs.takeWhile Char.isDigit).foldl (fun n d => 10 * n + (d.toNat - 48)) 0
    if limit.most < n then .error (.ofHost .value (limit.word ++ " too big"))
    else .ok (n, s, cs.dropWhile Char.isDigit)

/-- The precision of a conversion, which follows a point. -/
def precision (c : Conversion) (s : Source) : List Char →
    Except Failure (Conversion × Source × List Char)
  | '.' :: rest => do
    let (n, s, rest) ← count precisionLimit s rest
    return ({ c with precision := some n.toNat }, s, rest)
  | rest => .ok (c, s, rest)

/-- The conversion behind a percent sign; the text behind it begins with its letter. -/
def conversion (s : Source) (cs : List Char) :
    Except Failure (Conversion × Source × List Char) := do
  let (s, cs) ← match cs with
    | '(' :: rest => do
      if s.named.isNone then .error (.type "format requires a mapping")
      else
        let (name, rest) ← nameFrom 0 rest
        let s ← s.choose (String.ofList name)
        pure (s, rest)
    | cs => pure (s, cs)
  let (c, cs) := marks {} cs
  let (width, s, cs) ← count widthLimit s cs
  let c := { c with width := width.natAbs, left := c.left || width < 0 }
  let (c, s, cs) ← precision c s cs
  let cs := match cs with
    | 'h' :: rest | 'l' :: rest | 'L' :: rest => rest
    | cs => cs
  match cs with
  | [] => .error incomplete
  | letter :: _ => return ({ c with letter }, s, cs)

/-- Writes a template of `total` characters from some place on. -/
def write (total : Nat) : Nat → Source → List Char → Except Failure (List Char × Source)
  | 0, s, _ | _ + 1, s, [] => .ok ([], s)
  | fuel + 1, s, '%' :: '%' :: rest => do
    let (others, s) ← write total fuel s rest
    return ('%' :: others, s)
  | fuel + 1, s, '%' :: rest => do
    let (c, s, rest) ← conversion s rest
    let (v, s) ← s.next
    let text ← convert c (total - rest.length) v
    let (others, s) ← write total fuel s (rest.drop 1)
    return (text ++ others, s)
  | fuel + 1, s, c :: rest => do
    let (others, s) ← write total fuel s rest
    return (c :: others, s)

/-- The values that the argument of a template gives to it: a tuple its items, any other value
itself.  A collection also gives values by name. -/
def sourceOf (argument : Value) : Source :=
  match argument with
  | .tuple items => ⟨items, none⟩
  | .mapping entries => ⟨[.mapping entries], some (.mapping entries)⟩
  | .list items => ⟨[.list items], some (.list items)⟩
  | v => ⟨[v], none⟩

/-- The argument that the arguments of a message make up: a single mapping with entries is
taken alone. -/
def argumentOf (arguments : List Value) : Value :=
  match arguments with
  | [.mapping (entry :: rest)] => .mapping (entry :: rest)
  | arguments => .tuple arguments

/-- The text of a message; without an argument it is taken as it is. -/
def format (text : String) (argument : Value) : Except Failure String :=
  if !argument.isTruthy then .ok text
  else do
    let (written, s) ← write text.toList.length (text.toList.length + 1) (sourceOf argument)
      text.toList
    if s.waiting.isEmpty || s.named.isSome then return String.ofList written
    else .error (.type "not all arguments converted during string formatting")

end Template

end AccessControl
