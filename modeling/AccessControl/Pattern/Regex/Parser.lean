import AccessControl.Number.Numeral
import AccessControl.Pattern.Regex.Fault
import AccessControl.Pattern.Regex.Syntax
import AccessControl.Text.Identifier
import AccessControl.Text.Name.Basic

/-!
# Parsing regular expressions

From the text of a pattern to its tree.  The text is cut into units, single
characters or a backslash with the character after it; groups are numbered in the
order in which they open.
-/

namespace AccessControl

/-- A unit of a pattern: a character, or a backslash and the character after it. -/
structure PatternUnit where
  text : List Char
  position : Nat
  deriving DecidableEq, Inhabited

namespace PatternUnit

/-- The unit is the given character. -/
def isChar (u : PatternUnit) (c : Char) : Bool := u.text == [c]

/-- The character of a unit that is no escape. -/
def char? (u : PatternUnit) : Option Char :=
  match u.text with
  | [c] => some c
  | _ => none

/-- The units of a text from a position on; a backslash at the end stands alone. -/
def split (position : Nat) : List Char → List PatternUnit
  | [] => []
  | '\\' :: c :: rest => ⟨['\\', c], position⟩ :: split (position + 2) rest
  | c :: rest => ⟨[c], position⟩ :: split (position + 1) rest

end PatternUnit

/-- The options of a pattern or of a part of it. -/
structure PatternFlags where
  ignoreCase : Bool := false
  multiline : Bool := false
  dotAll : Bool := false
  verbose : Bool := false
  ascii : Bool := false
  unicode : Bool := false
  locale : Bool := false
  template : Bool := false
  deriving DecidableEq, Inhabited

namespace PatternFlags

/-- The options of a letter. -/
def ofLetter? : Char → Option PatternFlags
  | 'i' => some { ignoreCase := true }
  | 'L' => some { locale := true }
  | 'm' => some { multiline := true }
  | 's' => some { dotAll := true }
  | 'x' => some { verbose := true }
  | 'a' => some { ascii := true }
  | 't' => some { template := true }
  | 'u' => some { unicode := true }
  | _ => none

/-- The options of either. -/
def union (f g : PatternFlags) : PatternFlags where
  ignoreCase := f.ignoreCase || g.ignoreCase
  multiline := f.multiline || g.multiline
  dotAll := f.dotAll || g.dotAll
  verbose := f.verbose || g.verbose
  ascii := f.ascii || g.ascii
  unicode := f.unicode || g.unicode
  locale := f.locale || g.locale
  template := f.template || g.template

/-- The options of the first that the second does not have. -/
def without (f g : PatternFlags) : PatternFlags where
  ignoreCase := f.ignoreCase && !g.ignoreCase
  multiline := f.multiline && !g.multiline
  dotAll := f.dotAll && !g.dotAll
  verbose := f.verbose && !g.verbose
  ascii := f.ascii && !g.ascii
  unicode := f.unicode && !g.unicode
  locale := f.locale && !g.locale
  template := f.template && !g.template

/-- The options that choose a kind of text. -/
def types (f : PatternFlags) : PatternFlags :=
  { ascii := f.ascii, unicode := f.unicode, locale := f.locale }

/-- No option is set. -/
def isEmpty (f : PatternFlags) : Bool := f == {}

/-- The options inside a group that turns some on and some off. -/
def inScope (f added removed : PatternFlags) : PatternFlags :=
  let base := if added.types.isEmpty then f else f.without f.types
  (base.union added).without removed

/-- The rule for letter case. -/
def caseRule (f : PatternFlags) : CaseRule :=
  if f.ignoreCase then if f.ascii then .ascii else .unicode else .exact

end PatternFlags

/-- The repetition count that stands for no bound; every other is smaller. -/
def maxRepeat : Nat := 4294967295

/-- The least and the greatest number of characters that an expression takes, the
greatest `maxRepeat` if there is none. -/
structure Width where
  least : Nat
  most : Nat
  deriving DecidableEq, Inhabited

namespace Width

/-- The width of two parts in sequence. -/
def add (v w : Width) : Width := ⟨v.least + w.least, v.most + w.most⟩

/-- The width of two alternatives. -/
def either (v w : Width) : Width := ⟨min v.least w.least, max v.most w.most⟩

/-- The width of a repetition. -/
def times (w : Width) (least : Nat) (most : Option Nat) : Width :=
  ⟨w.least * least, w.most * most.getD maxRepeat⟩

/-- Widths are counted up to a limit. -/
def capped (w : Width) : Width := ⟨min w.least (maxRepeat - 1), min w.most maxRepeat⟩

end Width

/-- What a piece is to its neighbours: a repetition sign may follow neither an anchor
nor a repetition, and a group keeps its parts to itself. -/
inductive PieceKind where
  | anchor
  | repetition
  | group
  | other
  deriving DecidableEq, Inhabited

/-- A part of a sequence with its width, and the first fault in it that shows only when
the whole pattern has been read. -/
structure Piece where
  regex : Regex
  width : Width
  kind : PieceKind := .other
  fault : Option PatternFault := none
  deriving DecidableEq, Inhabited

namespace Piece

/-- A piece that takes one character. -/
def single (regex : Regex) : Piece := { regex, width := ⟨1, 1⟩ }

/-- A piece that takes no character. -/
def place (regex : Regex) (kind : PieceKind) : Piece := { regex, width := ⟨0, 0⟩, kind }

/-- One piece after another. -/
def andThen (p q : Piece) : Piece where
  regex := .seq p.regex q.regex
  width := p.width.add q.width
  fault := p.fault <|> q.fault

/-- The pieces in sequence, as one. -/
def sequence : List Piece → Piece
  | [] => place .empty .other
  | p :: rest =>
    let whole := match rest with
      | [] => p
      | _ => p.andThen (sequence rest)
    { whole with width := whole.width.capped, kind := .other }

/-- One of two pieces. -/
def orElse (p q : Piece) : Piece where
  regex := .alt p.regex q.regex
  width := p.width.either q.width
  fault := p.fault <|> q.fault

/-- The choice between sequences. -/
def branch : List (List Piece) → Piece
  | [] => place .empty .other
  | [pieces] => sequence pieces
  | pieces :: rest => (sequence pieces).orElse (branch rest)

/-- The piece is known by what it matches: it holds no other pieces. -/
def isPlain (p : Piece) : Bool :=
  p.kind != .group && match p.regex with
    | .any _ | .one _ | .anchor _ | .backref _ _ => true
    | _ => false

/-- The plain pieces with which each of some sequences begins, `first` and `others`, and
the rest of each. -/
def commonLead : List Piece → List (List Piece) → List Piece × List (List Piece)
  | [], others => ([], [] :: others)
  | p :: first, others =>
    if p.isPlain && others.all (·.head? == some p) then
      let (lead, rests) := commonLead first (others.map List.tail)
      (p :: lead, rests)
    else ([], (p :: first) :: others)

/-- The class of a piece that is a class, not negated. -/
def members? (p : Piece) : Option CharClass :=
  match p.kind, p.regex with
  | .group, _ => none
  | _, .one cls => if cls.negated then none else some cls
  | _, _ => none

/-- Sequences of one class each, as a single class. -/
def merged? (sequences : List (List Piece)) : Option Piece :=
  match sequences.mapM fun pieces =>
    match pieces with
    | [p] => p.members?
    | _ => none with
  | some (cls :: rest) =>
    some (.single (.one { cls with items := ((cls :: rest).flatMap (·.items)).eraseDups }))
  | _ => none

/-- The choice between sequences, with what they begin with in common taken out. -/
def choice : List (List Piece) → List Piece
  | [] => []
  | [pieces] => pieces
  | first :: others =>
    let (lead, rests) := commonLead first others
    lead ++ [(merged? rests).getD (branch rests)]

end Piece

/-- A part of a sequence that is being read: a piece, or the pieces of a group that does
nothing but hold them together. -/
inductive Part where
  | piece (p : Piece)
  | plain (pieces : List Piece)
  deriving Inhabited

/-- The pieces of a part. -/
def Part.pieces : Part → List Piece
  | .piece p => [p]
  | .plain pieces => pieces

/-- The state of reading a pattern of `total` characters.  The width of a group is
known once it is closed; `horizon` is the number of groups that were open or closed
when the outermost look-behind began. -/
structure PatternState where
  units : List PatternUnit
  total : Nat
  flags : PatternFlags := {}
  names : List (String × Nat) := []
  widths : List (Option Width) := [none]
  horizon : Option Nat := none
  references : List (Nat × Nat) := []
  deriving Inhabited

/-- Reading a pattern. -/
abbrev PatternReader (α : Type) := StateT PatternState (Except PatternError) α

namespace PatternReader

/-! ### Units -/

/-- The position of the next unit. -/
def position : PatternReader Nat := do
  let s ← get
  return match s.units with
    | [] => s.total
    | u :: _ => u.position

/-- A fault `back` characters before the next unit. -/
def failBack {α : Type} (fault : PatternFault) (back : Nat) : PatternReader α := do
  throw (.fault fault ((← position) - back))

/-- A fault at a position. -/
def failAt {α : Type} (fault : PatternFault) (position : Nat) : PatternReader α :=
  throw (.fault fault position)

/-- A backslash that ends the pattern is a fault as soon as it comes next. -/
def checkDangling (units : List PatternUnit) (total : Nat) : Except PatternError Unit :=
  match units with
  | u :: _ => if u.text == ['\\'] then .error (.fault .danglingEscape (total - 1)) else .ok ()
  | [] => .ok ()

/-- Goes past the next unit. -/
def advance : PatternReader Unit := do
  let s ← get
  let units := s.units.drop 1
  checkDangling units s.total
  set { s with units }

/-- The next unit. -/
def peek? : PatternReader (Option PatternUnit) := do
  return (← get).units.head?

/-- Takes the next unit. -/
def take? : PatternReader (Option PatternUnit) := do
  let u ← peek?
  advance
  return u

/-- Takes the next unit if it is the given character. -/
def accept (c : Char) : PatternReader Bool := do
  match ← peek? with
  | some u => if u.isChar c then advance; return true else return false
  | none => return false

/-- Takes up to `n` characters of a class. -/
def takeWhile (p : Char → Bool) : Nat → PatternReader (List Char)
  | 0 => return []
  | n + 1 => do
    match (← peek?).bind PatternUnit.char? with
    | some c =>
      if p c then
        advance
        return c :: (← takeWhile p n)
      else return []
    | none => return []

/-- Takes a name that ends at `mark`, after `name` has been read; `what` is what the
name is for. -/
def nameUntil (mark : Char) (what : String) : Nat → List Char → PatternReader (List Char)
  | 0, name => return name
  | fuel + 1, name => do
    match ← take? with
    | none =>
      if name.isEmpty then failBack (.missing what) 0
      else failBack (.unterminatedName (String.singleton mark)) name.length
    | some u =>
      if u.isChar mark then
        if name.isEmpty then failBack (.missing what) 1 else return name
      else nameUntil mark what fuel (name ++ u.text)

/-- Takes the name of a group. -/
def groupName (mark : Char) : PatternReader (List Char) := do
  nameUntil mark "group name" ((← get).units.length + 1) []

/-- The name of a group must be an identifier. -/
def checkGroupName (name : List Char) : PatternReader Unit := do
  if isIdentifier (String.ofList name) then return ()
  else failBack (.badGroupName (String.ofList name)) (name.length + 1)

/-! ### Escapes -/

def isOctal (c : Char) : Bool := '0' ≤ c && c ≤ '7'

def isHex (c : Char) : Bool := c.isDigit || ('a' ≤ c && c ≤ 'f') || ('A' ≤ c && c ≤ 'F')

/-- The value of a hexadecimal digit of either case. -/
def hexDigitValue (c : Char) : Nat :=
  if c.isDigit then c.toNat - '0'.toNat else c.toLower.toNat - 'a'.toNat + 10

/-- The number that digits write in a base. -/
def numberIn (base : Nat) (digits : List Char) : Nat :=
  digits.foldl (fun n c => base * n + hexDigitValue c) 0

/-- The control character that an escape letter stands for. -/
def controlCode? : Char → Option Nat
  | 'a' => some 7
  | 'b' => some 8
  | 'f' => some 12
  | 'n' => some 10
  | 'r' => some 13
  | 't' => some 9
  | 'v' => some 11
  | '\\' => some 92
  | _ => none

/-- The kind of character that an escape letter names. -/
def kindItem? : Char → Option ClassItem
  | 'd' => some (.kind .digit false)
  | 'D' => some (.kind .digit true)
  | 's' => some (.kind .space false)
  | 'S' => some (.kind .space true)
  | 'w' => some (.kind .word false)
  | 'W' => some (.kind .word true)
  | _ => none

/-- The escape of a character by `n` hexadecimal digits. -/
def hexEscape (c : Char) (n : Nat) : PatternReader Nat := do
  let digits ← takeWhile isHex n
  let text := '\\' :: c :: digits
  if digits.length < n then failBack (.incompleteEscape (String.ofList text)) text.length
  else
    let code := numberIn 16 digits
    if code < 0x110000 then return code
    else failBack (.badEscape (String.ofList text)) text.length

/-- The escape of a character by its name. -/
def namedEscape : PatternReader Nat := do
  if ← accept '\x7b' then
    let name ← nameUntil '\x7d' "character name" ((← get).units.length + 1) []
    match CharacterName.find? (String.ofList name) with
    | some code => return code
    | none => failBack (.undefinedCharacter (String.ofList name)) (name.length + 4)
  else failBack (.missing "\x7b") 0

/-- The escape of a character by its octal digits, of which `first` have been read. -/
def octalEscape (first : List Char) (more : Nat) : PatternReader Nat := do
  let digits := first ++ (← takeWhile isOctal more)
  let code := numberIn 8 digits
  if code ≤ 0o377 then return code
  else failBack (.octalEscape (String.ofList ('\\' :: digits))) (digits.length + 1)

/-- A fault in the escape of `c`. -/
def badEscape {α : Type} (c : Char) : PatternReader α :=
  failBack (.badEscape (String.ofList ['\\', c])) 2

/-- The escape of a character that stands for itself; a plain letter does not. -/
def literalEscape (c : Char) : PatternReader Nat :=
  if isAscii c && c.isAlpha then badEscape c else return c.toNat

/-- A member of a class written with a backslash. -/
def classEscape (c : Char) : PatternReader ClassItem := do
  match controlCode? c, kindItem? c with
  | some n, _ => return .code n
  | none, some item => return item
  | none, none =>
    if c == 'x' then return .code (← hexEscape c 2)
    else if c == 'u' then return .code (← hexEscape c 4)
    else if c == 'U' then return .code (← hexEscape c 8)
    else if c == 'N' then return .code (← namedEscape)
    else if isOctal c then return .code (← octalEscape [c] 2)
    else if c.isDigit then badEscape c
    else return .code (← literalEscape c)

/-- The class of one code point under the options. -/
def literalPiece (flags : PatternFlags) (code : Nat) : Piece :=
  .single (.one ⟨[.code code], false, flags.caseRule, flags.ascii⟩)

/-- A group that is closed may be referred to, but not inside the look-behind in which
it was opened. -/
def checkHorizon (index : Nat) : PatternReader Unit := do
  let s ← get
  match s.horizon with
  | none => return ()
  | some horizon =>
    if ((s.widths[index]?).join).isNone then failBack .openGroup 0
    else if horizon ≤ index then failBack .lookbehindGroup 0
    else return ()

/-- A reference to a group of which `digits` have been read. -/
def groupReference (flags : PatternFlags) (digits : List Char) : PatternReader Piece := do
  let s ← get
  let index := numberIn 10 digits
  if index < s.widths.length then
    match (s.widths[index]?).join with
    | none => failBack .openGroup (digits.length + 1)
    | some width =>
      checkHorizon index
      return { regex := .backref index flags.caseRule, width }
  else failBack (.invalidGroup index) digits.length

/-- A number after a backslash: an octal escape of three digits, or a reference. -/
def numberEscape (flags : PatternFlags) (c : Char) : PatternReader Piece := do
  match (← peek?).bind PatternUnit.char? with
  | some d =>
    if d.isDigit then
      advance
      match (← peek?).bind PatternUnit.char? with
      | some e =>
        if isOctal c && isOctal d && isOctal e then
          advance
          return literalPiece flags (← octalEscape [c, d, e] 0)
        else groupReference flags [c, d]
      | none => groupReference flags [c, d]
    else groupReference flags [c]
  | none => groupReference flags [c]

/-- A part of a sequence written with a backslash. -/
def escape (flags : PatternFlags) (c : Char) : PatternReader Piece := do
  match kindItem? c with
  | some item => return .single (.one ⟨[item], false, flags.caseRule, flags.ascii⟩)
  | none =>
    if c == 'A' then return .place (.anchor .start) .anchor
    else if c == 'b' then return .place (.anchor (.boundary flags.ascii false)) .anchor
    else if c == 'B' then return .place (.anchor (.boundary flags.ascii true)) .anchor
    else if c == 'Z' then return .place (.anchor .textFinish) .anchor
    else
      match controlCode? c with
      | some n => return literalPiece flags n
      | none =>
        if c == 'x' then return literalPiece flags (← hexEscape c 2)
        else if c == 'u' then return literalPiece flags (← hexEscape c 4)
        else if c == 'U' then return literalPiece flags (← hexEscape c 8)
        else if c == 'N' then return literalPiece flags (← namedEscape)
        else if c == '0' then return literalPiece flags (← octalEscape [c] 2)
        else if c.isDigit then numberEscape flags c
        else return literalPiece flags (← literalEscape c)

/-! ### Classes -/

/-- The member of a class that a unit begins. -/
def classItem (u : PatternUnit) : PatternReader ClassItem :=
  match u.text with
  | ['\\', c] => classEscape c
  | c :: _ => return .code c.toNat
  | [] => return .code 0

/-- The members of a class up to its closing bracket; `start` is the position of its
opening bracket. -/
def classItems (start : Nat) : Nat → List ClassItem → PatternReader (List ClassItem)
  | 0, items => return items
  | fuel + 1, items => do
    match ← take? with
    | none => failAt .openSet start
    | some u =>
      if u.isChar ']' && !items.isEmpty then return items
      else
        let first ← classItem u
        if ← accept '-' then
          match ← take? with
          | none => failAt .openSet start
          | some v =>
            if v.isChar ']' then return items ++ [first, .code '-'.toNat]
            else
              let last ← classItem v
              let fault := PatternFault.badRange (String.ofList u.text) (String.ofList v.text)
              let back := u.text.length + 1 + v.text.length
              match first, last with
              | .code lo, .code hi =>
                if hi < lo then failBack fault back
                else classItems start fuel (items ++ [.range lo hi])
              | _, _ => failBack fault back
        else classItems start fuel (items ++ [first])

/-- A class, after its opening bracket. -/
def charClass (flags : PatternFlags) : PatternReader Piece := do
  let start := (← position) - 1
  let negated ← accept '^'
  let items ← classItems start ((← get).units.length + 1) []
  return .single (.one ⟨items.eraseDups, negated, flags.caseRule, flags.ascii⟩)

/-! ### Repetitions -/

/-- The repetition count that digits write. -/
def countOf (digits : List Char) : PatternReader Nat :=
  if maxDigits < digits.length then throw (.longCount digits.length)
  else
    let n := numberIn 10 digits
    if n < maxRepeat then return n else throw .tooManyRepeats

/-- The counts of a repetition in braces, after the opening brace; none if the brace
stands for itself. -/
def braces : PatternReader (Option (Nat × Option Nat)) := do
  let start ← get
  if (start.units.head?).any (·.isChar '\x7d') then return none
  else
    let low ← takeWhile Char.isDigit start.units.length
    let high ← if ← accept ',' then takeWhile Char.isDigit start.units.length else pure low
    if ← accept '\x7d' then
      let least ← countOf low
      if high.isEmpty then return some (least, none)
      else
        let most ← countOf high
        if most < least then
          failAt .crossedRepeat ((start.units.head?).elim start.total (·.position))
        else return some (least, some most)
    else
      set start
      return none

/-- The counts of a repetition sign; none if the sign stands for itself. -/
def counts (sign : Char) : PatternReader (Option (Nat × Option Nat)) :=
  if sign == '?' then return some (0, some 1)
  else if sign == '*' then return some (0, none)
  else if sign == '+' then return some (1, none)
  else braces

/-- The mode of a repetition, chosen by the unit after it. -/
def repeatMode : PatternReader RepeatMode := do
  if ← accept '?' then return .lazy
  else if ← accept '+' then return .possessive
  else return .greedy

/-- The name of a repetition in the fault of a pattern that may have none. -/
def repeatName : RepeatMode → String
  | .greedy => "MAX_REPEAT"
  | .lazy => "MIN_REPEAT"
  | .possessive => "POSSESSIVE_REPEAT"

/-- Repeats the last of some parts, given last first; `place` is the position of the
repetition sign. -/
def repeatLast (place : Nat) (least : Nat) (most : Option Nat) (parts : List Part) :
    PatternReader (List Part) := do
  match parts with
  | [] => failAt .nothingToRepeat place
  | .piece { kind := .anchor, .. } :: _ => failAt .nothingToRepeat place
  | .piece { kind := .repetition, .. } :: _ => failAt .multipleRepeat place
  | part :: earlier =>
    let mode ← repeatMode
    let p := Piece.sequence part.pieces
    let fault := if (← get).flags.template then some (.unsupportedOperator (repeatName mode))
      else p.fault
    let width := p.width.times least most
    return .piece ⟨.repeated mode least most p.regex, width, .repetition, fault⟩ :: earlier

/-! ### Options -/

/-- The letter of an option. -/
def flagLetter? (u : PatternUnit) : Option PatternFlags := u.char?.bind PatternFlags.ofLetter?

/-- A unit that is no option where one or `what` is expected. -/
def notFlag {α : Type} (u : PatternUnit) (what : String) : PatternReader α :=
  if u.text.all isLetter then failBack .unknownFlag u.text.length
  else failBack (.missing what) u.text.length

/-- The options that are turned off, after some have been read. -/
def removedFlags : Nat → PatternUnit → PatternFlags → PatternReader PatternFlags
  | 0, _, removed => return removed
  | fuel + 1, u, removed => do
    match flagLetter? u with
    | none => notFlag u (if removed.isEmpty then "flag" else ":")
    | some flag =>
      if !flag.types.isEmpty then
        failBack (.inlineFlags "cannot turn off flags 'a', 'u' and 'L'") 0
      else
        match ← take? with
        | none => failBack (.missing ":") 0
        | some v =>
          if v.isChar ':' then return removed.union flag
          else removedFlags fuel v (removed.union flag)

/-- The options that are turned on, after some have been read, and the mark that ends
them. -/
def addedFlags : Nat → PatternUnit → PatternFlags → PatternReader (PatternFlags × Char)
  | 0, _, added => return (added, ')')
  | fuel + 1, u, added => do
    match flagLetter? u with
    | none => notFlag u "-, : or )"
    | some flag =>
      let added := added.union flag
      if flag.locale then
        failBack (.inlineFlags "cannot use 'L' flag with a str pattern") 0
      else if !flag.types.isEmpty && added.types != flag.types then
        failBack (.inlineFlags "flags 'a', 'u' and 'L' are incompatible") 0
      else
        match ← take? with
        | none => failBack (.missing "-, : or )") 0
        | some v =>
          match v.char? with
          | some ')' => return (added, ')')
          | some '-' => return (added, '-')
          | some ':' => return (added, ':')
          | _ => addedFlags fuel v added

/-- What options in parentheses do. -/
inductive FlagScope where
  /-- They hold for the whole pattern. -/
  | whole (added : PatternFlags)
  /-- They hold for the group that follows. -/
  | inner (added removed : PatternFlags)

/-- The options in parentheses, from their first unit on. -/
def flagScope (first : PatternUnit) : PatternReader FlagScope := do
  let fuel := (← get).units.length + 1
  let (added, mark) ← if first.isChar '-' then pure ({}, '-') else addedFlags fuel first {}
  if mark == ')' then return .whole added
  else if added.template then
    failBack (.inlineFlags "cannot turn on global flag") 1
  else if mark == '-' then
    match ← take? with
    | none => failBack (.missing "flag") 0
    | some u =>
      let removed ← removedFlags fuel u {}
      if removed.template then failBack (.inlineFlags "cannot turn off global flag") 1
      else if !(added.without (added.without removed)).isEmpty then
        failBack (.inlineFlags "flag turned on and off") 1
      else return .inner added removed
  else return .inner added {}

/-! ### Groups -/

/-- Opens a group, which may have a name. -/
def openGroup (name : Option (List Char)) : PatternReader Nat := do
  let s ← get
  let index := s.widths.length
  match name with
  | none =>
    set { s with widths := s.widths ++ [none] }
    return index
  | some name =>
    let text := String.ofList name
    match s.names.lookup text with
    | some previous => failBack (.redefinedName text index previous) (name.length + 1)
    | none =>
      set { s with widths := s.widths ++ [none], names := s.names ++ [(text, index)] }
      return index

/-- Closes a group whose width is now known. -/
def closeGroup (index : Nat) (width : Width) : PatternReader Unit :=
  modify fun s => { s with widths := s.widths.set index (some width) }

/-- Takes the closing parenthesis of what opened at `start`. -/
def closeParenthesis (start : Nat) : PatternReader Unit := do
  if ← accept ')' then return () else failAt .openSubpattern start

/-- Skips a comment up to its closing parenthesis. -/
def skipComment (start : Nat) : Nat → PatternReader Unit
  | 0 => return ()
  | fuel + 1 => do
    match ← peek? with
    | none => failAt .openComment start
    | some u =>
      advance
      if u.isChar ')' then return () else skipComment start fuel

/-- Skips a comment up to the end of its line. -/
def skipLine : Nat → PatternReader Unit
  | 0 => return ()
  | fuel + 1 => do
    match ← take? with
    | none => return ()
    | some u => if u.isChar '\n' then return () else skipLine fuel

/-- The group that a named reference refers to. -/
def namedReference (flags : PatternFlags) : PatternReader Piece := do
  let name ← groupName ')'
  checkGroupName name
  let s ← get
  match s.names.lookup (String.ofList name) with
  | none => failBack (.unknownGroupName (String.ofList name)) (name.length + 1)
  | some index =>
    match (s.widths[index]?).join with
    | none => failBack .openGroup (name.length + 1)
    | some width =>
      checkHorizon index
      return { regex := .backref index flags.caseRule, width }

/-- The greatest number of a group. -/
def maxGroups : Nat := 1073741823

/-- The group that a condition asks about. -/
def conditionGroup : PatternReader Nat := do
  let name ← groupName ')'
  let text := String.ofList name
  let back := name.length + 1
  let index ←
    if isIdentifier text then
      match (← get).names.lookup text with
      | none => failBack (.unknownGroupName text) back
      | some index => pure index
    else
      match readInt text with
      | .ok (.ofNat 0) => failBack .badGroupNumber back
      | .ok (.ofNat n) =>
        if maxGroups ≤ n then failBack (.invalidGroup n) back
        else
          let place := (← position) - back
          modify fun s =>
            if (s.references.lookup n).isSome then s
            else { s with references := s.references ++ [(n, place)] }
          pure n
      | _ => failBack (.badGroupName text) back
  checkHorizon index
  return index

/-- A look at what follows. -/
def lookaheadPiece (negated : Bool) (inner : Piece) : Piece where
  regex := .lookahead negated inner.regex
  width := ⟨0, 0⟩
  fault := inner.fault

/-- A choice that depends on a group. -/
def conditionalPiece (index : Nat) (yes no : Piece) : Piece where
  regex := .conditional index yes.regex no.regex
  width := yes.width.either no.width
  fault := yes.fault <|> no.fault

/-- A look-behind must have a fixed width. -/
def lookbehindPiece (negated : Bool) (inner : Piece) : Piece where
  regex := .lookbehind negated inner.width.least inner.regex
  width := ⟨0, 0⟩
  fault := if inner.width.least = inner.width.most then inner.fault else some .variableLookbehind

/-- What a construct in parentheses adds to a sequence. -/
inductive Construct where
  | part (p : Part)
  | nothing
  | options (flags : PatternFlags)

/-! ### Sequences and alternatives -/

/-- The characters that have a meaning of their own. -/
def isSpecial (c : Char) : Bool :=
  ['.', '\\', '[', '\x7b', '(', ')', '*', '+', '?', '^', '$', '|'].contains c

/-- The blanks that a verbose pattern skips. -/
def isVerboseBlank (c : Char) : Bool := c == ' ' || ('\t' ≤ c && c ≤ '\r')

/-- The anchor of a sign under the options. -/
def anchorPiece (flags : PatternFlags) (sign : Char) : Piece :=
  .place (.anchor (
    if sign == '^' then if flags.multiline then .lineStart else .start
    else if flags.multiline then .lineFinish else .finish)) .anchor

mutual

/-- Alternatives with bars between them, after the alternatives `found`, given last first;
`outer` says that they are not in parentheses. -/
def alternatives (outer : Bool) (flags : PatternFlags) :
    Nat → List (List Piece) → PatternReader (List Piece)
  | 0, found => return Piece.choice found.reverse
  | fuel + 1, found => do
    let pieces ← sequence (outer && found.isEmpty) flags fuel []
    if ← accept '|' then
      let s ← get
      alternatives outer (if outer then s.flags else flags) fuel (pieces :: found)
    else return Piece.choice (pieces :: found).reverse

/-- A sequence up to a bar or a closing parenthesis, after the parts `found`, given
last first; `first` says that it may set the options of the whole pattern. -/
def sequence (first : Bool) (flags : PatternFlags) :
    Nat → List Part → PatternReader (List Piece)
  | 0, found => return found.reverse.flatMap Part.pieces
  | fuel + 1, found => do
    match ← peek? with
    | none => return found.reverse.flatMap Part.pieces
    | some u =>
      match u.text with
      | [_, c] =>  -- the one unit of two characters is an escape
        advance
        let p ← escape flags c
        sequence first flags fuel (.piece p :: found)
      | [c] =>
        if c == '|' || c == ')' then return found.reverse.flatMap Part.pieces
        else
          advance
          if flags.verbose && isVerboseBlank c then sequence first flags fuel found
          else if flags.verbose && c == '#' then
            skipLine ((← get).units.length + 1)
            sequence first flags fuel found
          else if !isSpecial c then
            sequence first flags fuel (.piece (literalPiece flags c.toNat) :: found)
          else if c == '.' then
            sequence first flags fuel (.piece (.single (.any flags.dotAll)) :: found)
          else if c == '^' || c == '$' then
            sequence first flags fuel (.piece (anchorPiece flags c) :: found)
          else if c == '[' then
            let p ← charClass flags
            sequence first flags fuel (.piece p :: found)
          else if c == '(' then
            match ← construct flags fuel with
            | .part p => sequence first flags fuel (p :: found)
            | .nothing => sequence first flags fuel found
            | .options added =>
              if first && found.isEmpty then
                let whole := (← get).flags.union added
                modify fun s => { s with flags := whole }
                sequence first whole fuel found
              else failAt .lateFlags u.position
          else
            match ← counts c with
            | none => sequence first flags fuel (.piece (literalPiece flags c.toNat) :: found)
            | some (least, most) =>
              let found ← repeatLast u.position least most found
              sequence first flags fuel found
      | _ => return found.reverse.flatMap Part.pieces

/-- A construct in parentheses, after the opening one. -/
def construct (flags : PatternFlags) : Nat → PatternReader Construct
  | 0 => return .nothing
  | fuel + 1 => do
    let start := (← position) - 1
    if !(← accept '?') then return .part (.piece (← capture flags start none fuel))
    else
      match ← take? with
      | none => failBack .unexpectedEnd 0
      | some u =>
        match u.char? with
        | some 'P' =>
          if ← accept '<' then
            let name ← groupName '>'
            checkGroupName name
            return .part (.piece (← capture flags start (some name) fuel))
          else if ← accept '=' then return .part (.piece (← namedReference flags))
          else
            match ← take? with
            | none => failBack .unexpectedEnd 0
            | some v =>
              failBack (.unknownExtension ("P" ++ String.ofList v.text)) (v.text.length + 2)
        | some ':' =>
          let pieces ← alternatives false flags fuel []
          closeParenthesis start
          return .part (.plain pieces)
        | some '>' =>
          let p := Piece.sequence (← alternatives false flags fuel [])
          closeParenthesis start
          return .part (.piece { p with regex := .atomic p.regex, kind := .group })
        | some '#' =>
          skipComment start ((← get).units.length + 1)
          return .nothing
        | some '=' =>
          let p := Piece.sequence (← alternatives false flags fuel [])
          closeParenthesis start
          return .part (.piece (lookaheadPiece false p))
        | some '!' =>
          let p := Piece.sequence (← alternatives false flags fuel [])
          closeParenthesis start
          return .part (.piece (lookaheadPiece true p))
        | some '<' =>
          match ← take? with
          | none => failBack .unexpectedEnd 0
          | some v =>
            if v.isChar '=' || v.isChar '!' then
              let outer := (← get).horizon
              modify fun s => { s with horizon := some (outer.getD s.widths.length) }
              let p := Piece.sequence (← alternatives false flags fuel [])
              modify fun s => { s with horizon := outer }
              closeParenthesis start
              return .part (.piece (lookbehindPiece (v.isChar '!') p))
            else failBack (.unknownExtension ("<" ++ String.ofList v.text)) (v.text.length + 2)
        | some '(' =>
          let index ← conditionGroup
          let yes := Piece.sequence (← sequence false flags fuel [])
          let no ← if ← accept '|' then
              let no ← sequence false flags fuel []
              match ← peek? with
              | some w => if w.isChar '|' then failBack .thirdBranch 0 else pure no
              | none => pure no
            else pure []
          closeParenthesis start
          return .part (.piece (conditionalPiece index yes (.sequence no)))
        | _ =>
          if (flagLetter? u).isSome || u.isChar '-' then
            match ← flagScope u with
            | .whole added => return .options added
            | .inner added removed =>
              let p := Piece.sequence (← alternatives false (flags.inScope added removed) fuel [])
              closeParenthesis start
              return .part (.piece { p with kind := .group })
          else failBack (.unknownExtension (String.ofList u.text)) (u.text.length + 1)

/-- A group that keeps the text it takes. -/
def capture (flags : PatternFlags) (start : Nat) (name : Option (List Char)) :
    Nat → PatternReader Piece
  | 0 => return .place .empty .other
  | fuel + 1 => do
    let index ← openGroup name
    let p := Piece.sequence (← alternatives false flags fuel [])
    closeParenthesis start
    closeGroup index p.width
    return { p with regex := .group index p.regex, kind := .group }

end

/-- Reads a whole pattern. -/
def wholePattern : PatternReader Piece := do
  let s ← get
  checkDangling s.units s.total
  let p := Piece.sequence (← alternatives true s.flags (4 * s.total + 4) [])
  let s ← get
  if s.flags.ascii && s.flags.unicode then throw .incompatible
  if !s.units.isEmpty then failBack .unbalanced 0
  match s.references.find? fun (index, _) => s.widths.length ≤ index with
  | some (index, place) => failAt (.invalidGroup index) place
  | none =>
    match p.fault with
    | some fault => throw (.whole fault)
    | none => return p

end PatternReader

/-- A regular expression with the number of its groups and their names.  `ascii` says
that the kinds of character are restricted in the pattern as a whole, and `least` is
the least number of characters of a text in which a match is searched for. -/
structure CompiledPattern where
  regex : Regex
  groups : Nat
  names : List (String × Nat)
  ascii : Bool := false
  least : Nat := 0
  deriving Inhabited

/-- Reads a pattern, with some options on from the start. -/
def CompiledPattern.ofTextWith (flags : PatternFlags) (pattern : String) :
    Except PatternError CompiledPattern :=
  let cs := pattern.toList
  let start : PatternState := { units := PatternUnit.split 0 cs, total := cs.length, flags }
  match PatternReader.wholePattern start with
  | .error e => .error e
  | .ok (p, s) => .ok ⟨p.regex, s.widths.length - 1, s.names, s.flags.ascii, p.width.least⟩

/-- Reads a pattern. -/
def CompiledPattern.ofText (pattern : String) : Except PatternError CompiledPattern :=
  ofTextWith {} pattern

end AccessControl
