import AccessControl.Pattern.Regex.Cursor
import AccessControl.Pattern.Regex.Parser

/-!
# Matching regular expressions

The matcher of an expression tries its ways in order and hands each cursor it reaches to
the rest of the match, which may refuse it; the first way that the rest accepts wins.
Before another way is tried, the marks of the refused ones are taken back; in a
possessive repetition they are only put out of force beyond those that were in force.
-/

namespace AccessControl

/-- The outcome of a match: a place in the text, or the marks that refused ways have
left. -/
inductive Outcome where
  | reached (s : Cursor)
  | refused (marks : Marks)
  deriving DecidableEq, Inhabited

/-- The place that was reached. -/
def Outcome.place? : Outcome → Option Cursor
  | .reached s => some s
  | .refused _ => none

/-- The rest of a match: it accepts a cursor or refuses it. -/
abbrev Continuation := Cursor → Outcome

/-- The ways of matching from a cursor, handed to the rest of the match in order. -/
abbrev MatchWays := Cursor → Continuation → Outcome

/-- What an expression is a part of, which decides how refused marks are taken back. -/
inductive Surroundings where
  | whole
  | possessive
  | repetition
  deriving DecidableEq, Inhabited

namespace Surroundings

/-- The surroundings of what a possessive repetition repeats. -/
def inPossessive : Surroundings → Surroundings
  | .repetition => .repetition
  | _ => .possessive

/-- The cursor from which the next way is tried, after ways from `s` have been refused. -/
def retry (around : Surroundings) (s : Cursor) (marks : Marks) : Cursor :=
  match around with
  | .possessive => { s with marks := { marks with count := s.marks.count } }
  | _ => s

/-- The first outcome, or the second if the first is refused. -/
def either (around : Surroundings) (s : Cursor) (first : Outcome) (second : Cursor → Outcome) :
    Outcome :=
  match first with
  | .reached t => .reached t
  | .refused marks => second (around.retry s marks)

end Surroundings

namespace MatchWays

/-- The first way, if there is one. -/
def first (ways : MatchWays) (s : Cursor) : Outcome := ways s .reached

/-- A repetition that tries to go on first.  `last` is where the latest round began:
a round that takes nothing is the last one. -/
def greedy (around : Surroundings) (ways : MatchWays) : Nat → Option Nat → Option Nat → MatchWays
  | 0, _, _, s, k => k s
  | fuel + 1, left, last, s, k =>
    if left = some 0 ∨ last = some s.position then k s
    else
      around.either s
        (ways s fun t => greedy around ways fuel (left.map (· - 1)) (some s.position) t k) k

/-- A repetition that tries to stop first. -/
def lazy (around : Surroundings) (ways : MatchWays) : Nat → Option Nat → Option Nat → MatchWays
  | 0, _, _, s, k => k s
  | fuel + 1, left, last, s, k =>
    around.either s (k s) fun s =>
      if left = some 0 ∨ last = some s.position then .refused s.marks
      else ways s fun t => lazy around ways fuel (left.map (· - 1)) (some s.position) t k

/-- A repetition that goes on as long as it can and is not taken back. -/
def possessive (ways : MatchWays) : Nat → Option Nat → Cursor → Cursor
  | 0, _, s => s
  | fuel + 1, left, s =>
    if left = some 0 then s
    else
      match ways.first s with
      | .refused _ => s
      | .reached t =>
        if t.position = s.position then t else possessive ways fuel (left.map (· - 1)) t

/-- A number of rounds that must be made. -/
def rounds (ways : MatchWays) (more : MatchWays) : Nat → MatchWays
  | 0, s, k => more s k
  | n + 1, s, k => ways s fun t => rounds ways more n t k

/-- The ways of an expression of which only the first is tried. -/
def once (ways : MatchWays) : MatchWays := fun s k =>
  match ways.first s with
  | .reached t => k t
  | .refused marks => .refused marks

/-- The same characters again, under a rule for letter case. -/
def sameText (rule : CaseRule) : List Char → Cursor → Option Cursor
  | [], s => some s
  | c :: rest, s =>
    match s.step? fun d => rule.lower d.toNat == rule.lower c.toNat with
    | none => none
    | some t => sameText rule rest t

/-- Goes on if a look at the text has the outcome that is asked for; there is no outcome
where the text is too short. -/
def look (around : Surroundings) (negated : Bool) (s : Cursor) (seen : Option Outcome)
    (k : Continuation) : Outcome :=
  match seen, negated with
  | none, false => .refused s.marks
  | none, true => k s
  | some (.reached t), false => k { s with marks := t.marks }
  | some (.reached t), true => .refused t.marks
  | some (.refused marks), false => .refused marks
  | some (.refused marks), true => k (around.retry s marks)

/-- Goes on from a place, if there is one. -/
def goOn (s : Cursor) (next : Option Cursor) (k : Continuation) : Outcome :=
  match next with
  | some t => k t
  | none => .refused s.marks

end MatchWays

namespace Regex

/-- The expression takes one character by itself. -/
def isSingle : Regex → Bool
  | .any _ | .one _ => true
  | _ => false

/-- The ways of matching an expression that is a part of something. -/
def ways (around : Surroundings) : Regex → MatchWays
  | .empty, s, k => k s
  | .any newline, s, k => MatchWays.goOn s (s.step? fun c => newline || c != '\n') k
  | .one cls, s, k => MatchWays.goOn s (s.step? cls.contains) k
  | .anchor a, s, k => if s.isAt a then k s else .refused s.marks
  | .seq q r, s, k => ways around q s fun t => ways around r t k
  | .alt q r, s, k =>
    around.either s (ways around q s k) fun s =>
      around.either s (ways around r s k) fun s => .refused s.marks
  | .group index r, s, k =>
    ways around r (s.mark (2 * index)) fun t => k (t.mark (2 * index + 1))
  | .atomic r, s, k => MatchWays.once (ways around r) s k
  | .repeated mode least most r, s, k =>
    let fuel := s.rest.length + 2
    let left := most.map (· - least)
    let inner := if r.isSingle then around else .repetition
    let one := ways inner r
    match mode with
    | .greedy => MatchWays.rounds one (MatchWays.greedy inner one fuel left none) least s k
    | .lazy => MatchWays.rounds one (MatchWays.lazy around one fuel left none) least s k
    | .possessive =>
      let round := ways around.inPossessive r
      MatchWays.rounds (MatchWays.once round)
        (fun t k => k (MatchWays.possessive round fuel left t)) least s k
  | .backref index rule, s, k =>
    MatchWays.goOn s ((s.group? index).bind fun text => MatchWays.sameText rule text s) k
  | .conditional index q r, s, k =>
    if (s.marks.span? index).isSome then ways around q s k else ways around r s k
  | .lookahead negated r, s, k =>
    MatchWays.look around negated s (some ((MatchWays.first (ways around r)) s)) k
  | .lookbehind negated width r, s, k =>
    MatchWays.look around negated s ((s.back? width).map (MatchWays.first (ways around r))) k

/-- The cursor after the match of an expression at a cursor. -/
def matchAt (r : Regex) (s : Cursor) : Option Cursor := (MatchWays.first (ways .whole r) s).place?

/-- The cursor after the match of an expression at the start of a text. -/
def matchStart (r : Regex) (text : List Char) : Option Cursor := r.matchAt (.start text)

/-- The places of the first match of an expression from a cursor on, searched over the
characters `rest`: its start, before a character that satisfies a condition or at the
end of the text, and its end. -/
def searchFrom (r : Regex) (mayStart : Char → Bool) : List Char → Cursor → Option (Cursor × Cursor)
  | [], s => (r.matchAt s).map fun t => (s, t)
  | c :: rest, s =>
    match if mayStart c then r.matchAt s else none with
    | some t => some (s, t)
    | none =>
      match s.step? fun _ => true with
      | some next => searchFrom r mayStart rest next
      | none => none

end Regex

namespace CompiledPattern

/-- A search tries a match only before such a character: if the expression begins with a
class of several members to which case does not matter, the class must contain the
character with its kinds read as in the pattern as a whole. -/
def mayStart (p : CompiledPattern) (c : Char) : Bool :=
  match p.regex.lead? with
  | none => true
  | some cls => cls.isCased || { cls with caseRule := .exact, ascii := p.ascii }.contains c

/-- A match counts only if each of its groups ends where it begins or further on. -/
def checked (p : CompiledPattern) : Option Cursor → Except PatternError (Option Cursor)
  | none => .ok none
  | some s => if s.marks.areCrossed p.groups then .error .crossedGroup else .ok (some s)

/-- The end of the match of a pattern at the start of a text. -/
def matchStart (p : CompiledPattern) (text : List Char) : Except PatternError (Option Cursor) :=
  p.checked (p.regex.matchStart text)

/-- The end of the first match of a pattern in a text. -/
def search (p : CompiledPattern) (text : List Char) : Except PatternError (Option Cursor) :=
  if text.length < p.least then .ok none
  else p.checked ((p.regex.searchFrom p.mayStart text (.start text)).map Prod.snd)

/-- The texts of the groups of a match, numbered from one. -/
def groupTexts (p : CompiledPattern) (s : Cursor) : List (Option (List Char)) :=
  (List.range p.groups).map fun i => s.group? (i + 1)

end CompiledPattern

end AccessControl
