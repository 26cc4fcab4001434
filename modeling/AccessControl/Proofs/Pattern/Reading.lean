import AccessControl.Pattern.Key
import Mathlib.Data.List.Basic

/-!
# How patterns are read

A text is read as some pieces of a regular expression if it is so read wherever it stands in a
pattern, `PatternReader.ReadsAs`.  Texts with this property may be put together, and one of them
between the anchors of a whole text is the pattern of its pieces in sequence,
`compilePattern_between`.
-/

namespace AccessControl

/-- The state with the given text still to be read, from a position on. -/
def PatternState.facing (s : PatternState) (position : Nat) (cs : List Char) : PatternState :=
  { s with units := PatternUnit.split position cs }

/-- The state with some more groups that are closed. -/
def PatternState.withGroups (s : PatternState) (widths : List (Option Width)) : PatternState :=
  { s with widths := s.widths ++ widths }

/-! ### Units -/

theorem PatternUnit.split_cons {c : Char} (h : c ≠ '\\') (position : Nat) (rest : List Char) :
  split position (c :: rest) = ⟨[c], position⟩ :: split (position + 1) rest
  := by
  rw [split]
  rintro _ _ rfl
  exact absurd rfl h

namespace PatternReader

/-- A step that succeeds goes on with its result and its state. -/
theorem bind_of_ok {α β : Type} {reader : PatternReader α} {next : α → PatternReader β}
    {s s' : PatternState} {a : α} (h : reader s = .ok (a, s')) :
  (reader >>= next) s = next a s'
  := by
  change (reader s).bind _ = _
  rw [h]
  rfl

/-- A text with which a pattern may go on: it is no backslash alone, and does not begin with a sign
that changes a repetition before it. -/
structure GoesOn (text : List Char) : Prop where
  closed : text ≠ ['\\']
  noLazy : text.head? ≠ some '?'
  noPossessive : text.head? ≠ some '+'

theorem GoesOn.nil : GoesOn [] := ⟨by simp, by simp, by simp⟩

theorem GoesOn.append {text rest : List Char} (h : GoesOn text) (hrest : GoesOn rest) :
  GoesOn (text ++ rest)
  := by
  cases text with
  | nil => exact hrest
  | cons c cs =>
      refine ⟨?_, h.noLazy, h.noPossessive⟩
      intro hclosed
      obtain ⟨rfl, hnil⟩ := List.cons_eq_cons.mp hclosed
      obtain ⟨rfl, -⟩ := List.append_eq_nil_iff.mp hnil
      exact h.closed rfl

theorem checkDangling_split {rest : List Char} (h : GoesOn rest) (position total : Nat) :
  checkDangling (PatternUnit.split position rest) total = .ok ()
  := by
  cases rest with
  | nil => rfl
  | cons c cs =>
      by_cases hc : c = '\\'
      · subst hc
        cases cs with
        | nil => exact absurd rfl h.closed
        | cons d cs => rfl
      · rw [PatternUnit.split_cons hc, checkDangling, if_neg]
        simpa using hc

section Facing

variable (s : PatternState) (position : Nat) {c : Char} {rest : List Char}

theorem peek?_facing (hc : c ≠ '\\') :
  peek? (s.facing position (c :: rest))
    = .ok (some ⟨[c], position⟩, s.facing position (c :: rest))
  := by
  rw [PatternState.facing, PatternUnit.split_cons hc]
  rfl

theorem advance_units (u : PatternUnit) (hrest : GoesOn rest) :
  advance { s with units := u :: PatternUnit.split position rest }
    = .ok ((), s.facing position rest)
  := by
  rw [advance]
  change ((checkDangling (PatternUnit.split position rest) s.total).bind _).bind _ = _
  rw [checkDangling_split hrest]
  rfl

theorem advance_facing (hc : c ≠ '\\') (hrest : GoesOn rest) :
  advance (s.facing position (c :: rest)) = .ok ((), s.facing (position + 1) rest)
  := by
  rw [PatternState.facing, PatternUnit.split_cons hc, advance_units s (position + 1) _ hrest]

theorem accept_facing (hc : c ≠ '\\') (hrest : GoesOn rest) :
  accept c (s.facing position (c :: rest)) = .ok (true, s.facing (position + 1) rest)
  := by
  rw [accept, bind_of_ok (peek?_facing s position hc)]
  simp only [PatternUnit.isChar, beq_self_eq_true, if_true]
  rw [bind_of_ok (advance_facing s position hc hrest)]
  rfl

theorem take?_facing (hc : c ≠ '\\') (hrest : GoesOn rest) :
  take? (s.facing position (c :: rest)) = .ok (some ⟨[c], position⟩, s.facing (position + 1) rest)
  := by
  rw [take?, bind_of_ok (peek?_facing s position hc),
    bind_of_ok (advance_facing s position hc hrest)]
  rfl

theorem accept_facing_ne {d : Char} (h : rest.head? ≠ some d) (hd : d ≠ '\\') :
  accept d (s.facing position rest) = .ok (false, s.facing position rest)
  := by
  have hother : ∀ u ∈ (PatternUnit.split position rest).head?, u.isChar d = false := by
    intro u hu
    cases rest with
    | nil => cases hu
    | cons c cs =>
        by_cases hc : c = '\\'
        · subst hc
          cases cs <;> cases hu <;> simp [PatternUnit.isChar, hd.symm]
        · rw [PatternUnit.split_cons hc] at hu
          cases hu
          simpa [PatternUnit.isChar] using h
  have hpeek : peek? (s.facing position rest)
      = .ok ((PatternUnit.split position rest).head?, s.facing position rest) := rfl
  rw [accept, bind_of_ok hpeek]
  cases hu : (PatternUnit.split position rest).head? with
  | none => rfl
  | some u =>
      dsimp only
      rw [if_neg (by simp [hother u hu])]
      rfl

/-! ### Repetitions -/

theorem repeatMode_facing (hrest : GoesOn rest) :
  repeatMode (s.facing position rest) = .ok (.greedy, s.facing position rest)
  := by
  rw [repeatMode, bind_of_ok (accept_facing_ne s position hrest.noLazy (by decide))]
  simp only [Bool.false_eq_true, if_false]
  rw [bind_of_ok (accept_facing_ne s position hrest.noPossessive (by decide))]
  rfl

/-- The repetition of a piece that is neither an anchor nor a repetition. -/
def repeated (least : Nat) (p : Piece) : Piece :=
  ⟨.repeated .greedy least none p.regex, p.width.capped.times least none, .repetition, p.fault⟩

theorem repeatLast_facing {s : PatternState} (hflags : s.flags = {}) {p : Piece}
    (hkind : p.kind = .other) (place least : Nat) (found : List Part) (hrest : GoesOn rest) :
  repeatLast place least none (.piece p :: found) (s.facing position rest)
    = .ok (.piece (repeated least p) :: found, s.facing position rest)
  := by
  obtain ⟨regex, width, kind, fault⟩ := p
  obtain rfl := hkind
  rw [repeatLast, bind_of_ok (repeatMode_facing s position hrest)]
  · obtain ⟨units, total, flags, names, widths, horizon, references⟩ := s
    obtain rfl := hflags
    rfl
  all_goals
    intro _ _ _ hpart
    cases hpart

end Facing

/-! ### Texts -/

/-- A text is read as some pieces wherever it stands in a pattern.  Its pieces depend on the number
of the groups before it, and its groups are appended to these with their widths. -/
structure ReadsAs (text : List Char) (pieces : Nat → List Piece) (widths : List (Option Width)) :
    Prop where
  goesOn : GoesOn text
  run {s : PatternState} {rest : List Char} {fuel : Nat} (hflags : s.flags = {})
    (hrest : GoesOn rest) (hfuel : text.length ≤ fuel) (first : Bool) (position : Nat)
    (found : List Part) :
    ∃ fuel', fuel ≤ fuel' + text.length ∧
      sequence first {} fuel found (s.facing position (text ++ rest))
        = sequence first {} fuel' (((pieces s.widths.length).map .piece).reverse ++ found)
          ((s.withGroups widths).facing (position + text.length) rest)

namespace ReadsAs

theorem nil : ReadsAs [] (fun _ => []) [] := by
  refine ⟨.nil, ?_⟩
  intro s rest fuel _ _ _ first position found
  use fuel, Nat.le_refl _
  rw [PatternState.withGroups, List.append_nil]
  rfl

theorem append {text text' : List Char} {pieces pieces' : Nat → List Piece}
    {widths widths' : List (Option Width)} (h : ReadsAs text pieces widths)
    (h' : ReadsAs text' pieces' widths') :
  ReadsAs (text ++ text') (fun i => pieces i ++ pieces' (i + widths.length)) (widths ++ widths')
  := by
  refine ⟨h.goesOn.append h'.goesOn, ?_⟩
  intro s rest fuel hflags hrest hfuel first position found
  rw [List.length_append] at hfuel
  obtain ⟨fuel', hfuel', hrun⟩ := h.run hflags (h'.goesOn.append hrest)
    (Nat.le_trans (Nat.le_add_right _ _) hfuel) first position found
  obtain ⟨fuel'', hfuel'', hrun'⟩ := h'.run (s := s.withGroups widths) hflags hrest
    (show text'.length ≤ fuel' by omega) first (position + text.length)
    (((pieces s.widths.length).map .piece).reverse ++ found)
  use fuel''
  constructor
  · rw [List.length_append]
    omega
  · rw [List.append_assoc, hrun, hrun']
    simp only [PatternState.withGroups, List.length_append, List.map_append, List.reverse_append,
      List.append_assoc, Nat.add_assoc]

/-- A text of which the first unit is read in one step. -/
theorem of_step {text : List Char} {pieces : Nat → List Piece} {widths : List (Option Width)}
    (hgoesOn : GoesOn text) (hne : text ≠ [])
    (h : ∀ (s : PatternState) (rest : List Char) (fuel : Nat) (first : Bool) (position : Nat)
      (found : List Part), s.flags = {} → GoesOn rest → text.length ≤ fuel + 1 →
      sequence first {} (fuel + 1) found (s.facing position (text ++ rest))
        = sequence first {} fuel (((pieces s.widths.length).map .piece).reverse ++ found)
          ((s.withGroups widths).facing (position + text.length) rest)) :
  ReadsAs text pieces widths
  := by
  refine ⟨hgoesOn, ?_⟩
  intro s rest fuel hflags hrest hfuel first position found
  have hpos := List.length_pos_iff.mpr hne
  obtain ⟨more, rfl⟩ := Nat.exists_eq_add_one_of_ne_zero (Nat.ne_zero_of_lt (by omega : 0 < fuel))
  exact ⟨more, by omega, h s rest more first position found hflags hrest hfuel⟩

end ReadsAs

/-- The units of a text add a piece, and no group. -/
theorem ReadsAs.of_units {text : List Char} {p : Piece} (hgoesOn : GoesOn text) (hne : text ≠ [])
    (h : ∀ (s : PatternState) (rest : List Char) (fuel : Nat) (first : Bool) (position : Nat)
      (found : List Part), GoesOn rest →
      sequence first {} (fuel + 1) found (s.facing position (text ++ rest))
        = sequence first {} fuel (.piece p :: found)
          (s.facing (position + text.length) rest)) :
  ReadsAs text (fun _ => [p]) []
  := by
  apply of_step hgoesOn hne
  intro s rest fuel first position found _ hrest _
  rw [h s rest fuel first position found hrest, PatternState.withGroups, List.append_nil]
  rfl

/-! ### Single units -/

theorem readsAs_char {c : Char} (h : isSpecial c = false) :
  ReadsAs [c] (fun _ => [literalPiece {} c.toNat]) []
  := by
  have hne : ∀ d, isSpecial d = true → c ≠ d := by
    rintro d hd rfl
    rw [h] at hd
    cases hd
  have hend : (c == '|' || c == ')') = false := by
    rw [beq_eq_false_iff_ne.mpr (hne '|' (by decide)),
      beq_eq_false_iff_ne.mpr (hne ')' (by decide))]
    rfl
  have hgoesOn : GoesOn [c] :=
    ⟨by simpa using hne '\\' (by decide), by simpa using hne '?' (by decide),
      by simpa using hne '+' (by decide)⟩
  apply ReadsAs.of_units hgoesOn (by simp)
  intro s rest fuel first position found hrest
  refine (bind_of_ok (peek?_facing s position (hne '\\' (by decide)))).trans ?_
  refine (congrFun (if_neg (Bool.eq_false_iff.mp hend)) _).trans ?_
  refine (bind_of_ok (advance_facing s position (hne '\\' (by decide)) hrest)).trans ?_
  -- the pattern is not verbose, so neither blanks nor comments are skipped
  refine (congrFun (if_neg Bool.false_ne_true) _).trans ?_
  refine (congrFun (if_neg Bool.false_ne_true) _).trans ?_
  exact congrFun (if_pos (by rw [h]; rfl)) _

/-- Behind a backslash a character that is neither a letter nor a digit stands for itself. -/
theorem escape_eq {c : Char} (hletter : c.isAlpha = false) (hdigit : c.isDigit = false)
    (s : PatternState) :
  escape {} c s = .ok (literalPiece {} c.toNat, s)
  := by
  have hne : ∀ d, d.isAlphanum = true → c ≠ d := by
    rintro d hd rfl
    rw [Char.isAlphanum, hletter, hdigit] at hd
    cases hd
  have hkind : kindItem? c = none := by
    rw [kindItem?] <;> exact hne _ rfl
  have hliteral : literalEscape c = pure c.toNat := by
    rw [literalEscape, hletter, Bool.and_false]
    rfl
  have hother : ∀ d, d.isAlphanum = true → (c == d) = false :=
    fun d hd => beq_eq_false_iff_ne.mpr (hne d hd)
  rw [escape, hkind]
  simp only [hother 'A' rfl, hother 'b' rfl, hother 'B' rfl, hother 'Z' rfl, Bool.false_eq_true,
    if_false]
  by_cases hslash : c = '\\'
  · subst hslash
    rfl
  · have hcontrol : controlCode? c = none := by
      rw [controlCode?]
      all_goals first | exact hslash | exact hne _ rfl
    rw [hcontrol]
    simp only [hother 'x' rfl, hother 'u' rfl, hother 'U' rfl, hother 'N' rfl, hother '0' rfl,
      hdigit, hliteral, Bool.false_eq_true, if_false]
    rfl

theorem readsAs_escaped {c : Char} (hletter : c.isAlpha = false) (hdigit : c.isDigit = false) :
  ReadsAs ['\\', c] (fun _ => [literalPiece {} c.toNat]) []
  := by
  apply ReadsAs.of_units ⟨by simp, by simp, by simp⟩ (by simp)
  intro s rest fuel first position found hrest
  refine (bind_of_ok (a := some ⟨['\\', c], position⟩) rfl).trans ?_
  refine (bind_of_ok (advance_units s (position + 2) _ hrest)).trans ?_
  exact bind_of_ok (escape_eq hletter hdigit _)

/-- The signs that are a piece by themselves: a dot, and the anchors of a whole text. -/
theorem readsAs_sign {c : Char} {p : Piece}
    (h : c = '.' ∧ p = .single (.any false) ∨ c = '^' ∧ p = .place (.anchor .start) .anchor
      ∨ c = '$' ∧ p = .place (.anchor .finish) .anchor) :
  ReadsAs [c] (fun _ => [p]) []
  := by
  obtain ⟨rfl, rfl⟩ | ⟨rfl, rfl⟩ | ⟨rfl, rfl⟩ := h
  all_goals
    apply ReadsAs.of_units ⟨by decide, by decide, by decide⟩ (by simp)
    intro s rest fuel first position found hrest
    refine (bind_of_ok (peek?_facing s position (by decide))).trans ?_
    exact bind_of_ok (advance_facing s position (by decide) hrest)

theorem readsAs_any :
  ReadsAs ['.'] (fun _ => [.single (.any false)]) []
  := readsAs_sign (.inl ⟨rfl, rfl⟩)

/-- A star repeats the piece before it. -/
theorem ReadsAs.star {text : List Char} {p : Piece} (h : ReadsAs text (fun _ => [p]) [])
    (hkind : p.kind = .other) :
  ReadsAs (text ++ ['*']) (fun _ => [repeated 0 p]) []
  := by
  have hstar : GoesOn ['*'] := ⟨by decide, by decide, by decide⟩
  refine ⟨h.goesOn.append hstar, ?_⟩
  intro s rest fuel hflags hrest hfuel first position found
  rw [List.length_append, List.length_singleton] at hfuel
  obtain ⟨fuel', hfuel', hrun⟩ := h.run hflags (hstar.append hrest)
    (show text.length ≤ fuel by omega) first position found
  have hpos : fuel' ≠ 0 := by omega
  obtain ⟨more, rfl⟩ := Nat.exists_eq_add_one_of_ne_zero hpos
  use more
  constructor
  · rw [List.length_append, List.length_singleton]
    omega
  · rw [List.append_assoc, hrun, List.singleton_append, List.length_append]
    refine (bind_of_ok (peek?_facing _ _ (by decide))).trans ?_
    refine (bind_of_ok (advance_facing _ _ (by decide) hrest)).trans ?_
    refine (bind_of_ok (a := some (0, none)) rfl).trans ?_
    exact bind_of_ok (repeatLast_facing _ (by exact hflags) hkind _ 0 _ hrest)

/-! ### Classes and groups -/

/-- The piece of the characters other than a slash. -/
def notSlash : Piece := .single (.one ⟨[.code '/'.toNat], true, .exact, false⟩)

theorem classItems_notSlash (s : PatternState) (position start fuel : Nat) {rest : List Char}
    (hrest : GoesOn rest) :
  classItems start (fuel + 2) [] (s.facing position ('/' :: ']' :: rest))
    = .ok ([.code '/'.toNat], s.facing (position + 2) rest)
  := by
  have hclose : GoesOn (']' :: rest) := ⟨by simp, by simp, by simp⟩
  rw [classItems, bind_of_ok (take?_facing s position (by decide) hclose)]
  refine (bind_of_ok (a := ClassItem.code '/'.toNat) rfl).trans ?_
  refine (bind_of_ok (accept_facing_ne s (position + 1) (by simp) (by decide))).trans ?_
  change classItems start (fuel + 1) [.code '/'.toNat] _ = _
  rw [classItems, bind_of_ok (take?_facing s (position + 1) (by decide) hrest)]
  rfl

theorem charClass_notSlash (s : PatternState) (position : Nat) {rest : List Char}
    (hrest : GoesOn rest) :
  charClass {} (s.facing position ('^' :: '/' :: ']' :: rest))
    = .ok (notSlash, s.facing (position + 3) rest)
  := by
  have hslash : GoesOn ('/' :: ']' :: rest) := ⟨by simp, by simp, by simp⟩
  rw [charClass]
  refine (bind_of_ok (a := position) rfl).trans ?_
  refine (bind_of_ok (accept_facing s position (by decide) hslash)).trans ?_
  refine (bind_of_ok (a := s.facing (position + 1) ('/' :: ']' :: rest)) rfl).trans ?_
  exact bind_of_ok (classItems_notSlash s (position + 1) _ _ hrest)

theorem readsAs_notSlash :
  ReadsAs "[^/]".toList (fun _ => [notSlash]) []
  := by
  apply ReadsAs.of_units ⟨by decide, by decide, by decide⟩ (by decide)
  intro s rest fuel first position found hrest
  have hopen : GoesOn ('^' :: '/' :: ']' :: rest) := ⟨by simp, by simp, by simp⟩
  change sequence first {} (fuel + 1) found
    (s.facing position ('[' :: '^' :: '/' :: ']' :: rest)) = _
  refine (bind_of_ok (peek?_facing s position (by decide))).trans ?_
  refine (bind_of_ok (advance_facing s position (by decide) hopen)).trans ?_
  exact bind_of_ok (charClass_notSlash s (position + 1) hrest)

/-- The piece of the group of a given number that takes a run of characters other than a slash. -/
def segment (index : Nat) : Piece :=
  ⟨.group index (.repeated .greedy 1 none notSlash.regex), ⟨1, maxRepeat⟩, .group, none⟩

/-- What stands in the parentheses of a group is read up to the closing one. -/
theorem alternatives_segment {s : PatternState} (hflags : s.flags = {}) (position fuel : Nat)
    (rest : List Char) :
  alternatives false {} (fuel + 4) [] (s.facing position ("[^/]+)".toList ++ rest))
    = .ok ([repeated 1 notSlash], s.facing (position + 5) (')' :: rest))
  := by
  obtain ⟨units, total, flags, names, widths, horizon, references⟩ := s
  obtain rfl := hflags
  rfl

theorem closeParenthesis_facing (s : PatternState) (start position : Nat) {rest : List Char}
    (hrest : GoesOn rest) :
  closeParenthesis start (s.facing position (')' :: rest))
    = .ok ((), s.facing (position + 1) rest)
  := by
  rw [closeParenthesis, bind_of_ok (accept_facing s position (by decide) hrest)]
  rfl

/-- The group that was opened last gets its width. -/
theorem closeGroup_facing (s : PatternState) (width : Width) (position : Nat) (rest : List Char) :
  closeGroup s.widths.length width ((s.withGroups [none]).facing position rest)
    = .ok ((), (s.withGroups [some width]).facing position rest)
  := by
  have hset : (s.widths ++ [none]).set s.widths.length (some width) = s.widths ++ [some width] := by
    rw [List.set_append_right _ _ (Nat.le_refl _), Nat.sub_self]
    rfl
  rw [PatternState.withGroups, PatternState.withGroups, ← hset]
  rfl

theorem capture_segment {s : PatternState} (hflags : s.flags = {}) (start position fuel : Nat)
    {rest : List Char} (hrest : GoesOn rest) :
  capture {} start none (fuel + 5) (s.facing position ("[^/]+)".toList ++ rest))
    = .ok (segment s.widths.length, (s.withGroups [some ⟨1, maxRepeat⟩]).facing (position + 6) rest)
  := by
  let inner := s.withGroups [none]
  have hopen : openGroup none (s.facing position ("[^/]+)".toList ++ rest))
      = .ok (s.widths.length, inner.facing position ("[^/]+)".toList ++ rest)) := rfl
  rw [capture, bind_of_ok hopen]
  refine (bind_of_ok (alternatives_segment (s := inner) hflags position fuel rest)).trans ?_
  refine (bind_of_ok (closeParenthesis_facing inner start (position + 5) hrest)).trans ?_
  exact bind_of_ok (closeGroup_facing s ⟨1, maxRepeat⟩ (position + 6) rest)

theorem construct_segment {s : PatternState} (hflags : s.flags = {}) (position fuel : Nat)
    {rest : List Char} (hrest : GoesOn rest) :
  construct {} (fuel + 6) (s.facing position ("[^/]+)".toList ++ rest))
    = .ok (.part (.piece (segment s.widths.length)),
      (s.withGroups [some ⟨1, maxRepeat⟩]).facing (position + 6) rest)
  := by
  rw [construct]
  refine (bind_of_ok (a := position) rfl).trans ?_
  refine (bind_of_ok (accept_facing_ne s position (by simp) (by decide))).trans ?_
  exact bind_of_ok (capture_segment hflags (position - 1) position fuel hrest)

theorem readsAs_segment :
  ReadsAs "([^/]+)".toList (fun i => [segment i]) [some ⟨1, maxRepeat⟩]
  := by
  apply ReadsAs.of_step ⟨by decide, by decide, by decide⟩ (by decide)
  intro s rest fuel first position found hflags hrest hfuel
  obtain ⟨more, rfl⟩ : ∃ more, fuel = more + 6 :=
    Nat.exists_eq_add_of_le' (Nat.le_of_succ_le_succ hfuel)
  have hopen : GoesOn ("[^/]+)".toList ++ rest) := ⟨by simp, by simp, by simp⟩
  change sequence first {} _ found (s.facing position ('(' :: ("[^/]+)".toList ++ rest))) = _
  refine (bind_of_ok (peek?_facing s position (by decide))).trans ?_
  refine (bind_of_ok (advance_facing s position (by decide) hopen)).trans ?_
  exact bind_of_ok (construct_segment hflags (position + 1) more hrest)

/-! ### Texts before others -/

/-- A text is read as some pieces where the given text follows it, with fuel that is enough for what
stands in its parentheses. -/
structure ReadsBefore (rest text : List Char) (pieces : Nat → List Piece)
    (widths : List (Option Width)) : Prop where
  run {s : PatternState} {fuel : Nat} (hflags : s.flags = {}) (hfuel : 4 * text.length ≤ fuel)
    (first : Bool) (position : Nat) (found : List Part) :
    ∃ (fuel' position' : Nat) (parts : List Part), fuel ≤ fuel' + text.length
      ∧ parts.flatMap Part.pieces = pieces s.widths.length
      ∧ sequence first {} fuel found (s.facing position (text ++ rest))
        = sequence first {} fuel' (parts.reverse ++ found)
          ((s.withGroups widths).facing position' rest)

theorem ReadsAs.before {text : List Char} {pieces : Nat → List Piece}
    {widths : List (Option Width)} (h : ReadsAs text pieces widths) {rest : List Char}
    (hrest : GoesOn rest) :
  ReadsBefore rest text pieces widths
  := by
  constructor
  intro s fuel hflags hfuel first position found
  obtain ⟨fuel', hfuel', hrun⟩ := h.run hflags hrest (show text.length ≤ fuel by omega) first
    position found
  refine ⟨fuel', position + text.length, (pieces s.widths.length).map .piece, hfuel', ?_, hrun⟩
  rw [List.flatMap_map]
  exact List.flatMap_singleton' _

theorem ReadsBefore.append {rest text text' : List Char} {pieces pieces' : Nat → List Piece}
    {widths widths' : List (Option Width)} (h : ReadsBefore (text' ++ rest) text pieces widths)
    (h' : ReadsBefore rest text' pieces' widths') :
  ReadsBefore rest (text ++ text') (fun i => pieces i ++ pieces' (i + widths.length))
    (widths ++ widths')
  := by
  constructor
  intro s fuel hflags hfuel first position found
  rw [List.length_append] at hfuel
  obtain ⟨fuel', position', parts, hfuel', hparts, hrun⟩ :=
    h.run hflags (show 4 * text.length ≤ fuel by omega) first position found
  obtain ⟨fuel'', position'', parts', hfuel'', hparts', hrun'⟩ :=
    h'.run (s := s.withGroups widths) hflags (show 4 * text'.length ≤ fuel' by omega) first
      position' (parts.reverse ++ found)
  refine ⟨fuel'', position'', parts ++ parts', ?_, ?_, ?_⟩
  · rw [List.length_append]
    omega
  · rw [List.flatMap_append, hparts, hparts', PatternState.withGroups, List.length_append]
  · rw [List.append_assoc, hrun, hrun']
    simp only [PatternState.withGroups, List.reverse_append, List.append_assoc]

/-! ### Whole patterns -/

theorem ReadsBefore.sequence_eq {text : List Char} {pieces : Nat → List Piece}
    {widths : List (Option Width)} (h : ReadsBefore [] text pieces widths) {s : PatternState}
    (hflags : s.flags = {}) {fuel : Nat} (hfuel : 4 * text.length < fuel) (first : Bool)
    (position : Nat) :
  sequence first {} fuel [] (s.facing position text)
    = .ok (pieces s.widths.length, (s.withGroups widths).facing 0 [])
  := by
  obtain ⟨fuel', position', parts, hfuel', hparts, hrun⟩ :=
    h.run hflags (Nat.le_of_lt hfuel) first position []
  have hpos : fuel' ≠ 0 := by omega
  obtain ⟨more, rfl⟩ := Nat.exists_eq_add_one_of_ne_zero hpos
  rw [List.append_nil, List.append_nil] at hrun
  rw [hrun]
  refine (bind_of_ok (a := none) rfl).trans ?_
  dsimp only
  rw [List.reverse_reverse, hparts]
  rfl

theorem regex_sequence_cons (p : Piece) {rest : List Piece} (h : rest ≠ []) :
  (Piece.sequence (p :: rest)).regex = .seq p.regex (Piece.sequence rest).regex
  := by
  obtain ⟨q, more, rfl⟩ := List.exists_cons_of_ne_nil h
  rfl

theorem sequence_fault {pieces : List Piece} (h : ∀ p ∈ pieces, p.fault = none) :
  (Piece.sequence pieces).fault = none
  := by
  induction pieces with
  | nil => rfl
  | cons p rest ih =>
      obtain ⟨hp, hrest⟩ := List.forall_mem_cons.mp h
      cases rest with
      | nil => exact hp
      | cons q rest =>
          have hfault := ih hrest
          change (p.fault <|> (Piece.sequence (q :: rest)).fault) = none
          rw [hp, hfault]
          rfl

theorem alternatives_eq {text : List Char} {pieces : Nat → List Piece}
    {widths : List (Option Width)} (h : ReadsBefore [] text pieces widths) {s : PatternState}
    (hflags : s.flags = {}) {fuel : Nat} (hfuel : 4 * text.length < fuel) (position : Nat) :
  alternatives true {} (fuel + 1) [] (s.facing position text)
    = .ok (pieces s.widths.length, (s.withGroups widths).facing 0 [])
  := by
  rw [alternatives, bind_of_ok (h.sequence_eq hflags hfuel _ position)]
  refine (bind_of_ok (accept_facing_ne _ _ (by simp) (by decide))).trans ?_
  rfl

theorem wholePattern_eq {text : List Char} {pieces : Nat → List Piece}
    {widths : List (Option Width)} (h : ReadsBefore [] text pieces widths) (hgoesOn : GoesOn text)
    (hfault : ∀ p ∈ pieces 1, p.fault = none) :
  wholePattern { units := PatternUnit.split 0 text, total := text.length }
    = .ok (Piece.sequence (pieces 1),
      { units := [], total := text.length, widths := none :: widths })
  := by
  let start : PatternState := { units := [], total := text.length }
  have hfuel : 4 * text.length < 4 * text.length + 3 := by omega
  rw [wholePattern]
  refine (bind_of_ok (a := start.facing 0 text) rfl).trans ?_
  change ((checkDangling (PatternUnit.split 0 text) text.length).bind _).bind _ = _
  rw [checkDangling_split hgoesOn]
  refine (bind_of_ok (alternatives_eq h (s := start) rfl hfuel 0)).trans ?_
  have hwhole : (Piece.sequence (pieces start.widths.length)).fault = none := sequence_fault hfault
  dsimp only
  rw [hwhole]
  rfl

end PatternReader

/-- A text that is read as some pieces is the pattern of these pieces in sequence. -/
theorem CompiledPattern.ofText_eq {text : String} {pieces : Nat → List Piece}
    {widths : List (Option Width)} (h : PatternReader.ReadsBefore [] text.toList pieces widths)
    (hgoesOn : PatternReader.GoesOn text.toList) (hfault : ∀ p ∈ pieces 1, p.fault = none) :
  ofText text
    = .ok ⟨(Piece.sequence (pieces 1)).regex, widths.length, [], false,
      (Piece.sequence (pieces 1)).width.least⟩
  := by
  rw [ofText, ofTextWith, PatternReader.wholePattern_eq h hgoesOn hfault]
  rfl

/-- A text between the anchors of a whole text is the pattern of its pieces between them. -/
theorem compilePattern_anchored {text : List Char} {pieces : Nat → List Piece}
    {widths : List (Option Width)} (h : PatternReader.ReadsBefore ['$'] text pieces widths)
    (hgoesOn : PatternReader.GoesOn text) (hfault : ∀ p ∈ pieces 1, p.fault = none) :
  ∃ least, compilePattern (String.ofList ('^' :: text ++ ['$']))
    = .ok ⟨.seq (.anchor .start)
        (Piece.sequence (pieces 1 ++ [.place (.anchor .finish) .anchor])).regex,
      widths.length, [], false, least⟩
  := by
  have hfinish : PatternReader.ReadsAs ['$'] (fun _ => [.place (.anchor .finish) .anchor]) [] :=
    PatternReader.readsAs_sign (.inr (.inr ⟨rfl, rfl⟩))
  have hstart : PatternReader.ReadsAs ['^'] (fun _ => [.place (.anchor .start) .anchor]) [] :=
    PatternReader.readsAs_sign (.inr (.inl ⟨rfl, rfl⟩))
  have hbehind : PatternReader.GoesOn (text ++ ['$']) := hgoesOn.append hfinish.goesOn
  have hbegin : PatternReader.GoesOn (String.ofList ('^' :: text ++ ['$'])).toList := by
    rw [String.toList_ofList]
    exact hstart.goesOn.append hbehind
  have hwhole : PatternReader.ReadsBefore [] (String.ofList ('^' :: text ++ ['$'])).toList
      (fun index => .place (.anchor .start) .anchor ::
        (pieces index ++ [.place (.anchor .finish) .anchor])) widths := by
    rw [String.toList_ofList, ← List.append_nil widths]
    exact (hstart.before (hbehind.append .nil)).append (h.append (hfinish.before .nil))
  have hpieces : ∀ p ∈ Piece.place (.anchor .start) .anchor ::
      (pieces 1 ++ [.place (.anchor .finish) .anchor]), p.fault = none := by
    rw [List.forall_mem_cons, List.forall_mem_append, List.forall_mem_singleton]
    exact ⟨rfl, hfault, rfl⟩
  rw [compilePattern, CompiledPattern.ofText_eq hwhole hbegin hpieces,
    PatternReader.regex_sequence_cons _ (by simp)]
  exact ⟨_, rfl⟩

theorem compilePattern_between {text : List Char} {pieces : Nat → List Piece}
    {widths : List (Option Width)} (h : PatternReader.ReadsAs text pieces widths)
    (hfault : ∀ p ∈ pieces 1, p.fault = none) :
  ∃ least, compilePattern (String.ofList ('^' :: text ++ ['$']))
    = .ok ⟨.seq (.anchor .start)
        (Piece.sequence (pieces 1 ++ [.place (.anchor .finish) .anchor])).regex,
      widths.length, [], false, least⟩
  := compilePattern_anchored (h.before ⟨by simp, by simp, by simp⟩) h.goesOn hfault

end AccessControl
