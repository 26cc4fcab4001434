import AccessControl.Proofs.Pattern.Literal
import AccessControl.Proofs.Pattern.Standalone

/-!
# Patterns as links

A pattern with placeholders `:name` as a chain of segments, `KeyPart.ofColons_eq`.  Where the text
before each placeholder stands alone, the regular expression of the pattern consists of the pieces
of these texts, of slashes, and of what stands for the placeholders, whether the latter are groups
or not, `Hole.compilePattern_eq`.
-/

namespace AccessControl

open PatternReader (GoesOn ReadsAs ReadsBefore Stands borders literalPiece notSlash)

/-! ### Segments -/

/-- A segment of a pattern: the text of a regular expression, and the name of a placeholder if one
follows it up to the end of the segment. -/
structure ColonSegment where
  head : List Char
  name? : Option (List Char)
  deriving DecidableEq

namespace ColonSegment

/-- A placeholder begins at the first colon that is not the end of the segment. -/
def ofText : List Char → ColonSegment
  | [] => ⟨[], none⟩
  | ':' :: c :: rest => ⟨[], some (c :: rest)⟩
  | c :: rest => ⟨c :: (ofText rest).head, (ofText rest).name?⟩

/-- The parts of a segment. -/
def parts (segment : ColonSegment) : List KeyPart :=
  segment.head.map .char ++ segment.name?.toList.map .name

/-- A segment that is a placeholder and no more. -/
theorem ofText_colon {name : List Char} (h : name ≠ []) :
  ofText (':' :: name) = ⟨[], some name⟩
  := by
  obtain ⟨c, rest, rfl⟩ := List.exists_cons_of_ne_nil h
  rfl

end ColonSegment

namespace KeyPart

theorem colonPlaceholder?_append {name rest : List Char} (hne : name ≠ []) (h : '/' ∉ name)
    (hrest : ∀ c ∈ rest.head?, c = '/') :
  colonPlaceholder? (name ++ rest) = some (name, rest)
  := by
  have hname : ∀ c ∈ name, (c != '/') = true := by
    intro c hc
    rw [bne_iff_ne]
    rintro rfl
    exact h hc
  have htake : rest.takeWhile (· != '/') = [] := by
    cases rest with
    | nil => rfl
    | cons c rest =>
        obtain rfl := hrest c rfl
        rfl
  have hdrop : rest.dropWhile (· != '/') = rest := dropWhile_eq_self (by simpa using hrest)
  rw [colonPlaceholder?, List.takeWhile_append_of_pos hname, htake, List.append_nil,
    List.dropWhile_append_of_pos hname, hdrop]
  obtain ⟨c, more, rfl⟩ := List.exists_cons_of_ne_nil hne
  rfl

theorem scan_nil (mark : Char) (placeholder? : List Char → Option (List Char × List Char))
    (fuel : Nat) :
  scan mark placeholder? fuel [] = []
  := by
  cases fuel <;> rfl

/-- A segment is read as its parts. -/
theorem scan_segment {text rest : List Char} (h : '/' ∉ text) (hrest : ∀ c ∈ rest.head?, c = '/')
    {fuel : Nat} (hfuel : text.length ≤ fuel) :
  ∃ fuel', fuel ≤ fuel' + text.length ∧
    scan ':' colonPlaceholder? fuel (text ++ rest)
      = (ColonSegment.ofText text).parts ++ scan ':' colonPlaceholder? fuel' rest
  := by
  induction text using ColonSegment.ofText.induct generalizing fuel with
  | case1 => exact ⟨fuel, Nat.le_refl _, rfl⟩
  | case2 c more =>
      obtain ⟨fuel, rfl⟩ := Nat.exists_eq_add_one_of_ne_zero (Nat.ne_zero_of_lt hfuel)
      have hname := colonPlaceholder?_append (List.cons_ne_nil c more)
        (List.not_mem_of_not_mem_cons h) hrest
      refine ⟨fuel, Nat.add_le_add_left (Nat.le_add_left _ _) _, ?_⟩
      rw [List.cons_append, scan, if_pos rfl, hname]
      rfl
  | case3 c more hplain ih =>
      obtain ⟨fuel, rfl⟩ := Nat.exists_eq_add_one_of_ne_zero (Nat.ne_zero_of_lt hfuel)
      obtain ⟨fuel', hfuel', hmore⟩ :=
        ih (List.not_mem_of_not_mem_cons h) (Nat.le_of_succ_le_succ hfuel)
      -- a colon at the end of a segment is no placeholder
      have hnone : (if c = ':' then colonPlaceholder? (more ++ rest) else none) = none := by
        by_cases hc : c = ':'
        · cases more with
          | cons d more => exact absurd rfl (hplain d more hc)
          | nil =>
              rw [if_pos hc, List.nil_append]
              cases rest with
              | nil => rfl
              | cons d rest =>
                  obtain rfl := hrest d rfl
                  rfl
        · rw [if_neg hc]
      refine ⟨fuel', Nat.succ_le_succ hfuel', ?_⟩
      rw [List.cons_append, scan, hnone, hmore, ColonSegment.ofText]
      · rfl
      · exact hplain

/-- The parts of a pattern are those of its segments with slashes between them. -/
theorem scan_eq {cs : List Char} {fuel : Nat} (hfuel : cs.length ≤ fuel) :
  scan ':' colonPlaceholder? fuel cs
    = [.char '/'].intercalate ((splitAt '/' cs).map fun text => (ColonSegment.ofText text).parts)
  := by
  induction hsegments : splitAt '/' cs generalizing cs fuel with
  | nil => exact absurd hsegments (splitAt_ne_nil '/' cs)
  | cons segment rest ih =>
      obtain ⟨text, hslash, rfl | ⟨more, rfl⟩⟩ := splitAt_cases '/' cs
      · rw [splitAt_eq_self hslash] at hsegments
        cases hsegments
        have hend : ∀ c ∈ ([] : List Char).head?, c = '/' := by simp
        obtain ⟨fuel', -, hscan⟩ := scan_segment hslash hend hfuel
        rw [List.append_nil, scan_nil, List.append_nil] at hscan
        rw [hscan, List.map_singleton, List.intercalate_singleton]
      · rw [splitAt_append hslash] at hsegments
        cases hsegments
        rw [List.length_append, List.length_cons] at hfuel
        have hbehind : ∀ c ∈ ('/' :: more).head?, c = '/' := by simp
        obtain ⟨fuel', hfuel', hscan⟩ :=
          scan_segment hslash hbehind (show segment.length ≤ fuel by omega)
        have hpos : fuel' ≠ 0 := by omega
        obtain ⟨fuel', rfl⟩ := Nat.exists_eq_add_one_of_ne_zero hpos
        have hmore := ih (show more.length ≤ fuel' by omega) rfl
        have hne : (splitAt '/' more).map (fun text => (ColonSegment.ofText text).parts) ≠ [] := by
          simpa using splitAt_ne_nil '/' more
        rw [hscan, scan, if_neg (by decide), hmore, List.map_cons,
          List.intercalate_cons_of_ne_nil hne, List.append_assoc]
        rfl

theorem ofColons_eq {pattern : String} (h : '*' ∉ pattern.toList) :
  ofColons pattern = [.char '/'].intercalate
    ((splitAt '/' pattern.toList).map fun text => (ColonSegment.ofText text).parts)
  := by
  rw [ofColons, widenStars_of_not_mem h]
  exact scan_eq (Nat.le_refl _)

/-- The names of a pattern are those of its segments. -/
theorem names_segments (segments : List ColonSegment) :
  names ([.char '/'].intercalate (segments.map ColonSegment.parts))
    = segments.filterMap ColonSegment.name?
  := by
  have hparts : ∀ segment : ColonSegment, names segment.parts = segment.name?.toList := by
    intro segment
    obtain ⟨head, name?⟩ := segment
    cases name? <;> simp [names, ColonSegment.parts, List.filterMap_map]
  induction segments with
  | nil => rfl
  | cons segment rest ih =>
      have hcons : (segment :: rest).filterMap ColonSegment.name?
          = segment.name?.toList ++ rest.filterMap ColonSegment.name? := by
        cases hname : segment.name? <;> simp [hname]
      rw [hcons, ← hparts, ← ih]
      cases rest with
      | nil =>
          rw [List.map_singleton, List.intercalate_singleton]
          exact (List.append_nil _).symm
      | cons next more =>
          rw [List.map_cons, List.intercalate_cons_of_ne_nil (by simp), names, names, names,
            List.filterMap_append, List.filterMap_append]
          simp

end KeyPart

/-! ### Links -/

/-- A segment of which the text before the placeholder stands alone, with its pieces. -/
structure KeyLink extends ColonSegment where
  lead : List Piece
  stands : Stands head lead

theorem KeyLink.exists_ofText {segments : List (List Char)}
    (h : ∀ text ∈ segments, PatternReader.standsAlone (ColonSegment.ofText text).head = true) :
  ∃ links : List KeyLink, links.map KeyLink.toColonSegment = segments.map ColonSegment.ofText
  := by
  induction segments with
  | nil => exact ⟨[], rfl⟩
  | cons text rest ih =>
      obtain ⟨htext, hrest⟩ := List.forall_mem_cons.mp h
      obtain ⟨links, hlinks⟩ := ih hrest
      obtain ⟨lead, hlead⟩ := PatternReader.exists_stands htext
      exact ⟨⟨ColonSegment.ofText text, lead, hlead⟩ :: links, congrArg (_ :: ·) hlinks⟩

namespace PatternReader

/-- A pattern may go on with a border. -/
theorem goesOn_border {border : Char} (h : border ∈ borders) (more : List Char) :
  GoesOn (border :: more)
  := by
  have hne : ∀ c, c ∉ borders → border ≠ c := by
    rintro c hc rfl
    exact hc h
  exact ⟨by simp [hne '\\' (by decide)], by simp [hne '?' (by decide)],
    by simp [hne '+' (by decide)]⟩

/-- A run of characters other than a slash. -/
theorem readsAs_run :
  ReadsAs "[^/]+".toList (fun _ => [repeated 1 notSlash]) []
  := by
  refine ⟨⟨by decide, by decide, by decide⟩, ?_⟩
  intro s rest fuel hflags hrest hfuel first position found
  obtain ⟨fuel, rfl⟩ : ∃ more, fuel = more + 2 :=
    Nat.exists_eq_add_of_le' (Nat.le_trans (by decide) hfuel)
  refine ⟨fuel, Nat.add_le_add_left (by decide) fuel, ?_⟩
  have hopen : GoesOn ('^' :: '/' :: ']' :: '+' :: rest) := ⟨by simp, by simp, by simp⟩
  have hclass : charClass {} (s.facing (position + 1) ('^' :: '/' :: ']' :: '+' :: rest))
      = .ok (notSlash, s.facing (position + 4) ('+' :: rest)) := rfl
  refine (bind_of_ok (peek?_facing s position (by decide))).trans ?_
  refine (bind_of_ok (advance_facing s position (by decide) hopen)).trans ?_
  refine (bind_of_ok hclass).trans ?_
  refine (bind_of_ok (peek?_facing _ _ (by decide))).trans ?_
  refine (bind_of_ok (advance_facing _ _ (by decide) hrest)).trans ?_
  refine (bind_of_ok (a := some (1, none)) rfl).trans ?_
  refine (bind_of_ok (repeatLast_facing _ hflags rfl _ 1 _ hrest)).trans ?_
  rw [PatternState.withGroups, List.append_nil]
  rfl

end PatternReader

/-! ### Regular expressions -/

/-- What stands for a placeholder in a regular expression. -/
structure Hole where
  source : String
  piece : Nat → Piece
  widths : List (Option Width)
  reads : ReadsAs source.toList (fun index => [piece index]) widths
  fault (index : Nat) : (piece index).fault = none
  border : ∃ c ∈ borders, ∃ rest, source.toList = c :: rest

namespace Hole

/-- A run of characters other than a slash. -/
def run : Hole where
  source := "[^/]+"
  piece _ := PatternReader.repeated 1 notSlash
  widths := []
  reads := PatternReader.readsAs_run
  fault _ := rfl
  border := ⟨'[', by decide, _, rfl⟩

/-- A group that takes such a run. -/
def group : Hole where
  source := "([^/]+)"
  piece := PatternReader.segment
  widths := [some ⟨1, maxRepeat⟩]
  reads := PatternReader.readsAs_segment
  fault _ := rfl
  border := ⟨'(', by decide, _, rfl⟩

variable (hole : Hole)

/-- The text of a link in a regular expression. -/
def text (link : KeyLink) : List Char := link.head ++ link.name?.elim [] fun _ => hole.source.toList

/-- The text of some links with slashes between them. -/
def wholeText (links : List KeyLink) : List Char := ['/'].intercalate (links.map hole.text)

/-- The widths of the groups of a link. -/
def groups (link : KeyLink) : List (Option Width) := link.name?.elim [] fun _ => hole.widths

/-- The pieces of a link with groups numbered from an index on. -/
def linkPieces (index : Nat) (link : KeyLink) : List Piece :=
  link.lead ++ link.name?.elim [] fun _ => [hole.piece index]

/-- The pieces of some links with slashes between them. -/
def pieces : Nat → List KeyLink → List Piece
  | _, [] => []
  | index, [link] => hole.linkPieces index link
  | index, link :: next :: rest =>
      hole.linkPieces index link ++ literalPiece {} '/'.toNat
        :: pieces (index + (hole.groups link).length) (next :: rest)

theorem wholeText_singleton (link : KeyLink) :
  hole.wholeText [link] = hole.text link
  := by
  rw [wholeText, List.map_singleton, List.intercalate_singleton]

theorem wholeText_cons_cons (link next : KeyLink) (rest : List KeyLink) :
  hole.wholeText (link :: next :: rest)
    = hole.text link ++ ('/' :: hole.wholeText (next :: rest))
  := by
  rw [wholeText, List.map_cons, List.intercalate_cons_of_ne_nil (by simp), List.append_assoc]
  rfl

theorem goesOn_text (link : KeyLink) : GoesOn (hole.text link) := by
  apply link.stands.goesOn.append
  cases link.name? with
  | none => exact .nil
  | some name => exact hole.reads.goesOn

theorem goesOn_wholeText (links : List KeyLink) : GoesOn (hole.wholeText links) := by
  induction links with
  | nil => exact .nil
  | cons link rest ih =>
      cases rest with
      | nil =>
          rw [wholeText_singleton]
          exact hole.goesOn_text link
      | cons next more =>
          have hslash : GoesOn ['/'] := PatternReader.goesOn_border (by decide) []
          rw [wholeText_cons_cons]
          exact (hole.goesOn_text link).append (hslash.append ih)

theorem fault_pieces (index : Nat) (links : List KeyLink) :
  ∀ p ∈ hole.pieces index links, p.fault = none
  := by
  have hlink : ∀ index (link : KeyLink), ∀ p ∈ hole.linkPieces index link, p.fault = none := by
    intro index link
    rw [linkPieces, List.forall_mem_append]
    refine ⟨fun p hp => (link.stands.harmless p hp).fault, ?_⟩
    cases link.name? with
    | none => simp
    | some name => simpa using hole.fault index
  induction links generalizing index with
  | nil => simp [pieces]
  | cons link rest ih =>
      cases rest with
      | nil => exact hlink index link
      | cons next more =>
          rw [pieces, List.forall_mem_append, List.forall_mem_cons]
          exact ⟨hlink index link, rfl, ih _⟩

/-- A link is read before a border. -/
theorem readsBefore_link (link : KeyLink) {border : Char} (hborder : border ∈ borders)
    (more : List Char) :
  ReadsBefore (border :: more) (hole.text link) (fun index => hole.linkPieces index link)
    (hole.groups link)
  := by
  obtain ⟨⟨head, name?⟩, lead, hstands⟩ := link
  cases name? with
  | none =>
      simp only [text, linkPieces, groups, Option.elim_none, List.append_nil]
      exact hstands.reads hborder more
  | some name =>
      obtain ⟨c, hc, rest, hsource⟩ := hole.border
      have hhead : ReadsBefore (hole.source.toList ++ border :: more) head (fun _ => lead) [] := by
        rw [hsource]
        exact hstands.reads hc _
      exact hhead.append (hole.reads.before (PatternReader.goesOn_border hborder more))

/-- **Links are read up to the end of a pattern.** -/
theorem readsBefore_wholeText (links : List KeyLink) :
  ReadsBefore ['$'] (hole.wholeText links) (fun index => hole.pieces index links)
    (links.flatMap hole.groups)
  := by
  have hend : GoesOn ['$'] := PatternReader.goesOn_border (by decide) []
  induction links with
  | nil => exact ReadsAs.nil.before hend
  | cons link rest ih =>
      cases rest with
      | nil =>
          rw [wholeText_singleton, List.flatMap_singleton]
          exact hole.readsBefore_link link (by decide) []
      | cons next more =>
          have hlink := hole.readsBefore_link link (show '/' ∈ borders by decide)
            (hole.wholeText (next :: more) ++ ['$'])
          have hslash : ReadsAs ['/'] (fun _ => [literalPiece {} '/'.toNat]) [] :=
            PatternReader.readsAs_char (by decide)
          have hbehind := (hole.goesOn_wholeText (next :: more)).append hend
          rw [wholeText_cons_cons, List.flatMap_cons]
          exact hlink.append ((hslash.before hbehind).append ih)

theorem flatMap_intercalate {α β : Type} (f : α → List β) (sep : List α) (xs : List (List α)) :
  (sep.intercalate xs).flatMap f = (sep.flatMap f).intercalate (xs.map fun x => x.flatMap f)
  := by
  induction xs with
  | nil => rfl
  | cons x rest ih =>
      cases rest with
      | nil => simp
      | cons y more =>
          have hne : (y :: more).map (fun x => x.flatMap f) ≠ [] := by simp
          rw [List.intercalate_cons_cons, List.flatMap_append, List.flatMap_append, ih,
            List.map_cons (l := y :: more), List.intercalate_cons_of_ne_nil hne]

/-- The regular expression of a pattern of links is made of their texts. -/
theorem regexText_eq (links : List KeyLink) :
  KeyPart.regexText hole.source ([.char '/'].intercalate (links.map fun link => link.parts))
    = String.ofList ('^' :: hole.wholeText links ++ ['$'])
  := by
  rw [KeyPart.regexText, flatMap_intercalate, List.map_map]
  refine congrArg (fun texts => String.ofList ('^' :: ['/'].intercalate texts ++ ['$'])) ?_
  apply List.map_congr_left
  intro link _
  rw [Function.comp_apply, ColonSegment.parts, List.flatMap_append, List.flatMap_map, text]
  dsimp only
  rw [List.flatMap_singleton']
  cases link.name? <;> simp

/-- The regular expression of some links: their pieces between the anchors of a whole text. -/
def regex (links : List KeyLink) : Regex :=
  .seq (.anchor .start)
    (Piece.sequence (hole.pieces 1 links ++ [.place (.anchor .finish) .anchor])).regex

/-- **A pattern is read as its links.** -/
theorem compilePattern_eq {pattern : String} {links : List KeyLink}
    (hlinks : links.map KeyLink.toColonSegment
      = (splitAt '/' pattern.toList).map ColonSegment.ofText)
    (hstar : '*' ∉ pattern.toList) :
  ∃ least, compilePattern (KeyPart.regexText hole.source (KeyPart.ofColons pattern))
    = .ok ⟨hole.regex links, (links.flatMap hole.groups).length, [], false, least⟩
  := by
  have hparts : KeyPart.ofColons pattern
      = [.char '/'].intercalate (links.map fun link => link.parts) := by
    have hmap := congrArg (List.map ColonSegment.parts) hlinks
    rw [List.map_map, List.map_map] at hmap
    rw [KeyPart.ofColons_eq hstar]
    exact congrArg _ hmap.symm
  rw [hparts, hole.regexText_eq]
  exact compilePattern_anchored (hole.readsBefore_wholeText links) (hole.goesOn_wholeText links)
    (hole.fault_pieces 1 links)

end Hole

end AccessControl
