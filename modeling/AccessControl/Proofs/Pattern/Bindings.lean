import AccessControl.Proofs.Pattern.Links

/-!
# What placeholders stand for

A path that matches a pattern without groups of its own matches it as well where the placeholders
are groups, `Hole.accord_regex`.  If the path has as many segments as the pattern, each segment of
the pattern takes one of the path, `KeyLink.Covers.fills`, and a placeholder that is a segment by
itself stands for the segment it takes, `PatternFunction.keyGet2On_segment`.
-/

namespace AccessControl

open MatchWays (Accord Keeps)
open PatternReader (Harmless literalPiece segment)

/-! ### Pieces one after the other -/

namespace Piece

/-- The ways of some pieces one after the other. -/
def walk : List Piece → MatchWays
  | [], s, k => k s
  | p :: rest, s, k => p.regex.ways .whole s fun m => walk rest m k

theorem walk_append (pieces pieces' : List Piece) :
  walk (pieces ++ pieces') = fun s k => walk pieces s fun m => walk pieces' m k
  := by
  induction pieces with
  | nil => rfl
  | cons p rest ih =>
      funext s k
      rw [List.cons_append, walk, ih, walk]

theorem ways_sequence (pieces : List Piece) :
  (sequence pieces).regex.ways .whole = walk pieces
  := by
  induction pieces with
  | nil => rfl
  | cons p rest ih =>
      cases rest with
      | nil => rfl
      | cons q more =>
          rw [PatternReader.regex_sequence_cons p (by simp)]
          funext s k
          rw [Regex.ways, ih, walk]

theorem keeps_walk {pieces : List Piece} (h : ∀ p ∈ pieces, Harmless p) :
  Keeps .whole (walk pieces)
  := by
  induction pieces with
  | nil => exact MatchWays.KeepsFrom.here .whole
  | cons p rest ih =>
      obtain ⟨hp, hrest⟩ := List.forall_mem_cons.mp h
      exact fun s => (hp.unmarked.keeps_ways .whole s).andThen (ih hrest)

theorem accord_walk {pieces : List Piece} (h : ∀ p ∈ pieces, Harmless p) :
  Accord (walk pieces) (walk pieces)
  := by
  induction pieces with
  | nil => exact ⟨fun hs hk => hk hs⟩
  | cons p rest ih =>
      obtain ⟨hp, hrest⟩ := List.forall_mem_cons.mp h
      exact (hp.unmarked.accord_ways .whole .whole).andThen (ih hrest)

end Piece

open Piece (walk)

namespace Hole

/-- The way behind the last link of a pattern. -/
abbrev finish : MatchWays := Regex.ways .whole (.anchor .finish)

theorem ways_regex (hole : Hole) (links : List KeyLink) :
  (hole.regex links).ways .whole = fun s k => Regex.ways .whole (.anchor .start) s fun m =>
    walk (hole.pieces 1 links) m fun u => finish u k
  := by
  funext s k
  change Regex.ways .whole (.anchor .start) s
    (fun m => (Piece.sequence _).regex.ways .whole m k) = _
  rw [Piece.ways_sequence, Piece.walk_append]
  rfl

/-! ### Agreement -/

/-- A placeholder matches the same whether it is a group or not. -/
theorem accord_link (index index' : Nat) (link : KeyLink) :
  Accord (walk (run.linkPieces index link)) (walk (group.linkPieces index' link))
  := by
  have hlead : Accord (walk link.lead) (walk link.lead) := Piece.accord_walk link.stands.harmless
  cases hname : link.name? with
  | none =>
      rw [linkPieces, linkPieces, hname, Option.elim_none, Option.elim_none, List.append_nil]
      exact hlead
  | some name =>
      have hrun : (PatternReader.repeated 1 PatternReader.notSlash).regex.Unmarked := trivial
      rw [linkPieces, linkPieces, hname, Piece.walk_append, Piece.walk_append]
      refine hlead.andThen ?_
      exact Regex.accord_group (hrun.accord_ways .whole .whole) index'

theorem accord_pieces (index index' : Nat) (links : List KeyLink) :
  Accord (walk (run.pieces index links)) (walk (group.pieces index' links))
  := by
  induction links generalizing index index' with
  | nil => exact ⟨fun hs hk => hk hs⟩
  | cons link rest ih =>
      cases rest with
      | nil => exact accord_link index index' link
      | cons next more =>
          have hslash : Regex.Unmarked (literalPiece {} '/'.toNat).regex := trivial
          rw [pieces, pieces, Piece.walk_append, Piece.walk_append]
          exact (accord_link index index' link).andThen
            ((hslash.accord_ways .whole .whole).andThen (ih _ _))

/-- **Groups do not decide.**  A path matches a pattern with groups for its placeholders if and only
if it does without them. -/
theorem accord_regex (links : List KeyLink) :
  Accord ((run.regex links).ways .whole) ((group.regex links).ways .whole)
  := by
  rw [ways_regex, ways_regex]
  exact (Regex.accord_anchor .start .whole .whole).andThen
    ((accord_pieces 1 1 links).andThen (Regex.accord_anchor .finish .whole .whole))

end Hole

/-! ### What links take -/

/-- A link takes some characters, and the placeholder takes a text of them; what follows such a text
is nothing or has a slash. -/
inductive KeyLink.Takes (link : KeyLink) : List Char → List (List Char) → List Char → Prop
  | plain {taken rest : List Char} (hname : link.name? = none) : Takes link taken [] rest
  | named {name before text rest : List Char} (hname : link.name? = some name)
      (hbefore : link.lead = [] → before = []) (hend : '/' ∉ rest → rest = []) :
      Takes link (before ++ text) [text] rest

/-- Some links take a path up to its end or to the end of a line, with slashes between them; the
texts are those of the placeholders. -/
inductive KeyLink.Covers : List KeyLink → List Char → List (List Char) → Prop
  | last {link : KeyLink} {taken rest : List Char} {texts : List (List Char)}
      (h : link.Takes taken texts rest) : Covers [link] (taken ++ rest) texts
  | cons {link : KeyLink} {links : List KeyLink} {taken rest : List Char}
      {texts texts' : List (List Char)} (h : link.Takes taken texts ('/' :: rest))
      (hlinks : Covers links rest texts') :
      Covers (link :: links) (taken ++ '/' :: rest) (texts ++ texts')

/-- Each of some links takes a segment of a path; the texts are those of the placeholders, and a
placeholder without anything before it takes the whole segment. -/
inductive KeyLink.Fills : List KeyLink → List (List Char) → List (List Char) → Prop
  | nil : Fills [] [] []
  | plain {link : KeyLink} {links : List KeyLink} {part : List Char}
      {parts texts : List (List Char)} (hname : link.name? = none) (h : Fills links parts texts) :
      Fills (link :: links) (part :: parts) texts
  | named {link : KeyLink} {links : List KeyLink} {name part text : List Char}
      {parts texts : List (List Char)} (hname : link.name? = some name)
      (hwhole : link.lead = [] → text = part) (h : Fills links parts texts) :
      Fills (link :: links) (part :: parts) (text :: texts)

namespace KeyLink

theorem Takes.length_eq {link : KeyLink} {taken rest : List Char} {texts : List (List Char)}
    (h : link.Takes taken texts rest) :
  (Hole.group.groups link).length = texts.length
  := by
  cases h with
  | plain hname => rw [Hole.groups, hname]; rfl
  | named hname => rw [Hole.groups, hname]; rfl

/-- Links take a slash between any two of them. -/
theorem Covers.length_le {links : List KeyLink} {key : List Char} {texts : List (List Char)}
    (h : Covers links key texts) :
  links.length ≤ key.count '/' + 1
  := by
  induction h with
  | last => simp
  | cons _ _ ih =>
      rw [List.length_cons, List.count_append, List.count_cons_self]
      omega

/-- A link that takes a segment. -/
theorem Takes.fills {link : KeyLink} {links : List KeyLink} {part rest : List Char}
    {texts texts' parts : List (List Char)} (h : link.Takes part texts rest)
    (hlinks : Fills links parts texts') :
  Fills (link :: links) (part :: parts) (texts ++ texts')
  := by
  cases h with
  | plain hname => exact .plain hname hlinks
  | named hname hbefore _ =>
      refine .named hname ?_ hlinks
      intro hlead
      rw [hbefore hlead, List.nil_append]

/-- If a path has as many segments as there are links, each link takes a segment. -/
theorem Covers.fills {links : List KeyLink} {key : List Char} {texts : List (List Char)}
    (h : Covers links key texts) (hlength : (splitAt '/' key).length = links.length) :
  Fills links (splitAt '/' key) texts
  := by
  induction h with
  | @last link taken rest texts h =>
      rw [length_splitAt, List.length_singleton, Nat.add_eq_right, List.count_eq_zero] at hlength
      rw [splitAt_eq_self hlength]
      cases h with
      | plain hname => exact .plain hname .nil
      | named hname hbefore hend =>
          rw [List.mem_append, not_or] at hlength
          refine .named hname ?_ .nil
          intro hlead
          rw [hbefore hlead, hend hlength.2, List.nil_append, List.append_nil]
  | @cons link links taken rest texts texts' h hlinks ih =>
      -- the links behind take the other slashes of the path, so this one has taken none
      have hrest := hlinks.length_le
      rw [length_splitAt, List.count_append, List.count_cons_self, List.length_cons] at hlength
      have htaken : '/' ∉ taken := List.count_eq_zero.mp (by omega)
      rw [splitAt_append htaken]
      exact h.fills (ih (by rw [length_splitAt]; omega))

theorem Fills.length_eq {links : List KeyLink} {parts texts : List (List Char)}
    (h : Fills links parts texts) :
  (links.flatMap Hole.group.groups).length = texts.length
  := by
  induction h with
  | nil => rfl
  | plain hname _ ih =>
      rw [List.flatMap_cons, List.length_append, ih, Hole.groups, hname]
      simp
  | named hname _ _ ih =>
      rw [List.flatMap_cons, List.length_append, ih, Hole.groups, hname, List.length_cons]
      exact Nat.add_comm _ _

/-- The first placeholder of a name stands for its segment if it has nothing before it. -/
theorem Fills.lookup {links : List KeyLink} {parts texts : List (List Char)}
    (h : Fills links parts texts) {i : Nat} {link : KeyLink} {name : List Char}
    (hi : links[i]? = some link) (hname : link.name? = some name) (hlead : link.lead = [])
    (hfirst : ∀ j < i, ∀ other ∈ links[j]?, other.name? ≠ some name) :
  ∃ part, parts[i]? = some part
    ∧ ((links.filterMap fun link => link.name?).zip (texts.map some)).lookup name
      = some (some part)
  := by
  induction h generalizing i with
  | nil => cases hi
  | @plain other links part parts texts hother _ ih =>
      rw [List.filterMap_cons_none (f := fun link : KeyLink => link.name?) hother]
      cases i with
      | zero =>
          cases hi
          rw [hother] at hname
          cases hname
      | succ i =>
          exact ih hi fun j hj => hfirst (j + 1) (Nat.succ_lt_succ hj)
  | @named other links name' part text parts texts hother hwhole _ ih =>
      rw [List.filterMap_cons_some (f := fun link : KeyLink => link.name?) hother, List.map_cons,
        List.zip_cons_cons]
      cases i with
      | zero =>
          cases hi
          rw [hother] at hname
          cases hname
          refine ⟨part, rfl, ?_⟩
          rw [List.lookup_cons_self, hwhole hlead]
      | succ i =>
          have hne : (name == name') = false := by
            rw [beq_eq_false_iff_ne]
            rintro rfl
            exact hfirst 0 (Nat.succ_pos i) other rfl hother
          rw [List.lookup_cons, hne]
          exact ih hi fun j hj => hfirst (j + 1) (Nat.succ_lt_succ hj)

end KeyLink

/-! ### Matches -/

/-- The rest of a match goes on with a slash, or accepts the end of a text. -/
def Continuation.Ends (k : Continuation) : Prop :=
  ∀ u v, k u = .reached v → '/' ∈ u.rest ∨ ∀ e, e.rest = [] → ∃ w, k e = .reached w

theorem Continuation.ends_finish : Ends (Hole.finish · .reached) := by
  rintro - - -
  exact .inr fun e he => ⟨e, if_pos (Cursor.isAt_finish_iff.mpr (.inl he))⟩

namespace KeyLink

variable {link : KeyLink} {links : List KeyLink} {found : List (List Char)} {s t : Cursor}
  {k : Continuation}

theorem exists_slash_taken {pieces : List Piece}
    (h : walk (literalPiece {} '/'.toNat :: pieces) s k = .reached t) :
  ∃ m, s.Moves ['/'] m ∧ walk pieces m k = .reached t
  := by
  obtain ⟨c, m, hc, hmoves, hm⟩ := MatchWays.single_sound h
  obtain rfl := (CharClass.contains_code '/' c).mp hc
  exact ⟨m, hmoves, hm⟩

theorem ends_slash (pieces : List Piece) (k : Continuation) :
  Continuation.Ends fun m => walk (literalPiece {} '/'.toNat :: pieces) m k
  := by
  intro u v hu
  obtain ⟨m, hmoves, -⟩ := exists_slash_taken hu
  rw [hmoves.rest]
  exact .inl List.mem_cons_self

/-- A group for a placeholder takes the longest text that is accepted. -/
theorem exists_group_taken (h : walk [Hole.group.piece (found.length + 1)] s k = .reached t)
    (hs : s.Keeps found) (hk : k.Ends) :
  ∃ text m, s.rest = text ++ m.rest ∧ m.Keeps (found ++ [text]) ∧ k m = .reached t
    ∧ ('/' ∉ m.rest → m.rest = [])
  := by
  change Regex.ways .whole (.group (found.length + 1)
    (.repeated .greedy 1 none PatternReader.notSlash.regex)) s k = _ at h
  rw [Regex.ways] at h
  obtain ⟨text, m, -, hmoves, hm, hlongest⟩ := (Regex.takesOne_one _).longest_repeated h
  refine ⟨text, m.mark _, hmoves.rest, hs.group hmoves, hm, ?_⟩
  intro hslash
  by_contra hne
  obtain hmem | hend := hk _ _ hm
  · exact hslash hmem
  · -- what is left would have been taken as well
    obtain ⟨e, he, hrest⟩ := Cursor.Moves.exists_of_rest (List.append_nil m.rest).symm
    obtain ⟨w, hw⟩ := hend (e.mark _) hrest
    refine hlongest m.rest e w hne ?_ he hw
    intro c hc
    rw [CharClass.contains_not_code]
    rintro rfl
    exact hslash hc

/-- What stands before a placeholder takes nothing if it is nothing. -/
theorem exists_lead_taken (h : walk link.lead s k = .reached t) :
  ∃ before m, s.Moves before m ∧ k m = .reached t ∧ (link.lead = [] → before = [])
  := by
  by_cases hlead : link.lead = []
  · rw [hlead] at h
    exact ⟨[], s, .nil s, h, fun _ => rfl⟩
  · have hkeeps : Keeps .whole (walk link.lead) := Piece.keeps_walk link.stands.harmless
    obtain ⟨before, m, hbefore, hm⟩ := (hkeeps s).reached (by rintro ⟨⟩) h
    exact ⟨before, m, hbefore, hm, fun hnil => absurd hnil hlead⟩

/-- A link takes some characters, and its placeholder is kept as the next group. -/
theorem exists_takes (h : walk (Hole.group.linkPieces (found.length + 1) link) s k = .reached t)
    (hs : s.Keeps found) (hk : k.Ends) :
  ∃ taken texts m, link.Takes taken texts m.rest ∧ s.rest = taken ++ m.rest
    ∧ m.Keeps (found ++ texts) ∧ k m = .reached t
  := by
  rw [Hole.linkPieces, Piece.walk_append] at h
  obtain ⟨before, m, hbefore, hm, hnothing⟩ := exists_lead_taken h
  have hkeeps := hs.move hbefore
  cases hname : link.name? with
  | none =>
      rw [hname] at hm
      refine ⟨before, [], m, .plain hname, hbefore.rest, ?_, hm⟩
      rwa [List.append_nil]
  | some name =>
      rw [hname] at hm
      obtain ⟨text, u, hrest, hu, hreached, hend⟩ := exists_group_taken hm hkeeps hk
      refine ⟨before ++ text, [text], u, .named hname hnothing hend, ?_, hu, hreached⟩
      rw [hbefore.rest, hrest, List.append_assoc]

/-- A match of links takes a path up to its end or to the end of a line.  The texts that are kept
already number the groups of the links. -/
theorem exists_covers (hne : links ≠ [])
    (h : walk (Hole.group.pieces (found.length + 1) links) s (Hole.finish · .reached) = .reached t)
    (hs : s.Keeps found) :
  ∃ texts, Covers links s.rest texts ∧ t.Keeps (found ++ texts)
  := by
  induction links generalizing found s with
  | nil => exact absurd rfl hne
  | cons link rest ih =>
      cases rest with
      | nil =>
          obtain ⟨taken, texts, m, htakes, hrest, hm, hfinish⟩ :=
            exists_takes h hs Continuation.ends_finish
          obtain ⟨_, ⟨-, rfl⟩, hlast⟩ := (Regex.explores_anchor .finish).sound hfinish
          cases hlast
          rw [hrest]
          exact ⟨texts, .last htakes, hm⟩
      | cons next more =>
          rw [Hole.pieces, Piece.walk_append] at h
          obtain ⟨taken, texts, m, htakes, hrest, hm, hmore⟩ :=
            exists_takes h hs (ends_slash _ _)
          obtain ⟨u, hmoves, hu⟩ := exists_slash_taken hmore
          have hindex : found.length + 1 + texts.length = (found ++ texts).length + 1 := by
            rw [List.length_append]
            omega
          rw [htakes.length_eq, hindex] at hu
          obtain ⟨texts', hcovers, hkeeps⟩ := ih (by simp) hu (hm.move hmoves)
          rw [hmoves.rest] at htakes hrest
          rw [hrest]
          refine ⟨texts ++ texts', .cons htakes hcovers, ?_⟩
          rwa [← List.append_assoc]

end KeyLink

namespace PatternFunction

/-! ### Calls -/

theorem keyGet2On_text {key pattern name part : String}
    (h : keyGet2 key pattern name = .ok (some part)) :
  keyGet2On (.text key) (.text pattern) (.text name) = .ok (.text part)
  := by
  obtain ⟨p, hcompile⟩ := exists_compilePattern h
  unfold keyGet2On
  rw [receiver_bind]
  refine (matchOn_text hcompile _ key).trans ?_
  rw [h]
  rfl

section Links

variable {key pattern : String} {links : List KeyLink}
  (hlinks : links.map KeyLink.toColonSegment = (splitAt '/' pattern.toList).map ColonSegment.ofText)
  (hstar : '*' ∉ pattern.toList)

include hlinks hstar

/-- A path that matches a pattern leads through its links. -/
theorem exists_place (h : keyMatch2On (.text key) (.text pattern) = .ok (.bool true)) :
  ∃ t, ((Hole.run.regex links).ways .whole).first (.start key.toList) = .reached t
  := by
  obtain ⟨least, hcompile⟩ := Hole.run.compilePattern_eq hlinks hstar
  cases hfirst : ((Hole.run.regex links).ways .whole).first (.start key.toList) with
  | reached t => exact ⟨t, rfl⟩
  | refused lost =>
      have hmatch : (Hole.run.regex links).matchStart key.toList = none := by
        rw [Regex.matchStart, Regex.matchAt, hfirst]
        rfl
      have hrefused : keyMatch2 key pattern = .ok false :=
        congrArg (· >>= _) (matchGroups_of_refused hcompile hmatch)
      rw [keyMatch2On_text hrefused] at h
      cases h

/-- The groups of a match are what the placeholders take of the segments of the path. -/
theorem matchGroups_fills
    (hlength : (splitAt '/' key.toList).length = (splitAt '/' pattern.toList).length) {t : Cursor}
    (h : ((Hole.run.regex links).ways .whole).first (.start key.toList) = .reached t) :
  ∃ texts, KeyLink.Fills links (splitAt '/' key.toList) texts
    ∧ matchGroups (KeyPart.regexText "([^/]+)" (KeyPart.ofColons pattern)) key
      = .ok (some (texts.map some))
  := by
  have hcount : (splitAt '/' key.toList).length = links.length := by
    rw [hlength, ← List.length_map ColonSegment.ofText, ← hlinks, List.length_map]
  have hne : links ≠ [] := by
    rintro rfl
    exact splitAt_ne_nil '/' key.toList (List.length_eq_zero_iff.mp hcount)
  obtain ⟨t', hfirst⟩ := (Hole.accord_regex links).exists_reached h
  obtain ⟨texts, hcovers, hkeeps⟩ : ∃ texts, KeyLink.Covers links key.toList texts
      ∧ t'.Keeps ([] ++ texts) := by
    rw [MatchWays.first, Hole.ways_regex] at hfirst
    refine KeyLink.exists_covers hne ?_ (.start key.toList)
    exact hfirst
  have hfills := hcovers.fills hcount
  have hmatch : (Hole.group.regex links).matchStart key.toList = some t' := by
    rw [Regex.matchStart, Regex.matchAt, hfirst]
    rfl
  obtain ⟨least, hcompile⟩ := Hole.group.compilePattern_eq hlinks hstar
  rw [hfills.length_eq] at hcompile
  exact ⟨texts, hfills, matchGroups_of_keeps hcompile hmatch hkeeps⟩

theorem names_links :
  KeyPart.names (KeyPart.ofColons pattern) = links.filterMap fun link => link.name?
  := by
  have hnames := KeyPart.names_segments (links.map KeyLink.toColonSegment)
  rw [hlinks, List.map_map, ← hlinks, List.filterMap_map] at hnames
  rw [KeyPart.ofColons_eq hstar]
  exact hnames

end Links

/-- **A placeholder stands for its segment.**  A path matches a pattern without stars and has as
many segments as it; the text before each placeholder of the pattern stands alone.  Then the text
that a name stands for is the segment of the path at the first placeholder of this name, if this
placeholder is a segment by itself. -/
theorem keyGet2On_segment {key pattern name : String} {i : Nat}
    (halone : ∀ text ∈ splitAt '/' pattern.toList,
      PatternReader.standsAlone (ColonSegment.ofText text).head = true)
    (hstar : '*' ∉ pattern.toList)
    (hmatch : keyMatch2On (.text key) (.text pattern) = .ok (.bool true))
    (hlength : (splitAt '/' key.toList).length = (splitAt '/' pattern.toList).length)
    (hname : name ≠ "") (hi : (splitAt '/' pattern.toList)[i]? = some (':' :: name.toList))
    (hfirst : ∀ j < i, ∀ text ∈ (splitAt '/' pattern.toList)[j]?,
      (ColonSegment.ofText text).name? ≠ some name.toList) :
  ∃ part, (splitAt '/' key.toList)[i]? = some part
    ∧ keyGet2On (.text key) (.text pattern) (.text name) = .ok (.text (String.ofList part))
  := by
  obtain ⟨links, hlinks⟩ := KeyLink.exists_ofText halone
  obtain ⟨t, ht⟩ := exists_place hlinks hstar hmatch
  obtain ⟨texts, hfills, hgroups⟩ := matchGroups_fills hlinks hstar hlength ht
  have hlink : ∀ j : Nat, (links[j]?).map KeyLink.toColonSegment
      = ((splitAt '/' pattern.toList)[j]?).map ColonSegment.ofText := by
    intro j
    rw [← List.getElem?_map, hlinks, List.getElem?_map]
  obtain ⟨link, hlinkAt, hsegment⟩ : ∃ link, links[i]? = some link
      ∧ link.toColonSegment = ⟨[], some name.toList⟩ := by
    have hne : name.toList ≠ [] := by simpa using hname
    have hat := hlink i
    rw [hi, Option.map_some, ColonSegment.ofText_colon hne, Option.map_eq_some_iff] at hat
    exact hat
  have hnone : ∀ j < i, ∀ other ∈ links[j]?, other.name? ≠ some name.toList := by
    intro j hj other hother
    have hat := hlink j
    rw [Option.mem_def.mp hother, Option.map_some, eq_comm, Option.map_eq_some_iff] at hat
    obtain ⟨text, htext, heq⟩ := hat
    rw [← heq]
    exact hfirst j hj text htext
  have hlead : link.lead = [] := link.stands.nothing (by rw [hsegment])
  obtain ⟨part, hpart, hlookup⟩ :=
    hfills.lookup hlinkAt (show link.name? = some name.toList by rw [hsegment]) hlead hnone
  have hget : keyGet2 key pattern name = .ok (some (String.ofList part)) := by
    rw [keyGet2, hgroups, names_links hlinks hstar]
    simp only [bind, Except.bind, hlookup]
    rfl
  exact ⟨part, hpart, keyGet2On_text hget⟩

/-- A placeholder behind a class of characters. -/
theorem keyGet2On_segment_behind :
  keyGet2On (.text "/ab/7") (.text "/[a-c]+/:id") (.text "id") = .ok (.text "7")
  := by
  have halone : ((splitAt '/' "/[a-c]+/:id".toList).all fun text =>
      PatternReader.standsAlone (ColonSegment.ofText text).head) = true := by decide +kernel
  have hmatch : keyMatch2On (.text "/ab/7") (.text "/[a-c]+/:id") = .ok (.bool true) :=
    keyMatch2On_text (by decide +kernel)
  have hi : (splitAt '/' "/[a-c]+/:id".toList)[2]? = some (':' :: "id".toList) := by decide
  have hfirst : ∀ j < 2, ∀ text ∈ (splitAt '/' "/[a-c]+/:id".toList)[j]?,
      (ColonSegment.ofText text).name? ≠ some "id".toList := by decide
  obtain ⟨part, hpart, hget⟩ := keyGet2On_segment (List.all_eq_true.mp halone) (by decide) hmatch
    (by decide) (by decide) hi hfirst
  have hkey : (splitAt '/' "/ab/7".toList)[2]? = some "7".toList := by decide
  obtain rfl := Option.some_inj.mp (hpart.symm.trans hkey)
  exact hget

/-- Where a segment has groups of its own, these are paired with the names instead. -/
theorem keyGet2On_grouped :
  keyMatch2On (.text "/a/5") (.text "/(a)/:id") = .ok (.bool true)
    ∧ splitAt '/' "/(a)/:id".toList = [[], "(a)".toList, ':' :: "id".toList]
    ∧ splitAt '/' "/a/5".toList = [[], "a".toList, "5".toList]
    ∧ keyGet2On (.text "/a/5") (.text "/(a)/:id") (.text "id") = .ok (.text "a")
  := by
  refine ⟨keyMatch2On_text ?_, ?_, ?_, keyGet2On_text ?_⟩
  · decide +kernel
  · decide
  · decide
  · decide +kernel

end PatternFunction

end AccessControl
