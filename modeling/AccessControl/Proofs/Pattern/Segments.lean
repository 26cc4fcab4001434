import AccessControl.Pattern.Function
import AccessControl.Proofs.Pattern.Placeholders
import AccessControl.Proofs.Text.Blank

/-!
# Patterns of segments

Paths and the patterns for them as lists of segments.  A pattern whose segments are literals and
placeholders with names matches the paths that agree with it segment by segment,
`PatternFunction.keyMatch4On_fits`.
-/

namespace AccessControl

/-- A letter, a digit, an underscore or a hyphen. -/
def isLiteralChar (c : Char) : Bool := c.isAlphanum || c == '_' || c == '-'

/-- A segment of a pattern: a literal of letters, digits, underscores and hyphens, or a placeholder
with a name that has no slash and no brace. -/
inductive Segment where
  | literal (cs : List Char) (h : ∀ c ∈ cs, isLiteralChar c = true)
  | name (n : List Char) (hne : n ≠ []) (h : ∀ c ∈ n, c ≠ '/' ∧ c ≠ '\x7b' ∧ c ≠ '\x7d')

namespace Segment

/-- The text of a segment; the name of a placeholder stands in braces. -/
def text : Segment → List Char
  | .literal cs _ => cs
  | .name n _ _ => '\x7b' :: n ++ ['\x7d']

/-- The pattern of some segments, with slashes between them. -/
def pattern (segments : List Segment) : String :=
  String.ofList (['/'].intercalate (segments.map text))

/-- A segment of a pattern agrees with a segment of a path: a literal is equal to it, and a
placeholder stands for one that is not empty. -/
def Faces : Segment → List Char → Prop
  | .literal cs _, part => part = cs
  | .name _ _ _, part => part ≠ []

/-- The name of a placeholder with the segment of a path that it stands for. -/
def binding : Segment → List Char → List (List Char × List Char)
  | .literal _ _, _ => []
  | .name n _ _, part => [(n, part)]

/-- The names in a pattern with the segments of a path that they stand for. -/
def bindings (segments : List Segment) (parts : List (List Char)) :
    List (List Char × List Char) :=
  (List.zipWith binding segments parts).flatten

/-- A pattern agrees with a path segment by segment, and each of its names stands for the same text
everywhere. -/
structure Fits (segments : List Segment) (parts : List (List Char)) : Prop where
  faces : List.Forall₂ Faces segments parts
  agree : ∀ n part part', (n, part) ∈ bindings segments parts →
    (n, part') ∈ bindings segments parts → part = part'

/-! ### Parts -/

/-- The parts of a segment. -/
def parts : Segment → List KeyPart
  | .literal cs _ => cs.map .char
  | .name n _ _ => [.name n]

/-- The parts of a pattern. -/
def wholeParts (segments : List Segment) : List KeyPart :=
  [.char '/'].intercalate (segments.map parts)

theorem wholeParts_cons_cons (segment next : Segment) (rest : List Segment) :
  wholeParts (segment :: next :: rest) = segment.parts ++ .char '/' :: wholeParts (next :: rest)
  := by
  rw [wholeParts, List.map_cons, List.map_cons, List.intercalate_cons_cons, List.append_assoc,
    List.singleton_append, wholeParts, List.map_cons]

theorem wholeParts_singleton (segment : Segment) :
  wholeParts [segment] = segment.parts
  := by
  rw [wholeParts, List.map_singleton, List.intercalate_singleton]

end Segment

/-! ### Reading -/

namespace KeyPart

theorem widenStars_append {cs : List Char} (h : '/' ∉ cs) (rest : List Char) :
  widenStars (cs ++ rest) = cs ++ widenStars rest
  := by
  induction cs with
  | nil => rfl
  | cons c more ih =>
      rw [List.mem_cons, not_or] at h
      rw [List.cons_append, widenStars, ih h.2, List.cons_append]
      rintro _ rfl
      exact absurd rfl h.1

theorem widenStars_slash {rest : List Char} (h : rest.head? ≠ some '*') :
  widenStars ('/' :: rest) = '/' :: widenStars rest
  := by
  rw [widenStars]
  rintro _ _ rfl
  exact h rfl

theorem braceName?_append {n : List Char} (h : ∀ c ∈ n, c ≠ '/' ∧ c ≠ '\x7d') (rest : List Char) :
  braceName? (n ++ '\x7d' :: rest) = some (n, rest)
  := by
  induction n with
  | nil => rfl
  | cons c more ih =>
      obtain ⟨⟨hslash, hclose⟩, hmore⟩ := List.forall_mem_cons.mp h
      rw [List.cons_append, braceName?, if_neg hslash, ih hmore]
      · rfl
      · exact hclose

theorem scan_char {c : Char} (h : c ≠ '\x7b') (fuel : Nat) (rest : List Char) :
  scan '\x7b' bracePlaceholder? (fuel + 1) (c :: rest)
    = .char c :: scan '\x7b' bracePlaceholder? fuel rest
  := by
  rw [scan, if_neg h]

end KeyPart

namespace Segment

theorem not_mem_text (segment : Segment) :
  '/' ∉ segment.text
  := by
  cases segment with
  | literal cs h =>
      intro hmem
      exact absurd (h '/' hmem) (by decide)
  | name n hne h =>
      intro hmem
      rw [text, List.cons_append, List.mem_cons, List.mem_append, List.mem_singleton] at hmem
      obtain hopen | hn | hclose := hmem
      · cases hopen
      · exact (h '/' hn).1 rfl
      · cases hclose

theorem head?_text (segment : Segment) :
  segment.text.head? ≠ some '*'
  := by
  cases segment with
  | literal cs h =>
      intro hhead
      exact absurd (h '*' (List.mem_of_head? hhead)) (by decide)
  | name n hne h => rintro ⟨⟩

/-- A segment is read as its parts, whatever follows. -/
theorem scan_text (segment : Segment) {fuel : Nat} (rest : List Char)
    (hfuel : segment.text.length ≤ fuel) :
  ∃ fuel', fuel ≤ fuel' + segment.text.length ∧
    KeyPart.scan '\x7b' KeyPart.bracePlaceholder? fuel (segment.text ++ rest)
      = segment.parts ++ KeyPart.scan '\x7b' KeyPart.bracePlaceholder? fuel' rest
  := by
  cases segment with
  | literal cs h =>
      induction cs generalizing fuel with
      | nil => exact ⟨fuel, Nat.le_refl _, rfl⟩
      | cons c more ih =>
          obtain ⟨fuel, rfl⟩ := Nat.exists_eq_add_one_of_ne_zero (Nat.ne_zero_of_lt hfuel)
          obtain ⟨hc, hmore⟩ := List.forall_mem_cons.mp h
          have hopen : c ≠ '\x7b' := by
            rintro rfl
            exact absurd hc (by decide)
          obtain ⟨fuel', hfuel', hrest⟩ := ih hmore (Nat.le_of_succ_le_succ hfuel)
          refine ⟨fuel', Nat.succ_le_succ hfuel', ?_⟩
          change KeyPart.scan _ _ (fuel + 1) (c :: (more ++ rest)) = _
          rw [KeyPart.scan_char hopen]
          exact congrArg (KeyPart.char c :: ·) hrest
  | name n hne h =>
      obtain ⟨fuel, rfl⟩ := Nat.exists_eq_add_one_of_ne_zero (Nat.ne_zero_of_lt hfuel)
      have hname : KeyPart.bracePlaceholder? (n ++ '\x7d' :: rest) = some (n, rest) := by
        obtain ⟨c, more, rfl⟩ := List.exists_cons_of_ne_nil hne
        obtain ⟨⟨hslash, -⟩, hmore⟩ := List.forall_mem_cons.mp h
        rw [List.cons_append, KeyPart.bracePlaceholder?, if_neg hslash, KeyPart.braceName?_append]
        · rfl
        · exact fun d hd => ⟨(hmore d hd).1, (hmore d hd).2.2⟩
      refine ⟨fuel, by simp [text], ?_⟩
      rw [text, List.append_assoc, List.singleton_append, List.cons_append, KeyPart.scan,
        if_pos rfl, hname]
      rfl

theorem head?_texts (segments : List Segment) :
  (['/'].intercalate (segments.map text)).head? ≠ some '*'
  := by
  cases segments with
  | nil => simp
  | cons segment rest =>
      cases rest with
      | nil => simpa using segment.head?_text
      | cons next more =>
          rw [List.map_cons, List.map_cons, List.intercalate_cons_cons, List.append_assoc,
            List.head?_append]
          cases hhead : segment.text.head? with
          | none => simp
          | some c =>
              rw [Option.some_or, ← hhead]
              exact segment.head?_text

/-- No star follows a slash in a pattern of segments. -/
theorem widenStars_texts (segments : List Segment) :
  KeyPart.widenStars (['/'].intercalate (segments.map text)) = ['/'].intercalate (segments.map text)
  := by
  have hself : ∀ segment : Segment, KeyPart.widenStars segment.text = segment.text := by
    intro segment
    have happend := KeyPart.widenStars_append segment.not_mem_text []
    rwa [List.append_nil, KeyPart.widenStars, List.append_nil] at happend
  induction segments with
  | nil => rfl
  | cons segment rest ih =>
      cases rest with
      | nil =>
          rw [List.map_singleton, List.intercalate_singleton, hself]
      | cons next more =>
          rw [List.map_cons, List.map_cons, List.intercalate_cons_cons, List.append_assoc,
            KeyPart.widenStars_append segment.not_mem_text, List.singleton_append, ← List.map_cons,
            KeyPart.widenStars_slash (head?_texts _), ih]

theorem scan_texts (segments : List Segment) {fuel : Nat}
    (hfuel : (['/'].intercalate (segments.map text)).length ≤ fuel) :
  KeyPart.scan '\x7b' KeyPart.bracePlaceholder? fuel (['/'].intercalate (segments.map text))
    = wholeParts segments
  := by
  have hnil : ∀ fuel, KeyPart.scan '\x7b' KeyPart.bracePlaceholder? fuel [] = [] := by
    rintro (_ | _) <;> rfl
  induction segments generalizing fuel with
  | nil => exact hnil fuel
  | cons segment rest ih =>
      cases rest with
      | nil =>
          rw [List.map_singleton, List.intercalate_singleton] at hfuel ⊢
          obtain ⟨fuel', -, hscan⟩ := segment.scan_text [] hfuel
          rw [List.append_nil, hnil, List.append_nil] at hscan
          rw [hscan, wholeParts_singleton]
      | cons next more =>
          rw [List.map_cons, List.map_cons, List.intercalate_cons_cons, ← List.map_cons] at hfuel ⊢
          rw [List.length_append, List.length_append, List.length_singleton] at hfuel
          obtain ⟨fuel', hfuel', hscan⟩ := segment.scan_text
            ('/' :: ['/'].intercalate ((next :: more).map text))
            (show segment.text.length ≤ fuel by omega)
          have hpos : fuel' ≠ 0 := by omega
          obtain ⟨fuel', rfl⟩ := Nat.exists_eq_add_one_of_ne_zero hpos
          rw [List.append_assoc, List.singleton_append, hscan, KeyPart.scan_char (by decide),
            ih (by omega), wholeParts_cons_cons]

theorem ofBraces_pattern (segments : List Segment) :
  KeyPart.ofBraces (pattern segments) = wholeParts segments
  := by
  rw [KeyPart.ofBraces, pattern, String.toList_ofList, widenStars_texts]
  exact scan_texts segments (Nat.le_refl _)

/-! ### Agreement -/

/-- Putting a path together from a segment and what follows it. -/
theorem splits_parts_append (segment : Segment) {tail : List KeyPart} {key : List Char}
    {texts : List (List Char)} :
  KeyPart.Splits (segment.parts ++ tail) key texts ↔ ∃ part rest others,
    key = part ++ rest ∧ '/' ∉ part ∧ segment.Faces part
      ∧ texts = (segment.binding part).map Prod.snd ++ others ∧ KeyPart.Splits tail rest others
  := by
  cases segment with
  | literal cs h =>
      constructor
      · intro hsplits
        obtain ⟨rest, rfl, hrest⟩ := KeyPart.Splits.of_chars_append hsplits
        exact ⟨cs, rest, texts, rfl, (literal cs h).not_mem_text, rfl, rfl, hrest⟩
      · rintro ⟨part, rest, others, rfl, -, hface, rfl, hrest⟩
        have hpart : part = cs := hface
        rw [hpart]
        exact hrest.chars_append cs
  | name n hne h =>
      constructor
      · intro hsplits
        cases hsplits with
        | name htaken hslash hrest => exact ⟨_, _, _, rfl, hslash, htaken, rfl, hrest⟩
      · rintro ⟨part, rest, others, rfl, hslash, hfaces, rfl, hrest⟩
        exact .name hfaces hslash hrest

/-- A path is put together from a pattern if it agrees with it segment by segment; then the texts of
the placeholders are the segments they stand for. -/
theorem splits_wholeParts {segments : List Segment} (hne : segments ≠ []) {key : List Char}
    {texts : List (List Char)} :
  KeyPart.Splits (wholeParts segments) key texts
    ↔ List.Forall₂ Faces segments (splitAt '/' key)
      ∧ texts = (bindings segments (splitAt '/' key)).map Prod.snd
  := by
  induction segments generalizing key texts with
  | nil => exact absurd rfl hne
  | cons segment rest ih =>
      cases rest with
      | nil =>
          rw [wholeParts_singleton, ← List.append_nil segment.parts, splits_parts_append]
          constructor
          · rintro ⟨part, _, _, rfl, hslash, hfaces, rfl, ⟨⟩⟩
            rw [List.append_nil, List.append_nil, splitAt_eq_self hslash]
            exact ⟨.cons hfaces .nil, by simp [bindings]⟩
          · rintro ⟨hfaces, rfl⟩
            obtain ⟨part, hslash, rfl | ⟨rest, rfl⟩⟩ := splitAt_cases '/' key
            · rw [splitAt_eq_self hslash] at hfaces ⊢
              obtain _ | ⟨hface, -⟩ := hfaces
              exact ⟨key, [], [], (List.append_nil key).symm, hslash, hface, by simp [bindings],
                .nil⟩
            · rw [splitAt_append hslash] at hfaces
              obtain _ | ⟨-, hnone⟩ := hfaces
              exact absurd (List.forall₂_nil_left_iff.mp hnone) (splitAt_ne_nil '/' rest)
      | cons next more =>
          rw [wholeParts_cons_cons, splits_parts_append]
          constructor
          · rintro ⟨part, _, others, rfl, hslash, hface, rfl, hsplits⟩
            cases hsplits with
            | char hrest =>
                obtain ⟨hfaces, rfl⟩ := (ih (List.cons_ne_nil _ _)).mp hrest
                rw [splitAt_append hslash]
                exact ⟨.cons hface hfaces, by simp [bindings]⟩
          · rintro ⟨hfaces, rfl⟩
            obtain ⟨part, hslash, rfl | ⟨rest, rfl⟩⟩ := splitAt_cases '/' key
            · rw [splitAt_eq_self hslash] at hfaces
              obtain _ | ⟨-, ⟨⟩⟩ := hfaces
            · rw [splitAt_append hslash] at hfaces ⊢
              obtain _ | ⟨hface, hrest⟩ := hfaces
              exact ⟨part, _, _, rfl, hslash, hface, by simp [bindings],
                .char ((ih (List.cons_ne_nil _ _)).mpr ⟨hrest, rfl⟩)⟩

theorem names_parts_append (segment : Segment) (part : List Char) (tail : List KeyPart) :
  KeyPart.names (segment.parts ++ tail)
    = (segment.binding part).map Prod.fst ++ KeyPart.names tail
  := by
  cases segment with
  | literal cs h => simp [KeyPart.names, parts, binding, List.filterMap_map]
  | name n hne h => rfl

theorem names_wholeParts {segments : List Segment} {key : List (List Char)}
    (h : List.Forall₂ Faces segments key) :
  KeyPart.names (wholeParts segments) = (bindings segments key).map Prod.fst
  := by
  induction h with
  | nil => rfl
  | @cons segment part segments key _ hrest ih =>
      cases hrest with
      | nil =>
          have happend := names_parts_append segment part []
          rw [List.append_nil] at happend
          rw [wholeParts_singleton, happend]
          simp [bindings, KeyPart.names]
      | cons =>
          rw [wholeParts_cons_cons, names_parts_append segment part]
          change _ ++ KeyPart.names (wholeParts _) = _
          rw [ih]
          simp [bindings]

/-- No character of a pattern of segments has a meaning of its own in a regular expression. -/
theorem not_isSpecial_of_mem {segments : List Segment} {c : Char}
    (h : .char c ∈ wholeParts segments) :
  PatternReader.isSpecial c = false
  := by
  have hall : ".\\[\x7b()*+?^$|".toList.all (fun d => !isLiteralChar d) = true := rfl
  have hliteral : ∀ d, PatternReader.isSpecial d = true → isLiteralChar d = false := by
    intro d hd
    rw [PatternReader.isSpecial, List.contains_iff_mem] at hd
    have hother := List.all_eq_true.mp hall d hd
    rwa [Bool.not_eq_true'] at hother
  have hparts : ∀ segment : Segment, .char c ∈ segment.parts →
      PatternReader.isSpecial c = false := by
    intro segment hmem
    cases segment with
    | literal cs hcs =>
        obtain ⟨_, hc, ⟨⟩⟩ := List.mem_map.mp hmem
        cases hspecial : PatternReader.isSpecial c with
        | false => rfl
        | true => exact absurd (hcs c hc) (by simp [hliteral c hspecial])
    | name n hne hn => cases List.mem_singleton.mp hmem
  induction segments with
  | nil => cases h
  | cons segment rest ih =>
      cases rest with
      | nil =>
          rw [wholeParts_singleton] at h
          exact hparts segment h
      | cons next more =>
          rw [wholeParts_cons_cons, List.mem_append, List.mem_cons] at h
          obtain hown | hslash | hrest := h
          · exact hparts segment hown
          · cases hslash
            rfl
          · exact ih hrest

end Segment

/-- Names are consistent if each stands for one text. -/
theorem consistent_iff (found : List (List Char × List Char)) :
  consistent (found.map fun b => (b.1, some b.2)) = true
    ↔ ∀ n part part', (n, part) ∈ found → (n, part') ∈ found → part = part'
  := by
  induction found with
  | nil => simp [consistent]
  | cons b rest ih =>
      obtain ⟨name, text⟩ := b
      have hfirst : ((rest.map fun b => (b.1, some b.2)).all fun b =>
            b.1 != name || b.2 == some text) = true
          ↔ ∀ n part, (n, part) ∈ rest → n = name → part = text := by
        rw [List.all_map, List.all_eq_true]
        constructor
        · rintro hall n part hmem rfl
          simpa using hall (n, part) hmem
        · rintro hall ⟨n, part⟩ hmem
          by_cases hn : n = name
          · simp [hall n part hmem hn]
          · simp [hn]
      rw [List.map_cons, consistent, Bool.and_eq_true, hfirst, ih]
      constructor
      · rintro ⟨hname, hrest⟩ n part part' hpart hpart'
        obtain hown | hpart := List.mem_cons.mp hpart <;>
          obtain hown' | hpart' := List.mem_cons.mp hpart'
        · cases hown
          cases hown'
          rfl
        · cases hown
          exact (hname name part' hpart' rfl).symm
        · cases hown'
          exact hname name part hpart rfl
        · exact hrest n part part' hpart hpart'
      · intro h
        constructor
        · rintro n part hmem rfl
          exact h n part text (List.mem_cons_of_mem _ hmem) List.mem_cons_self
        · intro n part part' hpart hpart'
          exact h n part part' (List.mem_cons_of_mem _ hpart) (List.mem_cons_of_mem _ hpart')

/-- The match of a pattern of segments is decided by the agreement of its segments. -/
theorem keyMatch4_fits {segments : List Segment} {key : String} (hne : segments ≠ [])
    (hkey : '\n' ∉ key.toList) :
  ∃ b, keyMatch4 key (Segment.pattern segments) = .ok b
    ∧ (b = true ↔ Segment.Fits segments (splitAt '/' key.toList))
  := by
  let parts := Segment.wholeParts segments
  let bindings := Segment.bindings segments (splitAt '/' key.toList)
  have hspecial : ∀ c, .char c ∈ parts → PatternReader.isSpecial c = false :=
    fun c hc => Segment.not_isSpecial_of_mem hc
  obtain ⟨found, hfound, hsome, hnone⟩ := matchGroups_splits hspecial hkey
  rw [keyMatch4, Segment.ofBraces_pattern]
  cases found with
  | none =>
      refine ⟨false, ?_, ?_⟩
      · change (matchGroups (KeyPart.regexText "([^/]+)" parts) key).bind _ = _
        rw [hfound]
        rfl
      · constructor
        · rintro ⟨⟩
        · intro hfits
          exact absurd ((Segment.splits_wholeParts hne).mpr ⟨hfits.faces, rfl⟩) (hnone rfl _)
  | some texts =>
      obtain ⟨hfaces, rfl⟩ := (Segment.splits_wholeParts hne).mp (hsome texts rfl)
      have hzip : (KeyPart.names parts).zip ((bindings.map Prod.snd).map some)
          = bindings.map fun b => (b.1, some b.2) := by
        rw [Segment.names_wholeParts hfaces, List.map_map, List.zip_map']
        rfl
      refine ⟨consistent (bindings.map fun b => (b.1, some b.2)), ?_, ?_⟩
      · change (matchGroups (KeyPart.regexText "([^/]+)" parts) key).bind _ = _
        rw [hfound, ← hzip]
        rfl
      · rw [consistent_iff]
        exact ⟨fun hagree => ⟨hfaces, hagree⟩, fun hfits => hfits.agree⟩

namespace PatternFunction

/-- **Patterns with named placeholders bind segments.**  A path of one line matches a pattern of
segments if and only if it agrees with it segment by segment and equal names stand for equal
segments, and every such match is decided. -/
theorem keyMatch4On_fits {segments : List Segment} {key : String} (hne : segments ≠ [])
    (hkey : '\n' ∉ key.toList) :
  ∃ b, keyMatch4On (.text key) (.text (Segment.pattern segments)) = .ok (.bool b)
    ∧ (b = true ↔ Segment.Fits segments (splitAt '/' key.toList))
  := by
  obtain ⟨b, hmatch, hfits⟩ := keyMatch4_fits hne hkey
  have hspecial : ∀ c, .char c ∈ Segment.wholeParts segments → PatternReader.isSpecial c = false :=
    fun c hc => Segment.not_isSpecial_of_mem hc
  obtain ⟨least, hcompile⟩ := KeyPart.compilePattern_regexText hspecial
  have hpattern : (Value.text (Segment.pattern segments)).receiver "replace"
      = .ok (Segment.pattern segments) := rfl
  refine ⟨b, ?_, hfits⟩
  rw [keyMatch4On, hpattern]
  simp only [bind, Except.bind]
  rw [Segment.ofBraces_pattern, matchOn, hcompile]
  simp only [wrapped, bind, Except.bind, subject]
  rw [hmatch]
  rfl

/-- A name that occurs twice stands for the same segment. -/
theorem keyMatch4On_fits_twice :
  keyMatch4On (.text "/a/1/b/1") (.text "/a/\x7bid\x7d/b/\x7bid\x7d") = .ok (.bool true)
    ∧ keyMatch4On (.text "/a/1/b/2") (.text "/a/\x7bid\x7d/b/\x7bid\x7d") = .ok (.bool false)
  := by
  let segments : List Segment :=
    [.literal [] (by simp), .literal ['a'] (List.all_eq_true.mp rfl),
      .name ['i', 'd'] (by simp) (by simp), .literal ['b'] (List.all_eq_true.mp rfl),
      .name ['i', 'd'] (by simp) (by simp)]
  have hpattern : Segment.pattern segments = "/a/\x7bid\x7d/b/\x7bid\x7d" := by decide
  rw [← hpattern]
  constructor
  · obtain ⟨b, hresult, hfits⟩ := keyMatch4On_fits (show segments ≠ [] by simp [segments])
      (show '\n' ∉ "/a/1/b/1".toList by decide)
    have hkey : splitAt '/' "/a/1/b/1".toList = [[], ['a'], ['1'], ['b'], ['1']] := by decide
    rw [hresult, hfits.mpr]
    rw [hkey]
    constructor
    · exact .cons rfl (.cons rfl (.cons (by simp [Segment.Faces]) (.cons rfl
        (.cons (by simp [Segment.Faces]) .nil))))
    · exact (consistent_iff _).mp (by decide)
  · obtain ⟨b, hresult, hfits⟩ := keyMatch4On_fits (show segments ≠ [] by simp [segments])
      (show '\n' ∉ "/a/1/b/2".toList by decide)
    have hkey : splitAt '/' "/a/1/b/2".toList = [[], ['a'], ['1'], ['b'], ['2']] := by decide
    have hdiffer : b = false := by
      rw [← Bool.not_eq_true, hfits, hkey]
      intro h
      cases h.agree ['i', 'd'] ['1'] ['2'] (by simp [segments, Segment.bindings, Segment.binding])
        (by simp [segments, Segment.bindings, Segment.binding])
    rw [hresult, hdiffer]

end PatternFunction

end AccessControl
