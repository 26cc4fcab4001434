import AccessControl.Proofs.Pattern.Groups
import AccessControl.Proofs.Pattern.Reading

/-!
# Patterns with placeholders

The regular expression of a pattern in which a placeholder is a group that takes a run of
characters other than a slash.  Its match finds a way to put the path together from the characters
of the pattern and texts for its placeholders, `KeyPart.Splits`, if there is one, and the groups are
these texts, `matchGroups_splits`.
-/

namespace AccessControl

open MatchWays (Explores)
open PatternReader (ReadsAs)

namespace KeyPart

/-- A path is put together from the characters of a pattern and texts for its placeholders, of at
least one character and without a slash. -/
inductive Splits : List KeyPart → List Char → List (List Char) → Prop
  | nil : Splits [] [] []
  | char {c : Char} {parts : List KeyPart} {key : List Char} {texts : List (List Char)}
      (h : Splits parts key texts) : Splits (.char c :: parts) (c :: key) texts
  | name {n taken key : List Char} {parts : List KeyPart} {texts : List (List Char)}
      (hne : taken ≠ []) (hslash : '/' ∉ taken) (h : Splits parts key texts) :
      Splits (.name n :: parts) (taken ++ key) (taken :: texts)

/-! ### Regular expressions -/

/-- The regular expression of parts that reach the end of a path, with groups numbered from an
index on. -/
def regexFrom : Nat → List KeyPart → Regex
  | _, [] => .anchor .finish
  | index, .char c :: parts =>
      .seq (.one ⟨[.code c.toNat], false, .exact, false⟩) (regexFrom index parts)
  | index, .name _ :: parts =>
      .seq (.group index (.repeated .greedy 1 none PatternReader.notSlash.regex))
        (regexFrom (index + 1) parts)

/-- The pieces of parts with groups numbered from an index on. -/
def pieces : Nat → List KeyPart → List Piece
  | _, [] => []
  | index, .char c :: parts => PatternReader.literalPiece {} c.toNat :: pieces index parts
  | index, .name _ :: parts => PatternReader.segment index :: pieces (index + 1) parts

theorem regex_pieces (index : Nat) (parts : List KeyPart) :
  (Piece.sequence (pieces index parts ++ [.place (.anchor .finish) .anchor])).regex
    = regexFrom index parts
  := by
  induction parts generalizing index with
  | nil => rfl
  | cons part parts ih =>
      cases part <;>
        rw [pieces, List.cons_append, PatternReader.regex_sequence_cons _ (by simp), ih] <;> rfl

theorem fault_pieces (index : Nat) (parts : List KeyPart) :
  ∀ p ∈ pieces index parts, p.fault = none
  := by
  induction parts generalizing index with
  | nil => simp [pieces]
  | cons part parts ih =>
      cases part <;> exact List.forall_mem_cons.mpr ⟨rfl, ih _⟩

/-- The text of a part in a regular expression. -/
def source : KeyPart → List Char
  | .char c => [c]
  | .name _ => "([^/]+)".toList

theorem readsAs_parts {parts : List KeyPart}
    (h : ∀ c, .char c ∈ parts → PatternReader.isSpecial c = false) :
  ReadsAs (parts.flatMap source) (fun index => pieces index parts)
    ((names parts).map fun _ => some ⟨1, maxRepeat⟩)
  := by
  induction parts with
  | nil => exact .nil
  | cons part parts ih =>
      have hrest := ih fun c hc => h c (List.mem_cons_of_mem _ hc)
      cases part with
      | char c =>
          exact (PatternReader.readsAs_char (h c (List.mem_cons_self))).append hrest
      | name n => exact PatternReader.readsAs_segment.append hrest

/-- The regular expression of a pattern without signs of its own is read as it is meant. -/
theorem compilePattern_regexText {parts : List KeyPart}
    (h : ∀ c, .char c ∈ parts → PatternReader.isSpecial c = false) :
  ∃ least, compilePattern (regexText "([^/]+)" parts)
    = .ok ⟨.seq (.anchor .start) (regexFrom 1 parts), (names parts).length, [], false, least⟩
  := by
  obtain ⟨least, hcompile⟩ := compilePattern_between (readsAs_parts h) (fault_pieces 1 parts)
  rw [regex_pieces, List.length_map] at hcompile
  exact ⟨least, hcompile⟩

/-! ### Places in a path -/

/-- From a place in a path to its end, past some parts with groups numbered from an index on; the
texts are those that the groups take. -/
inductive Leads : Nat → List KeyPart → Cursor → List (List Char) → Cursor → Prop
  | nil {index : Nat} {s : Cursor} (hat : s.isAt .finish = true) : Leads index [] s [] s
  | char {index : Nat} {c : Char} {parts : List KeyPart} {s m t : Cursor} {texts : List (List Char)}
      (hc : s.Moves [c] m) (h : Leads index parts m texts t) :
      Leads index (.char c :: parts) s texts t
  | name {index : Nat} {n taken : List Char} {parts : List KeyPart} {s m t : Cursor}
      {texts : List (List Char)} (hne : taken ≠ []) (hslash : '/' ∉ taken)
      (hmoves : (s.mark (2 * index)).Moves taken m)
      (h : Leads (index + 1) parts (m.mark (2 * index + 1)) texts t) :
      Leads index (.name n :: parts) s (taken :: texts) t

theorem explores_parts (index : Nat) (parts : List KeyPart) :
  Explores (Regex.ways .whole (regexFrom index parts))
    fun s t => ∃ texts, Leads index parts s texts t
  := by
  induction parts generalizing index with
  | nil =>
      apply (Regex.explores_anchor .finish).congr
      intro s t
      constructor
      · rintro ⟨hat, rfl⟩
        exact ⟨[], .nil hat⟩
      · rintro ⟨_, h⟩
        cases h with
        | nil hat => exact ⟨hat, rfl⟩
  | cons part parts ih =>
      cases part with
      | char c =>
          apply (Regex.explores_seq (Regex.takesOne_one _).reads (ih index)).congr
          intro s t
          constructor
          · rintro ⟨m, ⟨_, ⟨d, rfl, hd⟩, hmoves⟩, texts, hrest⟩
            obtain rfl := (CharClass.contains_code c d).mp hd
            exact ⟨texts, .char hmoves hrest⟩
          · rintro ⟨texts, h⟩
            cases h with
            | char hc hrest =>
                exact ⟨_, ⟨[c], ⟨c, rfl, (CharClass.contains_code c c).mpr rfl⟩, hc⟩, texts, hrest⟩
      | name n =>
          have hgroup := Regex.explores_group ((Regex.takesOne_one
            ⟨[.code '/'.toNat], true, .exact, false⟩).reads_repeated 1) index
          apply (Regex.explores_seq hgroup (ih (index + 1))).congr
          intro s t
          constructor
          · rintro ⟨_, ⟨m, ⟨taken, ⟨hlength, htaken⟩, hmoves⟩, rfl⟩, texts, hrest⟩
            have hslash : '/' ∉ taken := fun hmem =>
              (CharClass.contains_not_code '/' '/').mp (htaken _ hmem) rfl
            exact ⟨taken :: texts, .name (List.ne_nil_of_length_pos hlength) hslash hmoves hrest⟩
          · rintro ⟨_, h⟩
            cases h with
            | name hne hslash hmoves hrest =>
                refine ⟨_, ⟨_, ⟨_, ⟨List.length_pos_iff.mpr hne, ?_⟩, hmoves⟩, rfl⟩, _, hrest⟩
                rintro d hd
                rw [CharClass.contains_not_code]
                rintro rfl
                exact hslash hd

namespace Leads

variable {index : Nat} {parts : List KeyPart} {s t : Cursor} {texts found : List (List Char)}

/-- The texts are kept behind those that were kept before. -/
theorem keeps (h : Leads (found.length + 1) parts s texts t) (hkeeps : s.Keeps found) :
  t.Keeps (found ++ texts)
  := by
  generalize hindex : found.length + 1 = index at h
  induction h generalizing found with
  | nil => rwa [List.append_nil]
  | char hc _ ih => exact ih (hkeeps.move hc) hindex
  | @name index n taken parts s m t texts hne hslash hmoves _ ih =>
      subst hindex
      have hnext := ih (hkeeps.group hmoves) (by rw [List.length_append, List.length_singleton])
      rwa [List.append_assoc, List.singleton_append] at hnext

theorem splits (h : Leads index parts s texts t) (hrest : '\n' ∉ s.rest) :
  Splits parts s.rest texts
  := by
  induction h with
  | nil hat =>
      rw [(Cursor.isAt_finish hrest).mp hat]
      exact .nil
  | char hc _ ih =>
      rw [hc.rest] at hrest ⊢
      exact .char (ih (List.not_mem_of_not_mem_cons hrest))
  | @name index n taken parts s m t texts hne hslash hmoves _ ih =>
      have htaken : s.rest = taken ++ m.rest := hmoves.rest
      rw [htaken, List.mem_append, not_or] at hrest
      rw [htaken]
      exact .name hne hslash (ih hrest.2)

/-- Every way to put a path together leads to its end. -/
theorem exists_of_splits {key : List Char} (h : Splits parts key texts) (hs : s.rest = key) :
  ∃ t, Leads index parts s texts t
  := by
  induction h generalizing index s with
  | nil =>
      use s
      apply Leads.nil
      rw [Cursor.isAt, hs]
      rfl
  | @char c parts key texts _ ih =>
      obtain ⟨m, hc, hrest⟩ := Cursor.Moves.exists_of_rest (show s.rest = [c] ++ key from hs)
      obtain ⟨t, ht⟩ : ∃ t, Leads index parts m texts t := ih hrest
      exact ⟨t, .char hc ht⟩
  | @name n taken key parts texts hne hslash _ ih =>
      obtain ⟨m, hmoves, hrest⟩ := Cursor.Moves.exists_of_rest
        (show (s.mark (2 * index)).rest = taken ++ key from hs)
      obtain ⟨t, ht⟩ : ∃ t, Leads (index + 1) parts (m.mark (2 * index + 1)) texts t := ih hrest
      exact ⟨t, .name hne hslash hmoves ht⟩

end Leads

theorem Splits.chars_append {tail : List KeyPart} {rest : List Char} {texts : List (List Char)}
    (h : Splits tail rest texts) (cs : List Char) :
  Splits (cs.map .char ++ tail) (cs ++ rest) texts
  := by
  induction cs with
  | nil => exact h
  | cons c more ih => exact .char ih

theorem Splits.of_chars_append {cs key : List Char} {tail : List KeyPart}
    {texts : List (List Char)} (h : Splits (cs.map .char ++ tail) key texts) :
  ∃ rest, key = cs ++ rest ∧ Splits tail rest texts
  := by
  induction cs generalizing key with
  | nil => exact ⟨key, rfl, h⟩
  | cons c more ih =>
      cases h with
      | char hmore =>
          obtain ⟨rest, rfl, hrest⟩ := ih hmore
          exact ⟨rest, rfl, hrest⟩

theorem Splits.length_eq {parts : List KeyPart} {key : List Char} {texts : List (List Char)}
    (h : Splits parts key texts) :
  (names parts).length = texts.length
  := by
  induction h with
  | nil => rfl
  | char _ ih => exact ih
  | name _ _ _ ih => exact congrArg (· + 1) ih

end KeyPart

/-! ### Matches -/

theorem matchGroups_of_refused {text key : String} {p : CompiledPattern}
    (hcompile : compilePattern text = .ok p) (hmatch : p.regex.matchStart key.toList = none) :
  matchGroups text key = .ok none
  := by
  have hfound : p.matchStart key.toList = .ok none := by
    rw [CompiledPattern.matchStart, hmatch]
    rfl
  rw [matchGroups, hcompile]
  change (outcome _ (p.matchStart key.toList)).bind _ = _
  rw [hfound]
  rfl

/-- The groups of a match are the texts that are kept at its end. -/
theorem matchGroups_of_keeps {text key : String} {regex : Regex} {texts : List (List Char)}
    {least : Nat} {t : Cursor}
    (hcompile : compilePattern text = .ok ⟨regex, texts.length, [], false, least⟩)
    (hmatch : regex.matchStart key.toList = some t) (hkeeps : t.Keeps texts) :
  matchGroups text key = .ok (some (texts.map some))
  := by
  let pattern : CompiledPattern := ⟨regex, texts.length, [], false, least⟩
  have hfound : pattern.matchStart key.toList = .ok (some t) := by
    rw [CompiledPattern.matchStart, hmatch, CompiledPattern.checked, hkeeps.areCrossed_eq]
    rfl
  have hgroups : pattern.groupTexts t = texts.map some := hkeeps.kept
  rw [matchGroups, hcompile]
  change (outcome _ (pattern.matchStart key.toList)).bind _ = _
  rw [hfound]
  change Except.ok (some (pattern.groupTexts t)) = _
  rw [hgroups]

/-- The match of a path finds a way to put it together if there is one, and the groups are the texts
for the placeholders. -/
theorem matchGroups_splits {parts : List KeyPart} {key : String}
    (h : ∀ c, .char c ∈ parts → PatternReader.isSpecial c = false) (hkey : '\n' ∉ key.toList) :
  ∃ found, matchGroups (KeyPart.regexText "([^/]+)" parts) key = .ok (found.map (List.map some))
    ∧ (∀ texts ∈ found, KeyPart.Splits parts key.toList texts)
    ∧ (found = none → ∀ texts, ¬ KeyPart.Splits parts key.toList texts)
  := by
  obtain ⟨least, hcompile⟩ := KeyPart.compilePattern_regexText h
  have hexplores := Regex.explores_seq (Regex.explores_anchor .start)
    (KeyPart.explores_parts 1 parts)
  let regex : Regex := .seq (.anchor .start) (KeyPart.regexFrom 1 parts)
  cases hmatch : regex.matchStart key.toList with
  | none =>
      refine ⟨none, matchGroups_of_refused hcompile hmatch, by simp, ?_⟩
      rintro - texts hsplits
      obtain ⟨t, ht⟩ := KeyPart.Leads.exists_of_splits (s := .start key.toList) hsplits rfl
      have hsome := hexplores.isSome_first.mpr ⟨t, _, ⟨rfl, rfl⟩, texts, ht⟩
      rw [Regex.matchStart, Regex.matchAt] at hmatch
      rw [hmatch] at hsome
      cases hsome
  | some t =>
      obtain ⟨_, ⟨-, rfl⟩, texts, hleads⟩ := hexplores.of_first hmatch
      have hsplits : KeyPart.Splits parts key.toList texts := hleads.splits hkey
      have hkeeps : t.Keeps ([] ++ texts) := KeyPart.Leads.keeps hleads (.start key.toList)
      rw [List.nil_append] at hkeeps
      rw [hsplits.length_eq] at hcompile
      exact ⟨some texts, matchGroups_of_keeps hcompile hmatch hkeeps, by simpa using hsplits,
        by simp⟩

end AccessControl
