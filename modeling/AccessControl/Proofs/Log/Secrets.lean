import AccessControl.Log.Redaction
import AccessControl.Proofs.Failure.Results
import AccessControl.Proofs.Log.Forms
import AccessControl.Proofs.Pattern.Width
import AccessControl.Proofs.Text.Classes

/-!
# What a redaction hides

The first two patterns of secrets have one form, that of an assignment and that of a credential.  A
text in which assignments, then credentials and then further parts are replaced keeps no token behind
the word `Bearer`, `Redaction.call_bearer`, unless this word is itself taken for a value.
-/

namespace AccessControl

namespace Redaction

open SecretForm (assignment credential blank sign)
open TextPart (Spell)

/-! ### Replacing secrets -/

theorem patterns_regex :
  (patterns.take 2).map (fun pattern =>
      (CompiledPattern.ofTextWith flags pattern).toOption.map (·.regex))
    = [some assignment.regex, some credential.regex]
  := by
  decide +kernel

/-- The mark of a replaced secret. -/
abbrev mark : List Char := '[' :: ("REDACTED".toList ++ [']'])

/-- The secrets of a form are replaced. -/
abbrev Hides (form : SecretForm) : List Char → List Char → Prop :=
  Replaced form.Holds (fun rest => ∀ taken, form.Holds taken → ¬ taken <+: rest) mark

/-- Parts of a text that are as long as the mark or longer are replaced. -/
abbrev Shortens : List Char → List Char → Prop :=
  Replaced (fun taken => mark.length ≤ taken.length) (fun _ => True) mark

/-- Parts of a text are replaced, whatever they are. -/
abbrev Masks : List Char → List Char → Prop :=
  Replaced (fun _ => True) (fun _ => True) mark

theorem replaceOne_eq {pattern : String} {compiled : CompiledPattern}
    (h : CompiledPattern.ofTextWith flags pattern = .ok compiled) (text : List Char) :
  replaceOne defaultReplacement pattern text
    = .ok (compiled.regex.replaceAll [.chars mark] text)
  := by
  rw [replaceOne, h]
  rfl

theorem replaceEach_cons {replacement pattern : String} {rest : List String}
    {text next : List Char} (h : replaceOne replacement pattern text = .ok next) :
  replaceEach replacement (pattern :: rest) text = replaceEach replacement rest next
  := by
  rw [replaceEach, h]
  rfl

theorem exists_hides {form : SecretForm} {pattern : String}
    (h : (CompiledPattern.ofTextWith flags pattern).toOption.map (·.regex) = some form.regex)
    (text : List Char) :
  ∃ out, replaceOne defaultReplacement pattern text = .ok out ∧ Hides form text out
  := by
  obtain ⟨compiled, hcompiled, hregex⟩ := Option.map_eq_some_iff.mp h
  refine ⟨_, replaceOne_eq (ok_of_toOption hcompiled) text, ?_⟩
  rw [hregex]
  exact form.takes_regex.replaced mark text

theorem exists_shortens {pattern : String}
    (h : ∃ compiled ∈ (CompiledPattern.ofTextWith flags pattern).toOption,
      mark.length ≤ compiled.regex.leastWidth) (text : List Char) :
  ∃ out, replaceOne defaultReplacement pattern text = .ok out ∧ Shortens text out
  := by
  obtain ⟨compiled, hcompiled, hwidth⟩ := h
  use compiled.regex.replaceAll [.chars mark] text, replaceOne_eq (ok_of_toOption hcompiled) text
  apply (compiled.regex.replaced_leastWidth mark text).mono
  · intro taken htaken
    apply Nat.le_trans hwidth htaken
  · intro _ _
    trivial

/-- A redaction replaces assignments, then credentials, and then longer parts of what is left. -/
theorem redactWith_shortens (text : String) :
  ∃ first second third out, redactWith defaultReplacement text = .ok (String.ofList out)
    ∧ Hides assignment text.toList first ∧ Hides credential first second
    ∧ Shortens second third ∧ Shortens third out
  := by
  have hwidth : ∀ pattern ∈ patterns.drop 2,
      ∃ compiled ∈ (CompiledPattern.ofTextWith flags pattern).toOption,
        mark.length ≤ compiled.regex.leastWidth := by decide +kernel
  have hregex := patterns_regex
  rw [redactWith]
  unfold patterns at *
  obtain ⟨h₁, h₂⟩ := List.cons_eq_cons.mp hregex
  obtain ⟨h₂, -⟩ := List.cons_eq_cons.mp h₂
  obtain ⟨first, hfirst, hhides⟩ := exists_hides h₁ text.toList
  obtain ⟨second, hsecond, hhides'⟩ := exists_hides h₂ first
  obtain ⟨third, hthird, hshortens⟩ := exists_shortens (hwidth _ List.mem_cons_self) second
  obtain ⟨out, hout, hshortens'⟩ :=
    exists_shortens (hwidth _ (List.mem_cons_of_mem _ List.mem_cons_self)) third
  refine ⟨first, second, third, out, ?_, hhides, hhides', hshortens, hshortens'⟩
  rw [replaceEach_cons hfirst, replaceEach_cons hsecond, replaceEach_cons hthird,
    replaceEach_cons hout]
  rfl

/-- A redaction replaces assignments, then credentials, and then further parts of what is left. -/
theorem redactWith_eq (text : String) :
  ∃ first second third out, redactWith defaultReplacement text = .ok (String.ofList out)
    ∧ Hides assignment text.toList first ∧ Hides credential first second
    ∧ Masks second third ∧ Masks third out
  := by
  obtain ⟨first, second, third, out, hout, hfirst, hsecond, hthird, hlast⟩ :=
    redactWith_shortens text
  exact ⟨first, second, third, out, hout, hfirst, hsecond, hthird.weaken, hlast.weaken⟩

/-! ### Letters and digits -/

/-- A letter or digit belongs to a token, and neither to what links a name to its value nor to the
edges of a mark. -/
theorem of_isAlphanum {c : Char} (h : c.isAlphanum = true) :
  credential.value.contains c = true ∧ blank.contains c = false ∧ sign.contains c = false
    ∧ c ≠ ' ' ∧ c ≠ '[' ∧ c ≠ ']'
  := by
  have hall : ∀ n < 128, (Char.ofNat n).isAlphanum = true →
      credential.value.contains (Char.ofNat n) = true ∧ blank.contains (Char.ofNat n) = false
        ∧ sign.contains (Char.ofNat n) = false ∧ Char.ofNat n ≠ ' ' ∧ Char.ofNat n ≠ '['
        ∧ Char.ofNat n ≠ ']' := by decide +kernel
  have hascii : c.toNat < 128 := by simpa [isAscii] using isAscii_of_isAlphanum h
  have hc := hall c.toNat hascii
  rw [Char.ofNat_toNat] at hc
  exact hc h

/-- What links a name to its value begins neither with a letter nor with a digit. -/
theorem exists_link {least : Nat} {text : List Char}
    (h : Spell (assignment.link ++ [.many least assignment.value]) text) :
  ∃ c rest, text = c :: rest ∧ c.isAlphanum = false
  := by
  obtain ⟨before, _, rfl, hbefore, _, behind, rfl, ⟨c, rfl, hc⟩, -⟩ := h
  cases before with
  | nil =>
      refine ⟨c, behind, rfl, ?_⟩
      by_contra halnum
      rw [(of_isAlphanum (Bool.not_eq_false _ ▸ halnum)).2.2.1] at hc
      cases hc
  | cons d before =>
      refine ⟨d, _, rfl, ?_⟩
      have hd := hbefore.2 d List.mem_cons_self
      by_contra halnum
      rw [(of_isAlphanum (Bool.not_eq_false _ ▸ halnum)).2.1] at hd
      cases hd

section Bearer

variable {s u w : List Char}

/-- Where an assignment begins in letters and digits before a blank, they are its name. -/
theorem exists_name {taken more : List Char} (hs : ∀ c ∈ s, c.isAlphanum = true)
    (hw : w = [] ∨ w.head? = some ' ') (h : assignment.Holds taken)
    (htaken : taken ++ more = s ++ w) :
  ∃ name ∈ assignment.names, Spell name s ∧ ∃ behind, taken = s ++ behind
  := by
  have hblank : ∀ name ∈ assignment.names, ∀ part ∈ name, part.cls.contains ' ' = false := by
    decide
  obtain ⟨name, hname, hspell⟩ := h
  change Spell (name ++ (assignment.link ++ [.many 1 assignment.value])) taken at hspell
  obtain ⟨word, behind, rfl, hword, hbehind⟩ := TextPart.spell_append.mp hspell
  obtain ⟨c, rest, rfl, hc⟩ := exists_link hbehind
  use name, hname
  rw [List.append_assoc] at htaken
  obtain ⟨missing, rfl, hmissing⟩ | ⟨missing, rfl, hmissing⟩ := List.append_eq_append_iff.mp htaken
  · cases missing with
    | nil =>
        rw [List.append_nil] at hs ⊢
        exact ⟨hword, _, rfl⟩
    | cons d missing =>
        obtain ⟨rfl, -⟩ := List.cons_eq_cons.mp hmissing
        rw [hs c (List.mem_append_right _ List.mem_cons_self)] at hc
        cases hc
  · cases missing with
    | nil =>
        rw [List.append_nil] at hword
        exact ⟨hword, c :: rest, by rw [List.append_nil]⟩
    | cons d missing =>
        rw [hmissing] at hw
        obtain hnil | hhead := hw
        · cases hnil
        · cases hhead
          exact absurd (List.mem_append_right _ List.mem_cons_self)
            (hword.not_mem (hblank name hname))

/-- In letters and digits before a blank nothing is replaced but a name at their end. -/
theorem hides_word {out : List Char} (hs : ∀ c ∈ s, c.isAlphanum = true)
    (hw : w = [] ∨ w.head? = some ' ') (h : Hides assignment (s ++ w) out) :
  (∃ out', out = s ++ out' ∧ Hides assignment w out')
    ∨ ∃ front name rest out', s = front ++ name ∧ (∃ parts ∈ assignment.names, Spell parts name)
      ∧ rest <:+ w ∧ Hides assignment rest out' ∧ out = front ++ (mark ++ out')
  := by
  induction s generalizing out with
  | nil => exact .inl ⟨out, rfl, h⟩
  | cons c s ih =>
      generalize htext : c :: s ++ w = text at h
      cases h with
      | nil => cases htext
      | keep _ hrest =>
          obtain ⟨rfl, rfl⟩ := List.cons_eq_cons.mp htext
          obtain ⟨out', rfl, hout⟩ | ⟨front, name, rest, out', rfl, hname, hsuffix, hout, rfl⟩ :=
            ih (List.forall_mem_cons.mp hs).2 hrest
          · exact .inl ⟨out', rfl, hout⟩
          · exact .inr ⟨c :: front, name, rest, out', rfl, hname, hsuffix, hout, rfl⟩
      | @hide taken rest out' hhidden hrest =>
          obtain ⟨parts, hparts, hspell, behind, rfl⟩ := exists_name hs hw hhidden htext.symm
          rw [List.append_assoc] at htext
          have hbehind : w = behind ++ rest := List.append_cancel_left htext
          exact .inr ⟨[], c :: s, rest, out', rfl, ⟨parts, hparts, hspell⟩,
            ⟨behind, hbehind.symm⟩, hrest, rfl⟩

/-- No name ends in a letter of `Bearer`. -/
theorem last_of_name {name : List Char} (h : ∃ parts ∈ assignment.names, Spell parts name) :
  ∃ front c, name = front ++ [c] ∧ c ∉ "Bearer".toList
  := by
  have hends : ∀ parts ∈ assignment.names, ∃ cls ∈ TextPart.endClass? parts,
      ("Bearer".toList.all fun c => !cls.contains c) = true := by decide
  obtain ⟨parts, hparts, hspell⟩ := h
  obtain ⟨cls, hcls, hmiss⟩ := hends parts hparts
  obtain ⟨front, c, rfl, hc⟩ := hspell.exists_last hcls
  refine ⟨front, c, rfl, ?_⟩
  intro hmem
  have hnot := List.all_eq_true.mp hmiss c hmem
  rw [hc] at hnot
  cases hnot

/-- Where no name begins, there is no secret. -/
theorem not_prefix_of_mayBegin {form : SecretForm} {x : List Char}
    (hx : ∀ v ∈ x.tails, v ≠ [] → ∀ name ∈ form.names,
      TextPart.mayBegin (form.lead ++ name) v = false) :
  ∀ v, v <:+ x → v ≠ [] → ∀ rest taken, form.Holds taken → ¬ taken <+: v ++ rest
  := by
  rintro v hv hne rest taken ⟨name, hname, hspell⟩ ⟨more, htaken⟩
  have hbegin := SecretForm.mayBegin_of_spell hspell htaken
  rw [hx v ((List.mem_tails _ _).mpr hv) hne name hname] at hbegin
  cases hbegin

theorem hides_free {form : SecretForm} {x text out : List Char}
    (hx : ∀ v ∈ x.tails, v ≠ [] → ∀ name ∈ form.names,
      TextPart.mayBegin (form.lead ++ name) v = false)
    (h : Hides form (x ++ text) out) :
  ∃ out', out = x ++ out' ∧ Hides form text out'
  := by
  apply h.of_free
  intro v hv hne
  apply not_prefix_of_mayBegin hx v hv hne

/-- A blank stays where it is, and so does the end of a text. -/
theorem hides_blank {out : List Char} (hw : w = [] ∨ w.head? = some ' ')
    (h : Hides assignment w out) :
  out = [] ∨ out.head? = some ' '
  := by
  obtain rfl | hhead := hw
  · left
    generalize htext : [] = text at h
    cases h with
    | nil => rfl
    | keep _ _ => cases htext
    | hide hhidden _ =>
        obtain ⟨rfl, -⟩ := List.append_eq_nil_iff.mp htext.symm
        exact absurd hhidden (SecretForm.not_holds_nil _)
  · right
    obtain ⟨rest, rfl⟩ := List.head?_eq_some_iff.mp hhead
    obtain ⟨out', rfl, -⟩ := hides_free (x := [' ']) (by decide) h
    rfl

/-- What precedes the word `Bearer` is replaced by itself, unless it opens an assignment. -/
theorem hides_split {form : SecretForm} {text out : List Char} (hform : form.onlyInValues 'B' = true)
    (hopen : ∀ v, v <:+ u → ¬ form.Opens v) (h : Hides form (u ++ ("Bearer ".toList ++ text)) out) :
  ∃ before behind, out = before ++ behind ∧ Masks u before
    ∧ Hides form ("Bearer ".toList ++ text) behind
  := by
  obtain ⟨before, behind, rfl, hbefore, hbehind⟩ := h.of_append (by
    intro v z hv hne hz hzne hholds
    obtain ⟨d, v, rfl⟩ := List.exists_cons_of_ne_nil hne
    obtain ⟨e, z, rfl⟩ := List.exists_cons_of_ne_nil hzne
    obtain ⟨rfl, -⟩ := List.cons_prefix_cons.mp hz
    exact hopen _ hv (hholds.opens hform))
  exact ⟨before, behind, rfl, hbefore.weaken, hbehind⟩

/-- Letters and digits that are in the result of a replacement are in the text. -/
theorem infix_of_masks {text out : List Char} (hs : ∀ c ∈ s, c.isAlphanum = true)
    (hmark : ¬ s <:+: mark) (h : Masks text out) (hout : s <:+: out) :
  s <:+: text
  := by
  have hinner : "REDACTED".toList <:+: mark := ⟨['['], [']'], rfl⟩
  apply h.infix_of hout
  · intro hmem
    exact (of_isAlphanum (hs _ hmem)).2.2.2.2.1 rfl
  · intro hmem
    exact (of_isAlphanum (hs _ hmem)).2.2.2.2.2 rfl
  · intro hfound
    exact hmark (hfound.trans hinner)

/-- Letters and digits around a mark stand before it or behind it. -/
theorem infix_of_infix_mark {before behind : List Char} (hs : ∀ c ∈ s, c.isAlphanum = true)
    (hmark : ¬ s <:+: mark) (h : s <:+: before ++ (mark ++ behind)) :
  s <:+: before ∨ s <:+: behind
  := by
  have hmissing : '[' ∉ s ∧ ']' ∉ s :=
    ⟨fun hmem => (of_isAlphanum (hs _ hmem)).2.2.2.2.1 rfl,
      fun hmem => (of_isAlphanum (hs _ hmem)).2.2.2.2.2 rfl⟩
  rw [List.cons_append, List.append_assoc, List.singleton_append] at h
  obtain hbefore | hmore := infix_of_infix_append_cons hmissing.1 h
  · exact .inl hbefore
  · obtain hinner | hbehind := infix_of_infix_append_cons hmissing.2 hmore
    · have hinner' : "REDACTED".toList <:+: mark := ⟨['['], [']'], rfl⟩
      exact absurd (hinner.trans hinner') hmark
    · exact .inr hbehind

/-- The word `Bearer` before letters and digits is a credential. -/
theorem holds_bearer (hs : ∀ c ∈ s, c.isAlphanum = true) (hne : s ≠ []) :
  credential.Holds ("Bearer ".toList ++ s)
  := by
  have hlead : Spell (SecretForm.word "b") ['B'] := SecretForm.spell_word (by decide)
  have hname : Spell (SecretForm.word "earer") "earer".toList :=
    SecretForm.spell_word (by decide)
  have hlink : ∀ c ∈ [' '], blank.contains c = true := List.all_eq_true.mp (by decide)
  have hvalue : ∀ c ∈ s, credential.value.contains c = true :=
    fun c hc => (of_isAlphanum (hs c hc)).1
  refine ⟨SecretForm.word "earer", List.mem_cons_self, ?_⟩
  refine TextPart.spell_append.mpr ⟨['B'], "earer ".toList ++ s, rfl, hlead, ?_⟩
  refine TextPart.spell_append.mpr ⟨"earer".toList, ' ' :: s, rfl, hname, ?_⟩
  exact ⟨[' '], s, rfl, ⟨Nat.le_refl 1, hlink⟩, concat_singleton.mpr
    ⟨List.length_pos_iff.mpr hne, hvalue⟩⟩

/-- A credential at the word `Bearer` takes some of what stands behind it. -/
theorem exists_front_of_holds {taken more text : List Char} (h : credential.Holds taken)
    (htaken : taken ++ more = "Bearer ".toList ++ text) :
  ∃ front, front ≠ [] ∧ text = front ++ more
  := by
  have hleast : ∀ name ∈ credential.names,
      TextPart.mayBegin (credential.lead ++ name) "Bearer ".toList = true →
        8 ≤ TextPart.leastLength (credential.parts name 1) := by decide
  have hlength : 8 ≤ taken.length := by
    obtain ⟨name, hname, hspell⟩ := h
    apply Nat.le_trans _ hspell.leastLength_le
    exact hleast name hname (SecretForm.mayBegin_of_spell hspell htaken)
  obtain ⟨missing, hshort, -⟩ | ⟨front, rfl, htext⟩ := List.append_eq_append_iff.mp htaken
  · have hshort := congrArg List.length hshort
    rw [List.length_append, show "Bearer ".toList.length = 7 from rfl] at hshort
    omega
  · refine ⟨front, ?_, htext⟩
    rintro rfl
    revert hlength
    decide

/-- What ends in a character that is missing from the end of a text stands before this end. -/
theorem infix_of_infix_append {before front y : List Char} {c : Char} (hc : c ∉ y)
    (h : front ++ [c] <:+: before ++ y) :
  front ++ [c] <:+: before
  := by
  obtain ⟨a, b, h⟩ := h
  obtain ⟨more, rfl, -⟩ | ⟨more, hmore, rfl⟩ := List.append_eq_append_iff.mp h
  · exact ⟨a, more, rfl⟩
  · obtain rfl | ⟨more, d, rfl⟩ := List.eq_nil_or_concat more
    · exact ⟨a, [], by simpa using hmore⟩
    · rw [List.concat_eq_append, ← List.append_assoc, ← List.append_assoc] at hmore
      obtain ⟨-, hend⟩ := List.append_inj' hmore rfl
      cases hend
      exact absurd (by simp) hc

/-- Behind the beginning of a token no whole token is left. -/
theorem not_infix_of_front {front rest : List Char} (hs : ∀ c ∈ s, c.isAlphanum = true)
    (hw : ¬ s <:+: w) (hblank : w = [] ∨ w.head? = some ' ') (hne : front ≠ [])
    (h : s ++ w = front ++ rest) :
  ¬ s <:+: rest
  := by
  intro hfound
  obtain ⟨more, rfl, rfl⟩ | ⟨more, rfl, rfl⟩ := List.append_eq_append_iff.mp h
  · exact hw (hfound.trans (List.suffix_append _ _).isInfix)
  · have hshort : ¬ front ++ more <:+: more := by
      intro hmore
      have hlength := hmore.length_le
      have hpos := List.length_pos_iff.mpr hne
      rw [List.length_append] at hlength
      omega
    obtain rfl | hhead := hblank
    · rw [List.append_nil] at hfound
      exact hshort hfound
    · obtain ⟨w, rfl⟩ := List.head?_eq_some_iff.mp hhead
      have hmissing : ' ' ∉ front ++ more := fun hmem => (of_isAlphanum (hs _ hmem)).2.2.2.1 rfl
      obtain hmore | hmore := infix_of_infix_append_cons hmissing hfound
      · exact hshort hmore
      · exact hw (hmore.trans (List.suffix_cons _ _).isInfix)

/-- A token that stands behind the word `Bearer` is hidden as a credential. -/
theorem not_infix_of_credential {before second : List Char} (hs : ∀ c ∈ s, c.isAlphanum = true)
    (hne : s ≠ []) (hmark : ¬ s <:+: mark) (hu : Masks u before) (hbefore : ¬ s <:+: before)
    (hw : ¬ s <:+: w) (hblank : w = [] ∨ w.head? = some ' ')
    (hopen : ∀ v, v <:+ u → ¬ credential.Opens v)
    (h : Hides credential (before ++ ("Bearer ".toList ++ (s ++ w))) second) :
  ¬ s <:+: second
  := by
  have hclosed : ∀ v, v <:+ before → ¬ credential.Opens v := by
    intro v hv hopens
    have hbracket : ']' ∉ v := hopens.not_mem (by decide)
    have hmarks : Replaced (fun _ => True) (fun _ => True) ("[REDACTED".toList ++ [']']) u before :=
      hu
    exact hopen v (hmarks.suffix_of hv hbracket) hopens
  obtain ⟨before', behind, rfl, hbefore', hbehind⟩ := hides_split (by decide) hclosed h
  intro hfound
  generalize htext : "Bearer ".toList ++ (s ++ w) = text at hbehind
  cases hbehind with
  | nil => cases htext
  | keep hkept _ =>
      obtain hnil | hkept := hkept
      · exact SecretForm.not_holds_nil _ hnil
      · apply hkept _ (holds_bearer hs hne)
        rw [← htext, ← List.append_assoc]
        apply List.prefix_append
  | hide hhidden hrest =>
      obtain ⟨front, hfront, hsplit⟩ := exists_front_of_holds hhidden htext.symm
      obtain hfound | hfound := infix_of_infix_mark hs hmark hfound
      · exact hbefore (infix_of_masks hs hmark hbefore' hfound)
      · exact not_infix_of_front hs hw hblank hfront hsplit
          (infix_of_masks hs hmark hrest.weaken hfound)

/-- A token of which the end is a name is hidden with its value. -/
theorem not_infix_of_name {before front name behind : List Char}
    (hs : ∀ c ∈ front ++ name, c.isAlphanum = true) (hmark : ¬ front ++ name <:+: mark)
    (hbefore : ¬ front ++ name <:+: before) (hbehind : ¬ front ++ name <:+: behind)
    (hname : ∃ parts ∈ assignment.names, Spell parts name) :
  ¬ front ++ name <:+: before ++ ("Bearer ".toList ++ (front ++ (mark ++ behind)))
  := by
  obtain ⟨first, c, rfl, hc⟩ := last_of_name hname
  have hmissing : ' ' ∉ front ++ (first ++ [c]) := fun hmem => (of_isAlphanum (hs _ hmem)).2.2.2.1 rfl
  have hassoc : before ++ ("Bearer ".toList ++ (front ++ (mark ++ behind)))
      = (before ++ "Bearer".toList ++ ' ' :: front) ++ (mark ++ behind) := by simp
  intro h
  rw [hassoc] at h
  obtain h | h := infix_of_infix_mark hs hmark h
  · obtain h | h := infix_of_infix_append_cons hmissing h
    · rw [← List.append_assoc] at h hbefore
      exact hbefore (infix_of_infix_append hc h)
    · have hlength := h.length_le
      simp at hlength
  · exact hbehind h

/-- The first two patterns leave no token behind the word `Bearer`. -/
theorem not_infix_of_hides {first second : List Char} (hs : ∀ c ∈ s, c.isAlphanum = true)
    (hne : s ≠ []) (hu : ¬ s <:+: u) (hw : ¬ s <:+: w) (hmark : ¬ s <:+: mark)
    (hblank : w = [] ∨ w.head? = some ' ')
    (hopen : ∀ v, v <:+ u → ¬ assignment.Opens v ∧ ¬ credential.Opens v)
    (hfirst : Hides assignment (u ++ ("Bearer ".toList ++ (s ++ w))) first)
    (hsecond : Hides credential first second) :
  ¬ s <:+: second
  := by
  obtain ⟨before, _, rfl, hmasks, hbehind⟩ :=
    hides_split (by decide) (fun v hv => (hopen v hv).1) hfirst
  obtain ⟨behind, rfl, hrest⟩ := hides_free (by decide) hbehind
  have hbefore : ¬ s <:+: before := fun h => hu (infix_of_masks hs hmark hmasks h)
  obtain ⟨w', rfl, hw'⟩ | ⟨front, name, rest, out, rfl, hname, hsuffix, hout, rfl⟩ :=
    hides_word hs hblank hrest
  · have hrest : ¬ s <:+: w' := fun h => hw (infix_of_masks hs hmark hw'.weaken h)
    exact not_infix_of_credential hs hne hmark hmasks hbefore hrest (hides_blank hblank hw')
      (fun v hv => (hopen v hv).2) hsecond
  · have hrest : ¬ front ++ name <:+: out := fun h =>
      hw ((infix_of_masks hs hmark hout.weaken h).trans hsuffix.isInfix)
    exact fun h => not_infix_of_name hs hmark hbefore hrest hname
      (infix_of_masks hs hmark hsecond.weaken h)

end Bearer

theorem redactBy_text (host : Functions) (replacement text : String) :
  redactBy host (.text replacement) text = redactWith replacement text
  := by
  have hvalue : Functions.ofValue? host (.text replacement) = none := rfl
  have htext : replacementText (.text replacement) = .ok replacement := rfl
  rw [redactBy, hvalue]
  dsimp only
  rw [htext, ok_bind]

/-- A text is redacted by the usual mark if nothing else is asked for. -/
theorem call_text (host : Functions) (text : String) :
  call host (.text text) [] = (redactWith defaultReplacement text).map .text
  := by
  have hbind : signature.bind [.text text] [] = .ok ⟨[("text", .text text)], []⟩ := rfl
  have hdefault : Arguments.get? ⟨[("text", .text text)], []⟩ "replacement" = none := rfl
  rw [call, hbind, ok_bind]
  dsimp only
  rw [hdefault, Option.getD_none, redactBy_text]
  generalize redactWith defaultReplacement text = result
  cases result <;> rfl

/-- **A bearer token is hidden.** A run of letters and digits behind the word `Bearer` is in no
redacted text, if it is neither in the rest of the text nor in the mark, and if no secret is open
where the word stands, neither an assignment nor a credential, of which it would be the value. -/
theorem call_bearer {u s w : List Char} (hs : ∀ c ∈ s, c.isAlphanum = true) (hne : s ≠ [])
    (hu : ¬ s <:+: u) (hw : ¬ s <:+: w) (hmark : ¬ s <:+: defaultReplacement.toList)
    (hblank : w = [] ∨ w.head? = some ' ')
    (hopen : ∀ v, v <:+ u → ¬ assignment.Opens v ∧ ¬ credential.Opens v) (host : Functions) :
  ∃ out, call host (.text (String.ofList (u ++ "Bearer ".toList ++ s ++ w))) []
      = .ok (.text (String.ofList out)) ∧ ¬ s <:+: out
  := by
  obtain ⟨first, second, third, out, hout, hfirst, hsecond, hthird, hlast⟩ :=
    redactWith_eq (String.ofList (u ++ "Bearer ".toList ++ s ++ w))
  rw [String.toList_ofList, List.append_assoc, List.append_assoc] at hfirst
  refine ⟨out, ?_, ?_⟩
  · rw [call_text, hout]
    rfl
  · intro h
    apply not_infix_of_hides hs hne hu hw hmark hblank hopen hfirst hsecond
    exact infix_of_masks hs hmark hthird (infix_of_masks hs hmark hlast h)

/-- A token behind an assignment that is closed, and before further text. -/
theorem call_bearer_behind :
  ¬ "abcdefgh1".toList <:+: "token=abc, ".toList
    ∧ (∀ v, v <:+ "token=abc, ".toList → ¬ assignment.Opens v ∧ ¬ credential.Opens v)
    ∧ ∃ out, call [] (.text (String.ofList
        ("token=abc, ".toList ++ "Bearer ".toList ++ "abcdefgh1".toList ++ " end".toList))) []
      = .ok (.text (String.ofList out)) ∧ ¬ "abcdefgh1".toList <:+: out
  := by
  have hu : ¬ "abcdefgh1".toList <:+: "token=abc, ".toList := by decide +kernel
  have hclosed : ∀ v ∈ "token=abc, ".toList.tails, ¬ assignment.Opens v ∧ ¬ credential.Opens v := by
    decide +kernel
  have hopen : ∀ v, v <:+ "token=abc, ".toList → ¬ assignment.Opens v ∧ ¬ credential.Opens v :=
    fun v hv => hclosed v ((List.mem_tails _ _).mpr hv)
  exact ⟨hu, hopen, call_bearer (List.all_eq_true.mp (by decide)) (by decide) hu (by decide +kernel)
    (by decide +kernel) (.inr rfl) hopen []⟩

/-- Behind a name and a sign the word `Bearer` is taken for the value, and the token is left. -/
theorem call_bearer_assigned :
  let s := "abcdefgh1".toList
  (∀ c ∈ s, c.isAlphanum = true) ∧ 8 ≤ s.length ∧ ¬ s <:+: "token=".toList
    ∧ ¬ s <:+: defaultReplacement.toList
    ∧ call [] (.text (String.ofList ("token=".toList ++ "Bearer ".toList ++ s))) []
      = .ok (.text "[REDACTED] abcdefgh1")
    ∧ s <:+: "[REDACTED] abcdefgh1".toList
  := by
  have hredacted : redactWith defaultReplacement "token=Bearer abcdefgh1"
      = .ok "[REDACTED] abcdefgh1" := ok_of_toOption (by decide +kernel)
  have htext : String.ofList ("token=".toList ++ "Bearer ".toList ++ "abcdefgh1".toList)
      = "token=Bearer abcdefgh1" := by decide +kernel
  refine ⟨List.all_eq_true.mp (by decide), by decide, by decide +kernel, by decide +kernel, ?_,
    by decide +kernel⟩
  rw [htext, call_text, hredacted]
  rfl

end Redaction

end AccessControl
