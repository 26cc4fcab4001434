import AccessControl.Proofs.Pattern.Replacement
import Mathlib.Data.List.Forall2

/-!
# Forms of secrets

Secrets that consist of a name, what links it to a value, and the value, `SecretForm`.  The regular
expression of a form takes the texts of this form, `SecretForm.takes_regex`, and a character that
stands only in values cuts such a text into its beginning and the rest of the value,
`SecretForm.Holds.opens`.
-/

namespace AccessControl

/-! ### Parts of a text -/

/-- A text is put together from texts that satisfy some conditions in turn. -/
def Concat : List (List Char → Prop) → List Char → Prop
  | [], text => text = []
  | L :: rest, text => ∃ front behind, text = front ++ behind ∧ L front ∧ Concat rest behind

theorem concat_append {Ks Ls : List (List Char → Prop)} {text : List Char} :
  Concat (Ks ++ Ls) text ↔ ∃ front behind, text = front ++ behind ∧ Concat Ks front ∧ Concat Ls behind
  := by
  induction Ks generalizing text with
  | nil => simp [Concat]
  | cons K Ks ih =>
      constructor
      · rintro ⟨first, more, rfl, hfirst, hmore⟩
        obtain ⟨front, behind, rfl, hfront, hbehind⟩ := ih.mp hmore
        exact ⟨first ++ front, behind, (List.append_assoc _ _ _).symm,
          ⟨first, front, rfl, hfirst, hfront⟩, hbehind⟩
      · rintro ⟨_, behind, rfl, ⟨first, front, rfl, hfirst, hfront⟩, hbehind⟩
        exact ⟨first, front ++ behind, List.append_assoc _ _ _, hfirst,
          ih.mpr ⟨front, behind, rfl, hfront, hbehind⟩⟩

theorem concat_singleton {L : List Char → Prop} {text : List Char} :
  Concat [L] text ↔ L text
  := by
  simp [Concat]

/-- A part of a text: a character of a class, a run of such characters, or one that may be left
out. -/
inductive TextPart where
  | one (cls : CharClass)
  | many (least : Nat) (cls : CharClass)
  | optional (cls : CharClass)

namespace TextPart

/-- The class of the characters of a part. -/
def cls : TextPart → CharClass
  | one cls | many _ cls | optional cls => cls

/-- The texts that a part stands for. -/
def Takes : TextPart → List Char → Prop
  | one cls, text => ∃ c, text = [c] ∧ cls.contains c = true
  | many least cls, text => least ≤ text.length ∧ ∀ c ∈ text, cls.contains c = true
  | optional cls, text => text.length ≤ 1 ∧ ∀ c ∈ text, cls.contains c = true

/-- The regular expression of a part. -/
def regex : TextPart → Regex
  | one cls => .one cls
  | many least cls => .repeated .greedy least none (.one cls)
  | optional cls => .repeated .greedy 0 (some 1) (.one cls)

theorem takes_regex (part : TextPart) :
  part.regex.Takes part.Takes
  := by
  cases part with
  | one cls => exact Regex.takes_of_reads (Regex.takesOne_one cls).reads
  | many least cls => exact Regex.takes_of_reads ((Regex.takesOne_one cls).reads_repeated least)
  | optional cls => exact (Regex.takesOne_one cls).takes_optional

theorem Takes.contains {part : TextPart} {text : List Char} (h : part.Takes text) :
  ∀ c ∈ text, part.cls.contains c = true
  := by
  cases part with
  | one cls =>
      obtain ⟨c, rfl, hc⟩ := h
      exact List.forall_mem_singleton.mpr hc
  | many least cls => exact h.2
  | optional cls => exact h.2

/-- A text is put together from texts for some parts. -/
def Spell (parts : List TextPart) : List Char → Prop := Concat (parts.map Takes)

theorem spell_append {parts more : List TextPart} {text : List Char} :
  Spell (parts ++ more) text
    ↔ ∃ front behind, text = front ++ behind ∧ Spell parts front ∧ Spell more behind
  := by
  rw [Spell, List.map_append, concat_append]
  rfl

/-- The texts for a part can be told. -/
instance (part : TextPart) (text : List Char) : Decidable (part.Takes text) :=
  match part with
  | one cls =>
      decidable_of_iff (text.length = 1 ∧ text.all cls.contains = true) (by
        rw [List.length_eq_one_iff, List.all_eq_true]
        constructor
        · rintro ⟨⟨c, rfl⟩, hc⟩
          exact ⟨c, rfl, hc c (List.mem_singleton_self c)⟩
        · rintro ⟨c, rfl, hc⟩
          exact ⟨⟨c, rfl⟩, List.forall_mem_singleton.mpr hc⟩)
  | many least cls =>
      decidable_of_iff (least ≤ text.length ∧ text.all cls.contains = true)
        (and_congr_right' List.all_eq_true)
  | optional cls =>
      decidable_of_iff (text.length ≤ 1 ∧ text.all cls.contains = true)
        (and_congr_right' List.all_eq_true)

/-- A text is put together from texts for some parts, as is found by trying every place to cut
it. -/
def spells : List TextPart → List Char → Bool
  | [], text => text.isEmpty
  | part :: parts, text =>
      (List.range (text.length + 1)).any fun i =>
        decide (part.Takes (text.take i)) && spells parts (text.drop i)

theorem spells_iff {parts : List TextPart} {text : List Char} :
  spells parts text = true ↔ Spell parts text
  := by
  induction parts generalizing text with
  | nil => exact List.isEmpty_iff
  | cons part parts ih =>
      rw [spells, List.any_eq_true]
      constructor
      · rintro ⟨i, -, hi⟩
        rw [Bool.and_eq_true, decide_eq_true_eq, ih] at hi
        exact ⟨_, _, (List.take_append_drop i text).symm, hi.1, hi.2⟩
      · rintro ⟨front, behind, rfl, hfront, hbehind⟩
        use front.length
        rw [List.mem_range, Bool.and_eq_true, decide_eq_true_eq, ih, List.take_left, List.drop_left,
          List.length_append]
        exact ⟨by omega, hfront, hbehind⟩

instance (parts : List TextPart) (text : List Char) : Decidable (Spell parts text) :=
  decidable_of_iff _ spells_iff

theorem spell_one {cls : CharClass} {more : List TextPart} {text : List Char} :
  Spell (one cls :: more) text ↔ ∃ c rest, text = c :: rest ∧ cls.contains c = true ∧ Spell more rest
  := by
  constructor
  · rintro ⟨_, rest, rfl, ⟨c, rfl, hc⟩, hrest⟩
    exact ⟨c, rest, rfl, hc, hrest⟩
  · rintro ⟨c, rest, rfl, hc, hrest⟩
    exact ⟨[c], rest, rfl, ⟨c, rfl, hc⟩, hrest⟩

theorem Spell.not_mem {parts : List TextPart} {text : List Char} {c : Char}
    (h : Spell parts text) (hc : ∀ part ∈ parts, part.cls.contains c = false) :
  c ∉ text
  := by
  induction parts generalizing text with
  | nil =>
      obtain rfl : text = [] := h
      exact List.not_mem_nil
  | cons part parts ih =>
      obtain ⟨front, behind, rfl, hfront, hbehind⟩ := h
      obtain ⟨hpart, hparts⟩ := List.forall_mem_cons.mp hc
      rw [List.mem_append, not_or]
      refine ⟨?_, ih hbehind hparts⟩
      intro hmem
      rw [hfront.contains c hmem] at hpart
      cases hpart

/-- The least length of the texts that a part stands for. -/
def least : TextPart → Nat
  | one _ => 1
  | many least _ => least
  | optional _ => 0

/-- The least number of characters of a text that some parts spell. -/
def leastLength : List TextPart → Nat
  | [] => 0
  | part :: parts => part.least + leastLength parts

theorem Spell.leastLength_le {parts : List TextPart} {text : List Char} (h : Spell parts text) :
  leastLength parts ≤ text.length
  := by
  induction parts generalizing text with
  | nil => apply Nat.zero_le
  | cons part parts ih =>
      obtain ⟨front, behind, rfl, hfront, hbehind⟩ := h
      have hpart : part.least ≤ front.length := by
        cases part with
        | one cls =>
            obtain ⟨c, rfl, -⟩ := hfront
            apply Nat.le_refl
        | many least cls => exact hfront.1
        | optional cls => apply Nat.zero_le
      rw [leastLength, List.length_append]
      exact Nat.add_le_add hpart (ih hbehind)

/-- The first characters of a text agree with the first parts, as far as these are single
characters. -/
def mayBegin : List TextPart → List Char → Bool
  | one cls :: parts, c :: text => cls.contains c && mayBegin parts text
  | _, _ => true

theorem Spell.mayBegin {parts : List TextPart} {text v more rest : List Char}
    (h : Spell parts text) (hv : text ++ more = v ++ rest) :
  mayBegin parts v = true
  := by
  induction v generalizing parts text with
  | nil =>
      cases parts with
      | nil => rfl
      | cons part parts => cases part <;> rfl
  | cons c v ih =>
      cases parts with
      | nil => rfl
      | cons part parts =>
          cases part with
          | one cls =>
              obtain ⟨d, text, rfl, hd, htext⟩ := spell_one.mp h
              obtain ⟨rfl, hmore⟩ := List.cons_eq_cons.mp hv
              rw [TextPart.mayBegin, hd, ih htext hmore]
              rfl
          | many least cls => rfl
          | optional cls => rfl

/-- The class of the last character, if the last part is a single one. -/
def endClass? (parts : List TextPart) : Option CharClass :=
  match parts.getLast? with
  | some (one cls) => some cls
  | _ => none

theorem Spell.exists_last {parts : List TextPart} {text : List Char} {cls : CharClass}
    (h : Spell parts text) (hcls : endClass? parts = some cls) :
  ∃ front c, text = front ++ [c] ∧ cls.contains c = true
  := by
  rw [endClass?] at hcls
  split at hcls
  · next cls' hlast =>
      cases hcls
      obtain ⟨before, rfl⟩ := List.getLast?_eq_some_iff.mp hlast
      obtain ⟨front, _, rfl, -, hend⟩ := spell_append.mp h
      obtain ⟨c, _, rfl, hc, hnil⟩ := spell_one.mp hend
      obtain rfl := hnil
      exact ⟨front, c, rfl, hc⟩
  · cases hcls

end TextPart

namespace Regex

/-- Some expressions one after the other. -/
def inOrder : List Regex → Regex
  | [] => .empty
  | [r] => r
  | r :: rest => .seq r (inOrder rest)

/-- One of some expressions. -/
def oneOf : List Regex → Regex
  | [] => .empty
  | [r] => r
  | r :: rest => .alt r (oneOf rest)

theorem Takes.congr {r : Regex} {K L : List Char → Prop} (h : r.Takes K)
    (hL : ∀ text, K text ↔ L text) :
  r.Takes L
  := by
  have heq : K = L := by
    funext text
    rw [hL]
  rw [← heq]
  exact h

theorem takes_inOrder {rs : List Regex} {Ls : List (List Char → Prop)}
    (h : List.Forall₂ Takes rs Ls) :
  (inOrder rs).Takes (Concat Ls)
  := by
  induction h with
  | nil =>
      apply takes_of_reads
      constructor
      · intro s t k hreached
        exact ⟨s, ⟨[], rfl, .nil s⟩, hreached⟩
      · rintro s m t k ⟨_, rfl, hmoves⟩ hm
        rw [hmoves.eq_of_nil] at hm
        exact ⟨t, hm⟩
  | @cons r L rs Ls hr hrest ih =>
      cases hrest with
      | nil => exact hr.congr fun text => concat_singleton.symm
      | cons _ _ => exact hr.seq ih

theorem takes_oneOf {parts : List (List TextPart)} (hne : parts ≠ []) :
  (oneOf (parts.map fun part => inOrder (part.map TextPart.regex))).Takes
    fun text => ∃ part ∈ parts, TextPart.Spell part text
  := by
  have hpart : ∀ part : List TextPart,
      (inOrder (part.map TextPart.regex)).Takes (TextPart.Spell part) := by
    intro part
    apply takes_inOrder
    rw [List.forall₂_map_left_iff, List.forall₂_map_right_iff, List.forall₂_same]
    exact fun p _ => p.takes_regex
  induction parts with
  | nil => exact absurd rfl hne
  | cons part parts ih =>
      cases parts with
      | nil => exact (hpart part).congr fun text => by simp
      | cons next more =>
          refine ((hpart part).alt (ih (List.cons_ne_nil _ _))).congr fun text => ?_
          simp only [List.mem_cons, exists_eq_or_imp]

end Regex

/-! ### Forms of secrets -/

/-- The form of a secret: a name, of which all have the first letters in common, what links it to a
value, and the value, a run of characters of a class. -/
structure SecretForm where
  lead : List TextPart
  names : List (List TextPart)
  link : List TextPart
  value : CharClass
  named : names ≠ []

namespace SecretForm

open TextPart (Spell)

/-- The parts of a secret with a value of at least some length. -/
def parts (form : SecretForm) (name : List TextPart) (least : Nat) : List TextPart :=
  form.lead ++ (name ++ (form.link ++ [.many least form.value]))

/-- The text is a secret. -/
def Holds (form : SecretForm) (text : List Char) : Prop :=
  ∃ name ∈ form.names, Spell (form.parts name 1) text

/-- The text is the beginning of a secret, up to some place in the value or before it: what follows
it there belongs to the value. -/
def Opens (form : SecretForm) (text : List Char) : Prop :=
  ∃ name ∈ form.names, Spell (form.parts name 0) text

/-- The regular expression of secrets. -/
def regex (form : SecretForm) : Regex :=
  .inOrder (form.lead.map TextPart.regex
    ++ .oneOf (form.names.map fun name => .inOrder (name.map TextPart.regex))
    :: (form.link.map TextPart.regex ++ [.group 1 (TextPart.many 1 form.value).regex]))

theorem takes_regex (form : SecretForm) :
  form.regex.Takes form.Holds
  := by
  have hparts : ∀ parts : List TextPart,
      List.Forall₂ Regex.Takes (parts.map TextPart.regex) (parts.map TextPart.Takes) := by
    intro parts
    rw [List.forall₂_map_left_iff, List.forall₂_map_right_iff, List.forall₂_same]
    exact fun part _ => part.takes_regex
  have hvalue := ((TextPart.many 1 form.value).takes_regex).group 1
  have hwhole := Regex.takes_inOrder (List.rel_append (hparts form.lead)
    (.cons (Regex.takes_oneOf form.named) (List.rel_append (hparts form.link) (.cons hvalue .nil))))
  apply hwhole.congr
  intro text
  rw [concat_append]
  constructor
  · rintro ⟨lead, _, rfl, hlead, name, behind, rfl, ⟨part, hpart, hname⟩, hbehind⟩
    refine ⟨part, hpart, TextPart.spell_append.mpr ⟨lead, _, rfl, hlead, ?_⟩⟩
    refine TextPart.spell_append.mpr ⟨name, behind, rfl, hname, ?_⟩
    rw [Spell, List.map_append]
    exact hbehind
  · rintro ⟨part, hpart, hspell⟩
    obtain ⟨lead, _, rfl, hlead, hmore⟩ := TextPart.spell_append.mp hspell
    obtain ⟨name, behind, rfl, hname, hbehind⟩ := TextPart.spell_append.mp hmore
    refine ⟨lead, _, rfl, hlead, name, behind, rfl, ⟨part, hpart, hname⟩, ?_⟩
    rw [Spell, List.map_append] at hbehind
    exact hbehind

/-- The character stands only in values, or as the first letter of a name. -/
def onlyInValues (form : SecretForm) (c : Char) : Bool :=
  form.names.all fun name =>
    match form.lead ++ name with
    | .one _ :: more => (more ++ form.link).all fun part => !part.cls.contains c
    | _ => false

theorem exists_of_onlyInValues {form : SecretForm} {c : Char} (hc : form.onlyInValues c = true)
    {name : List TextPart} (hname : name ∈ form.names) :
  ∃ cls more, form.lead ++ name = .one cls :: more
    ∧ ∀ part ∈ more ++ form.link, part.cls.contains c = false
  := by
  have hname' := List.all_eq_true.mp hc name hname
  split at hname'
  · next cls more hparts =>
      refine ⟨cls, more, hparts, ?_⟩
      simpa only [List.all_eq_true, Bool.not_eq_true'] using hname'
  · cases hname'

instance (form : SecretForm) (text : List Char) : Decidable (form.Opens text) :=
  inferInstanceAs (Decidable (∃ name ∈ form.names, Spell (form.parts name 0) text))

theorem Opens.not_mem {form : SecretForm} {v : List Char} {c : Char} (h : form.Opens v)
    (hc : ∀ name ∈ form.names, ∀ part ∈ form.parts name 0, part.cls.contains c = false) :
  c ∉ v
  := by
  obtain ⟨name, hname, hspell⟩ := h
  exact hspell.not_mem (hc name hname)

/-- What stands in a secret before a character that stands only in values opens the secret. -/
theorem Holds.opens {form : SecretForm} {c d : Char} {v rest : List Char}
    (h : form.Holds (d :: v ++ c :: rest)) (hc : form.onlyInValues c = true) :
  form.Opens (d :: v)
  := by
  obtain ⟨name, hname, hspell⟩ := h
  obtain ⟨cls, more, hparts, hmiss⟩ := exists_of_onlyInValues hc hname
  have hassoc : ∀ least, form.parts name least
      = .one cls :: (more ++ form.link ++ [.many least form.value]) := by
    intro least
    rw [parts, ← List.append_assoc, hparts, List.cons_append, List.append_assoc]
  rw [hassoc] at hspell
  obtain ⟨_, _, htext, hcls, hmore⟩ := TextPart.spell_one.mp hspell
  obtain ⟨rfl, rfl⟩ := List.cons_eq_cons.mp htext
  obtain ⟨front, value, hsplit, hfront, hvalue⟩ := TextPart.spell_append.mp hmore
  have hc' : c ∉ front := hfront.not_mem hmiss
  refine ⟨name, hname, ?_⟩
  rw [hassoc, TextPart.spell_one]
  refine ⟨d, v, rfl, hcls, TextPart.spell_append.mpr ?_⟩
  have hvalue' : ∀ x ∈ value, form.value.contains x = true := (concat_singleton.mp hvalue).2
  have hbegun : ∀ begun, (∀ x ∈ begun, x ∈ value) → Spell [.many 0 form.value] begun :=
    fun begun hsub => concat_singleton.mpr ⟨Nat.zero_le _, fun x hx => hvalue' x (hsub x hx)⟩
  obtain ⟨missing, rfl, hrest⟩ | ⟨begun, rfl, rfl⟩ := List.append_eq_append_iff.mp hsplit
  · cases missing with
    | nil => exact ⟨v, [], by simp, by rwa [List.append_nil] at hfront, hbegun [] (by simp)⟩
    | cons x missing =>
        obtain ⟨rfl, -⟩ := List.cons_eq_cons.mp hrest
        exact absurd (List.mem_append_right v List.mem_cons_self) hc'
  · exact ⟨front, begun, rfl, hfront, hbegun begun fun x => List.mem_append_left _⟩

theorem not_holds_nil (form : SecretForm) : ¬ form.Holds [] := by
  rintro ⟨name, -, hspell⟩
  have hpos : ∀ front, 1 ≤ TextPart.leastLength (front ++ [.many 1 form.value]) := by
    intro front
    induction front with
    | nil => exact Nat.le_refl 1
    | cons part front ih => exact Nat.le_trans ih (Nat.le_add_left _ _)
  have hlength := hspell.leastLength_le
  rw [parts, ← List.append_assoc, ← List.append_assoc] at hlength
  exact absurd (Nat.le_trans (hpos _) hlength) (by decide)

/-- The text of a secret begins as its name does. -/
theorem mayBegin_of_spell {form : SecretForm} {name : List TextPart} {least : Nat}
    {text v more rest : List Char} (h : Spell (form.parts name least) text)
    (hv : text ++ more = v ++ rest) :
  TextPart.mayBegin (form.lead ++ name) v = true
  := by
  rw [parts, ← List.append_assoc] at h
  obtain ⟨front, behind, rfl, hfront, -⟩ := TextPart.spell_append.mp h
  rw [List.append_assoc] at hv
  exact hfront.mayBegin hv

/-! ### Assignments and credentials -/

/-- A letter in either case. -/
def letter (c : Char) : CharClass := { items := [.code c.toNat], caseRule := .unicode }

/-- The letters of a word. -/
def word (text : String) : List TextPart := text.toList.map fun c => .one (letter c)

theorem spell_word {text : String} {spelled : List Char}
    (h : List.Forall₂ (fun c d => (letter c).contains d = true) text.toList spelled) :
  Spell (word text) spelled
  := by
  rw [word]
  generalize text.toList = letters at h ⊢
  induction h with
  | nil => rfl
  | cons hc _ ih => exact TextPart.spell_one.mpr ⟨_, _, rfl, hc, ih⟩

def blank : CharClass := { items := [.kind .space false], caseRule := .unicode }

/-- What may stand between the words of a name. -/
def joint : TextPart :=
  .optional { items := [.code '_'.toNat, .code '-'.toNat], caseRule := .unicode }

def sign : CharClass := { items := [.code ':'.toNat, .code '='.toNat], caseRule := .unicode }

def quote : CharClass := { items := [.code '\x22'.toNat, .code '\x27'.toNat], caseRule := .unicode }

/-- A value that is assigned to a name. -/
def assignment : SecretForm where
  lead := []
  names := [word "password", word "passwd", word "pwd", word "secret", word "token",
    word "api" ++ joint :: word "key", word "auth" ++ joint :: word "token"]
  link := [.many 0 blank, .one sign, .many 0 blank, .optional quote]
  value :=
    { items := [.code '\x22'.toNat, .code '\x27'.toNat, .kind .space false, .code ','.toNat]
      negated := true
      caseRule := .unicode }
  named := List.cons_ne_nil _ _

/-- A token behind the name of its scheme, `bearer` or `basic`. -/
def credential : SecretForm where
  lead := word "b"
  names := [word "earer", word "asic"]
  link := [.many 1 blank]
  value :=
    { items := [.range 'a'.toNat 'z'.toNat, .range 'A'.toNat 'Z'.toNat, .range '0'.toNat '9'.toNat,
        .code '+'.toNat, .code '/'.toNat, .code '='.toNat, .code '.'.toNat, .code '_'.toNat,
        .code '-'.toNat]
      caseRule := .unicode }
  named := List.cons_ne_nil _ _

end SecretForm

end AccessControl
