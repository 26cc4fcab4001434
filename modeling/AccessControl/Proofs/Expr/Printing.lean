import AccessControl.Proofs.Expr.Spelling

/-!
# Printing and parsing

A printed expression is parsed to itself, `parse_printed`, with parentheses only where the table of
precedence needs them as well as with all of them.  Every symbol has a spelling, so the grammar
writes no symbols for two expressions, `Derives.unique`.
-/

namespace AccessControl

namespace Grammar

/-! ### Derivations are parsed -/

theorem readable_dotted {parts : List String} (h : ∀ part ∈ parts, IsWord part) :
  ∀ s ∈ dotted parts, s.Readable
  := by
  induction parts with
  | nil => nofun
  | cons part parts ih =>
      obtain ⟨hpart, hparts⟩ := List.forall_mem_cons.mp h
      rw [dotted, List.forall_mem_cons, List.forall_mem_cons]
      exact ⟨trivial, hpart, ih hparts⟩

theorem readable_group {ss : List Symbol} (h : ∀ s ∈ ss, s.Readable) :
  ∀ s ∈ Symbol.opening :: (ss ++ [.closing]), s.Readable
  := by
  rw [List.forall_mem_cons, List.forall_mem_append, List.forall_mem_singleton]
  exact ⟨trivial, h, trivial⟩

theorem readable_between {r : Symbol} {ss rs : List Symbol} (hr : r.Readable)
    (hss : ∀ s ∈ ss, s.Readable) (hrs : ∀ s ∈ rs, s.Readable) :
  ∀ s ∈ ss ++ r :: rs, s.Readable
  := by
  rw [List.forall_mem_append, List.forall_mem_cons]
  exact ⟨hss, hr, hrs⟩

mutual

/-- The grammar writes short numbers and words only. -/
theorem Derives.readable {level : Level} {t : Expr} {ss : List Symbol} (d : Derives level t ss) :
  ∀ s ∈ ss, s.Readable
  := by
  match d with
  | .int h => exact List.forall_mem_singleton.mpr h
  | .text _ => exact List.forall_mem_singleton.mpr trivial
  | .bool _ => exact List.forall_mem_singleton.mpr trivial
  | .identifier h => exact List.forall_mem_singleton.mpr h.toIsWord
  | .field hscope hparts =>
      rw [List.forall_mem_cons]
      exact ⟨hscope.toIsWord, readable_dotted hparts⟩
  | .call hf arguments =>
      rw [List.forall_mem_cons]
      exact ⟨hf.toIsWord, readable_group arguments.readable⟩
  | .tuple _ items => exact readable_group items.readable
  | .group inner => exact readable_group inner.readable
  | .unary op operand =>
      rw [List.forall_mem_cons]
      use (by cases op <;> trivial)
      exact operand.readable
  | .connective j left right =>
      exact readable_between (r := .connective j) trivial left.readable right.readable
  | .loosen _ tighter => exact tighter.readable

theorem DerivesAll.readable {es : List Expr} {ss : List Symbol} (d : DerivesAll es ss) :
  ∀ s ∈ ss, s.Readable
  := by
  match d with
  | .nil => nofun
  | .one item => exact item.readable
  | .more item others =>
      exact readable_between (r := .comma) trivial item.readable others.readable

end

/-- Whatever text the grammar allows for an expression is parsed to the expression. -/
theorem Derives.parse {t : Expr} {ss : List Symbol} (d : Derives .disjunction t ss) {text : String}
    (h : Spaced ss text.toList) :
  Expr.parse text = .ok t
  := by
  obtain ⟨ts, u, htokens, hwrites, hend⟩ := tokenize_of_spaced h d.readable
  rw [Expr.parse, htokens]
  simp only [wholeExpression_of_derives d hwrites hend]

/-! ### A spelling of every symbol -/

/-- A character between two double quotes. -/
def escape (c : Char) : List Char := if c = '\\' ∨ c = '"' then ['\\', c] else [c]

/-- One spelling of a symbol. -/
def Symbol.spelling : Symbol → List Char
  | .int n => (toString n).toList
  | .text s => '"' :: (s.toList.flatMap escape ++ ['"'])
  | .bool b => (toString b).toList
  | .word s => s.toList
  | .connective (.logical op) => op.symbol.toList
  | .connective (.binary op) => op.symbol.toList
  | .not => "!".toList
  | .opening => "(".toList
  | .closing => ")".toList
  | .comma => ",".toList
  | .dot => ".".toList

/-- Spellings of symbols with one blank between two of them. -/
def spelled : List Symbol → List Char
  | [] => []
  | [s] => s.spelling
  | s :: r :: ss => s.spelling ++ ' ' :: spelled (r :: ss)

theorem escaped_flatMap (cs : List Char) :
  Escaped '"' cs (cs.flatMap escape)
  := by
  induction cs with
  | nil => apply Escaped.nil
  | cons c cs ih =>
      rw [List.flatMap_cons, escape]
      split
      case isTrue h =>
        apply Escaped.escape
        · obtain rfl | rfl := h <;> rfl
        · exact ih
      case isFalse h =>
        rw [not_or] at h
        exact Escaped.plain h.1 h.2 ih

theorem spells_spelling (s : Symbol) :
  s.Spells s.spelling
  := by
  cases s with
  | text s => exact ⟨'"', _, .inr rfl, escaped_flatMap _, rfl⟩
  | connective j =>
      cases j with
      | logical op => exact .inl rfl
      | binary op => rfl
  | not => exact .inl rfl
  | int n => rfl
  | bool b => rfl
  | word s => rfl
  | opening | closing | comma | dot => rfl

/-- One more blank at the start of a text changes no symbol. -/
theorem Spaced.blank {ss : List Symbol} {cs : List Char} (h : Spaced ss cs) :
  Spaced ss (' ' :: cs)
  := by
  cases h with
  | nil hgap => exact .nil (List.forall_mem_cons.mpr ⟨rfl, hgap⟩)
  | cons hgap hspells hbreaks rest =>
      exact .cons (List.forall_mem_cons.mpr ⟨rfl, hgap⟩) hspells hbreaks rest

/-- Every symbol can be written. -/
theorem spaced_spelled (ss : List Symbol) :
  Spaced ss (spelled ss)
  := by
  have hgap : ∀ c ∈ ([] : List Char), isBlank c = true := by nofun
  induction ss with
  | nil => exact .nil hgap
  | cons s ss ih =>
      cases ss with
      | nil =>
          have hone : Spaced [s] ([] ++ (s.spelling ++ [])) :=
            .cons hgap (spells_spelling s) (by nofun) (.nil hgap)
          rwa [List.nil_append, List.append_nil] at hone
      | cons r ss =>
          have hbreaks : Breaks (' ' :: spelled (r :: ss)) := by
            rintro _ ⟨⟩
            rfl
          exact .cons hgap (spells_spelling s) hbreaks ih.blank

/-- The grammar is not ambiguous. -/
theorem Derives.unique {t u : Expr} {ss : List Symbol} (dt : Derives .disjunction t ss)
    (du : Derives .disjunction u ss) :
  t = u
  := by
  have hspaced : Spaced ss (String.ofList (spelled ss)).toList := by
    rw [String.toList_ofList]
    apply spaced_spelled
  have ht := dt.parse hspaced
  rw [du.parse hspaced] at ht
  cases ht
  rfl

/-! ### Printed expressions are parsed -/

/-- An expression that the grammar can write is parsed from its sparse printing, which has as few
parentheses as the table of precedence allows, and from its full printing; whichever spellings of
its symbols are taken, and whatever blanks stand between them. -/
theorem parse_printed {t : Expr} (h : WellFormed t) :
  (∀ ss, Derives .disjunction t ss → parens (sparse t) ≤ parens ss)
    ∧ (∀ text : String, Spaced (sparse t) text.toList → Expr.parse text = .ok t)
    ∧ ∀ text : String, Spaced (full t) text.toList → Expr.parse text = .ok t
  := by
  refine ⟨?_, ?_, ?_⟩
  · intro ss d
    exact d.parens_le
  · intro text hspaced
    exact (derives_printed h _ .disjunction).parse hspaced
  · intro text hspaced
    exact (derives_printed h _ .disjunction).parse hspaced

/-- An expression of every kind, with operators of every level. -/
def mixed : Expr :=
  .logical .or
    (.unary .not (.binary .isIn (.field "r" "sub" ["in"])
      (.tuple [.literal (.text "a\"b"), .call "f" [.identifier "x", .literal (.bool true)]])))
    (.logical .and
      (.binary .lt
        (.binary .sub (.literal (.int 1)) (.binary .sub (.literal (.int 2)) (.literal (.int 30))))
        (.binary .mul (.unary .minus (.identifier "x")) (.literal (.int 4))))
      (.call "g" []))

/-- The sparse printing of the expression. -/
def mixedText : String :=
  "! ( r . sub . in in ( \"a\\\"b\" , f ( x , true ) ) ) || 1 - ( 2 - 30 ) < - x * 4 && g ( )"

theorem parse_printed_mixed :
  WellFormed mixed ∧ Spaced (sparse mixed) mixedText.toList ∧ Expr.parse mixedText = .ok mixed
  := by
  have hwell : WellFormed mixed := by
    simp only [mixed, WellFormed, AllWellFormed]
    decide
  have hspaced : Spaced (sparse mixed) mixedText.toList := by
    have htext : mixedText.toList = spelled (sparse mixed) := by 
      rw [mixedText, String.toList_ofList]
      rfl
    rw [htext]
    apply spaced_spelled
  exact ⟨hwell, hspaced, (parse_printed hwell).2.1 mixedText hspaced⟩

end Grammar

end AccessControl
