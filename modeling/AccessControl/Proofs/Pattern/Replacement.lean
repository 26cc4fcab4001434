import AccessControl.Proofs.Pattern.Forward

/-!
# Texts with parts replaced

What a replacement makes of a text: some parts of it are hidden behind a mark, and the characters
between them are kept, `Replaced`.  What is found in the result without touching a mark stands in
the text, `Replaced.infix_of`, and where no hidden part crosses a place, the text before it and the
text behind it are replaced each by itself, `Replaced.of_append`.
-/

namespace AccessControl

/-- A text with a mark in the place of some parts.  Each part satisfies `hidden`, and a character
is kept where what stands there satisfies `kept`, or behind a part that is empty. -/
inductive Replaced (hidden kept : List Char → Prop) (mark : List Char) :
    List Char → List Char → Prop
  | nil : Replaced hidden kept mark [] []
  | keep {c : Char} {rest out : List Char} (hkept : hidden [] ∨ kept (c :: rest))
      (h : Replaced hidden kept mark rest out) : Replaced hidden kept mark (c :: rest) (c :: out)
  | hide {taken rest out : List Char} (hhidden : hidden taken)
      (h : Replaced hidden kept mark rest out) :
      Replaced hidden kept mark (taken ++ rest) (mark ++ out)

/-! ### Replacing every match -/

namespace Regex

variable {r : Regex} {hidden kept : List Char → Prop} {mark : List Char}

section Search

variable (hcomplete : ∀ s, r.matchAt s = none → kept s.rest)
include hcomplete

/-- Where nothing is found, every character is kept. -/
theorem replaced_of_searchFrom_eq_none {s : Cursor}
    (h : r.searchFrom (fun _ => true) s.rest s = none) :
  Replaced hidden kept mark s.rest s.rest
  := by
  generalize hrest : s.rest = rest at h ⊢
  induction rest generalizing s with
  | nil => exact .nil
  | cons c rest ih =>
      obtain ⟨next, hstep, hnext⟩ :=
        Cursor.Moves.exists_of_rest (show s.rest = [c] ++ rest from hrest)
      rw [searchFrom, if_pos rfl, Cursor.step?_eq_some.mpr ⟨c, rfl, hstep⟩] at h
      cases ht : r.matchAt s with
      | some t =>
          rw [ht] at h
          cases h
      | none =>
          rw [ht] at h
          have hkept : kept (c :: rest) := hrest ▸ hcomplete s ht
          exact .keep (.inr hkept) (ih hnext h)

variable (hsound : ∀ (s t : Cursor), r.matchAt s = some t →
  ∃ taken, hidden taken ∧ s.Passes taken t)
include hsound

/-- The characters before the first match are kept, and what it takes is hidden. -/
theorem replaced_of_searchFrom_eq_some (mark : List Char) {s first last : Cursor}
    (h : r.searchFrom (fun _ => true) s.rest s = some (first, last)) :
  ∃ before taken, s.Passes before first ∧ hidden taken ∧ first.Passes taken last
    ∧ ∀ out, Replaced hidden kept mark first.rest out →
      Replaced hidden kept mark s.rest (before ++ out)
  := by
  generalize hrest : s.rest = rest at h ⊢
  induction rest generalizing s with
  | nil =>
      rw [searchFrom] at h
      obtain ⟨t, ht, hpair⟩ := Option.map_eq_some_iff.mp h
      cases hpair
      obtain ⟨taken, htaken, hpasses⟩ := hsound _ _ ht
      exact ⟨[], taken, (Cursor.Moves.nil _).passes, htaken, hpasses, fun _ hout => by
        rwa [hrest] at hout⟩
  | cons c rest ih =>
      obtain ⟨next, hstep, hnext⟩ :=
        Cursor.Moves.exists_of_rest (show s.rest = [c] ++ rest from hrest)
      rw [searchFrom, if_pos rfl, Cursor.step?_eq_some.mpr ⟨c, rfl, hstep⟩] at h
      cases ht : r.matchAt s with
      | some t =>
          rw [ht] at h
          cases h
          obtain ⟨taken, htaken, hpasses⟩ := hsound _ _ ht
          exact ⟨[], taken, (Cursor.Moves.nil _).passes, htaken, hpasses, fun _ hout => by
            rwa [hrest] at hout⟩
      | none =>
          rw [ht] at h
          have hkept : kept (c :: rest) := hrest ▸ hcomplete s ht
          obtain ⟨before, taken, hbefore, htaken, hpasses, hmore⟩ := ih hnext h
          refine ⟨c :: before, taken, hstep.passes.append hbefore, htaken, hpasses, ?_⟩
          intro out hout
          exact .keep (.inr hkept) (hnext ▸ hmore out hout)

theorem replaced_replaceFrom {fuel : Nat} {s : Cursor} (hfuel : s.rest.length < fuel) :
  Replaced hidden kept mark s.rest (r.replaceFrom [.chars mark] fuel s)
  := by
  induction fuel generalizing s with
  | zero => cases hfuel
  | succ fuel ih =>
      rw [replaceFrom]
      cases hfound : r.searchFrom (fun _ => true) s.rest s with
      | none => exact replaced_of_searchFrom_eq_none hcomplete hfound
      | some found =>
          obtain ⟨first, last⟩ := found
          obtain ⟨before, taken, hbefore, hhidden, htaken, hout⟩ :=
            replaced_of_searchFrom_eq_some hcomplete hsound mark hfound
          have hlength : last.rest.length + taken.length ≤ s.rest.length := by
            rw [hbefore.rest, htaken.rest, List.length_append, List.length_append]
            omega
          have htext : ([.chars mark] : List TemplatePart).flatMap (TemplatePart.expand
              (first.rest.take (last.position - first.position)) last) = mark := by
            rw [List.flatMap_singleton]
            rfl
          dsimp only
          rw [htext, hbefore.take_rest, List.append_assoc]
          cases taken with
          | nil =>
              rw [if_pos (show first.position = last.position from htaken.position.symm)]
              have hrest : first.rest = [] ++ last.rest := htaken.rest
              cases hlast : last.rest with
              | nil =>
                  rw [hlast] at hrest
                  have hend : Replaced hidden kept mark first.rest (mark ++ []) := by
                    rw [hrest]
                    exact .hide hhidden .nil
                  rw [List.append_nil] at hend
                  exact hout mark hend
              | cons c rest =>
                  rw [hlast, List.length_cons] at hlength
                  rw [hlast] at hrest
                  have hnext := ih (s := ⟨c :: last.before, rest, last.position + 1, {}⟩)
                    (show rest.length < fuel by omega)
                  dsimp only
                  rw [List.append_assoc]
                  apply hout
                  rw [hrest]
                  exact .hide hhidden (.keep (.inl hhidden) hnext)
          | cons c more =>
              have hne : first.position ≠ last.position := by
                rw [htaken.position, List.length_cons]
                omega
              rw [List.length_cons] at hlength
              rw [if_neg hne]
              have hnext := ih (s := { last with marks := {} })
                (show last.rest.length < fuel by omega)
              apply hout
              rw [htaken.rest]
              exact .hide hhidden hnext

end Search

/-- An expression replaces the texts that it takes, and keeps a character only where none of them
stands. -/
theorem Takes.replaced {L : List Char → Prop} (h : r.Takes L) (mark text : List Char) :
  Replaced L (fun rest => ∀ taken, L taken → ¬ taken <+: rest) mark text
    (r.replaceAll [.chars mark] text)
  :=
  replaced_replaceFrom (s := .start text) (fun _ hnone _ htaken => h.not_prefix hnone htaken)
    (fun _ _ => h.of_matchAt) (Nat.lt_succ_self _)

end Regex

/-! ### Parts that miss a character -/

section Missing

variable {s x y : List Char} {c : Char}

theorem prefix_of_prefix_append_cons (hc : c ∉ s) (h : s <+: x ++ c :: y) :
  s <+: x
  := by
  have hfront : x ++ [c] <+: x ++ c :: y := ⟨y, by rw [List.append_assoc, List.singleton_append]⟩
  obtain hs | hs := List.prefix_or_prefix_of_prefix h hfront
  · obtain rfl | hs := List.prefix_concat_iff.mp hs
    · exact absurd (List.mem_append_right _ (List.mem_singleton_self c)) hc
    · exact hs
  · exact absurd (hs.subset (List.mem_append_right _ (List.mem_singleton_self c))) hc

theorem suffix_of_suffix_append_cons (hc : c ∉ s) (h : s <:+ x ++ c :: y) :
  s <:+ y
  := by
  obtain hs | hs := List.suffix_or_suffix_of_suffix h (List.suffix_append x (c :: y))
  · obtain rfl | hs := List.suffix_cons_iff.mp hs
    · exact absurd List.mem_cons_self hc
    · exact hs
  · exact absurd (hs.subset List.mem_cons_self) hc

theorem infix_of_infix_append_cons (hc : c ∉ s) (h : s <:+: x ++ c :: y) :
  s <:+: x ∨ s <:+: y
  := by
  induction x with
  | nil =>
      obtain hs | hs := List.infix_cons_iff.mp h
      · exact .inl (prefix_of_prefix_append_cons (x := []) hc hs).isInfix
      · exact .inr hs
  | cons d x ih =>
      obtain hs | hs := List.infix_cons_iff.mp h
      · exact .inl (prefix_of_prefix_append_cons hc hs).isInfix
      · obtain hs | hs := ih hs
        · exact .inl (hs.trans (List.suffix_cons d x).isInfix)
        · exact .inr hs

end Missing

namespace Replaced

variable {hidden kept : List Char → Prop} {mark text out p s v x y : List Char}

/-- More may be hidden, and more may be kept. -/
theorem mono {hidden' kept' : List Char → Prop} (h : Replaced hidden kept mark text out)
    (hhidden : ∀ taken, hidden taken → hidden' taken) (hkept : ∀ rest, kept rest → kept' rest) :
  Replaced hidden' kept' mark text out
  := by
  induction h with
  | nil => exact .nil
  | keep hkeep _ ih => exact .keep (hkeep.imp (hhidden _) (hkept _)) ih
  | hide htaken _ ih => exact .hide (hhidden _ htaken) ih

/-- The parts that are hidden and the places that are kept may be forgotten. -/
theorem weaken (h : Replaced hidden kept mark text out) :
  Replaced (fun _ => True) (fun _ => True) mark text out
  := h.mono (fun _ _ => trivial) fun _ _ => trivial

/-! ### Parts of the result -/

section Marks

variable {first last : Char} {inner : List Char}

/-- Up to a mark the result is the text, and the rest of it is what the rest of the text becomes. -/
theorem exists_of_append (h : Replaced hidden kept (first :: inner) text (p ++ out))
    (hfirst : first ∉ p) :
  ∃ rest, text = p ++ rest ∧ Replaced hidden kept (first :: inner) rest out
  := by
  induction p generalizing text with
  | nil =>
      use text, rfl
      exact h
  | cons c p ih =>
      generalize hout : c :: p ++ out = whole at h
      cases h with
      | nil => cases hout
      | keep _ hrest =>
          obtain ⟨rfl, rfl⟩ := List.cons_eq_cons.mp hout
          obtain ⟨rest, rfl, h⟩ := ih hrest (List.not_mem_of_not_mem_cons hfirst)
          exact ⟨rest, rfl, h⟩
      | hide _ _ =>
          obtain ⟨rfl, -⟩ := List.cons_eq_cons.mp hout
          exact absurd List.mem_cons_self hfirst

/-- What the result begins with, up to a mark, the text begins with. -/
theorem prefix_of (h : Replaced hidden kept (first :: inner) text out) (hp : p <+: out)
    (hfirst : first ∉ p) :
  p <+: text
  := by
  obtain ⟨behind, rfl⟩ := hp
  obtain ⟨rest, rfl, -⟩ := h.exists_of_append hfirst
  apply List.prefix_append

/-- What stands in the result and touches no mark stands in the text. -/
theorem infix_of (h : Replaced hidden kept (first :: (inner ++ [last])) text out)
    (hs : s <:+: out) (hfirst : first ∉ s) (hlast : last ∉ s) (hinner : ¬ s <:+: inner) :
  s <:+: text
  := by
  have hwhole := h
  induction h with
  | nil => exact hs
  | keep _ hrest ih =>
      obtain hfront | hmore := List.infix_cons_iff.mp hs
      · exact (hwhole.prefix_of hfront hfirst).isInfix
      · exact (ih hmore hrest).trans (List.suffix_cons _ _).isInfix
  | @hide taken rest out _ hrest ih =>
      rw [List.cons_append, List.append_assoc, List.singleton_append] at hs
      obtain hs | hs := infix_of_infix_append_cons (x := []) hfirst hs
      · obtain rfl := List.eq_nil_of_infix_nil hs
        exact List.nil_infix
      · obtain hs | hs := infix_of_infix_append_cons hlast hs
        · exact absurd hs hinner
        · exact (ih hs hrest).trans (List.suffix_append _ _).isInfix

/-- A text is left as it is where nothing of the mark is found. -/
theorem eq_of_not_mem {mark : List Char} (h : Replaced hidden kept mark text out)
    (hmark : last ∈ mark) (hout : last ∉ out) :
  out = text
  := by
  induction h with
  | nil => rfl
  | keep _ _ ih => rw [ih (List.not_mem_of_not_mem_cons hout)]
  | hide _ _ _ => exact absurd (List.mem_append_left _ hmark) hout

/-- What the result ends with, behind the last mark, the text ends with. -/
theorem suffix_of (h : Replaced hidden kept (inner ++ [last]) text out) (hv : v <:+ out)
    (hlast : last ∉ v) :
  v <:+ text
  := by
  have hwhole := h
  induction h with
  | nil => exact hv
  | keep _ hrest ih =>
      obtain rfl | hmore := List.suffix_cons_iff.mp hv
      · exact ⟨[], hwhole.eq_of_not_mem
          (List.mem_append_right _ (List.mem_singleton_self last)) hlast⟩
      · exact (ih hmore hrest).trans (List.suffix_cons _ _)
  | @hide taken rest out _ hrest ih =>
      rw [List.append_assoc, List.singleton_append] at hv
      have hmore := suffix_of_suffix_append_cons hlast hv
      exact (ih hmore hrest).trans (List.suffix_append _ _)

end Marks

/-! ### Places that no part crosses -/

/-- Where no hidden part crosses a place, what stands before it and what stands behind it are
replaced each by itself. -/
theorem of_append (h : Replaced hidden kept mark (x ++ y) out)
    (hcross : ∀ v z, v <:+ x → v ≠ [] → z <+: y → z ≠ [] → ¬ hidden (v ++ z)) :
  ∃ outx outy, out = outx ++ outy ∧ Replaced hidden (fun _ => True) mark x outx
    ∧ Replaced hidden kept mark y outy
  := by
  generalize htext : x ++ y = text at h
  induction h generalizing x with
  | nil =>
      obtain ⟨rfl, rfl⟩ := List.append_eq_nil_iff.mp htext
      exact ⟨[], [], rfl, .nil, .nil⟩
  | @keep c rest out hkept hrest ih =>
      cases x with
      | nil =>
          obtain rfl := htext
          exact ⟨[], _, rfl, .nil, .keep hkept hrest⟩
      | cons d x =>
          obtain ⟨rfl, rfl⟩ := List.cons_eq_cons.mp htext
          obtain ⟨outx, outy, rfl, hx, hy⟩ :=
            ih (fun v z hv => hcross v z (hv.trans (List.suffix_cons _ _))) rfl
          exact ⟨d :: outx, outy, rfl, .keep (.inr trivial) hx, hy⟩
  | @hide taken rest out hhidden hrest ih =>
      obtain ⟨z, htaken, rfl⟩ | ⟨x', rfl, rfl⟩ := List.append_eq_append_iff.mp htext
      · -- the part ends behind the place, so it begins there or ends there
        by_cases hx : x = []
        · subst hx
          obtain rfl : taken = z := htaken
          exact ⟨[], _, rfl, .nil, .hide hhidden hrest⟩
        · by_cases hz : z = []
          · subst hz
            obtain rfl : taken = x := htaken.trans (List.append_nil x)
            have hx : Replaced hidden (fun _ => True) mark (taken ++ []) (mark ++ []) :=
              .hide hhidden .nil
            rw [List.append_nil, List.append_nil] at hx
            exact ⟨mark, out, rfl, hx, hrest⟩
          · rw [htaken] at hhidden
            exact absurd hhidden (hcross x z List.suffix_rfl hx (List.prefix_append _ _) hz)
      · obtain ⟨outx, outy, rfl, hx, hy⟩ :=
          ih (fun v z hv => hcross v z (hv.trans (List.suffix_append _ _))) rfl
        exact ⟨mark ++ outx, outy, (List.append_assoc _ _ _).symm, .hide hhidden hx, hy⟩

/-- Where no hidden part begins, the text is kept. -/
theorem of_free (h : Replaced hidden kept mark (x ++ y) out)
    (hfree : ∀ v, v <:+ x → v ≠ [] → ∀ taken, hidden taken → ¬ taken <+: v ++ y) :
  ∃ outy, out = x ++ outy ∧ Replaced hidden kept mark y outy
  := by
  induction x generalizing out with
  | nil => exact ⟨out, rfl, h⟩
  | cons c x ih =>
      have hnone := hfree (c :: x) List.suffix_rfl (List.cons_ne_nil c x)
      generalize htext : c :: x ++ y = text at h hnone
      cases h with
      | nil => cases htext
      | keep _ hrest =>
          obtain ⟨rfl, rfl⟩ := List.cons_eq_cons.mp htext
          obtain ⟨outy, rfl, hy⟩ :=
            ih hrest fun v hv => hfree v (hv.trans (List.suffix_cons _ _))
          exact ⟨outy, rfl, hy⟩
      | hide hhidden _ => exact absurd (List.prefix_append _ _) (hnone _ hhidden)

/-! ### One replacement after the other -/

/-- A second replacement that neither takes the first character of a mark nor begins in a mark hides
parts of the text beside those that the first one hides. -/
theorem trans {first : Char} {inner mid : List Char} {hidden' kept' : List Char → Prop}
    (h : Replaced hidden kept (first :: inner) text mid)
    (h' : Replaced hidden' kept' (first :: inner) mid out)
    (hfirst : ∀ taken, hidden' taken → first ∉ taken)
    (hfree : ∀ v, v <:+ first :: inner → v ≠ [] → ∀ rest taken, hidden' taken →
      ¬ taken <+: v ++ rest) :
  Replaced (fun taken => hidden taken ∨ hidden' taken) (fun _ => True) (first :: inner) text out
  := by
  have hne : ∀ taken, hidden' taken → taken ≠ [] := by
    rintro _ htaken rfl
    apply hfree _ List.suffix_rfl (List.cons_ne_nil _ _) [] _ htaken (List.nil_prefix)
  induction hlength : mid.length using Nat.strongRecOn generalizing text mid out with
  | _ n ih =>
      have hwhole := h'
      cases h' with
      | nil =>
          generalize hmid : [] = mid at h
          cases h with
          | nil => exact .nil
          | keep _ _ => cases hmid
          | hide _ _ => cases hmid
      | @keep c rest out _ hrest =>
          generalize hmid : c :: rest = mid at h
          cases h with
          | nil => cases hmid
          | keep _ hmore =>
              obtain ⟨rfl, rfl⟩ := List.cons_eq_cons.mp hmid
              rw [List.length_cons] at hlength
              exact .keep (.inr trivial) (ih _ (by omega) hmore hrest rfl)
          | hide htaken hmore =>
              rw [hmid] at hwhole
              obtain ⟨behind, hout, hbehind⟩ :=
                hwhole.of_free fun v hv hvne taken ht => hfree v hv hvne _ taken ht
              rw [hout]
              rw [hmid, List.length_append, List.length_cons] at hlength
              exact .hide (.inl htaken) (ih _ (by omega) hmore hbehind rfl)
      | @hide taken rest out htaken hrest =>
          obtain ⟨more, rfl, hmore⟩ := h.exists_of_append (hfirst taken htaken)
          have hpos := List.length_pos_iff.mpr (hne taken htaken)
          rw [List.length_append] at hlength
          exact .hide (.inr htaken) (ih _ (by omega) hmore hrest rfl)

/-! ### Length -/

/-- A replacement lengthens a text no more than a mark is longer than what it stands for. -/
theorem length_le {n : Nat} (h : Replaced hidden kept mark text out) (hn : 1 ≤ n)
    (hhidden : ∀ taken, taken <:+: text → hidden taken → mark.length ≤ n * taken.length) :
  out.length ≤ n * text.length
  := by
  induction h with
  | nil => apply Nat.zero_le
  | @keep c rest out _ _ ih =>
      have hrest := ih fun taken htaken => hhidden taken (htaken.trans (List.suffix_cons c rest).isInfix)
      rw [List.length_cons, List.length_cons, Nat.mul_add]
      omega
  | @hide taken rest out htaken _ ih =>
      have hmark := hhidden taken (List.prefix_append taken rest).isInfix htaken
      have hrest := ih fun more hmore =>
        hhidden more (hmore.trans (List.suffix_append taken rest).isInfix)
      rw [List.length_append, List.length_append, Nat.mul_add]
      omega

/-- A text becomes longer only where something shorter than a mark is hidden. -/
theorem exists_short (h : Replaced hidden kept mark text out) (hlength : text.length < out.length) :
  ∃ taken, taken <:+: text ∧ hidden taken ∧ taken.length < mark.length
  := by
  by_contra hnone
  have hle : out.length ≤ 1 * text.length := by
    apply h.length_le (Nat.le_refl 1)
    intro taken hinfix htaken
    by_contra hshort
    apply hnone
    use taken, hinfix, htaken
    omega
  omega

end Replaced

end AccessControl
