import Mathlib.Data.List.Basic
import Terralens.Literal

/-!
# Templates that are literal texts

A text is written into a template by doubling its signs before braces, and read back by undoing
that. What has been written has no inserted part, and every template without an inserted part has
been written so, from the one text that is read back (`hasSequence_eq_false_iff`). A template
therefore stands for a literal text exactly when it is the escaped form of that text
(`literal_iff_escapeTemplate`).

Dollar and percent signs are replaced one after the other. `doubled p` doubles the signs of a
class `p` only, so that each replacement adds one sign to the class or takes one away.
-/

namespace Terralens.Hcl

open Text

variable {p : Char → Bool} {x : Char}

/-! ### Doubled signs -/

/-- Doubles the characters of a class that stand before an opening brace. -/
def doubled (p : Char → Bool) : List Char → List Char
  | [] => []
  | c :: rest =>
      if p c && rest.head? == some '\x7b' then c :: c :: doubled p rest else c :: doubled p rest

/-- The signs that start an inserted part before an opening brace. -/
def isSign (c : Char) : Bool := c == '$' || c == '%'

@[simp]
theorem head?_doubled (p : Char → Bool) (s : List Char) : (doubled p s).head? = s.head? := by
  cases s with
  | nil => rfl
  | cons c rest =>
      unfold doubled
      split <;> rfl

theorem doubled_none (s : List Char) : doubled (fun _ => false) s = s := by
  induction s with
  | nil => rfl
  | cons c rest ih => simp [doubled, ih]

theorem escapeTemplate_eq_doubled (s : List Char) : escapeTemplate s = doubled isSign s := by
  fun_induction escapeTemplate s with
  | case1 => rfl
  | case2 c => simp [doubled]
  | case3 a b rest hstarts ih =>
      have hopens : isSign a && (b :: rest).head? == some '\x7b' := by
        simpa [startsSequence, isSign] using hstarts
      rw [doubled, if_pos hopens, ih]
  | case4 a b rest hstarts ih =>
      have hopens : ¬ (isSign a && (b :: rest).head? == some '\x7b') := by
        simpa [startsSequence, isSign] using hstarts
      rw [doubled, if_neg hopens, ih]

/-- Behind doubling, no character of the class stands first before a brace. -/
theorem not_isPrefix_doubled (hx : p x) (hbrace : x ≠ '\x7b') (s : List Char) :
    ¬ [x, '\x7b'] <+: doubled p s := by
  cases s with
  | nil => simp [doubled]
  | cons c rest =>
      rintro ⟨more, hmore⟩
      unfold doubled at hmore
      split at hmore
      next =>
          obtain ⟨rfl, hsecond⟩ := List.cons.inj hmore
          exact hbrace (List.cons.inj hsecond).1.symm
      next hopens =>
          obtain ⟨rfl, hrest⟩ := List.cons.inj hmore
          have hhead : rest.head? = some '\x7b' := by
            rw [← head?_doubled p rest, ← hrest]
            rfl
          simp [hx, hhead] at hopens

/-! ### Replacements -/

theorem replaceAll_of_isPrefixOf {old new s : List Char} {c : Char}
    (h : old.isPrefixOf (c :: s)) :
    replaceAll old new (c :: s) = new ++ replaceFrom old new (old.length - 1) s := by
  rw [replaceAll, replaceFrom, if_pos h]

theorem replaceAll_of_not_isPrefix {old s : List Char} {c : Char} (h : ¬ old <+: c :: s)
    (new : List Char) : replaceAll old new (c :: s) = c :: replaceAll old new s := by
  rw [← List.isPrefixOf_iff_prefix] at h
  rw [replaceAll, replaceFrom, if_neg h]
  rfl

/-- Replacing a doubled sign before a brace by a single one takes the sign out of the class. -/
theorem replaceAll_halves (hx : p x) (hbrace : x ≠ '\x7b') (s : List Char) :
    replaceAll [x, x, '\x7b'] [x, '\x7b'] (doubled p s) = doubled (fun c => p c && c != x) s := by
  induction s with
  | nil => rfl
  | cons c rest ih =>
      by_cases hopens : p c && rest.head? == some '\x7b'
      · rw [doubled, if_pos hopens]
        by_cases hc : c = x
        · -- The sign itself: the pair and the brace behind it become a sign and that brace.
          subst hc
          have hhead : (doubled p rest).head? = some '\x7b' := by simpa [hx] using hopens
          obtain ⟨more, hmore⟩ := List.head?_eq_some_iff.mp hhead
          rw [hmore] at ih ⊢
          have hbehind : ¬ [c, c, '\x7b'] <+: '\x7b' :: more := by simp [hbrace]
          rw [replaceAll_of_not_isPrefix hbehind] at ih
          rw [replaceAll_of_isPrefixOf (by simp), doubled, if_neg (by simp), ← ih]
          rfl
        · -- Another sign of the class stays doubled.
          have hfirst : ∀ t, ¬ [x, x, '\x7b'] <+: c :: t := by simp [Ne.symm hc]
          have hkept : (p c && c != x) && rest.head? == some '\x7b' := by simpa [hc] using hopens
          rw [replaceAll_of_not_isPrefix (hfirst _), replaceAll_of_not_isPrefix (hfirst _), ih,
            doubled, if_pos hkept]
      · have hleft : ¬ ((p c && c != x) && rest.head? == some '\x7b') := by
          intro h
          apply hopens
          simp only [Bool.and_eq_true] at h ⊢
          exact ⟨h.1.1, h.2⟩
        have hfirst : ¬ [x, x, '\x7b'] <+: c :: doubled p rest := by
          rw [List.cons_prefix_cons]
          exact fun h => not_isPrefix_doubled hx hbrace rest h.2
        rw [doubled, if_neg hopens, replaceAll_of_not_isPrefix hfirst, ih, doubled, if_neg hleft]

/-- Replacing a single sign before a brace by a doubled one adds the sign to the class. -/
theorem replaceAll_doubles (hx : p x = false) (hbrace : x ≠ '\x7b') (s : List Char) :
    replaceAll [x, '\x7b'] [x, x, '\x7b'] (doubled p s) = doubled (fun c => p c || c == x) s := by
  induction s with
  | nil => rfl
  | cons c rest ih =>
      by_cases hc : c = x
      · subst hc
        have hsingle : ¬ (p c && rest.head? == some '\x7b') := by simp [hx]
        rw [doubled, if_neg hsingle]
        by_cases hhead : rest.head? = some '\x7b'
        · obtain ⟨more, hmore⟩ := List.head?_eq_some_iff.mp ((head?_doubled p rest).trans hhead)
          rw [hmore] at ih ⊢
          have hbehind : ¬ [c, '\x7b'] <+: '\x7b' :: more := by simp [hbrace]
          rw [replaceAll_of_not_isPrefix hbehind] at ih
          rw [replaceAll_of_isPrefixOf (by simp), doubled, if_pos (by simp [hhead]), ← ih]
          rfl
        · have hfirst : ¬ [c, '\x7b'] <+: c :: doubled p rest := by
            rintro ⟨more, hmore⟩
            apply hhead
            rw [← head?_doubled p rest, ← (List.cons.inj hmore).2]
            rfl
          rw [replaceAll_of_not_isPrefix hfirst, ih, doubled, if_neg (by simp [hhead])]
      · have hfirst : ∀ t, ¬ [x, '\x7b'] <+: c :: t := by simp [Ne.symm hc]
        have hsame : (p c || c == x) = p c := by simp [hc]
        rw [doubled, doubled, hsame]
        split
        next =>
            rw [replaceAll_of_not_isPrefix (hfirst _), replaceAll_of_not_isPrefix (hfirst _), ih]
        next => rw [replaceAll_of_not_isPrefix (hfirst _), ih]

/-! ### Escaped texts -/

/-- Escaping is one replacement after the other. -/
theorem escapeTemplate_eq_replaceAll (s : List Char) :
    escapeTemplate s =
      replaceAll ['%', '\x7b'] ['%', '%', '\x7b']
        (replaceAll ['$', '\x7b'] ['$', '$', '\x7b'] s) := by
  have hdollar := replaceAll_doubles (p := fun _ => false) (x := '$') rfl (by decide) s
  rw [doubled_none] at hdollar
  rw [hdollar, replaceAll_doubles (by decide) (by decide), escapeTemplate_eq_doubled]
  rfl

/-- Only the sign next to a brace is doubled, whatever signs stand before it. -/
example : escapeTemplate "$$$\x7b %$\x7b %%".toList = "$$$$\x7b %$$\x7b %%".toList := by
  decide

theorem unescapeTemplate_escapeTemplate (s : List Char) :
    unescapeTemplate (escapeTemplate s) = s := by
  have hnone : (fun c => (isSign c && c != '$') && c != '%') = fun _ => false := by
    funext c
    by_cases hdollar : c = '$' <;> simp [isSign, hdollar]
  rw [unescapeTemplate, escapeTemplate_eq_doubled, replaceAll_halves (by decide) (by decide),
    replaceAll_halves (by decide) (by decide), hnone, doubled_none]

/-- An escaped text starts with no inserted part. -/
theorem startsSequence_escapeTemplate {s rest : List Char} {a b : Char}
    (h : escapeTemplate s = a :: b :: rest) : startsSequence a b = false := by
  rw [← Bool.not_eq_true]
  intro hstarts
  simp only [startsSequence, Bool.and_eq_true, beq_iff_eq] at hstarts
  obtain ⟨hsign, rfl⟩ := hstarts
  have hbrace : a ≠ '\x7b' := by
    rintro rfl
    revert hsign
    decide
  apply not_isPrefix_doubled (p := isSign) hsign hbrace s
  rw [← escapeTemplate_eq_doubled, h]
  exact ⟨rest, rfl⟩

theorem hasSequence_brace (s : List Char) : hasSequence ('\x7b' :: s) = hasSequence s := by
  match s with
  | [] => rfl
  | [b] => rfl
  | b :: c :: more =>
      have hfirst : startsSequence '\x7b' b = false := rfl
      have hnone : ¬ (('\x7b' == b) && startsSequence b c) := by
        rw [Bool.and_eq_true, beq_iff_eq]
        rintro ⟨rfl, hstarts⟩
        cases hstarts
      rw [hasSequence, if_neg hnone, hfirst, Bool.false_or]

/-- A character in front makes no inserted part unless it starts one with what stands first. -/
theorem hasSequence_cons_escapeTemplate {a : Char} {s : List Char}
    (h : ∀ b ∈ s.head?, startsSequence a b = false)
    (hs : hasSequence (escapeTemplate s) = false) :
    hasSequence (a :: escapeTemplate s) = false := by
  rw [← head?_doubled isSign, ← escapeTemplate_eq_doubled] at h
  match heq : escapeTemplate s with
  | [] => rfl
  | [b] => exact h b (by simp [heq])
  | b :: c :: more =>
      rw [heq] at h hs
      have hnone : ¬ ((a == b) && startsSequence b c) := by
        simp [startsSequence_escapeTemplate heq]
      rw [hasSequence, if_neg hnone, h b rfl, Bool.false_or, hs]

theorem escapeTemplate_cons (c : Char) (rest : List Char) :
    escapeTemplate (c :: rest) =
      if isSign c && rest.head? == some '\x7b' then c :: c :: escapeTemplate rest
      else c :: escapeTemplate rest := by
  rw [escapeTemplate_eq_doubled, escapeTemplate_eq_doubled, doubled]

theorem hasSequence_escapeTemplate (s : List Char) : hasSequence (escapeTemplate s) = false := by
  induction s with
  | nil => rfl
  | cons a rest ih =>
      rw [escapeTemplate_cons]
      by_cases hopens : isSign a && rest.head? == some '\x7b'
      · rw [if_pos hopens]
        simp only [Bool.and_eq_true, beq_iff_eq] at hopens
        obtain ⟨hsign, hhead⟩ := hopens
        obtain ⟨more, hmore⟩ := List.head?_eq_some_iff.mp hhead
        have hrest : escapeTemplate rest = '\x7b' :: escapeTemplate more := by
          rw [hmore, escapeTemplate_cons]
          rfl
        have hescaped : (a == a) && startsSequence a '\x7b' := by
          simpa [startsSequence, isSign] using hsign
        rw [hrest, hasSequence_brace] at ih
        rw [hrest, hasSequence, if_pos hescaped, ih]
      · rw [if_neg hopens]
        apply hasSequence_cons_escapeTemplate _ ih
        intro b hb
        rw [← Bool.not_eq_true]
        intro hstarts
        apply hopens
        simp only [startsSequence, Bool.and_eq_true, beq_iff_eq] at hstarts
        obtain ⟨hsign, rfl⟩ := hstarts
        simpa [isSign, Option.mem_def.mp hb] using hsign

theorem exists_eq_escapeTemplate {t : List Char} (h : hasSequence t = false) :
    ∃ s, t = escapeTemplate s := by
  -- The cases of `hasSequence`: a doubled sign, any other character, two characters, less.
  fun_induction hasSequence t with
  | case1 a b c rest hescaped ih =>
      obtain ⟨s, hs⟩ := ih h
      simp only [startsSequence, Bool.and_eq_true, beq_iff_eq] at hescaped
      obtain ⟨rfl, hsign, rfl⟩ := hescaped
      refine ⟨a :: '\x7b' :: s, ?_⟩
      have hopens : isSign a && ('\x7b' :: s).head? == some '\x7b' := by
        simpa [isSign] using hsign
      have hbrace : escapeTemplate ('\x7b' :: s) = '\x7b' :: escapeTemplate s := by
        rw [escapeTemplate_cons]
        rfl
      rw [escapeTemplate_cons, if_pos hopens, hbrace, ← hs]
  | case2 a b c rest hescaped ih =>
      obtain ⟨hfirst, hrest⟩ := Bool.or_eq_false_iff.mp h
      obtain ⟨s, hs⟩ := ih hrest
      have hhead : s.head? = some b := by
        rw [← head?_doubled isSign, ← escapeTemplate_eq_doubled, ← hs]
        rfl
      have hnone : ¬ (isSign a && s.head? == some '\x7b') := by
        rw [hhead, Bool.not_eq_true]
        exact hfirst
      exact ⟨a :: s, by rw [escapeTemplate_cons, if_neg hnone, ← hs]⟩
  | case3 a b =>
      refine ⟨[a, b], ?_⟩
      rw [escapeTemplate, if_neg (Bool.not_eq_true _ ▸ h)]
      rfl
  | case4 t hthree htwo =>
      match t, hthree, htwo with
      | [], _, _ => exact ⟨[], rfl⟩
      | [a], _, _ => exact ⟨[a], rfl⟩
      | [a, b], _, htwo => exact absurd rfl (htwo a b)
      | a :: b :: c :: rest, hthree, _ => exact absurd rfl (hthree a b c rest)

theorem hasSequence_eq_false_iff {t : List Char} :
    hasSequence t = false ↔ ∃ s, t = escapeTemplate s := by
  constructor
  · exact exists_eq_escapeTemplate
  · rintro ⟨s, rfl⟩
    exact hasSequence_escapeTemplate s

/-! ### Values of templates -/

/-- An expression written as a template: a literal text when the template is the escaped form of
  that text, and kept as it is written when it is the escaped form of none. -/
structure LiteralWhenEscaped (template : String) (e : Expression) : Prop where
  literal : ∀ s, e.value = .string s ↔ template.toList = escapeTemplate s.toList
  kept : e.value = .expression e.trimmedText ↔ ∀ s, template.toList ≠ escapeTemplate s

theorem literalWhenEscaped_of_value {template : String} {e : Expression}
    (h : e.value = templateValue e.trimmedText template) : LiteralWhenEscaped template e := by
  by_cases hnone : ∃ s, template.toList = escapeTemplate s
  · have hvalue : e.value = .string (String.ofList (unescapeTemplate template.toList)) := by
      rw [h, templateValue, hasSequence_eq_false_iff.mpr hnone]
      rfl
    obtain ⟨s, hs⟩ := hnone
    rw [hs, unescapeTemplate_escapeTemplate] at hvalue
    constructor
    case literal =>
      intro text
      rw [hvalue, hs, Value.string.injEq]
      constructor
      · rintro rfl
        rw [String.toList_ofList]
      · intro heq
        have hsame := congrArg unescapeTemplate heq
        rw [unescapeTemplate_escapeTemplate, unescapeTemplate_escapeTemplate] at hsame
        rw [hsame, String.ofList_toList]
    case kept => simp [hvalue, hs]
  · have hvalue : e.value = .expression e.trimmedText := by
      have hsequence : hasSequence template.toList := by
        rw [← Bool.not_eq_false, hasSequence_eq_false_iff]
        exact hnone
      rw [h, templateValue, if_pos hsequence]
    rw [not_exists] at hnone
    constructor
    case literal => simp [hvalue, hnone]
    case kept => simp [hvalue, hnone]

/-- Escaping a text doubles every sign before a brace. What it gives has no inserted part, and is
  unescaped to the text; a template without an inserted part is the escaped form of one text, which
  unescaping gives. A template between quotes and one between line ends are therefore literal texts
  exactly when they are escaped forms. -/
theorem literal_iff_escapeTemplate :
    (∀ s, escapeTemplate s =
        replaceAll ['%', '\x7b'] ['%', '%', '\x7b']
          (replaceAll ['$', '\x7b'] ['$', '$', '\x7b'] s) ∧
      hasSequence (escapeTemplate s) = false ∧ unescapeTemplate (escapeTemplate s) = s) ∧
    (∀ t, (hasSequence t = false ↔ ∃ s, t = escapeTemplate s) ∧
      ∀ s, t = escapeTemplate s → s = unescapeTemplate t) ∧
    (∀ text, LiteralWhenEscaped text (.template text)) ∧
    ∀ indented delimiter text, LiteralWhenEscaped text (.heredoc indented delimiter text) := by
  refine ⟨fun s => ⟨?_, ?_, ?_⟩, fun t => ⟨?_, ?_⟩, fun text => ?_,
    fun indented delimiter text => ?_⟩
  · exact escapeTemplate_eq_replaceAll s
  · exact hasSequence_escapeTemplate s
  · exact unescapeTemplate_escapeTemplate s
  · exact hasSequence_eq_false_iff
  · rintro s rfl
    exact (unescapeTemplate_escapeTemplate s).symm
  · exact literalWhenEscaped_of_value rfl
  · exact literalWhenEscaped_of_value rfl

end Terralens.Hcl
