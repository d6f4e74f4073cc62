import Terralens.Proofs.Hcl.Identifiers
import Terralens.Proofs.Headers
import Terralens.Proofs.Words

/-!
# Lines that match

Which lines count as the header of a block or as an assignment, said apart from the search: a header
is white space, the type, the labels, each behind white space and with or without a quote on either
side, and then, behind white space, an opening brace or the end of the line (`isHeader_iff`). The
search keeps every text that may be left behind a label, once for each length. No text is lost by
that, since all of them are ends of the same line (`mem_distinct_iff`).

`findLine` gives the first line that satisfies a test (`foundFrom_findLine`).
-/

namespace Terralens

open Hcl Outline
open Text (Blank)

/-! ### Headers and assignments -/

/-- A quote, or nothing in its place. -/
def IsOptionalQuote (s : List Char) : Prop := s = [] ∨ s = ['"']

/-- What follows the type in a header with given labels. -/
inductive LabelsThenBody : List String → List Char → Prop
  | ends {blanks : List Char} (hblanks : Blank blanks) : LabelsThenBody [] blanks
  | opens {blanks : List Char} (hblanks : Blank blanks) (rest : List Char) :
      LabelsThenBody [] (blanks ++ '\x7b' :: rest)
  | label {label : String} {labels : List String} {blanks before after rest : List Char}
      (hne : blanks ≠ []) (hblanks : Blank blanks) (hbefore : IsOptionalQuote before)
      (hafter : IsOptionalQuote after) (hrest : LabelsThenBody labels rest) :
      LabelsThenBody (label :: labels) (blanks ++ (before ++ (label.toList ++ (after ++ rest))))

/-- A line that starts, after white space, with the header of a block. -/
def IsHeaderLine (type : String) (labels : List String) (line : List Char) : Prop :=
  ∃ blanks rest, Blank blanks ∧ LabelsThenBody labels rest ∧ line = blanks ++ (type.toList ++ rest)

/-- A line that starts with a name and, after white space, an equals sign. -/
def IsAssignmentLine (name : String) (line : List Char) : Prop :=
  ∃ blanks rest, Blank blanks ∧ line = name.toList ++ (blanks ++ '=' :: rest)

/-! ### What may be left of a line -/

section

variable {s t : List Char}

theorem blank_takeWhile (s : List Char) : Blank (s.takeWhile Text.isBlank) :=
  fun _ hc => List.mem_takeWhile_imp hc

theorem takeWhile_append_trimLeft (s : List Char) :
    s.takeWhile Text.isBlank ++ Text.trimLeft s = s :=
  List.takeWhile_append_dropWhile

theorem trimLeft_blank_append (hs : Blank s) (ht : StopsAt Text.isBlank t) :
    Text.trimLeft (s ++ t) = t :=
  (takeWhile_append_stop hs ht).2

theorem opensBody_iff : opensBody s ↔ LabelsThenBody [] s := by
  have hs := takeWhile_append_trimLeft s
  constructor
  · intro h
    unfold opensBody at h
    split at h
    next hnil =>
        rw [hnil, List.append_nil] at hs
        rw [← hs]
        exact .ends (blank_takeWhile s)
    next c rest hcons =>
        rw [beq_iff_eq] at h
        subst h
        rw [hcons] at hs
        rw [← hs]
        exact .opens (blank_takeWhile s) rest
  · rintro (hblanks | ⟨hblanks, rest⟩)
    · have htrim := trimLeft_blank_append hblanks (stopsAt_nil _)
      rw [List.append_nil] at htrim
      rw [opensBody, htrim]
    · have hbrace : Text.isBlank '\x7b' = false := by decide
      rw [opensBody, trimLeft_blank_append hblanks (stopsAt_cons hbrace rest)]
      rfl

theorem mem_afterBlanks_iff : t ∈ afterBlanks s ↔ ∃ blanks, Blank blanks ∧ s = blanks ++ t := by
  induction s with
  | nil =>
      rw [afterBlanks, List.mem_singleton]
      constructor
      · rintro rfl
        exact ⟨[], by simp [Blank], rfl⟩
      · rintro ⟨blanks, -, heq⟩
        exact (List.append_eq_nil_iff.mp heq.symm).2
  | cons c rest ih =>
      have hself : (c :: rest = t) → ∃ blanks, Blank blanks ∧ c :: rest = blanks ++ t :=
        fun heq => ⟨[], by simp [Blank], heq⟩
      rw [afterBlanks]
      split
      next hc =>
          rw [List.mem_cons, ih]
          constructor
          · rintro (rfl | ⟨blanks, hblanks, rfl⟩)
            · exact hself rfl
            · exact ⟨c :: blanks, List.forall_mem_cons.mpr ⟨hc, hblanks⟩, rfl⟩
          · rintro ⟨blanks, hblanks, heq⟩
            cases blanks with
            | nil => exact .inl heq.symm
            | cons d more =>
                obtain ⟨-, hmore⟩ := List.forall_mem_cons.mp hblanks
                exact .inr ⟨more, hmore, (List.cons.inj heq).2⟩
      next hc =>
          rw [List.mem_singleton]
          constructor
          · rintro rfl
            exact hself rfl
          · rintro ⟨blanks, hblanks, heq⟩
            cases blanks with
            | nil => exact heq.symm
            | cons d more =>
                obtain ⟨hd, -⟩ := List.forall_mem_cons.mp hblanks
                rw [(List.cons.inj heq).1] at hc
                exact absurd hd hc

theorem mem_afterQuote_iff : t ∈ afterQuote s ↔ ∃ q, IsOptionalQuote q ∧ s = q ++ t := by
  constructor
  · intro h
    unfold afterQuote at h
    split at h
    next rest =>
        simp only [List.mem_cons, List.not_mem_nil, or_false] at h
        rcases h with rfl | rfl
        · exact ⟨[], .inl rfl, rfl⟩
        · exact ⟨['"'], .inr rfl, rfl⟩
    next =>
        rw [List.mem_singleton] at h
        exact ⟨[], .inl rfl, h.symm⟩
  · rintro ⟨q, rfl | rfl, rfl⟩
    · unfold afterQuote
      split <;> simp
    · simp [afterQuote]

theorem mem_afterLabel_iff {label : List Char} :
    t ∈ afterLabel label s ↔ ∃ blanks before after, blanks ≠ [] ∧ Blank blanks ∧
      IsOptionalQuote before ∧ IsOptionalQuote after ∧
        s = blanks ++ (before ++ (label ++ (after ++ t))) := by
  constructor
  · intro h
    unfold afterLabel at h
    split at h
    next => cases h
    next c rest =>
        split at h
        next hc =>
            simp only [List.mem_flatMap, List.mem_filterMap, mem_afterBlanks_iff,
              mem_afterQuote_iff, afterStart?_eq_some_iff] at h
            obtain ⟨_, ⟨_, ⟨_, ⟨blanks, hblanks, rfl⟩, before, hbefore, rfl⟩, rfl⟩, after, hafter,
              rfl⟩ := h
            exact ⟨c :: blanks, before, after, List.cons_ne_nil c blanks,
              List.forall_mem_cons.mpr ⟨hc, hblanks⟩, hbefore, hafter, rfl⟩
        next => cases h
  · rintro ⟨blanks, before, after, hne, hblanks, hbefore, hafter, rfl⟩
    cases blanks with
    | nil => exact absurd rfl hne
    | cons c more =>
        obtain ⟨hc, hmore⟩ := List.forall_mem_cons.mp hblanks
        rw [List.cons_append, afterLabel, if_pos hc]
        simp only [List.mem_flatMap, List.mem_filterMap, mem_afterBlanks_iff, mem_afterQuote_iff,
          afterStart?_eq_some_iff]
        exact ⟨_, ⟨_, ⟨_, ⟨more, hmore, rfl⟩, before, hbefore, rfl⟩, rfl⟩, after, hafter, rfl⟩

/-- Of texts that are ends of one text, none is lost where one of each length is kept. -/
theorem mem_distinct_iff {texts : List (List Char)} (h : ∀ t ∈ texts, t <:+ s) :
    t ∈ distinct texts ↔ t ∈ texts := by
  refine ⟨mem_of_mem_distinct, fun hmem => ?_⟩
  induction texts with
  | nil => cases hmem
  | cons first rest ih =>
      have hrest : ∀ t ∈ rest, t <:+ s := fun t ht => h t (List.mem_cons_of_mem first ht)
      have hcons : distinct (first :: rest) =
          if (distinct rest).any (·.length == first.length) then distinct rest
          else first :: distinct rest := rfl
      rw [hcons]
      split
      next hany =>
          rcases List.mem_cons.mp hmem with rfl | hmem
          · obtain ⟨kept, hkept, hlength⟩ := List.any_eq_true.mp hany
            have hsuffix := hrest kept (mem_of_mem_distinct hkept)
            have hle : kept.length ≤ t.length := (beq_iff_eq.mp hlength).le
            have hsame := List.suffix_of_suffix_length_le hsuffix (h t hmem) hle
            rw [← hsame.eq_of_length (beq_iff_eq.mp hlength)]
            exact hkept
          · exact ih hrest hmem
      next =>
          rcases List.mem_cons.mp hmem with rfl | hmem
          · exact List.mem_cons_self
          · exact List.mem_cons_of_mem first (ih hrest hmem)

theorem suffix_of_mem_afterLabel {label : List Char} (h : t ∈ afterLabel label s) : t <:+ s := by
  obtain ⟨blanks, before, after, -, -, -, -, rfl⟩ := mem_afterLabel_iff.mp h
  exact ⟨blanks ++ (before ++ (label ++ after)), by simp⟩

end

/-- Labels and a body are found in one of several ends of a text when they follow in it. -/
theorem any_opensBody_afterEach_iff (labels : List String) {s : List Char}
    {texts : List (List Char)} (h : ∀ t ∈ texts, t <:+ s) :
    (afterEach (labels.map String.toList) texts).any opensBody ↔
      ∃ t ∈ texts, LabelsThenBody labels t := by
  induction labels generalizing texts with
  | nil =>
      rw [List.map_nil, afterEach, List.foldl_nil, List.any_eq_true]
      simp only [opensBody_iff]
  | cons label more ih =>
      have hnext : ∀ t ∈ texts.flatMap (afterLabel label.toList), t <:+ s := by
        intro t ht
        obtain ⟨u, hu, ht⟩ := List.mem_flatMap.mp ht
        exact (suffix_of_mem_afterLabel ht).trans (h u hu)
      rw [List.map_cons, afterEach, List.foldl_cons, ← afterEach,
        ih fun t ht => hnext t (mem_of_mem_distinct ht)]
      simp only [mem_distinct_iff hnext, List.mem_flatMap, mem_afterLabel_iff]
      constructor
      · rintro ⟨t, ⟨_, hu, blanks, before, after, hne, hblanks, hbefore, hafter, rfl⟩, hrest⟩
        exact ⟨_, hu, .label hne hblanks hbefore hafter hrest⟩
      · rintro ⟨u, hu, hlabels⟩
        cases hlabels with
        | @label _ _ blanks before after t hne hblanks hbefore hafter hrest =>
            exact ⟨t, ⟨_, hu, blanks, before, after, hne, hblanks, hbefore, hafter, rfl⟩, hrest⟩

theorem isHeader_iff {type : String} (htype : StartsSolid type.toList) {labels : List String}
    {line : List Char} : isHeader type labels line ↔ IsHeaderLine type labels line := by
  have hlabels : ∀ rest, (afterLabels (labels.map String.toList) rest).any opensBody ↔
      LabelsThenBody labels rest := by
    intro rest
    have hsuffix : ∀ t ∈ [rest], t <:+ rest := by simp
    have hany := any_opensBody_afterEach_iff labels hsuffix
    simpa [afterEach, afterLabels] using hany
  constructor
  · intro h
    unfold isHeader at h
    split at h
    next => cases h
    next rest hrest =>
        have hline := takeWhile_append_trimLeft line
        rw [afterStart?_eq_some_iff.mp hrest] at hline
        exact ⟨_, rest, blank_takeWhile line, (hlabels rest).mp h, hline.symm⟩
  · rintro ⟨blanks, rest, hblanks, hrest, rfl⟩
    have hstop : StopsAt Text.isBlank (type.toList ++ rest) := by
      obtain ⟨c, hc, hsolid⟩ := htype
      intro d hd
      rw [List.head?_append, Option.mem_def.mp hc, Option.some_or, Option.mem_some] at hd
      rw [← hd]
      exact hsolid
    rw [isHeader, trimLeft_blank_append hblanks hstop, afterStart?_append_self]
    exact (hlabels rest).mpr hrest

theorem isAssignment_iff {name : String} {line : List Char} :
    isAssignment name line ↔ IsAssignmentLine name line := by
  constructor
  · intro h
    unfold isAssignment at h
    split at h
    next => cases h
    next rest hrest =>
        obtain ⟨more, hmore⟩ := List.head?_eq_some_iff.mp (beq_iff_eq.mp h)
        have hparts := takeWhile_append_trimLeft rest
        rw [hmore] at hparts
        refine ⟨rest.takeWhile Text.isBlank, more, blank_takeWhile rest, ?_⟩
        rw [hparts, afterStart?_eq_some_iff.mp hrest]
  · rintro ⟨blanks, rest, hblanks, rfl⟩
    have hsign : Text.isBlank '=' = false := by decide
    rw [isAssignment, afterStart?_append_self]
    simp [trimLeft_blank_append hblanks (stopsAt_cons hsign rest)]

/-! ### The first line found -/

def ReadsAt (lines : List (List Char)) (n : Nat) (text : List Char) : Prop :=
  0 < n ∧ lines[n - 1]? = some text

/-- A line is the first one from `start` on that a predicate holds of; it is 0 when there is
  none. -/
structure FoundFrom (lines : List (List Char)) (start : Nat) (P : List Char → Prop) (line : Nat) :
    Prop where
  found : line ≠ 0 → start ≤ line ∧ ∃ text, ReadsAt lines line text ∧ P text
  first : ∀ n text, start ≤ n → (line ≠ 0 → n < line) → ReadsAt lines n text → ¬ P text

/-- A line from `start` on is among the lines that are searched. -/
theorem ReadsAt.getElem?_drop {lines : List (List Char)} {start n : Nat} {text : List Char}
    (h : ReadsAt lines n text) (hn : start ≤ n) :
    (lines.drop (start - 1))[n - 1 - (start - 1)]? = some text := by
  obtain ⟨hpos, hget⟩ := h
  rw [List.getElem?_drop, ← hget]
  congr 1
  omega

theorem foundFrom_findLine (lines : List (List Char)) (start : Nat) {p : List Char → Bool}
    {P : List Char → Prop} (hp : ∀ text, p text ↔ P text) :
    FoundFrom lines start P ((findLine lines start p).getD 0) := by
  unfold findLine
  cases hfind : (lines.drop (start - 1)).findIdx? p with
  | none =>
      rw [List.findIdx?_eq_none_iff] at hfind
      constructor
      case found => exact fun hne => absurd rfl hne
      case first =>
        intro n text hn _ hreads hP
        have hfalse := hfind text (List.mem_of_getElem? (hreads.getElem?_drop hn))
        rw [(hp text).mpr hP] at hfalse
        cases hfalse
  | some i =>
      obtain ⟨hlt, hpi, hbefore⟩ := List.findIdx?_eq_some_iff_getElem.mp hfind
      constructor
      case found =>
        intro _
        refine ⟨?_, (lines.drop (start - 1))[i], ⟨Nat.succ_pos _, ?_⟩, (hp _).mp hpi⟩
        · simp only [Option.map_some, Option.getD_some]
          omega
        · rw [← List.getElem?_eq_getElem hlt, List.getElem?_drop]
          simp only [Option.map_some, Option.getD_some, Nat.add_sub_cancel]
          rw [Nat.add_comm]
      case first =>
        intro n text hn hline hreads hP
        simp only [Option.map_some, Option.getD_some] at hline
        have hlt' : n - 1 - (start - 1) < i := by
          have := hline (by omega)
          have := hreads.1
          omega
        have hget := hreads.getElem?_drop hn
        rw [List.getElem?_eq_getElem (by omega), Option.some.injEq] at hget
        have hfalse := hbefore _ hlt'
        rw [hget, (hp text).mpr hP] at hfalse
        exact hfalse rfl

/-- The next search starts behind the line that is found, if one is. -/
theorem next_findLine (lines : List (List Char)) (start : Nat) (p : List Char → Bool) :
    next start (findLine lines start p) =
      if (findLine lines start p).getD 0 = 0 then start
      else (findLine lines start p).getD 0 + 1 := by
  unfold findLine
  cases (lines.drop (start - 1)).findIdx? p with
  | none => rfl
  | some i => simp [next]

end Terralens
