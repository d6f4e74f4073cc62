import Terralens.Document.Outline
import Terralens.Proofs.Hcl.Bodies
import Terralens.Proofs.References

/-!
# Lines that are headers

Which lines of a printed block count as the header of a block with given type and labels. A
label is searched for with and without the quotes around it, and all that may be left behind
it is kept, but when types and labels are names the search is exact: a printed header
counts for its own type and labels only (`isHeader_headerLine_iff`), an attribute and a closing
brace for none (`isHeader_entryChars`, `isHeader_brace`).
-/

namespace Terralens

open Hcl Outline

/-- What follows the type or a label in a printed header. -/
def headerRest (labels : List String) : List Char := labels.flatMap labelChars ++ [' ', '\x7b']

/-- The line of a header: the type, the labels between quotes, and an opening brace. -/
def headerLine (type : String) (labels : List String) : List Char :=
  type.toList ++ headerRest labels

/-! ### Names in texts -/

def IsWord (s : List Char) : Prop := s ≠ [] ∧ ∀ c ∈ s, isNameChar c

theorem isWord_of_isName {name : String} (h : isName name) : IsWord name.toList := by
  obtain ⟨c, rest, hname, -, hchars⟩ := exists_of_isName h
  rw [hname]
  exact ⟨by simp, hchars⟩

def GoesOn (s : List Char) : Prop := ∃ c rest, s = c :: rest ∧ isNameChar c

theorem IsWord.goesOn {s : List Char} (h : IsWord s) (t : List Char) : GoesOn (s ++ t) := by
  cases s with
  | nil => exact absurd rfl h.1
  | cons c rest => exact ⟨c, rest ++ t, rfl, h.2 c (by simp)⟩

theorem isBlank_of_isNameChar {c : Char} (h : isNameChar c) : Text.isBlank c = false := by
  have hascii : (!isNameChar c || !Text.isBlank c) = true :=
    forall_ascii (p := fun c => !isNameChar c || !Text.isBlank c) (by decide +kernel)
      (toNat_lt_of_isNameChar h)
  simpa [h] using hascii

theorem GoesOn.trimLeft {s : List Char} (h : GoesOn s) : Text.trimLeft s = s := by
  obtain ⟨c, rest, rfl, hc⟩ := h
  simp [Text.trimLeft, isBlank_of_isNameChar hc]

theorem GoesOn.opensBody {s : List Char} (h : GoesOn s) : opensBody s = false := by
  have htrim := h.trimLeft
  obtain ⟨c, rest, rfl, hc⟩ := h
  have hbrace : c ≠ '\x7b' := ne_of_class hc (by decide)
  simp [Outline.opensBody, htrim, hbrace]

/-- No label is found in the middle of a name. -/
theorem GoesOn.afterLabel {s : List Char} (h : GoesOn s) (label : List Char) :
    afterLabel label s = [] := by
  obtain ⟨c, rest, rfl, hc⟩ := h
  simp [Outline.afterLabel, isBlank_of_isNameChar hc]

/-- A name that a text begins with is the whole name there, or what is left goes on with it. -/
theorem afterStart?_word {name word rest left : List Char} (hname : ∀ c ∈ name, isNameChar c)
    (hword : ∀ c ∈ word, isNameChar c) (hrest : StopsAt isNameChar rest)
    (h : Text.afterStart? name (word ++ rest) = some left) :
    (name = word ∧ left = rest) ∨ GoesOn left := by
  rcases List.append_eq_append_iff.mp (afterStart?_eq_some_iff.mp h) with
    ⟨more, hmore, hleft⟩ | ⟨more, hmore, hleft⟩
  · cases more with
    | nil => exact .inl ⟨by simpa using hmore, by simpa using hleft.symm⟩
    | cons c others =>
        have hout : isNameChar c = false := hrest c (by simp [hleft])
        have hin : isNameChar c := hname c (by simp [hmore])
        simp [hin] at hout
  · cases more with
    | nil => exact .inl ⟨by simpa using hmore.symm, by simpa using hleft⟩
    | cons c others => exact .inr ⟨c, others ++ rest, by simp [hleft], hword c (by simp [hmore])⟩

/-! ### Labels -/

def afterEach (labels texts : List (List Char)) : List (List Char) :=
  labels.foldl (fun rests label => distinct (rests.flatMap (afterLabel label))) texts

theorem mem_of_mem_distinct {texts : List (List Char)} {t : List Char} (h : t ∈ distinct texts) :
    t ∈ texts := by
  induction texts with
  | nil => cases h
  | cons first rest ih =>
      simp only [distinct, List.foldr_cons] at h
      split at h
      · exact List.mem_cons_of_mem first (ih h)
      · rcases List.mem_cons.mp h with rfl | h
        · exact List.mem_cons_self
        · exact List.mem_cons_of_mem first (ih h)

/-- Texts that go on with a name open no body, whatever labels are searched for in them. -/
theorem opensBody_afterEach_of_goesOn {labels texts : List (List Char)}
    (h : ∀ t ∈ texts, GoesOn t) : (afterEach labels texts).any opensBody = false := by
  induction labels generalizing texts with
  | nil =>
      rw [List.any_eq_false]
      intro t ht
      simp [(h t ht).opensBody]
  | cons label more ih =>
      have hnone : texts.flatMap (afterLabel label) = [] := by
        rw [List.flatMap_eq_nil_iff]
        intro t ht
        exact (h t ht).afterLabel label
      rw [afterEach, List.foldl_cons, hnone]
      exact ih (by simp [distinct])

theorem IsWord.afterStart?_of_ne {word : List Char} (h : IsWord word) {c : Char}
    (hc : isNameChar c = false) (s : List Char) : Text.afterStart? word (c :: s) = none := by
  cases word with
  | nil => exact absurd rfl h.1
  | cons d rest =>
      have hne : d ≠ c := ne_of_class (h.2 d (by simp)) hc
      simp [Text.afterStart?, hne]

/-- Behind a blank and a character of neither names nor quotes there is no label. -/
theorem IsWord.afterLabel_of_ne {label : List Char} (h : IsWord label) {c : Char}
    (hname : isNameChar c = false) (hblank : Text.isBlank c = false) (hquote : c ≠ '"')
    (s : List Char) : afterLabel label (' ' :: c :: s) = [] := by
  have hspace : Text.isBlank ' ' = true := by decide
  simp [afterLabel, afterBlanks, afterQuote, hspace, hblank, hquote, h.afterStart?_of_ne hname]

theorem IsWord.afterLabel_quote {label : List Char} (h : IsWord label) (s : List Char) :
    afterLabel label (' ' :: '"' :: s) = (Text.afterStart? label s).toList.flatMap afterQuote := by
  have hspace : Text.isBlank ' ' = true := by decide
  have hquote : Text.isBlank '"' = false := by decide
  have hnone := h.afterStart?_of_ne (c := '"') (by decide) s
  cases hs : Text.afterStart? label s with
  | none => simp [afterLabel, afterBlanks, afterQuote, hspace, hquote, hnone, hs]
  | some rest => simp [afterLabel, afterBlanks, afterQuote, hspace, hquote, hnone, hs]

theorem headerRest_cons (label : String) (labels : List String) :
    headerRest (label :: labels) = ' ' :: '"' :: (label.toList ++ '"' :: headerRest labels) := by
  simp [headerRest, labelChars]

/-- What may be left of a header behind its type, or behind a label and the quote after it. -/
def LeavesRest (labels : List String) (texts : List (List Char)) : Prop :=
  texts = [headerRest labels] ∨ texts = ['"' :: headerRest labels, headerRest labels]

theorem LeavesRest.flatMap_afterLabel {labels : List String} {texts : List (List Char)}
    (h : LeavesRest labels texts) (label : List Char) :
    texts.flatMap (afterLabel label) = afterLabel label (headerRest labels) := by
  have hquote : afterLabel label ('"' :: headerRest labels) = [] := by
    have hblank : Text.isBlank '"' = false := by decide
    simp [afterLabel, hblank]
  rcases h with rfl | rfl
  · simp
  · simp [hquote]

theorem LeavesRest.opensBody {labels : List String} {texts : List (List Char)}
    (h : LeavesRest labels texts) : texts.any opensBody = labels.isEmpty := by
  have hquote : Outline.opensBody ('"' :: headerRest labels) = false := by
    have hblank : Text.isBlank '"' = false := by decide
    simp [Outline.opensBody, Text.trimLeft, hblank]
  have hrest : Outline.opensBody (headerRest labels) = labels.isEmpty := by
    cases labels with
    | nil => rfl
    | cons label more =>
        have hspace : Text.isBlank ' ' = true := by decide
        have hblank : Text.isBlank '"' = false := by decide
        simp [headerRest_cons, Outline.opensBody, Text.trimLeft, hspace, hblank]
  rcases h with rfl | rfl
  · simp [hrest]
  · simp [hquote, hrest]

theorem afterLabel_headerRest_nil {label : List Char} (h : IsWord label) :
    afterLabel label (headerRest []) = [] :=
  h.afterLabel_of_ne (by decide) (by decide) (by decide) []

/-- Behind a label of a header stands what is left behind it, or the search was in vain. -/
theorem afterLabel_headerRest_cons {label other : String} (hlabel : isName label)
    (hother : isName other) (labels : List String) :
    (label = other ∧ LeavesRest labels
      (distinct (afterLabel label.toList (headerRest (other :: labels))))) ∨
    (label ≠ other ∧ ∀ t ∈ afterLabel label.toList (headerRest (other :: labels)), GoesOn t) := by
  have hword := isWord_of_isName hlabel
  rw [headerRest_cons, hword.afterLabel_quote]
  by_cases heq : label = other
  · subst heq
    refine .inl ⟨rfl, .inr ?_⟩
    rw [afterStart?_append_self]
    simp [afterQuote, distinct]
  · right
    refine ⟨heq, ?_⟩
    intro t ht
    cases hleft : Text.afterStart? label.toList (other.toList ++ '"' :: headerRest labels) with
    | none => simp [hleft] at ht
    | some left =>
        rcases afterStart?_word hword.2 (isWord_of_isName hother).2 (stopsAt_cons (by decide) _) hleft
          with ⟨hsame, -⟩ | ⟨c, rest, rfl, hc⟩
        · exact absurd (String.toList_injective hsame) heq
        · -- The label is the start of a longer one, which goes on with `c`.
          have hquote : c ≠ '"' := ne_of_class hc (by decide)
          simp only [hleft, Option.toList_some, List.flatMap_cons, List.flatMap_nil,
            List.append_nil, afterQuote] at ht
          split at ht
          next heq =>
              cases heq
              exact absurd rfl hquote
          next =>
              rw [List.mem_singleton.mp ht]
              exact ⟨c, rest, rfl, hc⟩

/-- Labels are found in what follows the type of a header when they are its labels, and in no
  other case. -/
theorem opensBody_afterEach_iff {labels others : List String} (hlabels : ∀ l ∈ labels, isName l)
    (hothers : ∀ l ∈ others, isName l) {texts : List (List Char)} (h : LeavesRest others texts) :
    (afterEach (labels.map String.toList) texts).any opensBody ↔ labels = others := by
  induction labels generalizing others texts with
  | nil =>
      rw [List.map_nil, afterEach, List.foldl_nil, h.opensBody, List.isEmpty_iff, eq_comm]
  | cons label more ih =>
      have hlabel := hlabels label (by simp)
      have hmore := fun l hl => hlabels l (List.mem_cons_of_mem label hl)
      rw [List.map_cons, afterEach, List.foldl_cons, h.flatMap_afterLabel, ← afterEach]
      cases others with
      | nil =>
          rw [afterLabel_headerRest_nil (isWord_of_isName hlabel),
            opensBody_afterEach_of_goesOn (by simp [distinct])]
          simp
      | cons other rest =>
          have hrest := fun l hl => hothers l (List.mem_cons_of_mem other hl)
          rcases afterLabel_headerRest_cons hlabel (hothers other (by simp)) rest with
            ⟨rfl, hleaves⟩ | ⟨hne, hgoesOn⟩
          · rw [ih hmore hrest hleaves, List.cons.injEq]
            simp
          · rw [opensBody_afterEach_of_goesOn fun t ht => hgoesOn t (mem_of_mem_distinct ht)]
            simp [hne]

/-! ### Lines -/

/-- A line that starts with a name is a header when that name is the type, and labels are found
  behind it. -/
theorem isHeader_of_word {type : String} (htype : isName type) (labels : List String)
    {word rest : List Char} (hword : IsWord word) (hrest : StopsAt isNameChar rest) :
    isHeader type labels (word ++ rest) ↔
      type.toList = word ∧ (afterEach (labels.map String.toList) [rest]).any opensBody := by
  rw [isHeader, (hword.goesOn rest).trimLeft]
  by_cases heq : type.toList = word
  · subst heq
    rw [afterStart?_append_self]
    simp [afterLabels, afterEach]
  · simp only [heq, false_and, iff_false, Bool.not_eq_true]
    cases hleft : Text.afterStart? type.toList (word ++ rest) with
    | none => rfl
    | some left =>
        rcases afterStart?_word (isWord_of_isName htype).2 hword.2 hrest hleft with
          ⟨hsame, -⟩ | hgoesOn
        · exact absurd hsame heq
        · exact opensBody_afterEach_of_goesOn (by simpa using hgoesOn)

/-- A printed header counts for its own type and labels only. -/
theorem isHeader_headerLine_iff {type other : String} {labels others : List String}
    (htype : isName type) (hlabels : ∀ l ∈ labels, isName l) (hother : isName other)
    (hothers : ∀ l ∈ others, isName l) :
    isHeader type labels (headerLine other others) ↔ type = other ∧ labels = others := by
  have hstop : StopsAt isNameChar (headerRest others) := by
    cases others with
    | nil => exact stopsAt_cons (by decide) _
    | cons l more =>
        rw [headerRest_cons]
        exact stopsAt_cons (by decide) _
  rw [headerLine, isHeader_of_word htype labels (isWord_of_isName hother) hstop,
    opensBody_afterEach_iff hlabels hothers (.inl rfl), String.toList_inj]

theorem isHeader_entryChars {type : String} {labels : List String} (htype : isName type)
    (hlabels : ∀ l ∈ labels, isName l) {e : String × Value} (hname : isName e.1) :
    isHeader type labels (entryChars e) = false := by
  have hline : entryChars e = e.1.toList ++ (' ' :: '=' :: ' ' :: e.2.text.toList) := by
    simp [entryChars]
  rw [← Bool.not_eq_true, hline,
    isHeader_of_word htype labels (isWord_of_isName hname) (stopsAt_cons (by decide) _)]
  rintro ⟨-, hopens⟩
  cases labels with
  | nil => simp [afterEach, Outline.opensBody, Text.trimLeft, Text.isBlank] at hopens
  | cons label more =>
      have hword := isWord_of_isName (hlabels label (by simp))
      rw [List.map_cons, afterEach, List.foldl_cons, List.flatMap_singleton,
        hword.afterLabel_of_ne (by decide) (by decide) (by decide), ← afterEach,
        opensBody_afterEach_of_goesOn (by simp [distinct])] at hopens
      cases hopens

theorem isHeader_brace {type : String} (htype : isName type) (labels : List String) :
    isHeader type labels ['\x7d'] = false := by
  have htrim : Text.trimLeft ['\x7d'] = ['\x7d'] := by decide
  rw [isHeader, htrim, (isWord_of_isName htype).afterStart?_of_ne (by decide)]

end Terralens
