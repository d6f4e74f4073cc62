import Mathlib.Data.List.DropRight
import Mathlib.Data.List.Forall2
import Terralens.Proofs.Hcl.Expressions
import Terralens.Text.Basic

/-!
# Words and white space

What is left of a text when it is trimmed, and where it is parted, can be told without going
through the text from either end. `trim s` is the one text without white space at its ends that
stands in `s` with nothing but white space around it (`trim_eq_iff`). The first word of a trimmed
text and what follows behind it are the two sides of the first gap (`IsTrimmed.parts_iff`).

A word may be asked for in letters of either case. For a word of small ASCII letters other than
`k` this can be told from the lower-case form of a text (`lowered_eq_iff_inAnyCase`). The letter
`k` is left out since it is the lower-case form of the Kelvin sign too.
-/

namespace Terralens.Text

open Hcl (StopsAt stopsAt_dropWhile takeWhile_append_stop)

def Blank (s : List Char) : Prop := ∀ c ∈ s, isBlank c

def Solid (s : List Char) : Prop := ∀ c ∈ s, isBlank c = false

structure IsTrimmed (s : List Char) : Prop where
  first : StopsAt isBlank s
  last : ∀ c ∈ s.getLast?, isBlank c = false

theorem Blank.append {s t : List Char} (hs : Blank s) (ht : Blank t) : Blank (s ++ t) := by
  intro c hc
  rcases List.mem_append.mp hc with hc | hc
  · exact hs c hc
  · exact ht c hc

/-! ### Trimmed texts -/

theorem IsTrimmed.of_append_right {s t : List Char} (h : IsTrimmed (s ++ t)) (ht : t ≠ [])
    (hfirst : StopsAt isBlank t) : IsTrimmed t := by
  refine ⟨hfirst, ?_⟩
  intro c hc
  apply h.last c
  rw [List.getLast?_append_of_ne_nil s ht]
  exact hc

/-- Nothing but the empty text is both blank and at the end of a trimmed text. -/
theorem IsTrimmed.eq_nil_of_blank {s t : List Char} (h : IsTrimmed (s ++ t)) (ht : Blank t) :
    t = [] := by
  by_contra hne
  have hlast := List.getLast?_eq_some_getLast hne
  have hblank := ht _ (List.getLast_mem hne)
  have hsolid := h.last (t.getLast hne) (by rw [List.getLast?_append_of_ne_nil s hne, hlast]; rfl)
  rw [hblank] at hsolid
  cases hsolid

theorem isTrimmed_trim (s : List Char) : IsTrimmed (trim s) := by
  have hprefix : trim s <+: s.dropWhile isBlank := List.rdropWhile_prefix isBlank _
  constructor
  · intro c hc
    apply stopsAt_dropWhile isBlank s c
    obtain ⟨rest, hrest⟩ := hprefix
    rw [← hrest, List.head?_append]
    rw [Option.mem_def] at hc ⊢
    rw [hc, Option.some_or]
  · intro c hc
    by_cases hne : trim s = []
    · rw [hne] at hc
      cases hc
    · rw [List.getLast?_eq_some_getLast hne, Option.mem_some] at hc
      rw [← hc]
      exact Bool.eq_false_iff.mpr (List.rdropWhile_last_not isBlank _ hne)

theorem exists_eq_append_trim (s : List Char) :
    ∃ pre post, Blank pre ∧ Blank post ∧ s = pre ++ trim s ++ post := by
  refine ⟨s.takeWhile isBlank, (s.dropWhile isBlank).rtakeWhile isBlank, ?_, ?_, ?_⟩
  · intro c hc
    exact List.mem_takeWhile_imp hc
  · intro c hc
    exact List.mem_rtakeWhile_imp hc
  · change s = s.takeWhile isBlank ++ (s.dropWhile isBlank).rdropWhile isBlank ++
      (s.dropWhile isBlank).rtakeWhile isBlank
    rw [List.append_assoc, List.rdropWhile_append_rtakeWhile, List.takeWhile_append_dropWhile]

theorem trim_blank_append {pre : List Char} (h : Blank pre) (s : List Char) :
    trim (pre ++ s) = trim s := by
  rw [trim, trimLeft, List.dropWhile_append_of_pos h]
  rfl

theorem trimRight_append_blank {s post : List Char} (hs : IsTrimmed s) (hpost : Blank post) :
    trimRight (s ++ post) = s := by
  have hlast : StopsAt isBlank s.reverse := by
    intro c hc
    rw [List.head?_reverse] at hc
    exact hs.last c hc
  have hsplit := takeWhile_append_stop (fun c hc => hpost c (List.mem_reverse.mp hc)) hlast
  rw [trimRight, List.reverse_append, hsplit.2, List.reverse_reverse]

theorem IsTrimmed.trim_append {s post : List Char} (hs : IsTrimmed s) (hpost : Blank post) :
    trim (s ++ post) = s := by
  cases s with
  | nil => simp [trim, trimLeft, trimRight, List.dropWhile_eq_nil_iff.mpr hpost]
  | cons c rest =>
      have hc : isBlank c = false := hs.first c rfl
      have hleft : trimLeft (c :: rest ++ post) = c :: rest ++ post := by simp [trimLeft, hc]
      rw [trim, hleft]
      exact trimRight_append_blank hs hpost

theorem trim_eq_iff {s m : List Char} :
    trim s = m ↔ IsTrimmed m ∧ ∃ pre post, Blank pre ∧ Blank post ∧ s = pre ++ m ++ post := by
  constructor
  · intro h
    rw [← h]
    exact ⟨isTrimmed_trim s, exists_eq_append_trim s⟩
  · rintro ⟨hm, pre, post, hpre, hpost, rfl⟩
    rw [List.append_assoc, trim_blank_append hpre]
    exact hm.trim_append hpost

theorem IsTrimmed.trim_eq {s : List Char} (h : IsTrimmed s) : trim s = s :=
  trim_eq_iff.mpr ⟨h, [], [], by simp [Blank], by simp [Blank], by simp⟩

theorem trim_eq_nil_iff {s : List Char} : trim s = [] ↔ Blank s := by
  constructor
  · intro h
    obtain ⟨pre, post, hpre, hpost, hs⟩ := exists_eq_append_trim s
    rw [hs, h, List.append_nil]
    exact hpre.append hpost
  · intro h
    simpa using IsTrimmed.trim_append (s := []) ⟨by simp [StopsAt], by simp⟩ h

/-! ### The first word -/

def firstWord (s : List Char) : List Char := s.takeWhile (!isBlank ·)

def afterWord (s : List Char) : List Char := s.dropWhile (!isBlank ·)

theorem firstWord_append_afterWord (s : List Char) : firstWord s ++ afterWord s = s :=
  List.takeWhile_append_dropWhile

theorem solid_firstWord (s : List Char) : Solid (firstWord s) := by
  intro c hc
  simpa using List.mem_takeWhile_imp hc

theorem isBlank_of_mem_head?_afterWord {s : List Char} {c : Char} (h : c ∈ (afterWord s).head?) :
    isBlank c := by
  simpa using stopsAt_dropWhile (!isBlank ·) s c h

theorem firstWord_append {word rest : List Char} (hword : Solid word)
    (hrest : ∀ c ∈ rest.head?, isBlank c) :
    firstWord (word ++ rest) = word ∧ afterWord (word ++ rest) = rest := by
  apply takeWhile_append_stop
  · intro c hc
    simp [hword c hc]
  · intro c hc
    simp [hrest c hc]

theorem firstWord_eq_nil_iff {s : List Char} (h : StopsAt isBlank s) :
    firstWord s = [] ↔ s = [] := by
  cases s with
  | nil => simp [firstWord]
  | cons c rest =>
      have hc : isBlank c = false := h c rfl
      simp [firstWord, hc]

/-- A trimmed text has a second word unless it is one word. -/
theorem IsTrimmed.trim_afterWord_eq_nil_iff {s : List Char} (h : IsTrimmed s) :
    trim (afterWord s) = [] ↔ firstWord s = s := by
  have hparts := firstWord_append_afterWord s
  rw [trim_eq_nil_iff]
  constructor
  · intro hblank
    rw [← hparts] at h
    rw [h.eq_nil_of_blank hblank, List.append_nil] at hparts
    exact hparts
  · intro hword
    rw [hword, List.append_right_eq_self] at hparts
    rw [hparts]
    simp [Blank]

/-- A text has a word, white space and a further text. -/
structure Parts (s word rest : List Char) : Prop where
  solid : Solid word
  word_ne : word ≠ []
  rest_ne : rest ≠ []
  starts : StopsAt isBlank rest
  gap : ∃ gap, gap ≠ [] ∧ Blank gap ∧ s = word ++ gap ++ rest

theorem IsTrimmed.parts_iff {s word rest : List Char} (h : IsTrimmed s) :
    Parts s word rest ↔ firstWord s = word ∧ trim (afterWord s) = rest ∧ rest ≠ [] := by
  constructor
  · rintro ⟨hsolid, -, hne, hstarts, gap, hgap, hblank, rfl⟩
    have hrest : IsTrimmed rest := h.of_append_right hne hstarts
    have hhead : ∀ c ∈ (gap ++ rest).head?, isBlank c := by
      intro c hc
      rw [List.head?_append_of_ne_nil gap hgap] at hc
      exact hblank c (List.mem_of_mem_head? hc)
    obtain ⟨hfirst, hafter⟩ := firstWord_append hsolid hhead
    rw [List.append_assoc, hfirst, hafter, trim_blank_append hblank, hrest.trim_eq]
    exact ⟨rfl, rfl, hne⟩
  · rintro ⟨rfl, rfl, hne⟩
    have hparts := firstWord_append_afterWord s
    obtain ⟨gap, post, hblank, hpost, hafter⟩ := exists_eq_append_trim (afterWord s)
    have hnone : post = [] := by
      rw [← hparts, hafter, ← List.append_assoc] at h
      exact h.eq_nil_of_blank hpost
    rw [hnone, List.append_nil] at hafter
    have hword : firstWord s ≠ [] := by
      intro hnil
      rw [(firstWord_eq_nil_iff h.first).mp hnil] at hne
      exact hne rfl
    refine ⟨solid_firstWord s, hword, hne, (isTrimmed_trim _).first, gap, ?_, hblank, ?_⟩
    · rintro rfl
      rw [List.nil_append] at hafter
      have hstarts := (isTrimmed_trim (afterWord s)).first
      rw [← hafter] at hstarts hne
      have hhead := List.head?_eq_some_head hne
      have hsolid := hstarts _ hhead
      rw [isBlank_of_mem_head?_afterWord hhead] at hsolid
      cases hsolid
    · rw [List.append_assoc, ← hafter, hparts]

/-- Parting a text at its first white space gives its first word and what follows, or nothing
  where it is a single word. -/
theorem splitAtBlank_cases (s : List Char) :
    (splitAtBlank s = none ∧ firstWord s = s ∧ afterWord s = []) ∨
      ∃ rest, splitAtBlank s = some (firstWord s, rest) ∧ trim rest = trim (afterWord s) := by
  induction s with
  | nil => exact .inl ⟨rfl, rfl, rfl⟩
  | cons c rest ih =>
      by_cases hc : isBlank c
      · refine .inr ⟨rest, by simp [splitAtBlank, firstWord, hc], ?_⟩
        have hafter : afterWord (c :: rest) = [c] ++ rest := by simp [afterWord, hc]
        rw [hafter, trim_blank_append (by simpa [Blank] using hc)]
      · have hfirst : firstWord (c :: rest) = c :: firstWord rest := by simp [firstWord, hc]
        have hafter : afterWord (c :: rest) = afterWord rest := by simp [afterWord, hc]
        rw [splitAtBlank, if_neg hc, hfirst, hafter]
        rcases ih with ⟨hnone, hword, hnil⟩ | ⟨more, hsome, htrim⟩
        · exact .inl ⟨by rw [hnone]; rfl, by rw [hword], hnil⟩
        · exact .inr ⟨more, by rw [hsome]; rfl, htrim⟩

/-! ### Letters of either case -/

/-- A text is a word of small letters, up to the case of the letters. -/
def InAnyCase (word s : List Char) : Prop :=
  List.Forall₂ (fun letter c => c = letter ∨ c = letter.toUpper) word s

instance (word s : List Char) : Decidable (InAnyCase word s) :=
  inferInstanceAs (Decidable (List.Forall₂ _ word s))

/-- A small ASCII letter that is the lower-case form of itself and its capital only. -/
def isPlainLetter (c : Char) : Bool := c.isLower && c != 'k'

theorem isPlainLetter_iff {c : Char} :
    isPlainLetter c ↔ (97 ≤ c.toNat ∧ c.toNat ≤ 122) ∧ c ≠ 'k' := by
  change (decide ('a'.val ≤ c.val) && decide (c.val ≤ 'z'.val) && c != 'k') = true ↔ _
  simp only [Bool.and_eq_true, decide_eq_true_eq, bne_iff_ne, UInt32.le_iff_toNat_le]
  exact Iff.rfl

theorem toNat_toLower (c : Char) :
    c.toLower.toNat = if 65 ≤ c.toNat ∧ c.toNat ≤ 90 then c.toNat + 32 else c.toNat := by
  change (Char.toLower c).val.toNat =
    if 65 ≤ c.val.toNat ∧ c.val.toNat ≤ 90 then c.val.toNat + 32 else c.val.toNat
  unfold Char.toLower
  simp only [ge_iff_le, UInt32.le_iff_toNat_le, show 'A'.val.toNat = 65 from rfl,
    show 'Z'.val.toNat = 90 from rfl]
  split
  · rw [UInt32.toNat_add, show ('a'.val - 'A'.val).toNat = 32 from rfl]
    omega
  · rfl

theorem toNat_toUpper (c : Char) :
    c.toUpper.toNat = if 97 ≤ c.toNat ∧ c.toNat ≤ 122 then c.toNat - 32 else c.toNat := by
  change (Char.toUpper c).val.toNat =
    if 97 ≤ c.val.toNat ∧ c.val.toNat ≤ 122 then c.val.toNat - 32 else c.val.toNat
  unfold Char.toUpper
  simp only [UInt32.le_iff_toNat_le, show 'a'.val.toNat = 97 from rfl,
    show 'z'.val.toNat = 122 from rfl]
  split
  · rw [UInt32.toNat_add, show ('A'.val - 'a'.val).toNat = 2 ^ 32 - 32 from rfl]
    omega
  · rfl

theorem toLower_eq_iff {letter c : Char} (h : isPlainLetter letter) :
    c.toLower = letter ↔ c = letter ∨ c = letter.toUpper := by
  obtain ⟨hrange, -⟩ := isPlainLetter_iff.mp h
  simp only [← Char.toNat_inj, toNat_toLower, toNat_toUpper, hrange, and_self, if_true]
  split <;> omega

theorem toNat_of_either {letter c : Char} (h : isPlainLetter letter)
    (hc : c = letter ∨ c = letter.toUpper) : 65 ≤ c.toNat ∧ c.toNat ≤ 122 := by
  obtain ⟨⟨hlow, hhigh⟩, -⟩ := isPlainLetter_iff.mp h
  rcases hc with rfl | rfl
  · omega
  · rw [toNat_toUpper]
    split <;> omega

/-- The lower-case form of a character gives plain letters only where it is a single one: the
  Kelvin sign gives a `k`, and the dotted capital `I` a dot behind its letter. -/
theorem lowerChar_append_eq_cons_iff {letter c : Char} {word more : List Char}
    (h : ∀ l ∈ letter :: word, isPlainLetter l) :
    lowerChar c ++ more = letter :: word ↔
      (c = letter ∨ c = letter.toUpper) ∧ more = word := by
  have hletter : isPlainLetter letter := h letter (by simp)
  by_cases hkelvin : c = '\u212a'
  · subst hkelvin
    constructor
    · intro heq
      obtain ⟨rfl, -⟩ := List.cons.inj heq
      exact absurd rfl (isPlainLetter_iff.mp hletter).2
    · rintro ⟨hc, -⟩
      exact absurd (toNat_of_either hletter hc) (by decide)
  · by_cases hdotted : c = '\u0130'
    · subst hdotted
      constructor
      · intro heq
        obtain ⟨-, rfl⟩ := List.cons.inj heq
        exact absurd (h '\u0307' (by simp)) (by decide)
      · rintro ⟨hc, -⟩
        exact absurd (toNat_of_either hletter hc) (by decide)
    · rw [lowerChar, if_neg hkelvin, if_neg hdotted, List.singleton_append, List.cons.injEq,
        toLower_eq_iff hletter]

theorem lowered_eq_nil_iff {s : List Char} : lowered s = [] ↔ s = [] := by
  constructor
  · intro h
    rw [lowered, List.flatMap_eq_nil_iff] at h
    cases s with
    | nil => rfl
    | cons c rest =>
        have hc := h c (by simp)
        unfold lowerChar at hc
        split_ifs at hc
  · rintro rfl
    rfl

theorem lowered_eq_iff_inAnyCase {word s : List Char} (h : ∀ c ∈ word, isPlainLetter c) :
    lowered s = word ↔ InAnyCase word s := by
  induction word generalizing s with
  | nil => rw [lowered_eq_nil_iff, InAnyCase, List.forall₂_nil_left_iff]
  | cons letter word ih =>
      cases s with
      | nil => simp [lowered, InAnyCase]
      | cons c rest =>
          have hword : ∀ l ∈ word, isPlainLetter l := fun l hl => h l (List.mem_cons_of_mem _ hl)
          rw [InAnyCase, List.forall₂_cons, ← InAnyCase, ← ih hword]
          exact lowerChar_append_eq_cons_iff h

theorem InAnyCase.solid {word s : List Char} (h : ∀ c ∈ word, isPlainLetter c)
    (hs : InAnyCase word s) : Solid s := by
  induction hs with
  | nil => simp [Solid]
  | @cons letter c word rest heither _ ih =>
      have hrange := toNat_of_either (h letter (by simp)) heither
      have hc : isBlank c = false := by
        simp [isBlank]
        omega
      have hrest := ih fun l hl => h l (List.mem_cons_of_mem letter hl)
      simpa [Solid, hc] using hrest

end Terralens.Text
