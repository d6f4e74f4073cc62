import Terralens.Proofs.Dependencies
import Terralens.Proofs.Hcl.Expressions

/-!
# What a text mentions

A scan goes from left to right, takes up what it finds, and tries the kinds of references one
after the other. None of this can be seen from outside. Whatever is found is written in the text,
as far as its name goes and not in the middle of a word or behind a point
(`standsBehind_of_mem_referencesIn`). And whatever is written between two characters of which no
reference consists is found, since the scan comes to the first of them with nothing left to skip
and no kind of reference takes the text for another one (`mem_referencesIn_of_standsBehind`).
-/

namespace Terralens

open Hcl (StopsAt stopsAt_cons takeWhile_append_stop)
open Text.Property (isWord)

/-- A text stands in another one. Only certain characters may stand right before it, and no ASCII
  letter, digit, underscore or hyphen stands right behind it. -/
def StandsBehind (before : Char → Prop) (s text : List Char) : Prop :=
  ∃ pre post, text = pre ++ s ++ post ∧ (∀ c ∈ pre.getLast?, before c) ∧
    ∀ c ∈ post.head?, ¬ (c.isAlphanum ∨ c = '_' ∨ c = '-')

/-! ### What is found is written -/

theorem mem_referencesFrom {skip : Nat} {s : List Char} {r : EntryRef}
    (h : r ∈ referencesFrom skip s) :
    ∃ pre c post, s = pre ++ c :: post ∧ mayPrecede c ∧ referenceAt post = some r := by
  induction s generalizing skip with
  | nil => simp [referencesFrom] at h
  | cons c rest ih =>
      have hlater : ∀ skip', r ∈ referencesFrom skip' rest → ∃ pre d post,
          c :: rest = pre ++ d :: post ∧ mayPrecede d ∧ referenceAt post = some r := by
        intro skip' hmem
        obtain ⟨pre, d, post, rfl, hd, hr⟩ := ih hmem
        exact ⟨c :: pre, d, post, rfl, hd, hr⟩
      cases skip with
      | succ skip => exact hlater skip (by simpa [referencesFrom] using h)
      | zero =>
          by_cases hc : mayPrecede c
          · cases hat : referenceAt rest with
            | none => exact hlater 0 (by simpa [referencesFrom, hc, hat] using h)
            | some first =>
                simp only [referencesFrom, hc, if_true, hat, List.mem_cons] at h
                rcases h with rfl | h
                · exact ⟨[], c, rest, rfl, hc, hat⟩
                · exact hlater _ h
          · exact hlater 0 (by simpa [referencesFrom, hc] using h)

theorem mayPrecede_iff {c : Char} : mayPrecede c ↔ ¬ isWord c ∧ c ≠ '.' := by
  simp [mayPrecede]

theorem standsBehind_of_mem_referencesIn {s : List Char} {r : EntryRef}
    (h : r ∈ referencesIn s) :
    Referable r ∧ StandsBehind (fun c => ¬ isWord c ∧ c ≠ '.') r.text.toList s := by
  have hstart : referenceAt s = some r →
      Referable r ∧ StandsBehind (fun c => ¬ isWord c ∧ c ≠ '.') r.text.toList s := by
    intro hr
    obtain ⟨hreferable, post, rfl, hpost⟩ := referenceAt_eq_some hr
    exact ⟨hreferable, [], post, rfl, by simp, stopsAt_continuesName_iff.mp hpost⟩
  have hfrom : ∀ skip, r ∈ referencesFrom skip s →
      Referable r ∧ StandsBehind (fun c => ¬ isWord c ∧ c ≠ '.') r.text.toList s := by
    intro skip hmem
    obtain ⟨pre, c, rest, rfl, hc, hr⟩ := mem_referencesFrom hmem
    obtain ⟨hreferable, post, rfl, hpost⟩ := referenceAt_eq_some hr
    exact ⟨hreferable, pre ++ [c], post, by simp, by simpa using mayPrecede_iff.mp hc,
      stopsAt_continuesName_iff.mp hpost⟩
  unfold referencesIn at h
  cases hat : referenceAt s with
  | none =>
      rw [hat] at h
      exact hfrom 0 h
  | some first =>
      rw [hat] at h
      rcases List.mem_cons.mp h with rfl | h
      · exact hstart hat
      · exact hfrom _ h

/-! ### What is written is found -/

/-- The words that begin the references to entries other than resources. -/
def kindWords : List String := ["var", "local", "module", "data"]

theorem afterStart?_of_ne {word first : List Char} (hword : '.' ∉ word) (hfirst : '.' ∉ first)
    (hne : first ≠ word) (rest : List Char) :
    Text.afterStart? (word ++ ['.']) (first ++ '.' :: rest) = none := by
  have hbefore : ∀ {s : List Char}, '.' ∉ s → ∀ t, (s ++ '.' :: t).takeWhile (· != '.') = s := by
    intro s hs t
    refine (takeWhile_append_stop ?_ (stopsAt_cons (by simp) t)).1
    intro c hc
    simpa using ne_of_mem_of_not_mem hc hs
  rw [Option.eq_none_iff_forall_ne_some]
  intro left hleft
  have heq : first ++ '.' :: rest = word ++ '.' :: left := by
    simpa using afterStart?_eq_some_iff.mp hleft
  apply hne
  rw [← hbefore hfirst rest, heq, hbefore hword left]

theorem nameAfter_of_ne {word first : List Char} (hword : '.' ∉ word) (hfirst : '.' ∉ first)
    (hne : first ≠ word) (rest : List Char) : nameAfter word (first ++ '.' :: rest) = none := by
  simp [nameAfter, afterStart?_of_ne hword hfirst hne]

theorem twoNamesAfter_of_ne {word first : List Char} (hword : '.' ∉ word) (hfirst : '.' ∉ first)
    (hne : first ≠ word) (rest : List Char) :
    twoNamesAfter word (first ++ '.' :: rest) = none := by
  simp [twoNamesAfter, afterStart?_of_ne hword hfirst hne]

theorem nameAfter_self (word : List Char) {name rest : List Char} (hname : IsIdentifier name)
    (hrest : StopsAt continuesName rest) :
    nameAfter word (word ++ '.' :: (name ++ rest)) = some name :=
  nameAfter_eq_some_iff.mpr ⟨hname, rest, by simp, hrest⟩

/-- No kind of reference takes a text for another one, unless the type of a resource is a word
  that begins other references. -/
theorem referenceAt_of_referable {r : EntryRef} (h : Referable r)
    (htype : ∀ key, r = .resource key → key.type ∉ kindWords) {rest : List Char}
    (hrest : StopsAt continuesName rest) : referenceAt (r.text.toList ++ rest) = some r := by
  cases h with
  | @«variable» name hname =>
      have htext : (EntryRef.mk .variable name).text.toList ++ rest =
          "var".toList ++ '.' :: (name.toList ++ rest) := by simp [EntryRef.text]
      rw [htext, referenceAt, twoNamesAfter_of_ne (by decide) (by decide) (by decide),
        nameAfter_self _ hname hrest]
      simp
  | @«local» name hname =>
      have htext : (EntryRef.mk .local name).text.toList ++ rest =
          "local".toList ++ '.' :: (name.toList ++ rest) := by simp [EntryRef.text]
      rw [htext, referenceAt, twoNamesAfter_of_ne (by decide) (by decide) (by decide),
        nameAfter_of_ne (by decide) (by decide) (by decide),
        nameAfter_self _ hname hrest]
      simp
  | @«module» name hname =>
      have htext : (EntryRef.mk .module name).text.toList ++ rest =
          "module".toList ++ '.' :: (name.toList ++ rest) := by simp [EntryRef.text]
      rw [htext, referenceAt, twoNamesAfter_of_ne (by decide) (by decide) (by decide),
        nameAfter_of_ne (by decide) (by decide) (by decide),
        nameAfter_of_ne (by decide) (by decide) (by decide),
        nameAfter_self _ hname hrest]
      simp
  | @dataSource key hid hname =>
      have hfound : twoNamesAfter "data".toList ((EntryRef.dataSource key).text.toList ++ rest) =
          some (key.type.toList, key.name.toList) := by
        refine twoNamesAfter_eq_some_iff.mpr ⟨hid, hname, rest, ?_, hrest⟩
        simp [EntryRef.text, EntryRef.dataSource, ResourceKey.text]
      rw [referenceAt, hfound]
      simp [EntryRef.dataSource, pairKey_eq]
  | @resource key hid hname =>
      have hfound : takeTwoNames (key.type.toList ++ '.' :: (key.name.toList ++ rest)) =
          some (key.type.toList, key.name.toList) :=
        takeTwoNames_eq_some_iff.mpr ⟨hid, hname, rest, by simp, hrest⟩
      have hfree := htype key rfl
      -- None of the four forms tried before it fits, as its type is none of their words.
      have hne : ∀ word ∈ kindWords, key.type.toList ≠ word.toList := by
        rintro word hword heq
        exact hfree (String.toList_injective heq ▸ hword)
      have htext : (EntryRef.resource key).text.toList ++ rest =
          key.type.toList ++ '.' :: (key.name.toList ++ rest) := by
        simp [EntryRef.text, EntryRef.resource, ResourceKey.text]
      rw [htext, referenceAt,
        twoNamesAfter_of_ne (by decide) hid.not_mem (hne "data" (by decide)),
        nameAfter_of_ne (by decide) hid.not_mem (hne "var" (by decide)),
        nameAfter_of_ne (by decide) hid.not_mem (hne "local" (by decide)),
        nameAfter_of_ne (by decide) hid.not_mem (hne "module" (by decide)), hfound]
      simp [EntryRef.resource, pairKey_eq]

theorem isWord_of_continuesName {c : Char} (h : continuesName c) : isWord c ∨ c = '-' := by
  simp only [continuesName, Bool.or_eq_true, beq_iff_eq] at h
  rcases h with (h | rfl) | rfl
  · left
    simp [isWord, Text.Property.isAsciiWord, Hcl.toNat_lt_of_isAlphanum h, h]
  · left
    decide
  · right
    rfl

theorem isSeparator_iff {c : Char} : isSeparator c ↔ ¬ isWord c ∧ c ≠ '.' ∧ c ≠ '-' := by
  simp only [isSeparator, inReference, Bool.and_eq_true, Bool.not_eq_true', Bool.or_eq_false_iff,
    beq_eq_false_iff_ne, mayPrecede_iff]
  constructor
  · rintro ⟨⟨hname, -⟩, hword, hpoint⟩
    refine ⟨hword, hpoint, ?_⟩
    rintro rfl
    exact absurd hname (by decide)
  · rintro ⟨hword, hpoint, hdash⟩
    refine ⟨⟨?_, hpoint⟩, hword, hpoint⟩
    rw [Bool.eq_false_iff]
    intro hname
    rcases isWord_of_continuesName hname with h | h
    · exact hword h
    · exact hdash h

theorem mem_referencesIn_of_standsBehind {s : List Char} {r : EntryRef} (h : Referable r)
    (htype : ∀ key, r = .resource key → key.type ∉ kindWords)
    (hs : StandsBehind (fun c => ¬ isWord c ∧ c ≠ '.' ∧ c ≠ '-') r.text.toList s) :
    r ∈ referencesIn s := by
  obtain ⟨pre, post, rfl, hpre, hpost⟩ := hs
  have hhere : r ∈ referencesIn (r.text.toList ++ post) := by
    rw [referencesIn, referenceAt_of_referable h htype (stopsAt_continuesName_iff.mpr hpost)]
    exact List.mem_cons_self
  rcases List.eq_nil_or_concat pre with rfl | ⟨init, c, rfl⟩
  · exact hhere
  · have hc : isSeparator c := isSeparator_iff.mpr (hpre c (by simp))
    have hlater : referencesIn (r.text.toList ++ post) <:+
        referencesIn (init ++ c :: (r.text.toList ++ post)) := referencesIn_separator hc
    simpa using hlater.subset hhere

/-- A text refers to those known entries, other than the source, that are written in it. What it
  refers to is written behind no word character and no point, and what is written behind neither
  of these nor a hyphen is referred to, whatever else stands in the text; only a resource whose
  type is the word of another kind may be taken for something else. -/
theorem mem_references (text : String) (source : EntryRef) (known : KeySet EntryRef) :
    (∀ r ∈ (references text source known).toList, r ∈ known.toList ∧ r ≠ source ∧ Referable r ∧
      StandsBehind (fun c => ¬ isWord c ∧ c ≠ '.') r.text.toList text.toList) ∧
    ∀ r ∈ known.toList, r ≠ source → Referable r →
      (∀ key, r = .resource key → key.type ∉ kindWords) →
      StandsBehind (fun c => ¬ isWord c ∧ c ≠ '.' ∧ c ≠ '-') r.text.toList text.toList →
      r ∈ (references text source known).toList := by
  constructor
  · intro r hr
    obtain ⟨hin, hne, hknown⟩ := mem_references_iff.mp hr
    obtain ⟨hreferable, hwritten⟩ := standsBehind_of_mem_referencesIn hin
    exact ⟨hknown, hne, hreferable, hwritten⟩
  · intro r hknown hne hreferable htype hwritten
    have hin := mem_referencesIn_of_standsBehind hreferable htype hwritten
    exact mem_references_iff.mpr ⟨hin, hne, hknown⟩

-- What stands behind a hyphen is found, unless the hyphen belongs to a name before it. Behind a
-- letter nothing is found, in ASCII or not.
example : referencesIn "1-var.c".toList = [⟨.variable, "c"⟩] ∧
    referencesIn "a.b-var.c".toList = [⟨.resource, "a.b-var"⟩] ∧
    referencesIn "évar.c".toList = [] := by decide

end Terralens
