import Terralens.References
import Terralens.Proofs.Hcl.Reading
import Terralens.Proofs.KeyMap
import Mathlib.Data.List.TakeWhile

/-!
# References in a part of a text

A reference is read off the front of a text as names and points, each name as far as it goes
(`takeName_eq_some_iff` and those behind it), and stands there as the entry is written
(`referenceAt_eq_some`). It consists of characters of names and points, and a scan never looks
past the first other character behind it. A part of a text that stands between separators is
therefore scanned as it is on its own: `referencesIn_part` says that every reference found
in the part alone is found in the whole text, whatever stands around the part.
-/

namespace Terralens

open Hcl (StopsAt stopsAt_cons stopsAt_dropWhile takeWhile_append_stop)

/-! ### Characters of references and separators -/

def inReference (c : Char) : Bool := continuesName c || c == '.'

/-- A character before which every reference ends and after which one may begin. -/
def isSeparator (c : Char) : Bool := !inReference c && mayPrecede c

/-- No reference extends from before a text into it. -/
def StartsApart (s : List Char) : Prop := ∀ c ∈ s.head?, inReference c = false

/-- A reference may begin where a text ends. -/
def EndsApart (s : List Char) : Prop := ∀ c ∈ s.getLast?, isSeparator c

theorem startsApart_nil : StartsApart [] := by simp [StartsApart]

theorem endsApart_nil : EndsApart [] := by simp [EndsApart]

theorem startsApart_cons {c : Char} {s : List Char} (h : isSeparator c) :
    StartsApart (c :: s) := by
  simp_all [StartsApart, isSeparator]

theorem StartsApart.append {s t : List Char} (hs : StartsApart s) (ht : StartsApart t) :
    StartsApart (s ++ t) := by
  cases s with
  | nil => exact ht
  | cons c rest => exact hs

theorem EndsApart.append {s t : List Char} (hs : EndsApart s) (ht : EndsApart t) :
    EndsApart (s ++ t) := by
  rcases List.eq_nil_or_concat t with rfl | ⟨init, c, rfl⟩
  · simpa using hs
  · simpa [EndsApart] using ht

theorem inReference_of_startsName {c : Char} (h : startsName c) : inReference c := by
  have halphanum : c.isAlpha → c.isAlphanum := by
    intro halpha
    simp [Char.isAlphanum, halpha]
  simp only [startsName, Bool.or_eq_true] at h
  rcases h with h | h
  · simp [inReference, continuesName, halphanum h]
  · simp [inReference, continuesName, h]

/-! ### One reference before a separator -/

theorem takeWhile_continuesName_append {s post : List Char} (hpost : StartsApart post) :
    (s ++ post).takeWhile continuesName = s.takeWhile continuesName ∧
      (s ++ post).dropWhile continuesName = s.dropWhile continuesName ++ post := by
  have hstop : post.takeWhile continuesName = [] ∧ post.dropWhile continuesName = post := by
    cases post with
    | nil => simp
    | cons c rest =>
        have hc : continuesName c = false := by
          have hout : inReference c = false := hpost c rfl
          simp_all [inReference]
        simp [hc]
  induction s with
  | nil => exact hstop
  | cons c rest ih =>
      by_cases hc : continuesName c
      · simpa [hc] using ih
      · simp [hc]

theorem takeName_append {s post : List Char} (hpost : StartsApart post) :
    takeName (s ++ post) = (takeName s).map fun (name, rest) => (name, rest ++ post) := by
  cases s with
  | nil =>
      cases post with
      | nil => rfl
      | cons c rest =>
          have hc : startsName c = false := by
            have hout : inReference c = false := hpost c rfl
            rw [← Bool.not_eq_true] at hout ⊢
            exact fun hstart => hout (inReference_of_startsName hstart)
          simp [takeName, hc]
  | cons c rest =>
      obtain ⟨htake, hdrop⟩ := takeWhile_continuesName_append (s := rest) hpost
      by_cases hc : startsName c
      · simp [takeName, hc, htake, hdrop]
      · simp [takeName, hc]

theorem takeTwoNames_append {s post : List Char} (hpost : StartsApart post) :
    takeTwoNames (s ++ post) = takeTwoNames s := by
  unfold takeTwoNames
  rw [takeName_append hpost]
  cases takeName s with
  | none => rfl
  | some found =>
      obtain ⟨first, rest⟩ := found
      match rest with
      | [] =>
          match post with
          | [] => rfl
          | c :: more =>
              have hc : c ≠ '.' := by
                rintro rfl
                simpa [inReference] using hpost '.' rfl
              simp [hc]
      | c :: more =>
          by_cases hc : c = '.'
          · subst hc
            simp [takeName_append hpost, Function.comp_def]
          · simp [hc]

theorem afterStart?_append {word s post : List Char} (hword : word.all inReference)
    (hpost : StartsApart post) :
    Text.afterStart? word (s ++ post) = (Text.afterStart? word s).map (· ++ post) := by
  induction word generalizing s with
  | nil => simp [Text.afterStart?]
  | cons w more ih =>
      simp only [List.all_cons, Bool.and_eq_true] at hword
      obtain ⟨hw, hmore⟩ := hword
      match s with
      | [] =>
          match post with
          | [] => rfl
          | c :: rest =>
              have hne : w ≠ c := by
                rintro rfl
                have hout : inReference w = false := hpost w rfl
                simp [hw] at hout
              simp [Text.afterStart?, hne]
      | c :: rest =>
          by_cases heq : w = c
          · simpa [Text.afterStart?, heq] using ih hmore
          · simp [Text.afterStart?, heq]

theorem nameAfter_append {word s post : List Char} (hword : (word ++ ['.']).all inReference)
    (hpost : StartsApart post) : nameAfter word (s ++ post) = nameAfter word s := by
  unfold nameAfter
  rw [afterStart?_append hword hpost]
  cases Text.afterStart? (word ++ ['.']) s with
  | none => rfl
  | some rest => simp [takeName_append hpost, Function.comp_def]

theorem twoNamesAfter_append {word s post : List Char}
    (hword : (word ++ ['.']).all inReference) (hpost : StartsApart post) :
    twoNamesAfter word (s ++ post) = twoNamesAfter word s := by
  unfold twoNamesAfter
  rw [afterStart?_append hword hpost]
  cases Text.afterStart? (word ++ ['.']) s with
  | none => rfl
  | some rest => simp [takeTwoNames_append hpost]

/-- What follows a separator does not matter to the reference a text begins with. -/
theorem referenceAt_append {s post : List Char} (hpost : StartsApart post) :
    referenceAt (s ++ post) = referenceAt s := by
  unfold referenceAt
  rw [twoNamesAfter_append (by decide) hpost, nameAfter_append (by decide) hpost,
    nameAfter_append (by decide) hpost, nameAfter_append (by decide) hpost,
    takeTwoNames_append hpost]

/-! ### The text a reference takes up -/

/-- A name of which references are made: an ASCII letter or an underscore, followed by ASCII
  letters, digits, underscores and hyphens. -/
def IsIdentifier (s : List Char) : Prop :=
  ∃ c rest, s = c :: rest ∧ (c.isAlpha ∨ c = '_') ∧ ∀ d ∈ rest, d.isAlphanum ∨ d = '_' ∨ d = '-'

theorem startsName_iff {c : Char} : startsName c ↔ c.isAlpha ∨ c = '_' := by simp [startsName]

theorem continuesName_iff {c : Char} : continuesName c ↔ c.isAlphanum ∨ c = '_' ∨ c = '-' := by
  simp [continuesName, or_assoc]

theorem isIdentifier_iff {s : List Char} :
    IsIdentifier s ↔ ∃ c rest, s = c :: rest ∧ startsName c ∧ ∀ d ∈ rest, continuesName d := by
  simp only [IsIdentifier, startsName_iff, continuesName_iff]

theorem stopsAt_continuesName_iff {s : List Char} :
    StopsAt continuesName s ↔ ∀ c ∈ s.head?, ¬ (c.isAlphanum ∨ c = '_' ∨ c = '-') := by
  simp only [StopsAt, ← continuesName_iff, Bool.not_eq_true]

theorem IsIdentifier.not_mem {s : List Char} (h : IsIdentifier s) : '.' ∉ s := by
  obtain ⟨c, rest, rfl, hstart, hrest⟩ := isIdentifier_iff.mp h
  intro hmem
  rcases List.mem_cons.mp hmem with rfl | hmem
  · exact absurd hstart (by decide)
  · exact absurd (hrest '.' hmem) (by decide)

/-- A name is taken as far as it goes. -/
theorem takeName_eq_some_iff {s name rest : List Char} :
    takeName s = some (name, rest) ↔
      IsIdentifier name ∧ s = name ++ rest ∧ StopsAt continuesName rest := by
  rw [isIdentifier_iff]
  constructor
  · intro h
    cases s with
    | nil => cases h
    | cons c more =>
        by_cases hc : startsName c
        · simp only [takeName, hc, if_true, Option.some.injEq, Prod.mk.injEq] at h
          obtain ⟨rfl, rfl⟩ := h
          exact ⟨⟨c, _, rfl, hc, fun d hd => List.mem_takeWhile_imp hd⟩, by simp,
            stopsAt_dropWhile continuesName more⟩
        · simp [takeName, hc] at h
  · rintro ⟨⟨c, more, rfl, hc, hmore⟩, rfl, hrest⟩
    obtain ⟨htake, hdrop⟩ := takeWhile_append_stop hmore hrest
    simp [takeName, hc, htake, hdrop]

theorem takeTwoNames_eq_some_iff {s first second : List Char} :
    takeTwoNames s = some (first, second) ↔
      IsIdentifier first ∧ IsIdentifier second ∧
        ∃ rest, s = first ++ '.' :: second ++ rest ∧ StopsAt continuesName rest := by
  constructor
  · intro h
    unfold takeTwoNames at h
    split at h
    next name rest hfirst =>
        obtain ⟨⟨name', rest'⟩, hsecond, heq⟩ := Option.map_eq_some_iff.mp h
        obtain ⟨rfl, rfl⟩ := Prod.mk.inj heq
        obtain ⟨hname, rfl, -⟩ := takeName_eq_some_iff.mp hfirst
        obtain ⟨hname', rfl, hrest'⟩ := takeName_eq_some_iff.mp hsecond
        exact ⟨hname, hname', rest', by simp, hrest'⟩
    · cases h
  · rintro ⟨hfirst, hsecond, rest, rfl, hrest⟩
    have htakeFirst : takeName (first ++ '.' :: (second ++ rest)) =
        some (first, '.' :: (second ++ rest)) :=
      takeName_eq_some_iff.mpr ⟨hfirst, rfl, stopsAt_cons (by decide) _⟩
    have htakeSecond : takeName (second ++ rest) = some (second, rest) :=
      takeName_eq_some_iff.mpr ⟨hsecond, rfl, hrest⟩
    rw [List.append_assoc, List.cons_append]
    simp [takeTwoNames, htakeFirst, htakeSecond]

theorem afterStart?_append_self (s rest : List Char) :
    Text.afterStart? s (s ++ rest) = some rest := by
  induction s with
  | nil => rfl
  | cons c more ih => simpa [Text.afterStart?] using ih

theorem afterStart?_eq_some_iff {word s rest : List Char} :
    Text.afterStart? word s = some rest ↔ s = word ++ rest := by
  constructor
  · intro h
    induction word generalizing s with
    | nil => simpa [Text.afterStart?] using h
    | cons w more ih =>
        cases s with
        | nil => cases h
        | cons c cs =>
            by_cases heq : w = c
            · simp only [Text.afterStart?, heq, if_true] at h
              simp [heq, ih h]
            · simp [Text.afterStart?, heq] at h
  · rintro rfl
    exact afterStart?_append_self word rest

theorem nameAfter_eq_some_iff {word s name : List Char} :
    nameAfter word s = some name ↔
      IsIdentifier name ∧
        ∃ rest, s = word ++ '.' :: name ++ rest ∧ StopsAt continuesName rest := by
  unfold nameAfter
  simp only [Option.map_eq_some_iff, Option.bind_eq_some_iff, afterStart?_eq_some_iff]
  constructor
  · rintro ⟨⟨found, rest⟩, ⟨after, rfl, htake⟩, rfl⟩
    obtain ⟨hname, rfl, hrest⟩ := takeName_eq_some_iff.mp htake
    exact ⟨hname, rest, by simp, hrest⟩
  · rintro ⟨hname, rest, rfl, hrest⟩
    exact ⟨(name, rest), ⟨name ++ rest, by simp, takeName_eq_some_iff.mpr ⟨hname, rfl, hrest⟩⟩, rfl⟩

theorem twoNamesAfter_eq_some_iff {word s first second : List Char} :
    twoNamesAfter word s = some (first, second) ↔
      IsIdentifier first ∧ IsIdentifier second ∧
        ∃ rest, s = word ++ '.' :: (first ++ '.' :: second) ++ rest ∧
          StopsAt continuesName rest := by
  unfold twoNamesAfter
  simp only [Option.bind_eq_some_iff, afterStart?_eq_some_iff, takeTwoNames_eq_some_iff]
  constructor
  · rintro ⟨after, rfl, hfirst, hsecond, rest, rfl, hrest⟩
    exact ⟨hfirst, hsecond, rest, by simp, hrest⟩
  · rintro ⟨hfirst, hsecond, rest, rfl, hrest⟩
    exact ⟨first ++ '.' :: second ++ rest, by simp, hfirst, hsecond, rest, rfl, hrest⟩

/-! ### What can be referred to -/

/-- An entry whose written form is a reference: it is of a kind that can be referred to, and its
  name, for a resource or data source its type and its name, are identifiers. -/
inductive Referable : EntryRef → Prop where
  | variable {name : String} (hname : IsIdentifier name.toList) : Referable ⟨.variable, name⟩
  | local {name : String} (hname : IsIdentifier name.toList) : Referable ⟨.local, name⟩
  | module {name : String} (hname : IsIdentifier name.toList) : Referable ⟨.module, name⟩
  | dataSource {key : ResourceKey} (htype : IsIdentifier key.type.toList)
      (hname : IsIdentifier key.name.toList) : Referable (.dataSource key)
  | resource {key : ResourceKey} (htype : IsIdentifier key.type.toList)
      (hname : IsIdentifier key.name.toList) : Referable (.resource key)

theorem pairKey_eq (first second : List Char) :
    pairKey (first, second) = ResourceKey.text ⟨String.ofList first, String.ofList second⟩ := by
  apply String.toList_injective
  simp [pairKey, ResourceKey.text]

/-- A reference stands in the text as it is written, and goes on as far as its last name. -/
theorem referenceAt_eq_some {s : List Char} {r : EntryRef} (h : referenceAt s = some r) :
    Referable r ∧ ∃ rest, s = r.text.toList ++ rest ∧ StopsAt continuesName rest := by
  unfold referenceAt at h
  split at h
  next names hnames =>
      cases h
      obtain ⟨hfirst, hsecond, rest, rfl, hrest⟩ := twoNamesAfter_eq_some_iff.mp hnames
      refine ⟨?_, rest, by simp [EntryRef.text, pairKey], hrest⟩
      rw [pairKey_eq]
      exact .dataSource (by simpa using hfirst) (by simpa using hsecond)
  · split at h
    next name hname =>
        cases h
        obtain ⟨hid, rest, rfl, hrest⟩ := nameAfter_eq_some_iff.mp hname
        exact ⟨.variable (by simpa using hid), rest, by simp [EntryRef.text], hrest⟩
    · split at h
      next name hname =>
          cases h
          obtain ⟨hid, rest, rfl, hrest⟩ := nameAfter_eq_some_iff.mp hname
          exact ⟨.local (by simpa using hid), rest, by simp [EntryRef.text], hrest⟩
      · split at h
        next name hname =>
            cases h
            obtain ⟨hid, rest, rfl, hrest⟩ := nameAfter_eq_some_iff.mp hname
            exact ⟨.module (by simpa using hid), rest, by simp [EntryRef.text], hrest⟩
        · obtain ⟨⟨first, second⟩, hnames, rfl⟩ := Option.map_eq_some_iff.mp h
          obtain ⟨hfirst, hsecond, rest, rfl, hrest⟩ := takeTwoNames_eq_some_iff.mp hnames
          refine ⟨?_, rest, by simp [EntryRef.text, pairKey], hrest⟩
          rw [pairKey_eq]
          exact .resource (by simpa using hfirst) (by simpa using hsecond)

theorem length_text_le {s : List Char} {r : EntryRef} (h : referenceAt s = some r) :
    r.text.length ≤ s.length := by
  obtain ⟨-, rest, hs, -⟩ := referenceAt_eq_some h
  rw [hs, List.length_append, String.length_toList]
  exact Nat.le_add_right _ _

/-! ### Scans -/

/-- A scan does not see what follows a separator. -/
theorem referencesFrom_append {s post : List Char} (hpost : StartsApart post) {skip : Nat}
    (hskip : skip ≤ s.length) : referencesFrom skip s <+: referencesFrom skip (s ++ post) := by
  -- The text to be skipped never reaches beyond `s`: a match ends within `s`, before `post`.
  induction s generalizing skip with
  | nil => simp [referencesFrom]
  | cons c rest ih =>
      cases skip with
      | succ skip => simpa [referencesFrom] using ih (by simpa using hskip)
      | zero =>
          by_cases hc : mayPrecede c
          · simp only [referencesFrom, List.cons_append, hc, if_true, referenceAt_append hpost]
            cases hr : referenceAt rest with
            | none => exact ih (Nat.zero_le _)
            | some r => exact (List.prefix_cons_inj r).mpr (ih (length_text_le hr))
          · simpa [referencesFrom, hc] using ih (Nat.zero_le _)

/-- A scan comes to every separator with nothing left to skip. -/
theorem referencesFrom_separator {pre v : List Char} {g : Char} (hg : isSeparator g)
    {skip : Nat} (hskip : skip ≤ pre.length) :
    referencesFrom 0 (g :: v) <:+ referencesFrom skip (pre ++ g :: v) := by
  -- No match in `pre` extends over the separator, so the scan is never amid one when it gets there.
  induction pre generalizing skip with
  | nil =>
      have hzero : skip = 0 := by simpa using hskip
      simp [hzero]
  | cons c rest ih =>
      cases skip with
      | succ skip => simpa [referencesFrom] using ih (by simpa using hskip)
      | zero =>
          by_cases hc : mayPrecede c
          · simp only [referencesFrom, List.cons_append, hc, if_true,
              referenceAt_append (startsApart_cons hg)]
            cases hr : referenceAt rest with
            | none => exact ih (Nat.zero_le _)
            | some r => exact (ih (length_text_le hr)).trans (List.suffix_cons r _)
          · simpa [referencesFrom, hc] using ih (Nat.zero_le _)

theorem referencesFrom_cons_separator {g : Char} (hg : isSeparator g) (v : List Char) :
    referencesFrom 0 (g :: v) = referencesIn v := by
  have hprecede : mayPrecede g := by simp_all [isSeparator]
  simp only [referencesFrom, hprecede, if_true]
  rfl

theorem referencesIn_append {s post : List Char} (hpost : StartsApart post) :
    referencesIn s <+: referencesIn (s ++ post) := by
  unfold referencesIn
  rw [referenceAt_append hpost]
  cases hr : referenceAt s with
  | none => exact referencesFrom_append hpost (Nat.zero_le _)
  | some r =>
      exact (List.prefix_cons_inj r).mpr (referencesFrom_append hpost (length_text_le hr))

theorem referencesIn_separator {pre v : List Char} {g : Char} (hg : isSeparator g) :
    referencesIn v <:+ referencesIn (pre ++ g :: v) := by
  rw [← referencesFrom_cons_separator hg]
  conv => rhs; unfold referencesIn
  rw [referenceAt_append (startsApart_cons hg)]
  cases hr : referenceAt pre with
  | none => exact referencesFrom_separator hg (Nat.zero_le _)
  | some r =>
      exact (referencesFrom_separator hg (length_text_le hr)).trans (List.suffix_cons r _)

/-- Whatever is found in a part of a text alone is found in the whole text, when the part
  stands between separators or at the ends of the text. -/
theorem referencesIn_part {pre s post : List Char} (hpre : EndsApart pre)
    (hpost : StartsApart post) : referencesIn s <:+: referencesIn (pre ++ s ++ post) := by
  have hs : referencesIn s <+: referencesIn (s ++ post) := referencesIn_append hpost
  rcases List.eq_nil_or_concat pre with rfl | ⟨init, g, rfl⟩
  · simpa using hs.isInfix
  · have hg : isSeparator g := hpre g (by simp)
    have hrest : referencesIn (s ++ post) <:+ referencesIn (init ++ g :: (s ++ post)) :=
      referencesIn_separator hg
    simpa using hs.isInfix.trans hrest.isInfix

end Terralens
