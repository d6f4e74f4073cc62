import Mathlib.Data.List.DropRight
import Mathlib.Data.List.Infix
import Terralens.Answer
import Terralens.Proofs.Parts
import Terralens.Proofs.References

/-!
# Code in answers

An answer is made of prose and of fenced blocks, each on lines of its own. What is taken out of it
are the bodies of the blocks that are marked as Terraform code, one for one and character for
character (`extractCodeBlocks_answerText`).

The search goes through the text from fence to fence. Nothing is found where there is no fence
(`FenceFree.codeBlocksFrom_append`), and at a fence the mark and the line end behind it decide
(`opening?_eq_some_iff`): no closing fence has a mark, since its line ends there. So each part is
dealt with apart from what follows (`AnswerPart.codeBlocksFrom_append`), and the parts by induction.
-/

namespace Terralens

open Hcl (stopsAt_cons takeWhile_append_stop)

def FenceFree (s : List Char) : Prop := ¬ fence <:+: s

instance (s : List Char) : Decidable (FenceFree s) := inferInstanceAs (Decidable (¬ _))

/-- A line ends where a text begins, or the text is at its end. -/
def EndsLine (s : List Char) : Prop := ∀ c ∈ s.head?, c = '\n'

/-! ### Answers in parts -/

/-- A part of an answer: prose, or a fenced block with what stands behind its opening fence and
  with its body. -/
inductive AnswerPart where
  | prose (text : List Char)
  | block (info body : List Char)

def codeMarks : List (List Char) := ["hcl".toList, "terraform".toList, "tf".toList]

def isIndent (c : Char) : Bool := c == ' ' || c == '\t'

namespace AnswerPart

def text : AnswerPart → List Char
  | .prose text => text
  | .block info body => fence ++ (info ++ '\n' :: (body ++ '\n' :: fence))

/-- The code in a part: the body of a block that is marked as Terraform code. -/
def code? : AnswerPart → Option String
  | .prose _ => none
  | .block info body =>
      if info.rdropWhile isIndent ∈ codeMarks then some (String.ofList body) else none

/-- Neither prose nor bodies have fences in them. What stands behind an opening fence has neither
  backticks nor line feeds, and like a body it does not end in a carriage return, which would belong
  to the line end behind it. -/
def WellFormed : AnswerPart → Prop
  | .prose text => FenceFree text
  | .block info body =>
      ('\x60' ∉ info ∧ '\n' ∉ info ∧ '\r' ∉ info.getLast?) ∧ FenceFree body ∧
        '\r' ∉ body.getLast?

instance (p : AnswerPart) : Decidable p.WellFormed := by
  unfold WellFormed
  cases p <;> exact inferInstance

end AnswerPart

/-- The parts of an answer, each on lines of its own. -/
def answerText (parts : List AnswerPart) : List Char :=
  ['\n'].intercalate (parts.map AnswerPart.text)

/-! ### Texts without fences -/

theorem FenceFree.of_suffix {s t : List Char} (h : FenceFree s) (ht : t <:+ s) : FenceFree t :=
  fun hfence => h (hfence.trans ht.isInfix)

theorem not_mem_fence : '\n' ∉ fence := by decide

/-- No fence begins in a text without fences, whatever comes behind the end of its line. -/
theorem FenceFree.not_isPrefix_append {s rest : List Char} (h : FenceFree s)
    (hrest : EndsLine rest) : ¬ fence <+: s ++ rest := by
  intro hprefix
  rcases List.prefix_or_prefix_of_prefix hprefix (List.prefix_append s rest) with
    hin | ⟨more, hmore⟩
  · exact h hin.isInfix
  · cases more with
    | nil =>
        rw [List.append_nil] at hmore
        exact h (hmore ▸ List.infix_rfl)
    | cons c others =>
        rw [← hmore, List.prefix_append_right_inj] at hprefix
        obtain ⟨left, hleft⟩ := hprefix
        have hc : c = '\n' := hrest c (by simp [← hleft])
        apply not_mem_fence
        rw [← hmore, ← hc]
        simp

theorem opening?_eq_none {s : List Char} (h : ¬ fence <+: s) : opening? s = none := by
  have hstart : Text.afterStart? fence s = none := by
    rw [Option.eq_none_iff_forall_ne_some]
    intro rest hrest
    exact h ⟨rest, (afterStart?_eq_some_iff.mp hrest).symm⟩
  rw [opening?, hstart]
  rfl

theorem codeBlocksFrom_eq_drop (skip : Nat) (s : List Char) :
    codeBlocksFrom skip s = codeBlocksFrom 0 (s.drop skip) := by
  induction skip generalizing s with
  | zero => rfl
  | succ skip ih =>
      cases s with
      | nil => rfl
      | cons c rest => rw [codeBlocksFrom, ih, List.drop_succ_cons]

/-- A character at which no block opens is passed over. -/
theorem codeBlocksFrom_cons {c : Char} {rest : List Char} (h : opening? (c :: rest) = none) :
    codeBlocksFrom 0 (c :: rest) = codeBlocksFrom 0 rest := by
  rw [codeBlocksFrom, block?, h]
  rfl

theorem codeBlocksFrom_break (rest : List Char) :
    codeBlocksFrom 0 ('\n' :: rest) = codeBlocksFrom 0 rest := by
  apply codeBlocksFrom_cons
  apply opening?_eq_none
  simp [fence]

theorem FenceFree.codeBlocksFrom_append {s rest : List Char} (h : FenceFree s)
    (hrest : EndsLine rest) : codeBlocksFrom 0 (s ++ rest) = codeBlocksFrom 0 rest := by
  induction s with
  | nil => rfl
  | cons c more ih =>
      have hnone := opening?_eq_none (h.not_isPrefix_append hrest)
      rw [List.cons_append] at hnone ⊢
      rw [codeBlocksFrom_cons hnone]
      exact ih (h.of_suffix (List.suffix_cons c more))

/-! ### Opening fences -/

def afterMark? (s : List Char) : Option (List Char) :=
  Text.afterStart? "hcl".toList s <|> Text.afterStart? "terraform".toList s <|>
    Text.afterStart? "tf".toList s

def afterBreak? (s : List Char) : Option (List Char) :=
  Text.afterStart? ['\r', '\n'] s <|> Text.afterStart? ['\n'] s

theorem opening?_eq_bind (s : List Char) :
    opening? s =
      (Text.afterStart? fence s).bind fun s =>
        (afterMark? s).bind fun s => afterBreak? (s.dropWhile isIndent) :=
  rfl

theorem afterMark?_eq_some_iff {s rest : List Char} :
    afterMark? s = some rest ↔ ∃ mark ∈ codeMarks, s = mark ++ rest := by
  constructor
  · intro h
    simp only [afterMark?, Option.orElse_eq_orElse, Option.orElse_eq_or, Option.or_eq_some_iff,
      afterStart?_eq_some_iff] at h
    rcases h with h | ⟨-, h | ⟨-, h⟩⟩
    · exact ⟨_, by simp [codeMarks], h⟩
    · exact ⟨_, by simp [codeMarks], h⟩
    · exact ⟨_, by simp [codeMarks], h⟩
  · rintro ⟨mark, hmark, rfl⟩
    simp only [codeMarks, List.mem_cons, List.not_mem_nil, or_false] at hmark
    rcases hmark with rfl | rfl | rfl <;> rfl

theorem afterBreak?_eq_some_iff {s rest : List Char} :
    afterBreak? s = some rest ↔ s = '\r' :: '\n' :: rest ∨ s = '\n' :: rest := by
  constructor
  · intro h
    simp only [afterBreak?, Option.orElse_eq_orElse, Option.orElse_eq_or, Option.or_eq_some_iff,
      afterStart?_eq_some_iff] at h
    rcases h with h | ⟨-, h⟩
    · exact .inl h
    · exact .inr h
  · rintro (rfl | rfl) <;> rfl

/-- A block opens with a fence, a mark, spaces and tabs, and a line end. -/
theorem opening?_eq_some_iff {s rest : List Char} :
    opening? s = some rest ↔
      ∃ mark ∈ codeMarks, ∃ indent, (∀ c ∈ indent, isIndent c) ∧
        (s = fence ++ (mark ++ (indent ++ '\r' :: '\n' :: rest)) ∨
          s = fence ++ (mark ++ (indent ++ '\n' :: rest))) := by
  simp only [opening?_eq_bind, Option.bind_eq_some_iff, afterStart?_eq_some_iff,
    afterMark?_eq_some_iff, afterBreak?_eq_some_iff]
  constructor
  · rintro ⟨_, rfl, behind, ⟨mark, hmark, rfl⟩, hbreak⟩
    refine ⟨mark, hmark, behind.takeWhile isIndent, fun c hc => List.mem_takeWhile_imp hc, ?_⟩
    rcases hbreak with hbreak | hbreak
    · left
      rw [← hbreak, List.takeWhile_append_dropWhile]
    · right
      rw [← hbreak, List.takeWhile_append_dropWhile]
  · rintro ⟨mark, hmark, indent, hindent, rfl | rfl⟩
    · refine ⟨_, rfl, _, ⟨mark, hmark, rfl⟩, .inl ?_⟩
      rw [List.dropWhile_append_of_pos hindent]
      rfl
    · refine ⟨_, rfl, _, ⟨mark, hmark, rfl⟩, .inr ?_⟩
      rw [List.dropWhile_append_of_pos hindent]
      rfl

theorem rdropWhile_mark_append {mark indent : List Char} (hmark : mark ∈ codeMarks)
    (hindent : ∀ c ∈ indent, isIndent c) : (mark ++ indent).rdropWhile isIndent = mark := by
  have hlast : mark.rdropWhile isIndent = mark := by
    simp only [codeMarks, List.mem_cons, List.not_mem_nil, or_false] at hmark
    rcases hmark with rfl | rfl | rfl <;> decide
  rw [List.rdropWhile, List.reverse_append,
    List.dropWhile_append_of_pos fun c hc => hindent c (List.mem_reverse.mp hc)]
  exact hlast

/-- The first line of a text and what follows it are told from the text. -/
theorem eq_of_append_break_eq {s t u v : List Char} (hs : '\n' ∉ s) (ht : '\n' ∉ t)
    (h : s ++ '\n' :: u = t ++ '\n' :: v) : s = t ∧ u = v := by
  have hfirst : ∀ {line : List Char}, '\n' ∉ line → ∀ rest,
      (line ++ '\n' :: rest).takeWhile (· != '\n') = line := by
    intro line hline rest
    refine (takeWhile_append_stop ?_ (stopsAt_cons (by simp) rest)).1
    intro c hc
    rw [bne_iff_ne]
    rintro rfl
    exact hline hc
  have hsame : s = t := by rw [← hfirst hs u, h, hfirst ht v]
  subst hsame
  exact ⟨rfl, (List.cons.inj (List.append_cancel_left h)).2⟩

/-- A line behind a fence opens a block exactly when it is a mark, but for spaces and tabs. -/
theorem opening?_fence_append {info : List Char} (hbreak : '\n' ∉ info)
    (hreturn : '\r' ∉ info.getLast?) (rest : List Char) :
    opening? (fence ++ (info ++ '\n' :: rest)) =
      if info.rdropWhile isIndent ∈ codeMarks then some rest else none := by
  split
  next hmark =>
      rw [opening?_eq_some_iff]
      refine ⟨_, hmark, info.rtakeWhile isIndent, fun c hc => List.mem_rtakeWhile_imp hc, .inr ?_⟩
      rw [← List.append_assoc (info.rdropWhile isIndent), List.rdropWhile_append_rtakeWhile]
  next hnone =>
      rw [Option.eq_none_iff_forall_ne_some]
      intro left hleft
      obtain ⟨mark, hmark, indent, hindent, hline⟩ := opening?_eq_some_iff.mp hleft
      have hone : '\n' ∉ mark ++ indent := by
        rw [List.mem_append]
        rintro (hmem | hmem)
        · simp only [codeMarks, List.mem_cons, List.not_mem_nil, or_false] at hmark
          rcases hmark with rfl | rfl | rfl <;> exact absurd hmem (by decide)
        · exact absurd (hindent _ hmem) (by decide)
      rw [← rdropWhile_mark_append hmark hindent] at hmark
      rcases hline with hline | hline
      · -- The carriage return would end what stands behind the fence.
        have hsame : info ++ '\n' :: rest = (mark ++ indent ++ ['\r']) ++ '\n' :: left := by
          simpa using List.append_cancel_left hline
        obtain ⟨rfl, -⟩ := eq_of_append_break_eq hbreak (by simpa using hone) hsame
        exact hreturn (by simp)
      · have hsame : info ++ '\n' :: rest = (mark ++ indent) ++ '\n' :: left := by
          simpa using List.append_cancel_left hline
        obtain ⟨rfl, -⟩ := eq_of_append_break_eq hbreak hone hsame
        exact hnone hmark

/-- No block opens at a fence behind which the line ends. -/
theorem opening?_fence_of_endsLine {rest : List Char} (h : EndsLine rest) :
    opening? (fence ++ rest) = none := by
  cases rest with
  | nil => rfl
  | cons c more =>
      obtain rfl : c = '\n' := h c rfl
      rfl

/-! ### Closing fences -/

theorem dropFirst_append {c : Char} {s : List Char} (h : s ≠ []) (t : List Char) :
    dropFirst c (s ++ t) = dropFirst c s ++ t := by
  cases s with
  | nil => exact absurd rfl h
  | cons d rest =>
      rw [List.cons_append, dropFirst, dropFirst]
      split <;> rfl

theorem dropFirst_suffix (c : Char) (s : List Char) : dropFirst c s <:+ s := by
  cases s with
  | nil => exact List.suffix_rfl
  | cons d rest =>
      rw [dropFirst]
      split
      · exact List.suffix_cons d rest
      · exact List.suffix_rfl

theorem dropFirst_ne_nil {s : List Char} (h : s ≠ []) (hlast : '\r' ∉ s.getLast?) :
    dropFirst '\r' s ≠ [] := by
  cases s with
  | nil => exact absurd rfl h
  | cons d rest =>
      rw [dropFirst]
      split
      next heq =>
          subst heq
          rintro rfl
          exact hlast (by simp)
      next => exact List.cons_ne_nil d rest

/-- No closing fence begins within a body. -/
theorem closing?_append_eq_none {body : List Char} (hne : body ≠ []) (hfree : FenceFree body)
    (hlast : '\r' ∉ body.getLast?) (rest : List Char) :
    closing? (body ++ '\n' :: rest) = none := by
  have hdrop : dropFirst '\n' (dropFirst '\r' (body ++ '\n' :: rest)) =
      dropFirst '\n' (dropFirst '\r' body) ++ '\n' :: rest := by
    rw [dropFirst_append hne, dropFirst_append (dropFirst_ne_nil hne hlast)]
  have hsuffix : dropFirst '\n' (dropFirst '\r' body) <:+ body :=
    (dropFirst_suffix _ _).trans (dropFirst_suffix _ _)
  have hends : EndsLine ('\n' :: rest) := by simp [EndsLine]
  have hnone := (hfree.of_suffix hsuffix).not_isPrefix_append hends
  rw [closing?, hdrop, Option.eq_none_iff_forall_ne_some]
  intro after hafter
  exact hnone ⟨after, (afterStart?_eq_some_iff.mp hafter).symm⟩

/-- A body ends where the line end before the first fence begins. -/
theorem body?_append {body : List Char} (hfree : FenceFree body) (hlast : '\r' ∉ body.getLast?)
    (rest : List Char) : body? (body ++ '\n' :: (fence ++ rest)) = some (body, rest) := by
  induction body with
  | nil => rfl
  | cons c more ih =>
      have hmore : '\r' ∉ more.getLast? := by
        intro hmem
        apply hlast
        rw [List.getLast?_cons, Option.mem_def.mp hmem]
        rfl
      have hnone := closing?_append_eq_none (List.cons_ne_nil c more) hfree hlast (fence ++ rest)
      rw [List.cons_append] at hnone ⊢
      rw [body?, hnone, ih (hfree.of_suffix (List.suffix_cons c more)) hmore]
      rfl

/-! ### The parts of an answer -/

/-- A block that starts a text is taken out, and the search goes on behind it. -/
theorem codeBlocksFrom_of_block? {c : Char} {before rest body : List Char}
    (h : block? (c :: (before ++ rest)) = some (body, rest)) :
    codeBlocksFrom 0 (c :: (before ++ rest)) = String.ofList body :: codeBlocksFrom 0 rest := by
  have hskip : (before ++ rest).length - rest.length = before.length := by simp
  rw [codeBlocksFrom, h]
  simp only [hskip]
  rw [codeBlocksFrom_eq_drop, List.drop_left]

/-- Where no block opens at a fence, the search goes on behind it. -/
theorem codeBlocksFrom_fence_append {s rest : List Char}
    (hopen : opening? (fence ++ (s ++ rest)) = none) (hfree : '\x60' ∉ s) (hrest : EndsLine rest) :
    codeBlocksFrom 0 (fence ++ (s ++ rest)) = codeBlocksFrom 0 rest := by
  have htwo : FenceFree ('\x60' :: '\x60' :: s) := by
    intro hfence
    have hcount := hfence.sublist.count_le '\x60'
    have hzero := List.count_eq_zero_of_not_mem hfree
    simp [fence, hzero] at hcount
  have hpass := htwo.codeBlocksFrom_append hrest
  rw [← hpass]
  exact codeBlocksFrom_cons hopen

theorem AnswerPart.codeBlocksFrom_append {p : AnswerPart} (h : p.WellFormed) {rest : List Char}
    (hrest : EndsLine rest) :
    codeBlocksFrom 0 (p.text ++ rest) = p.code?.toList ++ codeBlocksFrom 0 rest := by
  cases p with
  | prose text => exact FenceFree.codeBlocksFrom_append h hrest
  | block info body =>
      obtain ⟨⟨hticks, hbreak, hreturn⟩, hfree, hlast⟩ := h
      have htext : (AnswerPart.block info body).text ++ rest =
          fence ++ (info ++ '\n' :: (body ++ '\n' :: (fence ++ rest))) := by
        simp [AnswerPart.text]
      have hopen := opening?_fence_append hbreak hreturn (body ++ '\n' :: (fence ++ rest))
      rw [htext, AnswerPart.code?]
      split at hopen
      next hmark =>
          have hblock : block? ('\x60' ::
              (('\x60' :: '\x60' :: (info ++ '\n' :: (body ++ '\n' :: fence))) ++ rest)) =
                some (body, rest) := by
            have hbody := body?_append hfree hlast rest
            simp only [List.cons_append, List.append_assoc, List.nil_append, fence] at hopen hbody ⊢
            rw [block?, hopen, Option.bind_some, hbody]
          have htaken := codeBlocksFrom_of_block? hblock
          rw [if_pos hmark]
          simpa [fence] using htaken
      next hmark =>
          -- Neither of the two fences opens a block, and between them there is none.
          have hclose : opening? (fence ++ ([] ++ rest)) = none := opening?_fence_of_endsLine hrest
          rw [if_neg hmark, codeBlocksFrom_fence_append hopen hticks (by simp [EndsLine]),
            codeBlocksFrom_break, hfree.codeBlocksFrom_append (by simp [EndsLine]),
            codeBlocksFrom_break]
          exact codeBlocksFrom_fence_append hclose (by simp) hrest

/-- The parts behind the first one, each after a line end. -/
theorem codeBlocksFrom_flatMap {parts : List AnswerPart} (h : ∀ p ∈ parts, p.WellFormed) :
    codeBlocksFrom 0 (parts.flatMap fun p => '\n' :: p.text) =
      parts.filterMap AnswerPart.code? := by
  induction parts with
  | nil => rfl
  | cons p rest ih =>
      have hrest : EndsLine (rest.flatMap fun p => '\n' :: p.text) := by
        cases rest <;> simp [EndsLine]
      have hp := AnswerPart.codeBlocksFrom_append (h p List.mem_cons_self) hrest
      rw [ih fun q hq => h q (List.mem_cons_of_mem p hq)] at hp
      rw [List.flatMap_cons, List.cons_append, codeBlocksFrom_break, hp]
      cases hcode : p.code? <;> simp [hcode]

/-- From an answer made of prose and fenced blocks, the bodies of the blocks that are marked as
  Terraform code are taken out, in their order and as they stand, and nothing else. -/
theorem extractCodeBlocks_answerText {parts : List AnswerPart} (h : ∀ p ∈ parts, p.WellFormed) :
    extractCodeBlocks (String.ofList (answerText parts)) = parts.filterMap AnswerPart.code? := by
  rw [extractCodeBlocks, String.toList_ofList, ← codeBlocksFrom_flatMap h]
  cases parts with
  | nil => rfl
  | cons p rest =>
      have htext : answerText (p :: rest) = p.text ++ rest.flatMap fun p => '\n' :: p.text := by
        rw [answerText, List.map_cons, intercalate_cons_eq_flatMap, List.flatMap_map]
        rfl
      rw [htext, List.flatMap_cons, List.cons_append, codeBlocksFrom_break]

/-- Prose around blocks of code, one of them in another language and one without a body. -/
def sampleParts : List AnswerPart :=
  [.prose "Use \x60\x60hcl\x60\x60:".toList,
    .block "hcl \t".toList "a = 1\n\n".toList,
    .block "python".toList "hcl\n\x60\x60".toList,
    .block "tf".toList [],
    .prose "hcl".toList,
    .block [] "b = 2".toList,
    .block "terraform".toList "\n\x60\x60 c = 3\n\x60".toList,
    .prose []]

theorem extractCodeBlocks_sampleParts :
    (∀ p ∈ sampleParts, p.WellFormed) ∧
      extractCodeBlocks (String.ofList (answerText sampleParts)) =
        ["a = 1\n\n", "", "\n\x60\x60 c = 3\n\x60"] := by
  have hformed : ∀ p ∈ sampleParts, p.WellFormed := by decide
  have hcode : sampleParts.filterMap AnswerPart.code? =
      ["a = 1\n\n", "", "\n\x60\x60 c = 3\n\x60"] := by
    decide
  exact ⟨hformed, (extractCodeBlocks_answerText hformed).trans hcode⟩

end Terralens
