import Terralens.Proofs.Lines
import Terralens.Proofs.Outline
import Terralens.Proofs.RoundTrip

/-!
# Where blocks and assignments are found

What the lines of a document say, whatever text it is read from. The parts of a document and the
blocks inside each block are searched for one after the other, each from behind the line found
before it (`SearchedFrom`), and each has the number of the first matching line from there on, or 0
when there is none (`SearchedFrom.foundFrom`). So the lines of one sequence increase
(`linesIncrease_of_le`), and those of the blocks inside a block exceed its own.
-/

namespace Terralens

open Hcl Outline

/-! ### Parts of documents -/

inductive DocumentPart where
  | block (b : Block)
  | assignment (a : Assignment)

namespace DocumentPart

def block? : DocumentPart → Option Block
  | .block b => some b
  | .assignment _ => none

def assignment? : DocumentPart → Option Assignment
  | .block _ => none
  | .assignment a => some a

/-- The line of a part; 0 when it is not found. -/
def line : DocumentPart → Nat
  | .block b => b.location.line
  | .assignment a => a.location.line

/-- A line on which a part may be found. -/
def Matches : DocumentPart → List Char → Prop
  | .block b => IsHeaderLine b.type b.labels
  | .assignment a => IsAssignmentLine a.name

/-- Where a search goes on behind a part: behind its line, if it is found. -/
def behind (start : Nat) (p : DocumentPart) : Nat := if p.line = 0 then start else p.line + 1

end DocumentPart

/-- Where a search goes on behind several parts. -/
def behindAll (start : Nat) (parts : List DocumentPart) : Nat :=
  parts.foldl DocumentPart.behind start

/-- A part of a document, at any depth, is searched for from a line on: behind the last line found
  for the parts before it, or, when it is inside a block, for that block and the blocks before it
  in there. -/
inductive SearchedFrom (parts : List DocumentPart) : DocumentPart → Nat → Prop
  | outer {before after : List DocumentPart} {p : DocumentPart}
      (hparts : parts = before ++ p :: after) : SearchedFrom parts p (behindAll 0 before)
  | inner {b c : Block} {start : Nat} {before after : List Block}
      (hb : SearchedFrom parts (.block b) start) (hblocks : b.blocks = before ++ c :: after) :
      SearchedFrom parts (.block c) (behindAll start (.block b :: before.map .block))

def LinesIncrease (lines : List Nat) : Prop := (lines.filter (· ≠ 0)).Pairwise (· < ·)

def Hcl.Structure.Makes : Structure → DocumentPart → Prop
  | .attribute name e, .assignment a => a.name = name ∧ a.value = e.value
  | .block type labels _, .block b => b.type = type ∧ b.labels = labels
  | _, _ => False

/-- The parts of a document agree with the lines of its text. -/
structure AgreesWith (lines : List (List Char)) (parts : List DocumentPart) : Prop where
  increasing : LinesIncrease (parts.map DocumentPart.line)
  nested : ∀ b ∈ everyBlock (parts.filterMap DocumentPart.block?),
    LinesIncrease (b.location.line :: b.blocks.map (·.location.line))
  searched : ∀ b ∈ everyBlock (parts.filterMap DocumentPart.block?),
    ∃ start, SearchedFrom parts (.block b) start
  found : ∀ p start, SearchedFrom parts p start → p.line ≠ 0 →
    ∃ text, ReadsAt lines p.line text ∧ p.Matches text
  missing : ∀ p start, SearchedFrom parts p start → p.line = 0 →
    ∀ n text, start ≤ n → ReadsAt lines n text → ¬ p.Matches text

/-! ### Lines that increase -/

/-- Lines increase when each is no earlier than the search for it starts. -/
theorem linesIncrease_of_le {parts : List DocumentPart} (start : Nat)
    (h : ∀ before p after, parts = before ++ p :: after → p.line ≠ 0 →
      behindAll start before ≤ p.line) :
    (∀ p ∈ parts, p.line ≠ 0 → start ≤ p.line) ∧ LinesIncrease (parts.map DocumentPart.line) := by
  induction parts generalizing start with
  | nil => exact ⟨by simp, List.Pairwise.nil⟩
  | cons p rest ih =>
      have hp : p.line ≠ 0 → start ≤ p.line := h [] p rest rfl
      obtain ⟨hrest, hincreasing⟩ := ih (p.behind start) fun before q after heq =>
        h (p :: before) q after (by rw [heq, List.cons_append])
      unfold DocumentPart.behind at hrest
      by_cases hline : p.line = 0
      · simp only [hline, if_true] at hrest
        refine ⟨List.forall_mem_cons.mpr ⟨hp, hrest⟩, ?_⟩
        simpa [LinesIncrease, hline] using hincreasing
      · simp only [hline, if_false] at hrest
        have hstart := hp hline
        constructor
        · refine List.forall_mem_cons.mpr ⟨hp, fun q hq hne => ?_⟩
          have hq' := hrest q hq hne
          omega
        · rw [LinesIncrease, List.map_cons, List.filter_cons_of_pos (by simpa using hline),
            List.pairwise_cons]
          refine ⟨fun n hn => ?_, hincreasing⟩
          obtain ⟨hmem, hne⟩ := List.mem_filter.mp hn
          obtain ⟨q, hq, rfl⟩ := List.mem_map.mp hmem
          exact hrest q hq (by simpa using hne)

/-! ### Parts found in a text -/

section

variable {file : Path} {lines : List (List Char)} {start : Nat}

/-- The part found for a part of a body that is searched for from a line on. -/
def Hcl.Structure.partAt (file : Path) (lines : List (List Char)) (start : Nat) :
    Structure → DocumentPart
  | .attribute name e =>
      .assignment ⟨name, e.value, ⟨file, (findAssignment lines name start).getD 0⟩⟩
  | .block type labels body =>
      let line := findHeader lines type labels start
      .block ⟨type, labels, attributesOf body, blocksOf file lines (next start line) body,
        ⟨file, line.getD 0⟩⟩

/-- The parts found for those of a body, one after the other. -/
def partsFrom (file : Path) (lines : List (List Char)) : Nat → Body → List DocumentPart
  | _, [] => []
  | start, s :: rest =>
      let p := s.partAt file lines start
      p :: partsFrom file lines (p.behind start) rest

def Hcl.Structure.isBlock : Structure → Bool
  | .attribute .. => false
  | .block .. => true

theorem behind_partAt_attribute (file : Path) (lines : List (List Char)) (start : Nat)
    (name : String) (e : Expression) :
    ((Structure.attribute name e).partAt file lines start).behind start =
      next start (findAssignment lines name start) :=
  (next_findLine lines start _).symm

theorem behind_partAt_block (file : Path) (lines : List (List Char)) (start : Nat)
    (type : String) (labels : List String) (body : Body) :
    ((Structure.block type labels body).partAt file lines start).behind start =
      next start (findHeader lines type labels start) :=
  (next_findLine lines start _).symm

theorem partsOf_eq (file : Path) (lines : List (List Char)) (start : Nat) (body : Body) :
    partsOf file lines start body =
      ((partsFrom file lines start body).filterMap DocumentPart.block?,
        (partsFrom file lines start body).filterMap DocumentPart.assignment?) := by
  induction body generalizing start with
  | nil => rfl
  | cons s rest ih =>
      cases s with
      | «attribute» name e =>
          rw [partsOf, ih, partsFrom, behind_partAt_attribute]
          rfl
      | block type labels body =>
          rw [partsFrom, behind_partAt_block, partsOf, blockOf]
          · simp only [ih]
            rfl
          · simp

theorem map_blocksOf (file : Path) (lines : List (List Char)) (start : Nat) (body : Body) :
    (blocksOf file lines start body).map .block =
      partsFrom file lines start (body.filter Structure.isBlock) := by
  induction body generalizing start with
  | nil => rfl
  | cons s rest ih =>
      cases s with
      | «attribute» name e =>
          rw [blocksOf, blockOf]
          exact ih start
      | block type labels body =>
          rw [blocksOf, blockOf, List.filter_cons_of_pos rfl, partsFrom, behind_partAt_block, ← ih]
          rfl

theorem makes_partsFrom (file : Path) (lines : List (List Char)) (start : Nat) (body : Body) :
    List.Forall₂ Structure.Makes body (partsFrom file lines start body) := by
  induction body generalizing start with
  | nil => exact .nil
  | cons s rest ih =>
      refine .cons ?_ (ih _)
      cases s <;> exact ⟨rfl, rfl⟩

/-- Each part of a sequence is found from behind the parts before it. -/
theorem exists_structure_of_partsFrom {body : Body} {before after : List DocumentPart}
    {p : DocumentPart} (h : partsFrom file lines start body = before ++ p :: after) :
    ∃ s ∈ body, p = s.partAt file lines (behindAll start before) := by
  induction body generalizing start before with
  | nil => simp [partsFrom] at h
  | cons s rest ih =>
      rw [partsFrom] at h
      cases before with
      | nil => exact ⟨s, List.mem_cons_self, (List.cons.inj h).1.symm⟩
      | cons first others =>
          obtain ⟨rfl, hothers⟩ := List.cons.inj h
          obtain ⟨t, ht, heq⟩ := ih hothers
          exact ⟨t, List.mem_cons_of_mem s ht, heq⟩

theorem foundFrom_partAt {s : Structure} (hs : s.Typed) :
    FoundFrom lines start (s.partAt file lines start).Matches
      (s.partAt file lines start).line := by
  cases hs with
  | «attribute» name e => exact foundFrom_findLine lines start fun _ => isAssignment_iff
  | block labels htype _ => exact foundFrom_findLine lines start fun _ => isHeader_iff htype

/-! ### Every part of a document -/

/-- Every part of a document, at any depth, is found for a part of the body from where it is
  searched for: by induction over the blocks it is inside of. -/
theorem SearchedFrom.exists_structure {body : Body} (hbody : TypedBody body) {p : DocumentPart}
    (h : SearchedFrom (partsFrom file lines 0 body) p start) :
    ∃ s : Structure, s.Typed ∧ p = s.partAt file lines start := by
  generalize hparts : partsFrom file lines 0 body = parts at h
  induction h with
  | outer hsplit =>
      obtain ⟨s, hs, heq⟩ := exists_structure_of_partsFrom (hparts.trans hsplit)
      exact ⟨s, hbody s hs, heq⟩
  | @inner b c start before after _ hblocks ih =>
      obtain ⟨s, hs, heq⟩ := ih
      cases hs with
      | «attribute» name e => cases heq
      | @block type labels inside htype hinside =>
          have hbehind := behind_partAt_block file lines start type labels inside
          rw [← heq] at hbehind
          have hinner : b.blocks =
              blocksOf file lines (next start (findHeader lines type labels start)) inside := by
            rw [DocumentPart.block.inj heq]
          have hmap := map_blocksOf file lines ((DocumentPart.block b).behind start) inside
          rw [hbehind, ← hinner, hblocks, List.map_append, List.map_cons, ← hbehind] at hmap
          obtain ⟨t, ht, hc⟩ := exists_structure_of_partsFrom hmap.symm
          exact ⟨t, hinside t (List.mem_filter.mp ht).1, hc⟩

theorem SearchedFrom.foundFrom {body : Body} (hbody : TypedBody body) {p : DocumentPart}
    (h : SearchedFrom (partsFrom file lines 0 body) p start) :
    FoundFrom lines start p.Matches p.line := by
  obtain ⟨s, hs, rfl⟩ := h.exists_structure hbody
  exact foundFrom_partAt hs

end

/-- A block that is searched for has all blocks inside it searched for. -/
theorem SearchedFrom.withInner {parts : List DocumentPart} (b : Block) :
    ∀ start, SearchedFrom parts (.block b) start → ∀ c ∈ b.withInner,
      ∃ start, SearchedFrom parts (.block c) start := by
  induction b using Block.inner_induction with
  | step b ih =>
      intro start hb c hc
      rw [b.withInner_eq] at hc
      rcases List.mem_cons.mp hc with rfl | hc
      · exact ⟨start, hb⟩
      · rw [everyBlock_eq_flatMap] at hc
        obtain ⟨inner, hinner, hc⟩ := List.mem_flatMap.mp hc
        obtain ⟨before, after, hblocks⟩ := List.append_of_mem hinner
        exact ih inner hinner _ (.inner hb hblocks) c hc

theorem exists_searchedFrom {parts : List DocumentPart} {b : Block}
    (h : b ∈ everyBlock (parts.filterMap DocumentPart.block?)) :
    ∃ start, SearchedFrom parts (.block b) start := by
  rw [everyBlock_eq_flatMap] at h
  obtain ⟨outer, houter, hb⟩ := List.mem_flatMap.mp h
  obtain ⟨p, hp, hblock⟩ := List.mem_filterMap.mp houter
  cases p with
  | assignment a => cases hblock
  | block b' =>
      cases hblock
      obtain ⟨before, after, hparts⟩ := List.append_of_mem hp
      exact SearchedFrom.withInner outer _ (.outer hparts) b hb

/-- The lines of a block and of the blocks inside it increase. -/
theorem SearchedFrom.increasing {parts : List DocumentPart} {lines : List (List Char)} {b : Block}
    {start : Nat} (hfound : ∀ p start, SearchedFrom parts p start →
      FoundFrom lines start p.Matches p.line) (hb : SearchedFrom parts (.block b) start) :
    LinesIncrease (b.location.line :: b.blocks.map (·.location.line)) := by
  have hle : ∀ before p after, .block b :: b.blocks.map .block = before ++ p :: after →
      p.line ≠ 0 → behindAll start before ≤ p.line := by
    intro before p after hsplit hne
    cases before with
    | nil =>
        obtain ⟨rfl, -⟩ := List.cons.inj hsplit
        exact ((hfound _ _ hb).found hne).1
    | cons first others =>
        obtain ⟨rfl, hothers⟩ := List.cons.inj hsplit
        obtain ⟨left, right, hblocks, rfl, hright⟩ := List.map_eq_append_iff.mp hothers
        obtain ⟨c, rest, rfl, rfl, -⟩ := List.map_eq_cons_iff.mp hright
        exact ((hfound _ _ (.inner hb hblocks)).found hne).1
  have hmap := (linesIncrease_of_le start hle).2
  rw [List.map_cons, List.map_map] at hmap
  exact hmap

/-- Whatever text a document is read from, its parts follow those of the body in their order, and
  their lines agree with the text: lines that are found increase, at every depth, each reads as the
  header or the assignment it is found for, and a part has no line only when none matches from where
  it is searched for. -/
theorem document_agreesWith_lines {file : SourceFile} {body : Body}
    (h : parseBody file.text.toList = .ok body) :
    ∃ d parts, file.document = .ok d ∧ d.blocks = parts.filterMap DocumentPart.block? ∧
      d.assignments = parts.filterMap DocumentPart.assignment? ∧
      List.Forall₂ Structure.Makes body parts ∧
      AgreesWith (Text.lines file.text.toList) parts := by
  have hbody := parseBody_typed h
  generalize hlines : Text.lines file.text.toList = lines
  have hfound : ∀ p start, SearchedFrom (partsFrom file.path lines 0 body) p start →
      FoundFrom lines start p.Matches p.line := fun p start hp => hp.foundFrom hbody
  have hdocument := document_of_parseBody h (partsOf_eq _ _ _ _)
  rw [hlines] at hdocument
  refine ⟨_, partsFrom file.path lines 0 body, hdocument, rfl, rfl, makes_partsFrom _ _ _ _, ?_⟩
  constructor
  case increasing =>
    refine (linesIncrease_of_le 0 fun before p after hsplit hne => ?_).2
    exact ((hfound _ _ (.outer hsplit)).found hne).1
  case nested =>
    intro b hb
    obtain ⟨start, hb⟩ := exists_searchedFrom hb
    exact hb.increasing hfound
  case searched => exact fun b hb => exists_searchedFrom hb
  case found => exact fun p start hp hne => ((hfound p start hp).found hne).2
  case missing =>
    intro p start hp hzero n text hn hreads
    exact (hfound p start hp).first n text hn (fun hne => absurd hzero hne) hreads

/-- A file in which one header is not found, for the comment in it. -/
def scatteredFile : SourceFile :=
  ⟨⟨"main.tf"⟩,
    "region = 1\nouter \x7b\n  inner \"a\" \x7b\n  \x7d\n\x7d\n" ++
      "lost /* here */ \x7b\n\x7d\nouter \x7b\n\x7d\n",
    .terraform⟩

theorem document_agreesWith_lines_scatteredFile :
    ∃ body, parseBody scatteredFile.text.toList = .ok body ∧
      ∃ d parts, scatteredFile.document = .ok d ∧
        (d.blocks = parts.filterMap DocumentPart.block? ∧
          d.assignments = parts.filterMap DocumentPart.assignment? ∧
          List.Forall₂ Structure.Makes body parts ∧
          AgreesWith (Text.lines scatteredFile.text.toList) parts) ∧
        (everyBlock d.blocks).map (·.location.line) = [2, 3, 0, 8] ∧
        d.assignments.map (·.location.line) = [1] := by
  have hread : (parseBody scatteredFile.text.toList).isOk := by decide +kernel
  have hlines : scatteredFile.document.toOption.map (fun d =>
      ((everyBlock d.blocks).map (·.location.line), d.assignments.map (·.location.line))) =
        some ([2, 3, 0, 8], [1]) := by
    decide +kernel
  cases hbody : parseBody scatteredFile.text.toList with
  | error e => simp [hbody, Except.isOk, Except.toBool] at hread
  | ok body =>
      obtain ⟨d, parts, hd, hagrees⟩ := document_agreesWith_lines hbody
      rw [hd] at hlines
      obtain ⟨hblocks, hassignments⟩ := Prod.mk.inj (Option.some.inj hlines)
      exact ⟨body, rfl, d, parts, hd, hagrees, hblocks, hassignments⟩

end Terralens
