import Terralens.Proofs.Lines
import Terralens.Proofs.RoundTrip
import Mathlib.Data.List.Chain

/-!
# Where printed blocks are found

`forestPrintedAt` gives every block of a printed forest the line on which its header is printed.
The search for a header goes on right behind the header found before it, and so passes through
what is inside the block before it. The document read from the text therefore has these lines,
at every depth, exactly when no block has the header of one inside its left neighbour
(`document_printForest_lines_iff`).
-/

namespace Terralens

open Hcl

/-! ### Lines of headers -/

mutual

/-- A block that is printed from a line on, with the line of its header and the lines of the
  headers inside it. -/
def Block.printedAt (file : Path) (line : Nat) : Block → Block
  | ⟨type, labels, attributes, blocks, _⟩ =>
      ⟨type, labels, attributes,
        forestPrintedAt file (line + (openingText type labels attributes).count '\n') blocks,
        ⟨file, line⟩⟩

/-- Blocks that are printed from a line on. The next one follows a block after as many lines as
  the text of the block has. -/
def forestPrintedAt (file : Path) (line : Nat) : List Block → List Block
  | [] => []
  | b :: rest => b.printedAt file line :: forestPrintedAt file (line + b.print.count '\n') rest

end

/-- No block has the header of one inside its left neighbour. -/
def NeighboursApart (bs : List Block) : Prop :=
  bs.IsChain fun a b => ∀ c ∈ everyBlock a.blocks, ¬ c.SameHeader b

instance (bs : List Block) : Decidable (NeighboursApart bs) :=
  inferInstanceAs (Decidable (List.IsChain _ _))

/-- No block, at any depth, has the header of one inside its left neighbour. -/
def HeadersApart (bs : List Block) : Prop :=
  NeighboursApart bs ∧ ∀ b ∈ everyBlock bs, NeighboursApart b.blocks

instance (bs : List Block) : Decidable (HeadersApart bs) := inferInstanceAs (Decidable (_ ∧ _))

theorem headersApart_nil : HeadersApart [] := ⟨.nil, by simp [everyBlock]⟩

theorem headersApart_cons_iff {b : Block} {bs : List Block} :
    HeadersApart (b :: bs) ↔ HeadersApart b.blocks ∧
      (∀ next ∈ bs.head?, ∀ c ∈ everyBlock b.blocks, ¬ c.SameHeader next) ∧ HeadersApart bs := by
  simp only [HeadersApart, NeighboursApart, everyBlock_cons, List.isChain_cons, List.forall_mem_cons,
    List.forall_mem_append]
  constructor
  · rintro ⟨⟨hnext, hchain⟩, hinner, hdeep, hrest⟩
    exact ⟨⟨hinner, hdeep⟩, hnext, hchain, hrest⟩
  · rintro ⟨⟨hinner, hdeep⟩, hnext, hchain, hrest⟩
    exact ⟨⟨hnext, hchain⟩, hinner, hdeep, hrest⟩

/-! ### Searches -/

/-- A search passes over lines that fail the test. -/
theorem findLine_of_skipped {lines skipped rest : List (List Char)} {line : List Char}
    {start : Nat} {p : List Char → Bool}
    (h : lines.drop (start - 1) = skipped ++ line :: rest) (hskipped : skipped.any p = false)
    (hline : p line) :
    Outline.findLine lines start p = some (start - 1 + skipped.length + 1) := by
  have hnone : skipped.findIdx? p = none := by
    rw [List.findIdx?_eq_none_iff]
    simpa using hskipped
  rw [Outline.findLine, h, List.findIdx?_append, hnone, List.findIdx?_cons, hline]
  simp only [if_true, Option.map_some, Option.none_or]
  congr 1
  omega

/-- A search ends at the latest where a line satisfies the test. -/
theorem findLine_le {lines skipped rest : List (List Char)} {start : Nat} {p : List Char → Bool}
    (h : lines.drop (start - 1) = skipped ++ rest) (hany : skipped.any p) :
    ∃ n, Outline.findLine lines start p = some n ∧ n ≤ start - 1 + skipped.length := by
  cases hfound : skipped.findIdx? p with
  | none =>
      rw [List.findIdx?_eq_none_iff] at hfound
      obtain ⟨line, hline, hp⟩ := List.any_eq_true.mp hany
      simp [hfound line hline] at hp
  | some i =>
      have hlt : i < skipped.length := (List.findIdx?_eq_some_iff_findIdx_eq.mp hfound).1
      refine ⟨i + (start - 1) + 1, ?_, by omega⟩
      rw [Outline.findLine, h, List.findIdx?_append, hfound]
      rfl

/-! ### Blocks found -/

/-- The block found for a printed one, where its header is found on a line or nowhere. -/
def Block.foundAt (file : Path) (lines : List (List Char)) (start : Nat) (b : Block)
    (line : Option Nat) : Block :=
  ⟨b.type, b.labels, b.attributes,
    blocksOf file lines (Outline.next start line) (partsOfForest b.blocks), ⟨file, line.getD 0⟩⟩

theorem blocksOf_cons {b : Block} (hb : b.Printable) (file : Path) (lines : List (List Char))
    (start : Nat) (rest : List Block) :
    blocksOf file lines start (partsOfForest (b :: rest)) =
      b.foundAt file lines start (Outline.findLine lines start b.headerAt) ::
        blocksOf file lines (Outline.next start (Outline.findLine lines start b.headerAt))
          (partsOfForest rest) := by
  obtain ⟨-, -, -, hvalues, -⟩ := hb
  rw [partsOfForest, blocksOf, b.part_eq, blockOf]
  simp only [attributesOf_parts hvalues, blocksOf_attributeParts, Option.toList_some,
    List.singleton_append]
  rfl

theorem Block.printedAt_eq (file : Path) (line : Nat) (b : Block) :
    b.printedAt file line = ⟨b.type, b.labels, b.attributes,
      forestPrintedAt file (line + (openingText b.type b.labels b.attributes).count '\n') b.blocks,
      ⟨file, line⟩⟩ := by
  obtain ⟨type, labels, attributes, blocks, location⟩ := b
  rw [Block.printedAt]

theorem Block.Plain.count_openingText {b : Block} (h : b.Plain) :
    (openingText b.type b.labels b.attributes).count '\n' = b.attributes.entries.length + 1 := by
  rw [openingText_eq_lines, count_flatMap_lines]
  · simp
  · intro line hline
    rcases List.mem_cons.mp hline with rfl | hline
    · exact h.oneLine_headerLine
    · exact h.oneLine_attributes line hline

theorem Block.count_print {b : Block} (h : ∀ c ∈ b.withInner, c.Plain) :
    b.print.count '\n' = b.innerLines.length + 1 := by
  rw [b.print_eq_lines, count_flatMap_lines (oneLine_lines h), b.lines_eq, List.length_cons]

/-! ### A search through the lines of blocks -/

/-- From a line on stand lines to be passed, then the lines of blocks. -/
def Ahead (lines : List (List Char)) (start : Nat) (passed : List (List Char))
    (bs : List Block) : Prop :=
  ∃ after, lines.drop (start - 1) = passed ++ (forestLines bs ++ after)

/-- No line to be passed counts as the header of the first block. -/
def Passes (passed : List (List Char)) (bs : List Block) : Prop :=
  ∀ b ∈ bs.head?, passed.any b.headerAt = false

section

variable {file : Path} {lines passed : List (List Char)} {start line : Nat} {b : Block}
  {bs rest : List Block}

/-- The first block is found behind the lines that are passed. -/
theorem Ahead.findLine (h : Ahead lines start passed (b :: rest)) (hb : b.Plain)
    (hpasses : Passes passed (b :: rest)) :
    Outline.findLine lines start b.headerAt = some (start - 1 + passed.length + 1) := by
  obtain ⟨after, hlines⟩ := h
  have hfirst : lines.drop (start - 1) =
      passed ++ headerLine b.type b.labels :: (b.innerLines ++ (forestLines rest ++ after)) := by
    rw [hlines, forestLines, b.lines_eq]
    simp
  have hheader : b.headerAt (headerLine b.type b.labels) :=
    (hb.headerAt_headerLine_iff hb).mpr ⟨rfl, rfl⟩
  exact findLine_of_skipped hfirst (hpasses b rfl) hheader

/-- Behind the header of the first block stand the lines inside it, then the other blocks. -/
theorem Ahead.behind (h : Ahead lines start passed (b :: rest))
    (hline : line = start - 1 + passed.length + 1) : Ahead lines (line + 1) b.innerLines rest := by
  obtain ⟨after, hlines⟩ := h
  refine ⟨after, ?_⟩
  have hdrop := congrArg (List.drop (passed.length + 1)) hlines
  rw [List.drop_drop, ← Nat.add_assoc, ← hline, forestLines, b.lines_eq] at hdrop
  simpa using hdrop

/-- The lines inside a block are those of its attributes, then those of the blocks inside it. -/
theorem Ahead.inside (h : Ahead lines start b.innerLines rest) :
    Ahead lines start (b.attributes.entries.map entryChars) b.blocks := by
  obtain ⟨after, hlines⟩ := h
  refine ⟨['\x7d'] :: (forestLines rest ++ after), ?_⟩
  rw [hlines, Block.innerLines]
  simp

/-- The lines inside a block are passed when no block inside it has the header of the next one. -/
theorem passes_innerLines_iff (hb : ∀ c ∈ b.withInner, c.Plain)
    (hrest : ∀ c ∈ everyBlock rest, c.Plain) :
    Passes b.innerLines rest ↔
      ∀ next ∈ rest.head?, ∀ c ∈ everyBlock b.blocks, ¬ c.SameHeader next := by
  apply forall₂_congr
  intro next hnext
  have hplain := hrest next (mem_everyBlock (List.mem_of_head? hnext))
  rw [← Bool.not_eq_true, hplain.any_innerLines_iff hb]
  simp

/-- Blocks are not found where they are printed when a line before counts as the header of the
  first one. -/
theorem Ahead.blocksOf_ne (h : Ahead lines start passed bs) (hprintable : ∀ b ∈ bs, b.Printable)
    (hpasses : ¬ Passes passed bs) (hline : start - 1 + passed.length < line) :
    blocksOf file lines start (partsOfForest bs) ≠ forestPrintedAt file line bs := by
  simp only [Passes, not_forall, Bool.not_eq_false] at hpasses
  obtain ⟨b, hfirst, hany⟩ := hpasses
  obtain ⟨rest, rfl⟩ := List.head?_eq_some_iff.mp hfirst
  obtain ⟨after, hlines⟩ := h
  obtain ⟨n, hfound, hle⟩ := findLine_le hlines hany
  rw [blocksOf_cons (hprintable b (by simp)), hfound, forestPrintedAt, b.printedAt_eq]
  intro heq
  have hsame : n = line := congrArg (·.location.line) (List.cons.inj heq).1
  omega

/-- Blocks are found where they are printed exactly when their headers are apart, if the lines
  before them are passed. -/
def FoundInPlace (bs : List Block) : Prop :=
  ∀ file lines start passed, Ahead lines start passed bs → Passes passed bs →
    (blocksOf file lines start (partsOfForest bs) =
      forestPrintedAt file (start - 1 + passed.length + 1) bs ↔ HeadersApart bs)

theorem foundInPlace_nil : FoundInPlace [] := by
  intro file lines start passed _ _
  simp [partsOfForest, blocksOf, forestPrintedAt, headersApart_nil]

/-- The first block is found where it is printed, so those inside it decide. -/
theorem foundAt_eq_iff (hb : b.Plain) (hblocks : ∀ c ∈ everyBlock b.blocks, c.Plain)
    (hplace : FoundInPlace b.blocks) (h : Ahead lines (line + 1) b.innerLines rest) :
    b.foundAt file lines start (some line) = b.printedAt file line ↔ HeadersApart b.blocks := by
  have hpasses : Passes (b.attributes.entries.map entryChars) b.blocks := by
    intro first hfirst
    exact hb.headerAt_attributes (hblocks first (mem_everyBlock (List.mem_of_head? hfirst)))
  rw [← hplace file lines (line + 1) _ h.inside hpasses, b.printedAt_eq, hb.count_openingText]
  simp [Block.foundAt, Outline.next, Nat.add_assoc]

/-- The blocks behind are found where they are printed exactly when the lines inside the block
  before them are passed, and their own headers are apart. -/
theorem FoundInPlace.behind_iff (hplace : FoundInPlace rest) (hprintable : ∀ c ∈ rest, c.Printable)
    (hb : ∀ c ∈ b.withInner, c.Plain) (h : Ahead lines (line + 1) b.innerLines rest) :
    blocksOf file lines (line + 1) (partsOfForest rest) =
        forestPrintedAt file (line + b.print.count '\n') rest ↔
      Passes b.innerLines rest ∧ HeadersApart rest := by
  rw [Block.count_print hb, ← Nat.add_assoc]
  by_cases hpasses : Passes b.innerLines rest
  · have hothers := hplace file lines (line + 1) b.innerLines h hpasses
    rw [Nat.add_sub_cancel] at hothers
    rw [hothers, and_iff_right hpasses]
  · have hne : blocksOf file lines (line + 1) (partsOfForest rest) ≠
        forestPrintedAt file (line + b.innerLines.length + 1) rest :=
      h.blocksOf_ne hprintable hpasses (by omega)
    simp [hne, hpasses]

theorem foundInPlace_of_inner (hprintable : ∀ b ∈ bs, b.Printable)
    (hplain : ∀ c ∈ everyBlock bs, c.Plain) (hinner : ∀ b ∈ bs, FoundInPlace b.blocks) :
    FoundInPlace bs := by
  induction bs with
  | nil => exact foundInPlace_nil
  | cons b rest ih =>
      have hb : ∀ c ∈ b.withInner, c.Plain := by
        intro c hc
        exact hplain c (withInner_subset (by simp) hc)
      have hrest : ∀ c ∈ everyBlock rest, c.Plain := by
        intro c hc
        exact hplain c (by simp [everyBlock_cons, hc])
      have hbplain : b.Plain := hb b (by simp [b.withInner_eq])
      have hblocks : ∀ c ∈ everyBlock b.blocks, c.Plain := by
        intro c hc
        exact hplain c (by simp [everyBlock_cons, hc])
      have hrestPrintable : ∀ c ∈ rest, c.Printable := by
        intro c hc
        exact hprintable c (List.mem_cons_of_mem b hc)
      have hrestPlace : FoundInPlace rest := by
        apply ih hrestPrintable hrest
        intro c hc
        exact hinner c (List.mem_cons_of_mem b hc)
      -- The header of `b` is found where it is printed, and the search for `rest` goes on behind
      -- that line: through the lines inside `b`, which must have no header of `rest`.
      intro file lines start passed hahead hpasses
      have hfound := hahead.findLine hbplain hpasses
      generalize hline : start - 1 + passed.length + 1 = line at hfound ⊢
      have hbehind := hahead.behind hline.symm
      rw [headersApart_cons_iff, blocksOf_cons (hprintable b (by simp)), hfound, forestPrintedAt,
        List.cons.injEq, foundAt_eq_iff hbplain hblocks (hinner b (by simp)) hbehind, Outline.next,
        hrestPlace.behind_iff hrestPrintable hb hbehind, passes_innerLines_iff hb hrest]

end

/-- The blocks inside a printable block are found in place, by induction over all inside it. -/
theorem Block.Printable.foundInPlace {b : Block} (h : b.Printable)
    (hplain : ∀ c ∈ b.withInner, c.Plain) : FoundInPlace b.blocks := by
  induction h with
  | @intro b _ _ _ _ hblocks ih =>
      rw [b.withInner_eq] at hplain
      have hforest : ∀ c ∈ everyBlock b.blocks, c.Plain := by
        intro c hc
        exact hplain c (List.mem_cons_of_mem b hc)
      apply foundInPlace_of_inner hblocks hforest
      intro inner hmem
      apply ih inner hmem
      intro c hc
      exact hforest c (withInner_subset hmem hc)

/-- The printed text of blocks with plain names and literal values, whose labels are names too,
  is accepted. The document read from it has every block, at every depth, on the line on which
  its header is printed, exactly when no block has the header of one inside its left neighbour. -/
theorem document_printForest_lines_iff {bs : List Block} (h : ∀ b ∈ bs, b.Printable)
    (hlabels : ∀ b ∈ everyBlock bs, ∀ l ∈ b.labels, isName l) (path : Path) (kind : FileKind) :
    ∃ d, SourceFile.document ⟨path, String.ofList (printForest bs), kind⟩ = .ok d ∧
      (d.blocks = forestPrintedAt path 1 bs ↔ HeadersApart bs) := by
  have hplain : ∀ c ∈ everyBlock bs, c.Plain := by
    intro c hc
    rw [everyBlock_eq_flatMap] at hc
    obtain ⟨b, hb, hc⟩ := List.mem_flatMap.mp hc
    exact (h b hb).plain (fun d hd => hlabels d (withInner_subset hb hd)) c hc
  have hplace : FoundInPlace bs := by
    apply foundInPlace_of_inner h hplain
    intro b hb
    apply (h b hb).foundInPlace
    intro c hc
    exact hplain c (withInner_subset hb hc)
  have hahead : Ahead (Text.lines (printForest bs)) 0 [] bs := by
    rw [lines_printForest hplain]
    exact ⟨[], by simp⟩
  have hpasses : Passes [] bs := by
    intro b hb
    rfl
  have hbody : parseBody (printForest bs) = .ok (partsOfForest bs) := by
    rw [parseBody, readBody_of_reads (reads_bodyUpTo_forest h)]
  have hparts := partsOf_partsOfForest path (Text.lines (printForest bs)) 0 bs
  have hiff := hplace path _ 0 [] hahead hpasses
  rw [← String.toList_ofList (l := printForest bs)] at hbody hparts hiff
  exact ⟨_, document_of_parseBody hbody hparts, hiff⟩

/-- Two blocks with the same header, around blocks with the same header. -/
def pairedBlocks : List Block :=
  [⟨"service", ["web"], ⟨[("open", .bool true)], by decide⟩,
      [⟨"port", [], .empty, [], default⟩, ⟨"port", [], .empty, [], default⟩], default⟩,
    ⟨"service", ["web"], .empty, [⟨"port", [], .empty, [], default⟩], default⟩]

example :
    (everyBlock (forestPrintedAt ⟨"main.tf"⟩ 1 pairedBlocks)).map (·.location.line) =
      [1, 3, 5, 8, 9] := by
  decide +kernel

theorem printable_pairedBlocks : ∀ b ∈ pairedBlocks, b.Printable := by
  have hport : Block.Printable ⟨"port", [], .empty, [], default⟩ :=
    .intro (by decide) (by simp) (by simp) (by simp) (by simp)
  intro b hb
  simp only [pairedBlocks, List.mem_cons, List.not_mem_nil, or_false] at hb
  rcases hb with rfl | rfl
  · refine .intro (by decide) (by decide) (by decide) ?_ ?_
    · simpa using Value.Literal.bool true
    · simpa using hport
  · exact .intro (by decide) (by decide) (by simp) (by simp) (by simpa using hport)

theorem document_printForest_lines_pairedBlocks :
    (∀ b ∈ pairedBlocks, b.Printable) ∧ (∀ b ∈ everyBlock pairedBlocks, ∀ l ∈ b.labels, isName l) ∧
      ∃ d, SourceFile.document ⟨⟨"main.tf"⟩, String.ofList (printForest pairedBlocks), .terraform⟩ =
          .ok d ∧ d.blocks = forestPrintedAt ⟨"main.tf"⟩ 1 pairedBlocks := by
  have hlabels : ∀ b ∈ everyBlock pairedBlocks, ∀ l ∈ b.labels, isName l := by decide
  obtain ⟨d, hd, hiff⟩ := document_printForest_lines_iff printable_pairedBlocks hlabels
    ⟨"main.tf"⟩ .terraform
  exact ⟨printable_pairedBlocks, hlabels, d, hd, hiff.mpr (by decide)⟩

/-- Two blocks, the second of which has the header of the one inside the first. -/
def repeatedBlocks : List Block :=
  [⟨"outer", [], .empty, [⟨"inner", [], .empty, [], default⟩], default⟩,
    ⟨"inner", [], .empty, [], default⟩]

/-- The second block is printed on line 5 and found on line 2, where the one inside the first
  block stands. -/
theorem document_printForest_repeatedBlocks :
    (∀ b ∈ repeatedBlocks, b.Printable) ∧
      (∀ b ∈ everyBlock repeatedBlocks, ∀ l ∈ b.labels, isName l) ∧
      ∃ d, SourceFile.document ⟨⟨"main.tf"⟩, String.ofList (printForest repeatedBlocks), .terraform⟩ =
          .ok d ∧ d.blocks ≠ forestPrintedAt ⟨"main.tf"⟩ 1 repeatedBlocks := by
  have hinner : Block.Printable ⟨"inner", [], .empty, [], default⟩ :=
    .intro (by decide) (by simp) (by simp) (by simp) (by simp)
  have hprintable : ∀ b ∈ repeatedBlocks, b.Printable := by
    intro b hb
    simp only [repeatedBlocks, List.mem_cons, List.not_mem_nil, or_false] at hb
    rcases hb with rfl | rfl
    · exact .intro (by decide) (by simp) (by simp) (by simp) (by simpa using hinner)
    · exact hinner
  have hfound : (SourceFile.document
      ⟨⟨"main.tf"⟩, String.ofList (printForest repeatedBlocks), .terraform⟩).toOption.map
        (·.blocks.map (·.location.line)) = some [1, 2] := by
    decide +kernel
  have hprinted : (forestPrintedAt ⟨"main.tf"⟩ 1 repeatedBlocks).map (·.location.line) = [1, 5] := by
    decide +kernel
  refine ⟨hprintable, by decide, ?_⟩
  cases hd : SourceFile.document
      ⟨⟨"main.tf"⟩, String.ofList (printForest repeatedBlocks), .terraform⟩ with
  | error e => simp [hd, Except.toOption] at hfound
  | ok d =>
      refine ⟨d, rfl, ?_⟩
      intro heq
      rw [hd] at hfound
      simp [Except.toOption, heq, hprinted] at hfound

end Terralens
