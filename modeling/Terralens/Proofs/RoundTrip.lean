import Terralens.Document.Read
import Terralens.Proofs.Hcl.Bodies

/-!
# Round trip

Printing blocks and reading the text gives the blocks again, with the same types, labels and
attributes in the same nesting and order (`document_printForest`). Only the locations differ: a
block that is built has none in the text, so both sides are compared without locations.
-/

namespace Terralens

open Hcl Decimal

/-! ### Blocks without locations -/

mutual

/-- A block without the locations of it and of the blocks inside it. -/
def Block.unlocated : Block → Block
  | ⟨type, labels, attributes, blocks, _⟩ =>
      ⟨type, labels, attributes, unlocatedForest blocks, default⟩

def unlocatedForest : List Block → List Block
  | [] => []
  | b :: rest => b.unlocated :: unlocatedForest rest

end

theorem unlocatedForest_eq_map (bs : List Block) : unlocatedForest bs = bs.map Block.unlocated := by
  induction bs with
  | nil => rfl
  | cons b rest ih => rw [unlocatedForest, ih, List.map_cons]

theorem Block.unlocated_eq (b : Block) :
    b.unlocated = ⟨b.type, b.labels, b.attributes, b.blocks.map Block.unlocated, default⟩ := by
  obtain ⟨type, labels, attributes, blocks, location⟩ := b
  rw [Block.unlocated, unlocatedForest_eq_map]

/-! ### Parts of a body as blocks -/

theorem partsOfForest_eq_map (bs : List Block) : partsOfForest bs = bs.map Block.part := by
  induction bs with
  | nil => rfl
  | cons b rest ih => rw [partsOfForest, ih, List.map_cons]

theorem attributesOf_parts {attributes : KeyMap String Value}
    (hvalues : ∀ e ∈ attributes.entries, e.2.Literal) (bs : List Block) :
    attributesOf (attributes.entries.map attributePart ++ partsOfForest bs) = attributes := by
  have hentries : (attributes.entries.map attributePart).filterMap Structure.keyValue? =
      attributes.entries := by
    have hsome : ∀ e ∈ attributes.entries, (attributePart e).keyValue? = some e := by
      intro e he
      rw [attributePart, Structure.keyValue?, (hvalues e he).value_literal]
    rw [List.filterMap_map]
    exact (List.filterMap_congr hsome).trans List.filterMap_some
  have hblocks : (partsOfForest bs).filterMap Structure.keyValue? = [] := by
    rw [partsOfForest_eq_map, List.filterMap_eq_nil_iff]
    intro part hpart
    obtain ⟨b, -, rfl⟩ := List.mem_map.mp hpart
    rw [b.part_eq, Structure.keyValue?]
  rw [attributesOf, List.filterMap_append, hentries, hblocks, List.append_nil]
  exact KeyMap.ofList_entries attributes

/-- Attributes among the parts of a body are none of its blocks. -/
theorem blocksOf_attributeParts (file : Path) (lines : List (List Char)) (start : Nat)
    (entries : List (String × Value)) (parts : Body) :
    blocksOf file lines start (entries.map attributePart ++ parts) =
      blocksOf file lines start parts := by
  induction entries with
  | nil => rfl
  | cons e rest ih =>
      rw [List.map_cons, List.cons_append, blocksOf, attributePart, blockOf]
      exact ih

/-- A block is kept by its part, whatever lines are searched for it. -/
def KeepsBlock (b : Block) : Prop :=
  ∀ file lines start, ∃ found, (blockOf file lines start b.part).1 = some found ∧
    found.unlocated = b.unlocated

theorem blocksOf_partsOfForest {bs : List Block} (h : ∀ b ∈ bs, KeepsBlock b) (file : Path)
    (lines : List (List Char)) (start : Nat) :
    (blocksOf file lines start (partsOfForest bs)).map Block.unlocated =
      bs.map Block.unlocated := by
  induction bs generalizing start with
  | nil => rfl
  | cons b rest ih =>
      obtain ⟨found, hfound, hunlocated⟩ := h b (by simp) file lines start
      have hrest := fun start => ih (fun c hc => h c (List.mem_cons_of_mem b hc)) start
      rw [partsOfForest, blocksOf]
      simp only [hfound, Option.toList_some, List.singleton_append, List.map_cons, hunlocated, hrest]

theorem Block.Printable.keepsBlock {b : Block} (h : b.Printable) : KeepsBlock b := by
  induction h with
  | @intro b htype hlabels hnames hvalues hblocks ih =>
      intro file lines start
      rw [b.part_eq, blockOf]
      refine ⟨_, rfl, ?_⟩
      rw [Block.unlocated_eq, b.unlocated_eq]
      simp only [attributesOf_parts hvalues, blocksOf_attributeParts, blocksOf_partsOfForest ih]

theorem partsOf_partsOfForest (file : Path) (lines : List (List Char)) (start : Nat)
    (bs : List Block) :
    partsOf file lines start (partsOfForest bs) =
      (blocksOf file lines start (partsOfForest bs), []) := by
  induction bs generalizing start with
  | nil => rfl
  | cons b rest ih =>
      have hpart := b.part_eq
      rw [partsOfForest, hpart, partsOf, blocksOf]
      · simp only [ih]
      · simp

/-! ### The round trip -/

theorem readBody_of_reads {s : List Char} {body : Body}
    (h : Reads (bodyUpTo (s.length + 1)) s body []) : readBody s = .ok body := by
  obtain ⟨source, h⟩ := h
  simp only [readBody, h]

theorem document_of_parseBody {file : SourceFile} {body : Body} {bs : List Block}
    {as : List Assignment} (hbody : parseBody file.text.toList = .ok body)
    (hparts : partsOf file.path (Text.lines file.text.toList) 0 body = (bs, as)) :
    file.document = .ok ⟨file.path, file.kind, bs, as⟩ := by
  unfold SourceFile.document
  rw [hbody]
  dsimp only
  rw [hparts]

/-- The printed text of blocks with plain names and labels and literal values is accepted, and
  the document read from it holds the same blocks and nothing else. -/
theorem document_printForest {bs : List Block} (h : ∀ b ∈ bs, b.Printable) (path : Path)
    (kind : FileKind) :
    ∃ d, SourceFile.document ⟨path, String.ofList (printForest bs), kind⟩ = .ok d ∧
      d.blocks.map Block.unlocated = bs.map Block.unlocated ∧ d.assignments = [] ∧
      d.path = path ∧ d.kind = kind := by
  have hbody : parseBody (printForest bs) = .ok (partsOfForest bs) := by
    rw [parseBody, readBody_of_reads (reads_bodyUpTo_forest h)]
  have hparts := partsOf_partsOfForest path (Text.lines (printForest bs)) 0 bs
  rw [← String.toList_ofList (l := printForest bs)] at hbody hparts
  refine ⟨_, document_of_parseBody hbody hparts, ?_, rfl, rfl, rfl⟩
  exact blocksOf_partsOfForest (fun b hb => (h b hb).keepsBlock) path _ 0

def sampleBlock : Block :=
  ⟨"resource", ["aws_instance", "web 1.0"],
    ⟨[("count", .number (Binary.ofInt 2)),
      ("tags", .map [("Name", .string "a \"b\"\n"), ("flags", .list [.bool true, .null])])],
      by decide⟩,
    [⟨"ebs", [], ⟨[("size", .number (Binary.ofInt 100))], by decide⟩, [], default⟩], default⟩

example : String.ofList (printForest [sampleBlock]) =
    "resource \"aws_instance\" \"web 1.0\" \x7b\ncount = 2\n" ++
    "tags = \x7b Name = \"a \\\"b\\\"\\n\", flags = [true, null] \x7d\n" ++
    "ebs \x7b\nsize = 100\n\x7d\n\x7d\n" := by
  decide +kernel

theorem printable_sampleBlock : sampleBlock.Printable := by
  have hnumber : ∀ n : Nat, n < 10 ^ 15 → (Value.number (Binary.ofInt n)).Literal :=
    fun n hn => .number hn
  have hname : (Value.string "a \"b\"\n").Literal := .string (List.all_eq_true.mp (by decide))
  have hflags : (Value.list [.bool true, .null]).Literal := by
    refine .list fun v hv => ?_
    simp only [List.mem_cons, List.not_mem_nil, or_false] at hv
    rcases hv with rfl | rfl
    · exact .bool true
    · exact .null
  have htags : (Value.map [("Name", .string "a \"b\"\n"),
      ("flags", .list [.bool true, .null])]).Literal := by
    refine .map (by decide) (by simp; decide) ?_
    simpa using ⟨hname, hflags⟩
  refine .intro (by decide) (by decide) (by decide) ?_ ?_
  · simpa [sampleBlock] using ⟨hnumber 2 (by decide), htags⟩
  · simp only [sampleBlock, List.mem_singleton, forall_eq]
    refine .intro (by decide) (by decide) (by decide) ?_ (by simp)
    simpa using hnumber 100 (by decide)

theorem document_printForest_sampleBlock :
    (∀ b ∈ [sampleBlock], b.Printable) ∧
    ∃ d, SourceFile.document ⟨⟨"main.tf"⟩, String.ofList (printForest [sampleBlock]), .terraform⟩ =
        .ok d ∧
      d.blocks.map Block.unlocated = [sampleBlock].map Block.unlocated ∧ d.assignments = [] ∧
      d.path = ⟨"main.tf"⟩ ∧ d.kind = .terraform :=
  ⟨by simpa using printable_sampleBlock,
    document_printForest (by simpa using printable_sampleBlock) ⟨"main.tf"⟩ .terraform⟩

end Terralens
