import Terralens.Proofs.Headers
import Terralens.Text.Basic

/-!
# Lines of printed blocks

A printed block stands on lines of its own: its header, a line for each attribute, the lines of
the blocks inside it, and a closing brace (`Block.print_eq_lines`). No name and no literal value
has a line end in its text, so these are the lines the text is split into (`lines_printForest`),
and a header is found behind that of a block exactly when a block inside it has the same one
(`Block.Plain.any_innerLines_iff`).
-/

namespace Terralens

open Hcl

/-! ### Texts on one line -/

def OneLine (s : List Char) : Prop := ∀ c ∈ s, c ≠ '\n' ∧ c ≠ '\r'

instance (s : List Char) : Decidable (OneLine s) := List.decidableBAll _ s

theorem OneLine.append {s t : List Char} (hs : OneLine s) (ht : OneLine t) : OneLine (s ++ t) := by
  intro c hc
  rcases List.mem_append.mp hc with hc | hc
  · exact hs c hc
  · exact ht c hc

theorem oneLine_flatMap {α : Type} {f : α → List Char} {parts : List α}
    (h : ∀ x ∈ parts, OneLine (f x)) : OneLine (parts.flatMap f) := by
  intro c hc
  obtain ⟨x, hx, hc⟩ := List.mem_flatMap.mp hc
  exact h x hx c hc

theorem oneLine_intercalate {glue : List Char} (hglue : OneLine glue) {parts : List (List Char)}
    (h : ∀ part ∈ parts, OneLine part) : OneLine (glue.intercalate parts) := by
  intro c hc
  rcases mem_intercalate hc with hc | ⟨part, hpart, hc⟩
  · exact hglue c hc
  · exact h part hpart c hc

/-- Characters of a class that has no line ends are on one line. -/
theorem oneLine_of_class {p : Char → Bool} (hbreak : p '\n' = false) (hreturn : p '\r' = false)
    {s : List Char} (hs : ∀ c ∈ s, p c) : OneLine s := by
  intro c hc
  exact ⟨ne_of_class (hs c hc) hbreak, ne_of_class (hs c hc) hreturn⟩

theorem oneLine_of_isName {name : String} (h : isName name) : OneLine name.toList :=
  oneLine_of_class (p := isNameChar) (by decide) (by decide) (isWord_of_isName h).2

theorem oneLine_quoteChar {c : Char} (h : isTextChar c) : OneLine (Text.quoteChar c) := by
  have hlt : c.toNat < 128 := by
    simp only [isTextChar, Bool.and_eq_true, Bool.or_eq_true, decide_eq_true_eq, beq_iff_eq] at h
    rcases h.1.1 with ((h | rfl) | rfl) | rfl
    · omega
    all_goals decide
  have hascii : (!isTextChar c || decide (OneLine (Text.quoteChar c))) = true :=
    forall_ascii (p := fun c => !isTextChar c || decide (OneLine (Text.quoteChar c)))
      (by decide +kernel) hlt
  simpa [h] using hascii

theorem oneLine_entryChars {e : String × Value} (hname : isName e.1)
    (hvalue : OneLine e.2.text.toList) : OneLine (entryChars e) :=
  ((oneLine_of_isName hname).append (by decide)).append hvalue

theorem Value.Literal.oneLine {v : Value} (h : v.Literal) : OneLine v.text.toList := by
  induction h with
  | null => decide
  | bool b => cases b <;> decide
  | number hn =>
      rw [Value.text, toList_numberText_ofInt hn]
      apply oneLine_of_class (p := Char.isDigit) (by decide) (by decide)
      intro c hc
      exact isDigit_of_mem_digitsOf hc
  | @string s hs =>
      rw [Value.text, toList_quotedString]
      have hchars := oneLine_flatMap fun c hc => oneLine_quoteChar (hs c hc)
      have hquoted : OneLine (['"'] ++ s.toList.flatMap Text.quoteChar) :=
        OneLine.append (by decide) hchars
      exact hquoted.append (by decide)
  | @list items hitems ih =>
      rw [toList_text_list]
      have hparts : OneLine ([',', ' '].intercalate (items.map (·.text.toList))) := by
        apply oneLine_intercalate (by decide)
        simpa using ih
      have hopened := OneLine.append (s := ['[']) (by decide) hparts
      exact hopened.append (by decide)
  | @map entries hordered hkeys hvalues ih =>
      rw [toList_text_map]
      have hparts : OneLine ([',', ' '].intercalate (entries.map entryChars)) := by
        apply oneLine_intercalate (by decide)
        intro part hpart
        obtain ⟨e, he, rfl⟩ := List.mem_map.mp hpart
        exact oneLine_entryChars (isName_of_isMapKey (hkeys e he)) (ih e he)
      have hopened := OneLine.append (s := ['\x7b', ' ']) (by decide) hparts
      exact hopened.append (by decide)

theorem linesFrom_append {s : List Char} (h : OneLine s) (current rest : List Char) :
    Text.linesFrom current (s ++ '\n' :: rest) =
      (Text.dropCarriage (s.reverse ++ current)).reverse :: Text.linesFrom [] rest := by
  induction s generalizing current with
  | nil => simp [Text.linesFrom]
  | cons c more ih =>
      have hc : c ≠ '\n' := (h c (by simp)).1
      have hmore : OneLine more := fun d hd => h d (List.mem_cons_of_mem c hd)
      simp [Text.linesFrom, hc, ih hmore]

/-- Texts on one line, each with a line feed behind it, are the lines of what they form. -/
theorem lines_flatMap {parts : List (List Char)} (h : ∀ part ∈ parts, OneLine part) :
    Text.lines (parts.flatMap (· ++ ['\n'])) = parts := by
  induction parts with
  | nil => rfl
  | cons first rest ih =>
      have hfirst := h first (by simp)
      have hcarriage : Text.dropCarriage first.reverse = first.reverse := by
        unfold Text.dropCarriage
        split
        next more hreverse =>
            have hmem : '\r' ∈ first := by
              rw [← List.mem_reverse, hreverse]
              exact List.mem_cons_self
            exact absurd rfl (hfirst _ hmem).2
        next => rfl
      have hrest := ih fun part hpart => h part (List.mem_cons_of_mem first hpart)
      rw [Text.lines] at hrest ⊢
      rw [List.flatMap_cons, List.append_assoc, List.singleton_append, linesFrom_append hfirst,
        hrest, List.append_nil, hcarriage, List.reverse_reverse]

theorem count_flatMap_lines {parts : List (List Char)} (h : ∀ part ∈ parts, OneLine part) :
    (parts.flatMap (· ++ ['\n'])).count '\n' = parts.length := by
  induction parts with
  | nil => rfl
  | cons first rest ih =>
      have hfirst : first.count '\n' = 0 := by
        rw [List.count_eq_zero]
        intro hmem
        exact (h first (by simp) _ hmem).1 rfl
      have hrest := ih fun part hpart => h part (List.mem_cons_of_mem first hpart)
      rw [List.flatMap_cons, List.count_append, List.count_append, hfirst, hrest]
      simp [Nat.add_comm]

/-! ### Induction over blocks -/

mutual

/-- What holds of a block when it holds of the blocks directly inside it holds of every block. -/
@[elab_as_elim]
theorem Block.inner_induction {P : Block → Prop}
    (step : ∀ b : Block, (∀ inner ∈ b.blocks, P inner) → P b) (b : Block) : P b := by
  obtain ⟨type, labels, attributes, blocks, location⟩ := b
  exact step _ (forest_induction step blocks)

theorem forest_induction {P : Block → Prop}
    (step : ∀ b : Block, (∀ inner ∈ b.blocks, P inner) → P b) (bs : List Block) :
    ∀ b ∈ bs, P b := by
  cases bs with
  | nil => simp
  | cons b rest =>
      intro c hc
      rcases List.mem_cons.mp hc with heq | hc
      · rw [heq]
        exact Block.inner_induction step b
      · exact forest_induction step rest c hc

end

/-! ### The lines of a block -/

mutual

def Block.lines : Block → List (List Char)
  | ⟨type, labels, attributes, blocks, _⟩ =>
      headerLine type labels ::
        (attributes.entries.map entryChars ++ forestLines blocks ++ [['\x7d']])

def forestLines : List Block → List (List Char)
  | [] => []
  | b :: rest => b.lines ++ forestLines rest

end

def Block.innerLines (b : Block) : List (List Char) :=
  b.attributes.entries.map entryChars ++ forestLines b.blocks ++ [['\x7d']]

theorem Block.lines_eq (b : Block) : b.lines = headerLine b.type b.labels :: b.innerLines := by
  obtain ⟨type, labels, attributes, blocks, location⟩ := b
  rw [Block.lines, innerLines]

/-- What is printed of a block before the blocks inside it. -/
def openingText (type : String) (labels : List String) (attributes : KeyMap String Value) :
    List Char :=
  type.toList ++ labels.flatMap labelChars ++ [' ', '\x7b', '\n'] ++
    attributes.entries.flatMap attributeLine

theorem openingText_eq_lines (type : String) (labels : List String)
    (attributes : KeyMap String Value) :
    openingText type labels attributes =
      (headerLine type labels :: attributes.entries.map entryChars).flatMap (· ++ ['\n']) := by
  have hattributes : attributes.entries.flatMap attributeLine =
      (attributes.entries.map entryChars).flatMap (· ++ ['\n']) := by
    rw [List.flatMap_map]
    rfl
  rw [openingText, List.flatMap_cons, hattributes]
  simp [headerLine, headerRest]

theorem Block.print_eq_opening (b : Block) :
    b.print =
      openingText b.type b.labels b.attributes ++ printForest b.blocks ++ ['\x7d', '\n'] := by
  rw [b.print_eq, openingText]

theorem printForest_eq_flatMap (bs : List Block) : printForest bs = bs.flatMap Block.print := by
  induction bs with
  | nil => rfl
  | cons b rest ih => rw [printForest, ih, List.flatMap_cons]

theorem forestLines_eq_flatMap (bs : List Block) : forestLines bs = bs.flatMap Block.lines := by
  induction bs with
  | nil => rfl
  | cons b rest ih => rw [forestLines, ih, List.flatMap_cons]

theorem Block.print_eq_lines (b : Block) : b.print = b.lines.flatMap (· ++ ['\n']) := by
  induction b using Block.inner_induction with
  | step b ih =>
      have hblocks : printForest b.blocks = (forestLines b.blocks).flatMap (· ++ ['\n']) := by
        rw [printForest_eq_flatMap, forestLines_eq_flatMap, List.flatMap_assoc]
        exact List.flatMap_congr ih
      rw [b.print_eq_opening, openingText_eq_lines, hblocks, b.lines_eq, innerLines]
      simp

theorem printForest_eq_lines (bs : List Block) :
    printForest bs = (forestLines bs).flatMap (· ++ ['\n']) := by
  rw [printForest_eq_flatMap, forestLines_eq_flatMap, List.flatMap_assoc]
  exact List.flatMap_congr fun b _ => b.print_eq_lines

/-! ### Blocks at every depth -/

mutual

/-- A block and the blocks inside it, at every depth, in the order of their headers. -/
def Block.withInner : Block → List Block
  | ⟨type, labels, attributes, blocks, location⟩ =>
      ⟨type, labels, attributes, blocks, location⟩ :: everyBlock blocks

def everyBlock : List Block → List Block
  | [] => []
  | b :: rest => b.withInner ++ everyBlock rest

end

theorem Block.withInner_eq (b : Block) : b.withInner = b :: everyBlock b.blocks := by
  obtain ⟨type, labels, attributes, blocks, location⟩ := b
  rw [Block.withInner]

theorem everyBlock_cons (b : Block) (bs : List Block) :
    everyBlock (b :: bs) = b :: (everyBlock b.blocks ++ everyBlock bs) := by
  rw [everyBlock, b.withInner_eq, List.cons_append]

theorem everyBlock_eq_flatMap (bs : List Block) : everyBlock bs = bs.flatMap Block.withInner := by
  induction bs with
  | nil => rfl
  | cons b rest ih => rw [everyBlock, ih, List.flatMap_cons]

theorem withInner_subset {b : Block} {bs : List Block} (h : b ∈ bs) :
    b.withInner ⊆ everyBlock bs := by
  intro c hc
  rw [everyBlock_eq_flatMap]
  exact List.mem_flatMap.mpr ⟨b, h, hc⟩

theorem mem_everyBlock {b : Block} {bs : List Block} (h : b ∈ bs) : b ∈ everyBlock bs :=
  withInner_subset h (by simp [b.withInner_eq])

/-- The type, the labels and the names of the attributes of a block are names, and each of its
  values is written on one line. -/
structure Block.Plain (b : Block) : Prop where
  type : isName b.type
  labels : ∀ l ∈ b.labels, isName l
  names : ∀ e ∈ b.attributes.entries, isName e.1
  values : ∀ e ∈ b.attributes.entries, OneLine e.2.text.toList

theorem Block.Printable.plain {b : Block} (h : b.Printable)
    (hlabels : ∀ c ∈ b.withInner, ∀ l ∈ c.labels, isName l) : ∀ c ∈ b.withInner, c.Plain := by
  induction h with
  | @intro b htype _ hnames hvalues hblocks ih =>
      rw [b.withInner_eq] at hlabels ⊢
      intro c hc
      rcases List.mem_cons.mp hc with rfl | hc
      · exact ⟨htype, hlabels c (by simp), hnames, fun e he => (hvalues e he).oneLine⟩
      · rw [everyBlock_eq_flatMap] at hc
        obtain ⟨inner, hinner, hc⟩ := List.mem_flatMap.mp hc
        refine ih inner hinner (fun d hd => hlabels d (List.mem_cons_of_mem b ?_)) c hc
        exact withInner_subset hinner hd

theorem Block.Plain.oneLine_headerLine {b : Block} (h : b.Plain) :
    OneLine (headerLine b.type b.labels) := by
  have hlabels : OneLine (b.labels.flatMap labelChars) := by
    apply oneLine_flatMap
    intro l hl
    have hquoted : OneLine ([' ', '"'] ++ l.toList) :=
      OneLine.append (by decide) (oneLine_of_isName (h.labels l hl))
    exact hquoted.append (by decide)
  exact (oneLine_of_isName h.type).append (hlabels.append (by decide))

theorem Block.Plain.oneLine_attributes {b : Block} (h : b.Plain) :
    ∀ line ∈ b.attributes.entries.map entryChars, OneLine line := by
  intro line hline
  obtain ⟨e, he, rfl⟩ := List.mem_map.mp hline
  exact oneLine_entryChars (h.names e he) (h.values e he)

theorem Block.oneLine_lines {b : Block} (h : ∀ c ∈ b.withInner, c.Plain) :
    ∀ line ∈ b.lines, OneLine line := by
  induction b using Block.inner_induction with
  | step b ih =>
      rw [b.withInner_eq] at h
      have hplain := h b List.mem_cons_self
      rw [b.lines_eq, innerLines, forestLines_eq_flatMap]
      intro line hline
      simp only [List.mem_cons, List.mem_append, List.mem_flatMap, List.not_mem_nil,
        or_false] at hline
      rcases hline with rfl | (hline | ⟨inner, hinner, hline⟩) | rfl
      · exact hplain.oneLine_headerLine
      · exact hplain.oneLine_attributes line hline
      · refine ih inner hinner (fun c hc => h c (List.mem_cons_of_mem b ?_)) line hline
        exact withInner_subset hinner hc
      · decide

theorem lines_printForest {bs : List Block} (h : ∀ c ∈ everyBlock bs, c.Plain) :
    Text.lines (printForest bs) = forestLines bs := by
  rw [printForest_eq_lines]
  apply lines_flatMap
  intro line hline
  rw [forestLines_eq_flatMap] at hline
  obtain ⟨b, hb, hline⟩ := List.mem_flatMap.mp hline
  exact Block.oneLine_lines (fun c hc => h c (withInner_subset hb hc)) line hline

/-! ### Headers among lines -/

def Block.SameHeader (a b : Block) : Prop := a.type = b.type ∧ a.labels = b.labels

instance (a b : Block) : Decidable (a.SameHeader b) := inferInstanceAs (Decidable (_ ∧ _))

/-- A line counts as the header of a block. -/
def Block.headerAt (b : Block) (line : List Char) : Bool := Outline.isHeader b.type b.labels line

theorem Block.Plain.headerAt_headerLine_iff {a b : Block} (ha : a.Plain) (hb : b.Plain) :
    b.headerAt (headerLine a.type a.labels) ↔ a.SameHeader b := by
  rw [headerAt, isHeader_headerLine_iff hb.type hb.labels ha.type ha.labels, SameHeader,
    eq_comm, @eq_comm _ b.labels]

theorem Block.Plain.headerAt_attributes {a b : Block} (ha : a.Plain) (hb : b.Plain) :
    (a.attributes.entries.map entryChars).any b.headerAt = false := by
  rw [List.any_map, List.any_eq_false]
  intro e he
  simp [headerAt, isHeader_entryChars hb.type hb.labels (ha.names e he)]

/-- A header is found among the lines of a block, or among those of one inside it. -/
def Block.FoundIn (b a : Block) : Prop :=
  a.lines.any b.headerAt ↔ ∃ c ∈ a.withInner, c.SameHeader b

theorem Block.Plain.any_innerLines {a b : Block} (ha : a.Plain) (hb : b.Plain)
    (h : ∀ inner ∈ a.blocks, b.FoundIn inner) :
    a.innerLines.any b.headerAt ↔ ∃ c ∈ everyBlock a.blocks, c.SameHeader b := by
  have hbrace : b.headerAt ['\x7d'] = false := isHeader_brace hb.type b.labels
  have hforest : (forestLines a.blocks).any b.headerAt ↔
      ∃ c ∈ everyBlock a.blocks, c.SameHeader b := by
    rw [forestLines_eq_flatMap, everyBlock_eq_flatMap, List.any_flatMap, List.any_eq_true]
    simp only [List.mem_flatMap]
    constructor
    · rintro ⟨inner, hmem, hany⟩
      obtain ⟨c, hc, hsame⟩ := (h inner hmem).mp hany
      exact ⟨c, ⟨inner, hmem, hc⟩, hsame⟩
    · rintro ⟨c, ⟨inner, hmem, hc⟩, hsame⟩
      exact ⟨inner, hmem, (h inner hmem).mpr ⟨c, hc, hsame⟩⟩
  rw [innerLines, List.any_append, List.any_append, ha.headerAt_attributes hb]
  simp [hbrace, hforest]

/-- A block is found among the lines of another one exactly when that one, or a block inside it,
  has the same header. -/
theorem Block.Plain.foundIn {b : Block} (hb : b.Plain) {a : Block}
    (h : ∀ c ∈ a.withInner, c.Plain) : b.FoundIn a := by
  induction a using Block.inner_induction with
  | step a ih =>
      rw [a.withInner_eq] at h
      have ha := h a List.mem_cons_self
      have hinner := ha.any_innerLines hb fun inner hmem => ih inner hmem fun c hc =>
        h c (List.mem_cons_of_mem a (withInner_subset hmem hc))
      rw [FoundIn, a.lines_eq, a.withInner_eq, List.any_cons, Bool.or_eq_true,
        ha.headerAt_headerLine_iff hb, hinner]
      simp

/-- A block is found behind the header of another one exactly when a block inside that one has
  the same header. -/
theorem Block.Plain.any_innerLines_iff {b : Block} (hb : b.Plain) {a : Block}
    (h : ∀ c ∈ a.withInner, c.Plain) :
    a.innerLines.any b.headerAt ↔ ∃ c ∈ everyBlock a.blocks, c.SameHeader b := by
  rw [a.withInner_eq] at h
  refine (h a List.mem_cons_self).any_innerLines hb fun inner hmem => hb.foundIn fun c hc => ?_
  exact h c (List.mem_cons_of_mem a (withInner_subset hmem hc))

end Terralens
