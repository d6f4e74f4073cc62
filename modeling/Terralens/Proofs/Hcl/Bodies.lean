import Terralens.Document
import Terralens.Hcl.Body
import Terralens.Proofs.Hcl.Values

/-!
# Printed blocks are read back

A block is printed as its header, a line for each attribute, the blocks inside it, and a
closing brace. When its names, labels and values are plain (`Block.Printable`), the body of
the text of a forest of blocks is read as the parts the blocks stand for
(`reads_bodyUpTo_forest`). The proof follows the blocks: what is read of a block depends on
the blocks inside it alone, and they are read with one unit of fuel less.
-/

namespace Terralens

open Hcl

/-! ### Printed blocks -/

def Hcl.isLabelChar (c : Char) : Bool :=
  c.isAlphanum || c == '_' || c == '-' || c == '.' || c == ' '

def Hcl.isLabel (label : String) : Bool := !label.toList.isEmpty && label.toList.all isLabelChar

/-- The blocks with plain names and labels and literal values, at every depth. -/
inductive Block.Printable : Block → Prop where
  | intro {b : Block} (htype : isName b.type) (hlabels : ∀ l ∈ b.labels, isLabel l)
      (hnames : ∀ e ∈ b.attributes.entries, isName e.1)
      (hvalues : ∀ e ∈ b.attributes.entries, e.2.Literal)
      (hblocks : ∀ inner ∈ b.blocks, Printable inner) : Printable b

def labelChars (label : String) : List Char := ' ' :: '"' :: label.toList ++ ['"']

def attributeLine (e : String × Value) : List Char := entryChars e ++ ['\n']

mutual

def Block.print : Block → List Char
  | ⟨type, labels, attributes, blocks, _⟩ =>
      type.toList ++ labels.flatMap labelChars ++ [' ', '\x7b', '\n'] ++
        attributes.entries.flatMap attributeLine ++ printForest blocks ++ ['\x7d', '\n']

def printForest : List Block → List Char
  | [] => []
  | b :: rest => b.print ++ printForest rest

end

def attributePart (e : String × Value) : Structure := .attribute e.1 e.2.literal

mutual

def Block.part : Block → Structure
  | ⟨type, labels, attributes, blocks, _⟩ =>
      .block type labels (attributes.entries.map attributePart ++ partsOfForest blocks)

def partsOfForest : List Block → Body
  | [] => []
  | b :: rest => b.part :: partsOfForest rest

end

theorem Block.print_eq (b : Block) :
    b.print = b.type.toList ++ b.labels.flatMap labelChars ++ [' ', '\x7b', '\n'] ++
      b.attributes.entries.flatMap attributeLine ++ printForest b.blocks ++ ['\x7d', '\n'] := by
  obtain ⟨type, labels, attributes, blocks, location⟩ := b
  rw [Block.print]

theorem Block.part_eq (b : Block) :
    b.part = .block b.type b.labels
      (b.attributes.entries.map attributePart ++ partsOfForest b.blocks) := by
  obtain ⟨type, labels, attributes, blocks, location⟩ := b
  rw [Block.part]

theorem length_le_length_printForest (bs : List Block) : bs.length ≤ (printForest bs).length := by
  induction bs with
  | nil => simp
  | cons b rest ih =>
      simp only [printForest, b.print_eq, List.length_append, List.length_cons]
      omega

/-! ### Labels -/

theorem toNat_lt_of_isLabelChar {c : Char} (h : isLabelChar c) : c.toNat < 128 := by
  simp only [isLabelChar, Bool.or_eq_true, beq_iff_eq] at h
  rcases h with (((h | rfl) | rfl) | rfl) | rfl
  · exact toNat_lt_of_isAlphanum h
  all_goals decide

theorem quoteChar_of_isLabelChar {c : Char} (h : isLabelChar c) :
    isTextChar c ∧ Text.quoteChar c = [c] := by
  have hascii : (!isLabelChar c || (isTextChar c && Text.quoteChar c == [c])) = true :=
    forall_ascii (p := fun c => !isLabelChar c || (isTextChar c && Text.quoteChar c == [c]))
      (by decide +kernel) (toNat_lt_of_isLabelChar h)
  simpa [h] using hascii

theorem toList_quotedString_label {label : String} (h : isLabel label) :
    (Text.quotedString label).toList = '"' :: label.toList ++ ['"'] := by
  have hplain : ∀ s : List Char, (∀ c ∈ s, isLabelChar c) → s.flatMap Text.quoteChar = s := by
    intro s hs
    induction s with
    | nil => rfl
    | cons c rest ih =>
        rw [List.flatMap_cons, (quoteChar_of_isLabelChar (hs c (by simp))).2,
          ih fun d hd => hs d (List.mem_cons_of_mem c hd)]
        rfl
  simp only [isLabel, Bool.and_eq_true, List.all_eq_true] at h
  rw [toList_quotedString, hplain _ h.2]

theorem reads_label {label : String} (h : isLabel label) {s : List Char}
    (hs : StopsAt startsTrivia s) :
    Reads Hcl.label (('"' :: label.toList ++ ['"', ' ']) ++ s) label s := by
  have htext : ∀ c ∈ label.toList, isTextChar c := by
    simp only [isLabel, Bool.and_eq_true, List.all_eq_true] at h
    exact fun c hc => (quoteChar_of_isLabelChar (h.2 c hc)).1
  have hquoted := reads_quotedText htext (' ' :: s)
  rw [toList_quotedString_label h] at hquoted
  simp only [List.cons_append, List.append_assoc, List.nil_append] at hquoted ⊢
  exact (hquoted.orElse _).bind ((reads_trivia_blank hs).bind (reads_pure label s))

theorem refuses_identifier {c : Char} (hc : Text.Property.isIdentifierStart c = false)
    (s : List Char) : Refuses identifier (c :: s) := by
  refine (reads_peek c s).bind_refuses ?_
  simp only [hc, Bool.false_eq_true, if_false]
  exact refuses_refuse _

theorem refuses_label_brace (s : List Char) : Refuses Hcl.label ('\x7b' :: s) := by
  have hquoted : Refuses quotedText ('\x7b' :: s) :=
    ((refuses_char (by simp)).bind _).shown _
  exact (hquoted.orElse_refuses (refuses_identifier (by decide) s)).bind _

theorem reads_labels {labels : List String} (h : ∀ l ∈ labels, isLabel l) (s : List Char) :
    Reads (Reader.many Hcl.label)
      (labels.flatMap (fun l => '"' :: l.toList ++ ['"', ' ']) ++ '\x7b' :: s) labels
      ('\x7b' :: s) := by
  have hlast : StopsAt startsTrivia ('\x7b' :: s) := stopsAt_cons (by decide) s
  have hparts : ∀ l ∈ labels, ∀ t,
      StopsAt startsTrivia (('"' :: l.toList ++ ['"', ' ']) ++ t) :=
    fun l _ t => stopsAt_cons (by decide) _
  have hnonempty : ∀ l ∈ labels, '"' :: l.toList ++ ['"', ' '] ≠ [] := fun l _ => by simp
  have hread : ∀ l ∈ labels, ∀ t, StopsAt startsTrivia t →
      Reads Hcl.label (('"' :: l.toList ++ ['"', ' ']) ++ t) l t :=
    fun l hl t ht => reads_label (h l hl) ht
  simpa using reads_many hlast (refuses_label_brace s) hparts hnonempty hread

/-- The blanks before the labels and the brace may also be counted to what stands before. -/
theorem flatMap_labelChars_append (labels : List String) (s : List Char) :
    labels.flatMap labelChars ++ ' ' :: s =
      ' ' :: (labels.flatMap (fun l => '"' :: l.toList ++ ['"', ' ']) ++ s) := by
  induction labels with
  | nil => rfl
  | cons l rest ih =>
      rw [List.flatMap_cons, List.append_assoc, ih]
      simp [labelChars]

/-! ### Parts of a body -/

theorem reads_structureEnd (s : List Char) : Reads structureEnd ('\n' :: s) () s := by
  have hcomment : Refuses lineComment ('\n' :: s) := refuses_lineComment (by simp)
  refine (reads_sp_break s).bind (hcomment.optional.bind ?_)
  exact ((reads_lineEnd s).orElse _).cut.expecting _ _

theorem reads_closeBody (s : List Char) : Reads closeBody ('\x7d' :: s) () s :=
  (reads_char _ _).cut.expecting _ _

/-- Where a body ends: at the closing brace, or at the end of the text. -/
def EndsBody (s : List Char) : Prop := s = [] ∨ ∃ t, s = '\x7d' :: t

theorem EndsBody.stopsAt_trivia {s : List Char} (h : EndsBody s) : StopsAt startsTrivia s := by
  rcases h with rfl | ⟨t, rfl⟩
  · exact stopsAt_nil _
  · exact stopsAt_cons (by decide) t

theorem EndsBody.refuses_structureWith {s : List Char} (h : EndsBody s) (body : Reader Body)
    (keys : List String) : Refuses (structureWith body keys) s := by
  have hidentifier : Refuses identifier s := by
    rcases h with rfl | ⟨t, rfl⟩
    · exact ⟨_, rfl⟩
    · exact refuses_identifier (by decide) t
  exact (reads_ahead s).bind_refuses (hidentifier.bind _)

theorem EndsBody.reads_structuresUpTo {s : List Char} (h : EndsBody s) (body : Reader Body)
    (fuel : Nat) (keys : List String) : Reads (structuresUpTo body fuel keys) s [] s := by
  cases fuel with
  | zero => exact reads_pure [] s
  | succ fuel =>
      refine Refuses.orElse_reads ?_ (reads_pure [] s)
      exact (reads_trivia_of_head h.stopsAt_trivia).bind_refuses
        ((h.refuses_structureWith body keys).bind _)

/-- One part on lines of its own, and the parts behind it. -/
theorem reads_structuresUpTo_cons {body : Reader Body} {fuel : Nat} {keys : List String}
    {s t rest : List Char} {part : Structure} {more : Body} (hs : StopsAt startsTrivia s)
    (hpart : Reads (structureWith body keys) s part ('\n' :: t))
    (hmore : Reads (structuresUpTo body fuel (part.key?.toList ++ keys)) t more rest) :
    Reads (structuresUpTo body (fuel + 1) keys) s (part :: more) rest := by
  refine Reads.orElse ?_ _
  refine (reads_trivia_of_head hs).bind (hpart.bind ((reads_structureEnd t).bind ?_))
  exact hmore.bind (reads_pure _ _)

/-! ### Attributes -/

theorem reads_expression {s rest : List Char} {e : Expression}
    (h : Reads (expressionUpTo (s.length + 1) .line) s e rest) : Reads expression s e rest := by
  obtain ⟨source, h⟩ := h
  refine ⟨source, ?_⟩
  unfold expression
  exact h

/-- An attribute is read up to the end of its line, when its body has none with its key. -/
theorem reads_structureWith_attribute {body : Reader Body} {keys : List String}
    {e : String × Value} (hname : isName e.1) (hvalue : e.2.Literal) (hnew : e.1 ∉ keys)
    (s : List Char) :
    Reads (structureWith body keys) (attributeLine e ++ s) (attributePart e) ('\n' :: s) := by
  have hkey : Reads identifier (e.1.toList ++ ' ' :: '=' :: ' ' :: (e.2.text.toList ++ '\n' :: s))
      e.1 (' ' :: '=' :: ' ' :: (e.2.text.toList ++ '\n' :: s)) :=
    reads_identifier hname (stopsAt_cons (by decide) _)
  have hexpression : Reads expression (e.2.text.toList ++ '\n' :: s) e.2.literal ('\n' :: s) := by
    have hfuel : e.2.text.toList.length ≤ (e.2.text.toList ++ '\n' :: s).length := by simp
    exact reads_expression (hvalue.reads hfuel .line _ (endsOperand_break s))
  have hcontains : keys.contains e.1 = false := by simpa using hnew
  simp only [attributeLine, entryChars, List.append_assoc, List.cons_append, List.nil_append]
  refine (reads_ahead _).bind (hkey.bind ?_)
  refine (reads_trivia_blank (stopsAt_cons (by decide) _)).bind ((reads_peek '=' _).bind ?_)
  simp only [beq_self_eq_true, if_true, hcontains, Bool.false_eq_true, if_false]
  refine (reads_char '=' _).bind ?_
  refine (reads_trivia_blank (hvalue.stopsAt_trivia _)).bind ?_
  exact hexpression.bind (reads_pure _ _)

/-- The attributes of a body are read one by one, then the parts behind them. -/
theorem reads_structuresUpTo_attributes {body : Reader Body} {entries : List (String × Value)}
    (hnames : ∀ e ∈ entries, isName e.1) (hvalues : ∀ e ∈ entries, e.2.Literal)
    {keys : List String} (hnodup : (entries.map (·.1)).Nodup)
    (hnew : ∀ e ∈ entries, e.1 ∉ keys) {fuel : Nat} {t rest : List Char} {more : Body}
    (hmore : ∀ keys, Reads (structuresUpTo body fuel keys) t more rest) :
    Reads (structuresUpTo body (entries.length + fuel) keys) (entries.flatMap attributeLine ++ t)
      (entries.map attributePart ++ more) rest := by
  induction entries generalizing keys with
  | nil => simpa using hmore keys
  | cons e others ih =>
      obtain ⟨hapart, hnodup⟩ := List.nodup_cons.mp hnodup
      have hname := hnames e (by simp)
      have hfirst : Reads (structureWith body keys)
          (attributeLine e ++ (others.flatMap attributeLine ++ t)) (attributePart e)
          ('\n' :: (others.flatMap attributeLine ++ t)) :=
        reads_structureWith_attribute hname (hvalues e (by simp)) (hnew e (by simp)) _
      have hkeys : ∀ f ∈ others, f.1 ∉ e.1 :: keys := by
        intro f hf
        have hne : f.1 ≠ e.1 := fun heq => hapart (List.mem_map.mpr ⟨f, hf, heq⟩)
        simp [hne, hnew f (List.mem_cons_of_mem e hf)]
      have hrest := ih (fun f hf => hnames f (List.mem_cons_of_mem e hf))
        (fun f hf => hvalues f (List.mem_cons_of_mem e hf)) hnodup hkeys
      have hstart : StopsAt startsTrivia
          (attributeLine e ++ (others.flatMap attributeLine ++ t)) := by
        simp only [attributeLine, entryChars, List.append_assoc]
        exact stopsAt_trivia_of_isName hname _
      rw [List.flatMap_cons, List.append_assoc, List.length_cons, Nat.add_right_comm]
      exact reads_structuresUpTo_cons hstart hfirst hrest

/-! ### Blocks -/

theorem reads_blockBody {body : Reader Body} {parts : Body} {s rest : List Char}
    (hbody : Reads body s parts ('\x7d' :: rest)) :
    Reads (blockBody body) ('\x7b' :: '\n' :: s) parts rest := by
  have hcomment : Refuses lineComment ('\n' :: s) := refuses_lineComment (by simp)
  have hopening : Reads openingLine ('\n' :: s) () s :=
    (reads_sp_break s).bind (hcomment.optional.bind (reads_lineEnd s))
  refine (reads_char '\x7b' _).bind (Reads.orElse ?_ _)
  exact hopening.bind (hbody.bind ((reads_closeBody rest).bind (reads_pure parts rest)))

/-- A block is read up to its closing brace, when its body is. -/
theorem reads_structureWith_block {body : Reader Body} {type : String} {labels : List String}
    (htype : isName type) (hlabels : ∀ l ∈ labels, isLabel l) {parts : Body}
    {s rest : List Char} (hbody : Reads body s parts ('\x7d' :: rest)) (keys : List String) :
    Reads (structureWith body keys)
      (type.toList ++ (labels.flatMap labelChars ++ ' ' :: '\x7b' :: '\n' :: s))
      (.block type labels parts) rest := by
  have hblock := reads_blockBody hbody
  have hlabelsRead := reads_labels hlabels ('\n' :: s)
  rw [flatMap_labelChars_append]
  refine (reads_ahead _).bind ?_
  refine (reads_identifier htype (stopsAt_cons (by decide) _)).bind ?_
  cases labels with
  | nil =>
      refine (reads_trivia_blank (stopsAt_cons (by decide) _)).bind ((reads_peek '\x7b' _).bind ?_)
      exact hblock.bind (reads_pure _ _)
  | cons l more =>
      refine (reads_trivia_blank (stopsAt_cons (by decide) _)).bind ((reads_peek '"' _).bind ?_)
      exact hlabelsRead.bind ((reads_ahead _).bind (hblock.bind (reads_pure _ _)))

theorem reads_bodyUpTo {fuel : Nat} {s rest : List Char} {parts : Body}
    (hparts : Reads (structuresUpTo (bodyUpTo fuel) (s.length + 1) []) s parts rest)
    (hrest : EndsBody rest) : Reads (bodyUpTo (fuel + 1)) s parts rest := by
  have hbody : Reads (do
      let parts ← structuresUpTo (bodyUpTo fuel) (s.length + 1) []
      ws
      pure parts) s parts rest :=
    hparts.bind ((reads_trivia_of_head hrest.stopsAt_trivia).bind (reads_pure parts rest))
  obtain ⟨source, hbody⟩ := hbody
  refine ⟨source, ?_⟩
  unfold bodyUpTo
  exact hbody

/-- With at least as much fuel as characters, the text of a block is read as its part. -/
def ReadsBlock (b : Block) : Prop :=
  ∀ fuel, b.print.length ≤ fuel → ∀ keys rest,
    Reads (structureWith (bodyUpTo fuel) keys) (b.print ++ rest) b.part ('\n' :: rest)

theorem reads_structuresUpTo_forest {bs : List Block} (htypes : ∀ b ∈ bs, isName b.type)
    (hread : ∀ b ∈ bs, ReadsBlock b) {fuel more : Nat} (hfuel : (printForest bs).length ≤ fuel)
    (hmore : bs.length ≤ more) (keys : List String) {rest : List Char} (hrest : EndsBody rest) :
    Reads (structuresUpTo (bodyUpTo fuel) more keys) (printForest bs ++ rest) (partsOfForest bs)
      rest := by
  induction bs generalizing more keys with
  | nil => exact hrest.reads_structuresUpTo _ more keys
  | cons b others ih =>
      simp only [printForest, List.length_append] at hfuel
      have hstart : StopsAt startsTrivia (b.print ++ (printForest others ++ rest)) := by
        rw [b.print_eq]
        simp only [List.append_assoc]
        exact stopsAt_trivia_of_isName (htypes b (by simp)) _
      have hfirst := hread b (by simp) fuel (by omega) keys (printForest others ++ rest)
      cases more with
      | zero => cases hmore
      | succ more =>
          have hothers := ih (fun c hc => htypes c (List.mem_cons_of_mem b hc))
            (fun c hc => hread c (List.mem_cons_of_mem b hc)) (by omega)
            (Nat.le_of_succ_le_succ hmore) (b.part.key?.toList ++ keys)
          rw [printForest, partsOfForest, List.append_assoc]
          exact reads_structuresUpTo_cons hstart hfirst hothers

theorem reads_bodyUpTo_parts {attributes : KeyMap String Value}
    (hnames : ∀ e ∈ attributes.entries, isName e.1)
    (hvalues : ∀ e ∈ attributes.entries, e.2.Literal) {bs : List Block}
    (htypes : ∀ b ∈ bs, isName b.type) (hread : ∀ b ∈ bs, ReadsBlock b) {fuel : Nat}
    (hfuel : (printForest bs).length ≤ fuel) {rest : List Char} (hrest : EndsBody rest) :
    Reads (bodyUpTo (fuel + 1))
      (attributes.entries.flatMap attributeLine ++ (printForest bs ++ rest))
      (attributes.entries.map attributePart ++ partsOfForest bs) rest := by
  refine reads_bodyUpTo ?_ hrest
  -- A body has fuel for as many parts as it has characters, and each part has one at least.
  have hlines : attributes.entries.length ≤ (attributes.entries.flatMap attributeLine).length :=
    length_le_length_flatMap fun e _ => by simp [attributeLine]
  have hblocks := length_le_length_printForest bs
  obtain ⟨more, hmore⟩ : ∃ more, (attributes.entries.flatMap attributeLine ++
      (printForest bs ++ rest)).length + 1 = attributes.entries.length + more :=
    ⟨_, (Nat.add_sub_cancel' (by simp only [List.length_append]; omega)).symm⟩
  have henough : bs.length ≤ more := by
    simp only [List.length_append] at hmore
    omega
  rw [hmore]
  exact reads_structuresUpTo_attributes hnames hvalues attributes.nodup_keys (by simp)
    fun keys => reads_structuresUpTo_forest htypes hread hfuel henough keys hrest

theorem Block.Printable.isName_type {b : Block} (h : b.Printable) : isName b.type := by
  cases h
  assumption

theorem Block.Printable.readsBlock {b : Block} (h : b.Printable) : ReadsBlock b := by
  induction h with
  | @intro b htype hlabels hnames hvalues hblocks ih =>
      intro fuel hfuel keys rest
      rw [b.print_eq] at hfuel ⊢
      simp only [List.length_append, List.length_cons] at hfuel
      obtain ⟨less, rfl⟩ : ∃ less, fuel = less + 1 := ⟨fuel - 1, by omega⟩
      have hless : (printForest b.blocks).length ≤ less := by omega
      have hend : EndsBody ('\x7d' :: '\n' :: rest) := .inr ⟨_, rfl⟩
      have hbody := reads_bodyUpTo_parts hnames hvalues (fun c hc => (hblocks c hc).isName_type) ih
        hless hend
      have hblock := reads_structureWith_block htype hlabels hbody keys
      rw [b.part_eq]
      simpa using hblock

/-- The text of printable blocks is read as a body of their parts. -/
theorem reads_bodyUpTo_forest {bs : List Block} (h : ∀ b ∈ bs, b.Printable) :
    Reads (bodyUpTo ((printForest bs).length + 1)) (printForest bs) (partsOfForest bs) [] := by
  have hnone : ∀ e ∈ (KeyMap.empty : KeyMap String Value).entries, isName e.1 ∧ e.2.Literal := by
    simp
  have hbody := reads_bodyUpTo_parts (fun e he => (hnone e he).1) (fun e he => (hnone e he).2)
    (fun b hb => (h b hb).isName_type) (fun b hb => (h b hb).readsBlock) (Nat.le_refl _) (.inl rfl)
  simpa using hbody

end Terralens
