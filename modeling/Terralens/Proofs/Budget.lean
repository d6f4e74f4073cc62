import Mathlib.Algebra.GroupWithZero.Nat
import Mathlib.Data.String.Basic
import Terralens.Prompt

/-!
# Texts within a budget

A prompt holds the texts of files up to a number of bytes. Of each file it keeps the longest start
that the files before it leave room for; a start never ends within a character, so it may leave some
of the budget to the next file. What is kept never exceeds the budget, and the marks of cut and
omitted files tell what is missing (`filesText_keepsToBudget`).

The longest start within a number of bytes ends at the last boundary between characters that is not
beyond that number: going back from there, a boundary is always found (`boundaryFrom?_eq_some`).
-/

namespace Terralens

open Text

/-! ### The longest start within a number of bytes -/

/-- The longest start of a text that has at most so many bytes. -/
structure IsLongestWithin (limit : Nat) (text kept : String) : Prop where
  start : kept.toList <+: text.toList
  within : kept.utf8ByteSize ≤ limit
  longest : ∀ t : String, t.toList <+: text.toList → t.utf8ByteSize ≤ limit →
    t.toList <+: kept.toList

section

variable {limit : Nat} {s t : List Char} {text kept kept' : String}

theorem takeBytes_prefix (limit : Nat) (s : List Char) : takeBytes limit s <+: s := by
  induction s generalizing limit with
  | nil => exact List.nil_prefix
  | cons c rest ih =>
      rw [takeBytes]
      split
      · exact List.cons_prefix_cons.mpr ⟨rfl, ih _⟩
      · exact List.nil_prefix

theorem utf8Len_takeBytes_le (limit : Nat) (s : List Char) :
    String.utf8Len (takeBytes limit s) ≤ limit := by
  induction s generalizing limit with
  | nil => exact Nat.zero_le limit
  | cons c rest ih =>
      rw [takeBytes]
      split
      next hfits =>
          have hrest := ih (limit - c.utf8Size)
          rw [String.utf8Len_cons]
          omega
      next => exact Nat.zero_le limit

theorem prefix_takeBytes (hstart : t <+: s) (hlimit : String.utf8Len t ≤ limit) :
    t <+: takeBytes limit s := by
  induction s generalizing limit t with
  | nil => exact hstart
  | cons c rest ih =>
      cases t with
      | nil => exact List.nil_prefix
      | cons d more =>
          obtain ⟨rfl, hmore⟩ := List.cons_prefix_cons.mp hstart
          rw [String.utf8Len_cons] at hlimit
          rw [takeBytes, if_pos (by omega)]
          exact List.cons_prefix_cons.mpr ⟨rfl, ih hmore (by omega)⟩

theorem isLongestWithin_withinBytes (limit : Nat) (text : String) :
    IsLongestWithin limit text (withinBytes limit text) := by
  constructor
  case start =>
    rw [withinBytes, String.toList_ofList]
    exact takeBytes_prefix limit text.toList
  case within =>
    rw [withinBytes, String.utf8ByteSize_ofList]
    exact utf8Len_takeBytes_le limit text.toList
  case longest =>
    intro t hstart hlimit
    rw [← String.utf8Len_toList] at hlimit
    rw [withinBytes, String.toList_ofList]
    exact prefix_takeBytes hstart hlimit

theorem IsLongestWithin.unique (h : IsLongestWithin limit text kept)
    (h' : IsLongestWithin limit text kept') : kept = kept' := by
  have hle := h'.longest kept h.start h.within
  have hge := h.longest kept' h'.start h'.within
  exact String.toList_injective (hle.eq_of_length_le hge.length_le)

/-- A start of a text is shorter than the text exactly when it is another one. -/
theorem utf8ByteSize_lt_iff (h : kept.toList <+: text.toList) :
    kept.utf8ByteSize < text.utf8ByteSize ↔ kept ≠ text := by
  obtain ⟨rest, hrest⟩ := h
  have hsize : text.utf8ByteSize = kept.utf8ByteSize + String.utf8Len rest := by
    rw [← String.utf8Len_toList, ← hrest, String.utf8Len_append, String.utf8Len_toList]
  rw [hsize, Nat.lt_add_right_iff_pos, Nat.pos_iff_ne_zero, ne_eq, String.utf8Len_eq_zero,
    not_iff_not]
  constructor
  · rintro rfl
    exact String.toList_injective (by simpa using hrest)
  · rintro rfl
    simpa using hrest

end

/-! ### Boundaries of characters -/

/-- Goes back from an offset to the last one at which a character begins or the text ends; none
  when there is nothing left to go back to. -/
def boundaryFrom? (text : String) : Nat → Option Nat
  | 0 => if String.Pos.Raw.isValid text ⟨0⟩ then some 0 else none
  | n + 1 => if String.Pos.Raw.isValid text ⟨n + 1⟩ then some (n + 1) else boundaryFrom? text n

theorem isValid_iff_exists_start {text : String} {n : Nat} :
    String.Pos.Raw.isValid text ⟨n⟩ ↔
      ∃ t : String, t.toList <+: text.toList ∧ t.utf8ByteSize = n := by
  rw [String.Pos.Raw.isValid_eq_true_iff, String.Pos.Raw.isValid_iff_exists_append]
  constructor
  · rintro ⟨t, rest, rfl, hn⟩
    refine ⟨t, ?_, ?_⟩
    · rw [String.toList_append]
      exact List.prefix_append _ _
    · exact (congrArg String.Pos.Raw.byteIdx hn).symm
  · rintro ⟨t, ⟨rest, hrest⟩, rfl⟩
    refine ⟨t, String.ofList rest, ?_, rfl⟩
    rw [← String.toList_inj, String.toList_append, String.toList_ofList, hrest]

/-- Going back from an offset ends, and it ends where the longest start within that offset ends. -/
theorem boundaryFrom?_eq_some (text : String) (limit : Nat) :
    boundaryFrom? text limit = some (withinBytes limit text).utf8ByteSize := by
  have hlongest := isLongestWithin_withinBytes limit text
  induction limit with
  | zero =>
      have hempty : (withinBytes 0 text).utf8ByteSize = 0 := Nat.le_zero.mp hlongest.within
      have hvalid : String.Pos.Raw.isValid text ⟨0⟩ :=
        isValid_iff_exists_start.mpr ⟨_, hlongest.start, hempty⟩
      rw [boundaryFrom?, if_pos hvalid, hempty]
  | succ n ih =>
      rw [boundaryFrom?]
      split
      next hvalid =>
          obtain ⟨t, hstart, hsize⟩ := isValid_iff_exists_start.mp hvalid
          have hle := String.utf8Len_le_of_prefix (hlongest.longest t hstart hsize.le)
          rw [String.utf8Len_toList, String.utf8Len_toList, hsize] at hle
          rw [Nat.le_antisymm hlongest.within hle]
      next hvalid =>
          -- No start ends at this offset, so the longest one is within the offset before it.
          have hne : (withinBytes (n + 1) text).utf8ByteSize ≠ n + 1 :=
            fun heq => hvalid (isValid_iff_exists_start.mpr ⟨_, hlongest.start, heq⟩)
          have hn : IsLongestWithin n text (withinBytes (n + 1) text) := by
            constructor
            case start => exact hlongest.start
            case within => exact Nat.le_of_lt_succ (Nat.lt_of_le_of_ne hlongest.within hne)
            case longest =>
              intro t hstart hlimit
              exact hlongest.longest t hstart (Nat.le_succ_of_le hlimit)
          have hsame := hn.unique (isLongestWithin_withinBytes n text)
          rw [ih (isLongestWithin_withinBytes n text), hsame]

/-! ### Files within a budget -/

namespace Prompt

/-- The text kept of a file; nothing is kept of an omitted one. -/
def Excerpt.keptText (e : Excerpt) : String := e.kept.getD ""

def bytesKept (es : List Excerpt) : Nat := (es.map (·.keptText.utf8ByteSize)).sum

/-- The heading of a file, by its path below the directory or else its whole path. -/
def heading (directory : Path) (file : SourceFile) : String :=
  "FILE: " ++ ((Path.below? directory file.path).getD file.path).text

/-- What follows the heading of a file of which a start is kept: that start without white space
  at its end, and a mark when it is not the whole text. -/
def content (text kept : String) : String :=
  "\nCONTENT:\n" ++ String.ofList (trimRight kept.toList) ++ "\n" ++
    (if kept = text then "" else "... (truncated)\n")

/-- What follows the heading of a file for which so much of the budget is left. -/
def remainder (left : Nat) (text kept : String) : String :=
  if left = 0 then " (omitted, context limit reached)\n\n" else content text kept ++ "\n"

/-- The texts of files keep to a budget. Each file has one section, which begins with its heading.
  What is kept before a file is never more than the budget, and of the file the longest start is
  kept that is within what is left. -/
structure KeepsToBudget (budget : Nat) (directory : Path) (files : List SourceFile) : Prop where
  inOrder : (excerpts budget files).map (·.file) = files
  text : filesText budget directory files =
    String.join ((excerpts budget files).map (Excerpt.text directory))
  total : bytesKept (excerpts budget files) ≤ budget
  each : ∀ before e after, excerpts budget files = before ++ e :: after →
    bytesKept before ≤ budget ∧
      IsLongestWithin (budget - bytesKept before) e.file.text e.keptText ∧
      e.text directory =
        heading directory e.file ++ remainder (budget - bytesKept before) e.file.text e.keptText

/-- What is kept of a file for which so much of the budget is left. -/
def excerptWithin (left : Nat) (file : SourceFile) : Excerpt :=
  ⟨file, if left = 0 then none else some (withinBytes left file.text)⟩

theorem keptText_excerptWithin (left : Nat) (file : SourceFile) :
    (excerptWithin left file).keptText = withinBytes left file.text := by
  by_cases hleft : left = 0
  · subst hleft
    have hempty := (isLongestWithin_withinBytes 0 file.text).within
    have hnil : withinBytes 0 file.text = "" :=
      String.utf8ByteSize_eq_zero_iff.mp (Nat.le_zero.mp hempty)
    rw [hnil]
    rfl
  · simp [excerptWithin, Excerpt.keptText, hleft]

theorem contentText_eq {text kept : String} (h : kept.toList <+: text.toList) (name : String) :
    contentText name text kept = "FILE: " ++ name ++ content text kept := by
  have hmark : (if kept.utf8ByteSize < text.utf8ByteSize then "... (truncated)\n" else "") =
      if kept = text then "" else "... (truncated)\n" := by
    by_cases hsame : kept = text
    · rw [if_pos hsame, hsame, if_neg (Nat.lt_irrefl _)]
    · rw [if_neg hsame, if_pos ((utf8ByteSize_lt_iff h).mpr hsame)]
  rw [contentText, content, hmark, ← String.append_assoc, ← String.append_assoc,
    ← String.append_assoc]

theorem text_excerptWithin (directory : Path) (left : Nat) (file : SourceFile) :
    (excerptWithin left file).text directory =
      heading directory file ++ remainder left file.text (withinBytes left file.text) := by
  by_cases hleft : left = 0
  · rw [excerptWithin, remainder, if_pos hleft, if_pos hleft]
    simp only [Excerpt.text, heading, String.append_assoc]
  · have hstart := (isLongestWithin_withinBytes left file.text).start
    rw [excerptWithin, remainder, if_neg hleft, if_neg hleft]
    simp only [Excerpt.text, heading, contentText_eq hstart, String.append_assoc]

theorem excerpts_cons (budget : Nat) (file : SourceFile) (rest : List SourceFile) :
    excerpts budget (file :: rest) = excerptWithin budget file ::
      excerpts (budget - (excerptWithin budget file).keptText.utf8ByteSize) rest := by
  rw [keptText_excerptWithin]
  cases budget with
  | zero => simp [excerpts, excerptWithin]
  | succ n => simp [excerpts, excerptWithin]

theorem bytesKept_cons (e : Excerpt) (es : List Excerpt) :
    bytesKept (e :: es) = e.keptText.utf8ByteSize + bytesKept es := by
  simp [bytesKept]

theorem keptText_excerptWithin_le (left : Nat) (file : SourceFile) :
    (excerptWithin left file).keptText.utf8ByteSize ≤ left := by
  rw [keptText_excerptWithin]
  exact (isLongestWithin_withinBytes left file.text).within

theorem map_file_excerpts (budget : Nat) (files : List SourceFile) :
    (excerpts budget files).map (·.file) = files := by
  induction files generalizing budget with
  | nil => simp [excerpts]
  | cons file rest ih => rw [excerpts_cons, List.map_cons, ih, excerptWithin]

theorem bytesKept_excerpts_le (budget : Nat) (files : List SourceFile) :
    bytesKept (excerpts budget files) ≤ budget := by
  induction files generalizing budget with
  | nil => simp [excerpts, bytesKept]
  | cons file rest ih =>
      have hfirst := keptText_excerptWithin_le budget file
      have hrest := ih (budget - (excerptWithin budget file).keptText.utf8ByteSize)
      rw [excerpts_cons, bytesKept_cons]
      omega

/-- Each file is kept within what the files before it leave of the budget. -/
theorem eq_excerptWithin {budget : Nat} {files : List SourceFile} {before after : List Excerpt}
    {e : Excerpt} (h : excerpts budget files = before ++ e :: after) :
    bytesKept before ≤ budget ∧ e = excerptWithin (budget - bytesKept before) e.file := by
  induction files generalizing budget before with
  | nil => simp [excerpts] at h
  | cons file rest ih =>
      rw [excerpts_cons] at h
      cases before with
      | nil =>
          obtain ⟨rfl, -⟩ := List.cons.inj h
          exact ⟨Nat.zero_le budget, rfl⟩
      | cons first others =>
          obtain ⟨rfl, hothers⟩ := List.cons.inj h
          obtain ⟨hle, heq⟩ := ih hothers
          have hfirst := keptText_excerptWithin_le budget file
          rw [bytesKept_cons, ← Nat.sub_sub]
          exact ⟨by omega, heq⟩

theorem keepsToBudget (budget : Nat) (directory : Path) (files : List SourceFile) :
    KeepsToBudget budget directory files := by
  constructor
  case inOrder => exact map_file_excerpts budget files
  case text => rfl
  case total => exact bytesKept_excerpts_le budget files
  case each =>
    intro before e after h
    obtain ⟨hle, heq⟩ := eq_excerptWithin h
    rw [heq, keptText_excerptWithin, text_excerptWithin]
    exact ⟨hle, isLongestWithin_withinBytes _ _, rfl⟩

/-- A question for a fix, up to the text of the file. -/
def fixQuestion (path : Path) (issue : String) : String :=
  "User Query: Please suggest specific fixes for this issue in the Terraform file " ++
    path.text ++ ": " ++ issue ++
    "\nReturn the corrected configuration in a \x60\x60\x60hcl block.\n\n"

theorem fix_eq (o : AgentOptions) (file : SourceFile) (issue : String) :
    fix o file issue =
      fixQuestion file.path issue ++ contentText file.path.text file.text
        (withinBytes o.maxContextBytes file.text) := by
  rfl

end Prompt

/-- The files of a directory keep to every budget. For every text and limit, going back from the
  limit to a boundary of characters ends, and the longest start within the limit ends there; a
  question for a fix of a file holds that start for the whole budget. -/
theorem filesText_keepsToBudget :
    (∀ budget directory files, Prompt.KeepsToBudget budget directory files) ∧
    (∀ text limit, ∃ kept, IsLongestWithin limit text kept ∧
      boundaryFrom? text limit = some kept.utf8ByteSize) ∧
    ∀ (o : AgentOptions) (file : SourceFile) (issue : String), ∃ kept,
      IsLongestWithin o.maxContextBytes file.text kept ∧
        Prompt.fix o file issue =
          Prompt.fixQuestion file.path issue ++
            ("FILE: " ++ file.path.text ++ Prompt.content file.text kept) := by
  refine ⟨fun budget directory files => ?_, fun text limit => ?_, fun o file issue => ?_⟩
  · exact Prompt.keepsToBudget budget directory files
  · exact ⟨_, isLongestWithin_withinBytes limit text, boundaryFrom?_eq_some text limit⟩
  · have hlongest := isLongestWithin_withinBytes o.maxContextBytes file.text
    refine ⟨_, hlongest, ?_⟩
    rw [Prompt.fix_eq, Prompt.contentText_eq hlongest.start]

end Terralens
