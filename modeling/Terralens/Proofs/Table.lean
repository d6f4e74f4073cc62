import Mathlib.Data.List.Forall2
import Terralens.Proofs.Parts
import Terralens.Proofs.Pieces
import Terralens.Report.Table

/-!
# What a table shows

A table is a list of lines with a line break behind each (`toList_text`), so tables with one text
have the same lines. Two tables may differ in one column only, in cells of one line each. Then the
lines of every row stand in the same places in both, the frame has the width of that column, and
the first line of each row has its cell, up to the blanks that fill it up
(`alikeButBlanks_of_text_eq`).
-/

namespace Terralens.Report.Table

/-! ### Lines -/

/-- Line `n` of a row between the sides of the frame, without its line break. -/
def rowBody (widths : List Nat) (cells : List (List (List Char))) (n : Nat) : List Char :=
  '│' :: [' '].intercalate ((widths.zip cells).map fun (w, lines) => padded w (lines.getD n [])) ++
    ['│']

def rowBodies (widths : List Nat) (row : List String) : List (List Char) :=
  (List.range (rowHeight (row.map cellLines))).map (rowBody widths (row.map cellLines))

def lines (t : Table) : List (List Char) :=
  rule '┌' '─' '┐' t.widths :: rowBodies t.widths t.header ++
    rule '╞' '═' '╡' t.widths :: t.rows.flatMap (rowBodies t.widths) ++ [rule '└' '─' '┘' t.widths]

theorem rowText_eq (widths : List Nat) (row : List String) :
    rowText widths row = (rowBodies widths row).flatMap (· ++ ['\n']) := by
  rw [rowText, rowBodies, List.flatMap_map]
  apply List.flatMap_congr
  intro n _
  simp [rowLine, rowBody]

theorem toList_text (t : Table) : t.text.toList ++ ['\n'] = t.lines.flatMap (· ++ ['\n']) := by
  have hrows : rowText t.widths = fun row => (rowBodies t.widths row).flatMap (· ++ ['\n']) :=
    funext (rowText_eq t.widths)
  simp [text, lines, hrows, List.flatMap_assoc]

theorem not_mem_rule {left line right : Char} (hleft : left ≠ '\n') (hline : line ≠ '\n')
    (hright : right ≠ '\n') (widths : List Nat) : '\n' ∉ rule left line right widths := by
  intro h
  simp only [rule, List.mem_cons, List.mem_append, List.mem_replicate, List.not_mem_nil,
    or_false, List.cons_append] at h
  rcases h with h | ⟨-, h⟩ | h
  · exact hleft h.symm
  · exact hline h.symm
  · exact hright h.symm

theorem not_mem_padded {line : List Char} (h : '\n' ∉ line) (width : Nat) :
    '\n' ∉ padded width line := by
  simp [padded, h]

theorem not_mem_getD_cellLines (cell : String) (n : Nat) : '\n' ∉ (cellLines cell).getD n [] := by
  rw [List.getD_eq_getElem?_getD]
  cases hline : (cellLines cell)[n]? with
  | none => simp
  | some line => exact Text.not_mem_of_mem_pieces (List.mem_of_getElem? hline)

theorem not_mem_rowBody (widths : List Nat) (row : List String) (n : Nat) :
    '\n' ∉ rowBody widths (row.map cellLines) n := by
  intro h
  simp only [rowBody, List.mem_append, List.mem_cons, List.not_mem_nil, or_false] at h
  rcases h with (h | h) | h
  · cases h
  · rcases mem_intercalate h with h | ⟨part, hpart, h⟩
    · simp at h
    · obtain ⟨⟨w, cell⟩, hcell, rfl⟩ := List.mem_map.mp hpart
      obtain ⟨text, -, rfl⟩ := List.mem_map.mp (List.of_mem_zip hcell).2
      exact not_mem_padded (not_mem_getD_cellLines text n) w h
  · cases h

theorem not_mem_of_mem_lines {t : Table} {line : List Char} (h : line ∈ t.lines) :
    '\n' ∉ line := by
  have hrow : ∀ {row : List String}, line ∈ rowBodies t.widths row → '\n' ∉ line := by
    intro row hline
    obtain ⟨n, -, rfl⟩ := List.mem_map.mp hline
    exact not_mem_rowBody t.widths row n
  simp only [lines, List.mem_append, List.mem_cons, List.not_mem_nil, or_false] at h
  rcases h with ((rfl | h) | rfl | h) | rfl
  · exact not_mem_rule (by decide) (by decide) (by decide) _
  · exact hrow h
  · exact not_mem_rule (by decide) (by decide) (by decide) _
  · obtain ⟨row, -, hline⟩ := List.mem_flatMap.mp h
    exact hrow hline
  · exact not_mem_rule (by decide) (by decide) (by decide) _

/-- The text of a table determines its lines. -/
theorem lines_eq_of_text_eq {t t' : Table} (h : t.text = t'.text) : t.lines = t'.lines := by
  have hflat : t.lines.flatMap (· ++ ['\n']) = t'.lines.flatMap (· ++ ['\n']) := by
    rw [← toList_text, ← toList_text, h]
  have hpieces := congrArg (Text.pieces '\n') hflat
  rw [Text.pieces_flatMap fun _ => not_mem_of_mem_lines,
    Text.pieces_flatMap fun _ => not_mem_of_mem_lines] at hpieces
  exact List.append_cancel_right hpieces

/-! ### Rows that differ in one column -/

/-- Two texts are the same but for the blanks at their ends. -/
def AlikeButBlanks (s s' : List Char) : Prop :=
  ∃ m n, s ++ List.replicate m ' ' = s' ++ List.replicate n ' '

theorem alikeButBlanks_of_padded {width : Nat} {s s' : List Char}
    (h : padded width s = padded width s') : AlikeButBlanks s s' := by
  simp only [padded, List.append_cancel_right_eq, List.cons_append, List.cons.injEq,
    true_and] at h
  exact ⟨_, _, h⟩

/-- Two lists of `m + 1 + n` elements that differ in element `m` only, which has a property in
  both. -/
inductive Apart {α : Type} (p : α → Prop) (m n : Nat) : List α → List α → Prop
  | intro {before after : List α} {x y : α} (hbefore : before.length = m)
      (hafter : after.length = n) (hx : p x) (hy : p y) :
      Apart p m n (before ++ x :: after) (before ++ y :: after)

def SingleLine (cell : String) : Prop := '\n' ∉ cell.toList

variable {m n : Nat}

theorem Apart.map {α β : Type} {p : α → Prop} {q : β → Prop} {f : α → β} {r r' : List α}
    (h : Apart p m n r r') (hf : ∀ x, p x → q (f x)) : Apart q m n (r.map f) (r'.map f) := by
  obtain ⟨hbefore, hafter, hx, hy⟩ := h
  simp only [List.map_append, List.map_cons]
  exact .intro (by simpa using hbefore) (by simpa using hafter) (hf _ hx) (hf _ hy)

/-! ### Widths -/

theorem widen_append {ws ws' : List Nat} (h : ws.length = ws'.length) (vs vs' : List Nat) :
    widen (ws ++ vs) (ws' ++ vs') = widen ws ws' ++ widen vs vs' := by
  induction ws generalizing ws' with
  | nil =>
      obtain rfl : ws' = [] := List.length_eq_zero_iff.mp h.symm
      rfl
  | cons w ws ih =>
      cases ws' with
      | nil => simp at h
      | cons w' ws' => simp [widen, ih (Nat.succ.inj h)]

theorem length_widen {ws ws' : List Nat} (h : ws.length = ws'.length) :
    (widen ws ws').length = ws.length := by
  induction ws generalizing ws' with
  | nil => simpa [widen] using h.symm
  | cons w ws ih =>
      cases ws' with
      | nil => simp at h
      | cons w' ws' => simp [widen, ih (Nat.succ.inj h)]

theorem Apart.widen {ws ws' vs vs' : List Nat} (hws : Apart (fun _ => True) m n ws ws')
    (hvs : Apart (fun _ => True) m n vs vs') :
    Apart (fun _ => True) m n (widen ws vs) (widen ws' vs') := by
  obtain ⟨hbefore, hafter, -, -⟩ := hws
  obtain ⟨hbefore', hafter', -, -⟩ := hvs
  have hfirst := hbefore.trans hbefore'.symm
  have hlast := hafter.trans hafter'.symm
  rw [widen_append hfirst, widen_append hfirst]
  exact .intro ((length_widen hfirst).trans hbefore) ((length_widen hlast).trans hafter)
    trivial trivial

variable {t t' : Table}

theorem apart_foldl_widen {rows rows' : List (List Nat)} {ws ws' : List Nat}
    (hrows : List.Forall₂ (Apart (fun _ => True) m n) rows rows')
    (h : Apart (fun _ => True) m n ws ws') :
    Apart (fun _ => True) m n (rows.foldl Table.widen ws) (rows'.foldl Table.widen ws') := by
  induction hrows generalizing ws ws' with
  | nil => exact h
  | cons hrow _ ih => exact ih (h.widen hrow)

theorem apart_widths (hheader : Apart SingleLine m n t.header t'.header)
    (hrows : List.Forall₂ (Apart SingleLine m n) t.rows t'.rows) :
    Apart (fun _ => True) m n t.widths t'.widths := by
  have hcells : ∀ r r', Apart SingleLine m n r r' →
      Apart (fun _ => True) m n (r.map cellWidth) (r'.map cellWidth) :=
    fun _ _ h => h.map fun _ _ => trivial
  have hwidths : List.Forall₂ (Apart (fun _ => True) m n) (t.rows.map (·.map cellWidth))
      (t'.rows.map (·.map cellWidth)) := by
    rw [List.forall₂_map_left_iff, List.forall₂_map_right_iff]
    exact hrows.imp hcells
  have h := apart_foldl_widen hwidths (hcells _ _ hheader)
  rw [List.foldl_map, List.foldl_map] at h
  exact h

/-- The frame is as long as the columns are wide together. -/
theorem widths_eq_of_rule_eq {left line right : Char} {ws ws' : List Nat}
    (h : Apart (fun _ => True) m n ws ws')
    (hrule : rule left line right ws = rule left line right ws') : ws = ws' := by
  obtain @⟨before, after, w, w', -, -, -, -⟩ := h
  have hsum : ∀ v, ((before ++ v :: after).map (· + 2)).foldr (· + ·) 0 =
      (before.map (· + 2)).sum + (v + 2 + (after.map (· + 2)).sum) := by
    intro v
    rw [← List.sum_eq_foldr, List.map_append, List.map_cons, List.sum_append, List.sum_cons]
  have hlength := congrArg List.length hrule
  simp only [rule, hsum, List.length_append, List.length_cons, List.length_replicate] at hlength
  obtain rfl : w = w' := by omega
  rfl

/-! ### Cells -/

theorem cellLines_of_singleLine {cell : String} (h : SingleLine cell) :
    cellLines cell = [cell.toList] :=
  Text.pieces_of_not_mem h

theorem le_foldl_height (h : Nat) (cells : List (List (List Char))) :
    h ≤ cells.foldl (fun h lines => max h lines.length) h := by
  induction cells generalizing h with
  | nil => exact Nat.le_refl h
  | cons lines cells ih => exact Nat.le_trans (Nat.le_max_left _ _) (ih _)

theorem rowHeight_apart {r r' : List String} (h : Apart SingleLine m n r r') :
    rowHeight (r.map cellLines) = rowHeight (r'.map cellLines) ∧
      0 < rowHeight (r.map cellLines) := by
  obtain ⟨-, -, hx, hy⟩ := h
  simp only [rowHeight, List.map_append, List.map_cons, List.foldl_append, List.foldl_cons,
    cellLines_of_singleLine hx, cellLines_of_singleLine hy, List.length_singleton]
  exact ⟨trivial, Nat.lt_of_lt_of_le (by omega) (le_foldl_height _ _)⟩

theorem intercalate_cancel {glue x y : List Char} {before after : List (List Char)}
    (h : glue.intercalate (before ++ x :: after) = glue.intercalate (before ++ y :: after)) :
    x = y := by
  cases before with
  | nil =>
      rw [List.nil_append, List.nil_append, intercalate_cons_eq_flatMap,
        intercalate_cons_eq_flatMap] at h
      exact List.append_cancel_right h
  | cons first before =>
      simp only [List.cons_append, intercalate_cons_eq_flatMap, List.flatMap_append,
        List.flatMap_cons, List.append_cancel_left_eq, List.append_assoc] at h
      simpa [← List.append_assoc] using h

/-- The first line of a row has the cell, between those that are the same in both rows. -/
theorem alikeButBlanks_of_rowBody_eq {ws ws' : List Nat} {r r' : List String}
    (hwidths : Apart (fun _ => True) m n ws ws') (h : Apart SingleLine m n r r')
    (hbody : rowBody ws (r.map cellLines) 0 = rowBody ws (r'.map cellLines) 0) :
    AlikeButBlanks (r.getD m "").toList (r'.getD m "").toList := by
  obtain @⟨wsBefore, wsAfter, w, _, hwsBefore, _, -, -⟩ := hwidths
  obtain @⟨before, after, x, y, hbefore, _, hx, hy⟩ := h
  have hzip : ∀ cell : String, (wsBefore ++ w :: wsAfter).zip
      ((before ++ cell :: after).map cellLines) = wsBefore.zip (before.map cellLines) ++
        (w, cellLines cell) :: wsAfter.zip (after.map cellLines) := by
    intro cell
    rw [List.map_append, List.zip_append (by rw [List.length_map, hwsBefore, hbefore])]
    rfl
  have hcell : ∀ cell : String, (before ++ cell :: after).getD m "" = cell := by
    intro cell
    simp [← hbefore]
  rw [rowBody, rowBody, hzip, hzip, cellLines_of_singleLine hx, cellLines_of_singleLine hy] at hbody
  simp only [List.map_append, List.map_cons, List.cons_append, List.cons.injEq, true_and,
    List.append_cancel_right_eq] at hbody
  rw [hcell, hcell]
  exact alikeButBlanks_of_padded (intercalate_cancel hbody)

theorem rowBodies_zero {ws : List Nat} {r : List String} (h : 0 < rowHeight (r.map cellLines)) :
    (rowBodies ws r)[0]? = some (rowBody ws (r.map cellLines) 0) := by
  simp [rowBodies, h]

theorem alikeButBlanks_of_rowBodies_eq {ws ws' : List Nat} {rows rows' : List (List String)}
    (hwidths : Apart (fun _ => True) m n ws ws')
    (hrows : List.Forall₂ (Apart SingleLine m n) rows rows')
    (h : rows.flatMap (rowBodies ws) = rows'.flatMap (rowBodies ws)) :
    List.Forall₂ (fun r r' => AlikeButBlanks (r.getD m "").toList (r'.getD m "").toList)
      rows rows' := by
  induction hrows with
  | nil => exact .nil
  | @cons r r' rows rows' hrow _ ih =>
      obtain ⟨hheight, hpos⟩ := rowHeight_apart hrow
      have hlength : (rowBodies ws r).length = (rowBodies ws r').length := by
        simp [rowBodies, hheight]
      rw [List.flatMap_cons, List.flatMap_cons] at h
      obtain ⟨hfirst, hrest⟩ := List.append_inj h hlength
      have hbody := congrArg (·[0]?) hfirst
      simp only [rowBodies_zero hpos, rowBodies_zero (hheight ▸ hpos), Option.some_inj] at hbody
      exact .cons (alikeButBlanks_of_rowBody_eq hwidths hrow hbody) (ih hrest)

/-- Tables that differ in the cells of one column have the same text only if these cells are the
  same up to the blanks at their ends. -/
theorem alikeButBlanks_of_text_eq (heq : t.header = t'.header)
    (hheader : Apart SingleLine m n t.header t'.header)
    (hrows : List.Forall₂ (Apart SingleLine m n) t.rows t'.rows) (htext : t.text = t'.text) :
    List.Forall₂ (fun r r' => AlikeButBlanks (r.getD m "").toList (r'.getD m "").toList)
      t.rows t'.rows := by
  have happart := apart_widths hheader hrows
  have hlines := lines_eq_of_text_eq htext
  have hwidths : t.widths = t'.widths := by
    simp only [lines, List.cons_append, List.cons.injEq] at hlines
    exact widths_eq_of_rule_eq happart hlines.1
  simp only [lines, hwidths, heq, List.append_cancel_right_eq, List.append_cancel_left_eq,
    List.cons.injEq, true_and] at hlines
  rw [hwidths] at happart
  exact alikeButBlanks_of_rowBodies_eq happart hrows hlines

end Terralens.Report.Table
