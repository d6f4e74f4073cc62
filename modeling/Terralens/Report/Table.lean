import Terralens.Text.Basic
import Terralens.Text.Property.Width

/-!
# Tables

A table with a frame and a line under its header. Every column is as wide as its widest
line; a cell may hold several lines, and then its row takes as many.
-/

namespace Terralens.Report

structure Table where
  header : List String
  rows : List (List String)
deriving Repr

namespace Table

def cellLines (cell : String) : List (List Char) := Text.pieces '\n' cell.toList

def cellWidth (cell : String) : Nat :=
  (cellLines cell).foldl (fun w line => max w (Text.Property.width line)) 0

def widen : List Nat → List Nat → List Nat
  | [], ws => ws
  | ws, [] => ws
  | v :: vs, w :: ws => max v w :: widen vs ws

def widths (t : Table) : List Nat :=
  (t.header :: t.rows).foldl (fun ws row => widen ws (row.map cellWidth)) []

/-- A line of a cell in a column of the given width, with a blank on either side. -/
def padded (width : Nat) (line : List Char) : List Char :=
  ' ' :: line ++ List.replicate (width - Text.Property.width line) ' ' ++ [' ']

def rowHeight (cells : List (List (List Char))) : Nat :=
  cells.foldl (fun h lines => max h lines.length) 0

/-- Line `n` of a row between the sides of the frame. -/
def rowLine (widths : List Nat) (cells : List (List (List Char))) (n : Nat) : List Char :=
  let parts := (widths.zip cells).map fun (w, lines) => padded w (lines.getD n [])
  '│' :: [' '].intercalate parts ++ ['│', '\n']

def rowText (widths : List Nat) (row : List String) : List Char :=
  let cells := row.map cellLines
  (List.range (rowHeight cells)).flatMap (rowLine widths cells)

def rule (left line right : Char) (widths : List Nat) : List Char :=
  left :: List.replicate ((widths.map (· + 2)).foldr (· + ·) 0 + (widths.length - 1)) line ++ [right]

def text (t : Table) : String :=
  let ws := t.widths
  String.ofList (rule '┌' '─' '┐' ws ++ '\n' :: rowText ws t.header ++
    rule '╞' '═' '╡' ws ++ '\n' :: t.rows.flatMap (rowText ws) ++ rule '└' '─' '┘' ws)

end Table

end Terralens.Report
