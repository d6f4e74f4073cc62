import Terralens.Text.Basic

/-!
# Indentation of templates on whole lines

A template of whole lines is a sequence of literal and inserted parts. Its indentation is
the least number of blanks that a non-empty line of its literal parts starts with; a
literal part that goes on in a line begun before does not count its first line, and an
inserted part at the start of a line has no indentation.
-/

namespace Terralens.Hcl

open Terralens.Text

inductive Piece where
  | literal (text : List Char)
  | inserted (text : List Char)

def Piece.text : Piece → List Char
  | .literal text => text
  | .inserted text => text

def least? : Option Nat → Option Nat → Option Nat
  | none, b => b
  | a, none => a
  | some a, some b => some (min a b)

def leastBlanks (lines : List (List Char)) : Option Nat :=
  lines.foldl (fun least line =>
    if line.isEmpty then least else least? least (some (line.takeWhile isBlank).length)) none

def startedLines (continued : Bool) (text : List Char) : List (List Char) :=
  if continued then (lines text).drop 1 else lines text

def endsLine (text : List Char) : Bool := text.getLast? == some '\n'

/-- The indentation of the parts of a template. An inserted part at the start of a line
  has none; after an inserted part, a literal part goes on in a line. -/
def indentationFrom (lineStart : Bool) : List Piece → Option Nat
  | [] => none
  | .literal text :: rest =>
      least? (leastBlanks (startedLines (!lineStart) text)) (indentationFrom (endsLine text) rest)
  | .inserted _ :: rest =>
      least? (if lineStart then some 0 else none) (indentationFrom false rest)

def indentation (pieces : List Piece) : Nat := (indentationFrom true pieces).getD 0

/-- A literal part without its indentation, its line breaks written as line feeds. -/
def dedentLiteral (count : Nat) (continued : Bool) (text : List Char) : List Char :=
  let cut := (lines text).map (·.drop count)
  let cut := if continued then (lines text).take 1 ++ cut.drop 1 else cut
  ['\n'].intercalate cut ++ (if endsLine text then ['\n'] else [])

def dedentFrom (count : Nat) (continued : Bool) : List Piece → List Char
  | [] => []
  | .literal text :: rest => dedentLiteral count continued text ++ dedentFrom count false rest
  | .inserted text :: rest => text ++ dedentFrom count true rest

def dedent (pieces : List Piece) : Bool × List Char :=
  let count := indentation pieces
  if count == 0 then (false, pieces.flatMap Piece.text)
  else (true, dedentFrom count false pieces)

end Terralens.Hcl
