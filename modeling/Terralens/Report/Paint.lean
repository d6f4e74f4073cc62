import Terralens.Text.Basic

/-!
# Terminal styles

Colours and weights of texts on a terminal, given by the codes of its control sequences.
A text that resets the style itself is set back to its own style behind each reset.
-/

namespace Terralens.Report

inductive Style where
  | title
  | section
  | faint
  | frame
  | good
  | bad
  | failed
  | caution
  | hint
deriving DecidableEq, Repr

def Style.codes : Style → String
  | .title => "1;97"
  | .section => "1;96"
  | .faint => "2"
  | .frame => "94"
  | .good => "32"
  | .bad => "31"
  | .failed => "1;31"
  | .caution => "33"
  | .hint => "36"

def Style.start (style : Style) : List Char := '\x1b' :: '[' :: style.codes.toList ++ ['m']

def reset : List Char := ['\x1b', '[', '0', 'm']

def paint (coloured : Bool) (style : Style) (text : String) : String :=
  if coloured then
    String.ofList (style.start ++ Text.replaceAll reset (reset ++ style.start) text.toList ++ reset)
  else text

end Terralens.Report
