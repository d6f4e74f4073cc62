import Terralens.EntryRef
import Terralens.Text.Basic
import Terralens.Text.Property.Word

/-!
# References in texts

A reference is written `var.n`, `local.n`, `module.n`, `data.t.n` or `t.n`, with names of
ASCII letters, digits, underscores and hyphens. It begins at the start of the text or after
a character that is neither a word character nor a point, and extends as far as its last
name does. References are read from left to right; what one of them takes up, its left
neighbour included, is not looked at again.
-/

namespace Terralens

/-- Whether a name may begin with a character: an ASCII letter or an underscore. -/
def startsName (c : Char) : Bool := c.isAlpha || c == '_'

/-- Whether a name may go on with a character: as it may begin, or with an ASCII digit or a
  hyphen. -/
def continuesName (c : Char) : Bool := c.isAlphanum || c == '_' || c == '-'

/-- The name a text begins with, as long as possible, and the rest. -/
def takeName : List Char → Option (List Char × List Char)
  | [] => none
  | c :: rest =>
      if startsName c then some (c :: rest.takeWhile continuesName, rest.dropWhile continuesName)
      else none

def takeTwoNames (s : List Char) : Option (List Char × List Char) :=
  match takeName s with
  | some (first, '.' :: rest) =>
      (takeName rest).map fun (second, _) => (first, second)
  | _ => none

def nameAfter (word s : List Char) : Option (List Char) :=
  ((Text.afterStart? (word ++ ['.']) s).bind takeName).map (·.1)

def twoNamesAfter (word s : List Char) : Option (List Char × List Char) :=
  (Text.afterStart? (word ++ ['.']) s).bind takeTwoNames

def pairKey (names : List Char × List Char) : String :=
  String.ofList (names.1 ++ '.' :: names.2)

/-- The reference with which a text begins. The forms are tried in the order of the pattern
  (`reference_pattern`), data sources first and resources last, so a word such as `var` never counts
  as the type of a resource when the form it belongs to fits. -/
def referenceAt (s : List Char) : Option EntryRef :=
  match twoNamesAfter "data".toList s with
  | some names => some ⟨.dataSource, pairKey names⟩
  | none =>
  match nameAfter "var".toList s with
  | some name => some ⟨.variable, String.ofList name⟩
  | none =>
  match nameAfter "local".toList s with
  | some name => some ⟨.local, String.ofList name⟩
  | none =>
  match nameAfter "module".toList s with
  | some name => some ⟨.module, String.ofList name⟩
  | none => (takeTwoNames s).map fun names => ⟨.resource, pairKey names⟩

/-- Whether a reference may begin after a character: not inside a word, and not in a longer chain of
  names. -/
def mayPrecede (c : Char) : Bool := !(Text.Property.isWord c || c == '.')

/-- The references in a text of which the first `skip` characters belong to the one before. The
  character before a reference is taken up with it. -/
def referencesFrom : Nat → List Char → List EntryRef
  | _, [] => []
  | skip + 1, _ :: rest => referencesFrom skip rest
  | 0, c :: rest =>
      match if mayPrecede c then referenceAt rest else none with
      -- The reference begins with `rest`; `c` before it is gone as well, so a second reference
      -- right behind the first needs a character of its own between them.
      | some r => r :: referencesFrom r.text.length rest
      | none => referencesFrom 0 rest

/-- All references in a text, from left to right and without overlap. -/
def referencesIn (s : List Char) : List EntryRef :=
  match referenceAt s with
  | some r => r :: referencesFrom r.text.length s
  | none => referencesFrom 0 s

/-- The entries among `known`, other than `source`, that a text refers to (`references`). -/
def references (text : String) (source : EntryRef) (known : KeySet EntryRef) : KeySet EntryRef :=
  .ofList ((referencesIn text.toList).filter fun r => r != source && known.mem r)

end Terralens
