import Terralens.Literal
import Terralens.Proofs.KeyMap
import Terralens.Proofs.Value

/-!
# Literal values

The values that need no evaluation: null, booleans, natural numbers, texts in which nothing is
inserted, and lists and maps of these. Each of them is written as an expression
(`Value.literal`), and the expression stands for the value again (`Value.Literal.value_literal`).
That the text of the value is read as this expression is shown elsewhere.
-/

namespace Terralens

open Hcl Decimal

/-! ### Names and texts -/

def Hcl.isNameChar (c : Char) : Bool := c.isAlphanum || c == '_' || c == '-'

/-- An identifier of ASCII characters that starts with a letter. -/
def Hcl.isName (name : String) : Bool :=
  match name.toList with
  | [] => false
  | c :: rest => c.isAlpha && rest.all isNameChar

/-- A name that means nothing but itself before the sign of a map entry. -/
def Hcl.isMapKey (name : String) : Bool :=
  isName name && !"for".toList.isPrefixOf name.toList &&
    !(["null", "true", "false"].contains name)

def Hcl.isTextChar (c : Char) : Bool :=
  ((32 ≤ c.toNat && c.toNat < 127) || c == '\n' || c == '\t' || c == '\r') &&
    c != '$' && c != '%'

/-! ### Values -/

inductive Value.Literal : Value → Prop where
  | null : Literal .null
  | bool (b : Bool) : Literal (.bool b)
  | number {n : Nat} (hn : n < 10 ^ 15) : Literal (.number (Binary.ofInt n))
  | string {s : String} (hs : ∀ c ∈ s.toList, isTextChar c) : Literal (.string s)
  | list {items : List Value} (hitems : ∀ v ∈ items, Literal v) : Literal (.list items)
  | map {entries : List (String × Value)} (hordered : InKeyOrder entries)
      (hkeys : ∀ e ∈ entries, isMapKey e.1) (hvalues : ∀ e ∈ entries, Literal e.2) :
      Literal (.map entries)

mutual

def Value.literal : Value → Expression
  | .null => .null
  | .string s => .string s
  | .number n => .number (.whole n.magnitude)
  | .bool b => .bool b
  | .list items => .array (itemLiterals items)
  | .map entries => .object (entryLiterals entries)
  | .expression s => .variable s

def itemLiterals : List Value → List Expression
  | [] => []
  | v :: rest => v.literal :: itemLiterals rest

def entryLiterals : List (String × Value) → List (Expression × Expression)
  | [] => []
  | (k, v) :: rest => (.variable k, v.literal) :: entryLiterals rest

end

theorem itemLiterals_eq_map (items : List Value) : itemLiterals items = items.map Value.literal := by
  induction items with
  | nil => rfl
  | cons v rest ih => simp [itemLiterals, ih]

theorem entryLiterals_eq_map (entries : List (String × Value)) :
    entryLiterals entries = entries.map fun e => (Expression.variable e.1, e.2.literal) := by
  induction entries with
  | nil => rfl
  | cons e rest ih => simp [entryLiterals, ih]

theorem Hcl.itemValues_eq_map (items : List Expression) :
    itemValues items = items.map Expression.value := by
  induction items with
  | nil => rfl
  | cons e rest ih => simp [itemValues, ih]

theorem Hcl.entryValues_eq_map (items : List (Expression × Expression)) :
    entryValues items = items.map fun e => (e.1.keyText, e.2.value) := by
  induction items with
  | nil => rfl
  | cons e rest ih => simp [entryValues, ih]

/-- The map of entries in key order has these entries. -/
theorem Value.ofEntries_of_inKeyOrder {entries : List (String × Value)}
    (h : InKeyOrder entries) : Value.ofEntries entries = .map entries := by
  have hfold : ∀ m : KeyMap String Value,
      entries.foldl (fun m e => insertEntry e.1 e.2 m) m.entries =
        (entries.foldl (fun m e => m.insert e.1 e.2) m).entries :=
    fun m => List.foldl_hom KeyMap.entries fun _ _ => rfl
  exact congrArg Value.map ((hfold .empty).trans (KeyMap.entries_ofList_of_inKeyOrder h))

theorem Value.Literal.value_literal {v : Value} (h : v.Literal) : v.literal.value = v := by
  induction h with
  | null => rfl
  | bool b => rfl
  | @number n hn =>
      have hfit : n < 2 ^ 53 := by omega
      simp only [Value.literal, Expression.value, Number.toBinary, magnitude_ofInt hfit]
  | string hs => rfl
  | @list items hitems ih =>
      have hvalues : itemValues (itemLiterals items) = items := by
        rw [itemLiterals_eq_map, itemValues_eq_map, List.map_map]
        conv => rhs; rw [← List.map_id items]
        exact List.map_congr_left ih
      rw [Value.literal, Expression.value, hvalues]
  | @map entries hordered hkeys hvalues ih =>
      have hentries : entryValues (entryLiterals entries) = entries := by
        rw [entryLiterals_eq_map, entryValues_eq_map, List.map_map]
        conv => rhs; rw [← List.map_id entries]
        refine List.map_congr_left fun e he => ?_
        simp [Expression.keyText, ih e he]
      rw [Value.literal, Expression.value, hentries, Value.ofEntries_of_inKeyOrder hordered]

end Terralens
