import Terralens.Value
import Mathlib.Algebra.Group.Nat.Defs

/-!
# Texts of values

A natural number below `2 ^ 53` fits the significand of a double, so it is kept exactly: its
double is whole and has its magnitude. Below `10 ^ 15` it is shown by its digits, and these
stand for the number again. A list and a map are written as their items and entries with `, `
between them.
-/

namespace Terralens.Decimal

/-! ### Whole numbers as doubles -/

theorem roundDiv_one (n : Nat) : roundDiv n 1 = n := by
  simp [roundDiv, Nat.mod_one]

theorem twoPow_of_nonpos {e : Int} (h : e ≤ 0) : twoPow e = 1 := by
  simp [twoPow, Int.toNat_of_nonpos h]

theorem twoPow_natCast (k : Nat) : twoPow (k : Int) = 2 ^ k := rfl

theorem twoPow_pos (e : Int) : 0 < twoPow e := Nat.two_pow_pos _

/-- The significand of a number below `2 ^ 53` is shifted up to its full length. -/
theorem ofRatio?_one {n : Nat} (hpos : 0 < n) (hn : n < 2 ^ 53) :
    Binary.ofRatio? .double false n 1 =
      some ⟨false, n * 2 ^ (52 - n.log2), -((52 - n.log2 : Nat) : Int)⟩ := by
  have hlog : n.log2 ≤ 52 := Nat.lt_succ_iff.mp ((Nat.log2_lt (by omega)).mpr hn)
  have hlow : 2 ^ n.log2 ≤ n := Nat.log2_self_le (by omega)
  have hhigh : n < 2 ^ (n.log2 + 1) := Nat.lt_log2_self
  obtain ⟨k, hk⟩ := Nat.exists_eq_add_of_le hlog
  have hstart : startExponent .double n 1 = -((k + 1 : Nat) : Int) := by
    have hone : Nat.log2 1 = 0 := by decide
    simp only [startExponent, Format.double, hone]
    omega
  -- The first exponent tried is one too small, and with the next one nothing is rounded away.
  have hfits : ¬ n * twoPow (-(-((k + 1 : Nat) : Int))) / (1 * twoPow (-((k + 1 : Nat) : Int)))
      < Nat.pow 2 Format.double.precision := by
    rw [Int.neg_neg, twoPow_natCast, twoPow_of_nonpos (by omega), Nat.mul_one, Nat.div_one,
      Nat.not_lt]
    calc
      2 ^ 53 = 2 ^ n.log2 * 2 ^ (k + 1) := by rw [← Nat.pow_add]; congr 1; omega
      _ ≤ n * 2 ^ (k + 1) := Nat.mul_le_mul_right _ hlow
  have hround : roundAt .double n 1 (-(k : Int)) = (n * 2 ^ k, -(k : Int)) := by
    have hlt : n * 2 ^ k < 2 ^ 53 := by
      calc
        n * 2 ^ k < 2 ^ (n.log2 + 1) * 2 ^ k :=
          Nat.mul_lt_mul_of_pos_right hhigh (Nat.two_pow_pos k)
        _ = 2 ^ 53 := by rw [← Nat.pow_add]; congr 1; omega
    simp only [roundAt, Int.neg_neg, twoPow_natCast, twoPow_of_nonpos (e := -(k : Int)) (by omega),
      Nat.mul_one, roundDiv_one]
    exact if_pos hlt
  have hnext : -((k + 1 : Nat) : Int) + 1 = -(k : Int) := by omega
  have hdiff : 52 - n.log2 = k := by omega
  have hexponent : -(k : Int) ≤ Format.double.maxExponent := by
    simp only [Format.double]
    omega
  simp only [Binary.ofRatio?, Nat.ne_of_gt hpos, hstart, hfits, if_false, hnext, hround, hdiff,
    hexponent, if_true]

/-- A natural number below `2 ^ 53` as a double: the number itself, its significand shifted. -/
theorem ofInt_natCast {n : Nat} (hn : n < 2 ^ 53) :
    ∃ k : Nat, Binary.ofInt n = ⟨false, n * twoPow k, -(k : Int)⟩ := by
  have hsign : decide ((n : Int) < 0) = false := by simp
  rcases Nat.eq_zero_or_pos n with rfl | hpos
  · exact ⟨1074, congrArg (Binary.mk false · (-1074)) (Nat.zero_mul _).symm⟩
  · refine ⟨52 - n.log2, ?_⟩
    rw [Binary.ofInt, hsign, Int.natAbs_natCast, ofRatio?_one hpos hn]
    rfl

theorem isWhole_ofInt {n : Nat} (hn : n < 2 ^ 53) : (Binary.ofInt n).isWhole := by
  obtain ⟨k, hk⟩ := ofInt_natCast hn
  rw [hk]
  simp only [Binary.isWhole, Binary.ratio, Int.neg_neg,
    twoPow_of_nonpos (e := -(k : Int)) (by omega), Nat.mul_one, Nat.mul_mod_left, beq_self_eq_true]

theorem magnitude_ofInt {n : Nat} (hn : n < 2 ^ 53) : (Binary.ofInt n).magnitude = n := by
  obtain ⟨k, hk⟩ := ofInt_natCast hn
  rw [hk]
  simp only [Binary.magnitude, Binary.ratio, Int.neg_neg,
    twoPow_of_nonpos (e := -(k : Int)) (by omega), Nat.mul_one]
  exact Nat.mul_div_cancel n (twoPow_pos k)

theorem negative_ofInt {n : Nat} (hn : n < 2 ^ 53) : (Binary.ofInt n).negative = false := by
  obtain ⟨k, hk⟩ := ofInt_natCast hn
  rw [hk]

end Terralens.Decimal

namespace Terralens

open Decimal

/-- A natural number below `10 ^ 15` is shown by its digits. -/
theorem toList_numberText_ofInt {n : Nat} (hn : n < 10 ^ 15) :
    (numberText (Binary.ofInt n)).toList = digitsOf n := by
  have hfit : n < 2 ^ 53 := by omega
  have hsmall : n < Nat.pow 10 15 := hn
  simp [numberText, signed, isWhole_ofInt hfit, magnitude_ofInt hfit, negative_ofInt hfit, hsmall]

/-! ### Lists and maps -/

theorem Value.itemTexts_eq_map (items : List Value) : itemTexts items = items.map text := by
  induction items with
  | nil => rfl
  | cons v rest ih => simp [itemTexts, ih]

theorem Value.entryTexts_eq_map (entries : List (String × Value)) :
    entryTexts entries = entries.map fun (k, v) => k ++ " = " ++ v.text := by
  induction entries with
  | nil => rfl
  | cons e rest ih => simp [entryTexts, ih]

def entryChars (e : String × Value) : List Char :=
  e.1.toList ++ [' ', '=', ' '] ++ e.2.text.toList

theorem toList_text_list (items : List Value) :
    (Value.list items).text.toList =
      '[' :: [',', ' '].intercalate (items.map (·.text.toList)) ++ [']'] := by
  simp [Value.text, Value.itemTexts_eq_map, Function.comp_def]

theorem toList_text_map (entries : List (String × Value)) :
    (Value.map entries).text.toList =
      '\x7b' :: ' ' :: [',', ' '].intercalate (entries.map entryChars) ++ [' ', '\x7d'] := by
  have hchars : entryChars = fun e => e.1.toList ++ [' ', '=', ' '] ++ e.2.text.toList := rfl
  simp [Value.text, Value.entryTexts_eq_map, Function.comp_def, hchars]

end Terralens
