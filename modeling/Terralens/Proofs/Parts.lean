import Mathlib.Algebra.BigOperators.Group.List.Basic
import Mathlib.Algebra.GroupWithZero.Nat

/-!
# Lists and their parts

No part of a text is longer than the text, and no text of parts that are not empty is shorter
than the number of its parts. When every element of a list fits exactly one of several classes,
the numbers of elements in the classes add up to the number of all (`sum_countP_eq`).
-/

namespace Terralens

variable {α β : Type}

theorem length_le_length_flatMap {f : α → List β} {parts : List α} (h : ∀ x ∈ parts, f x ≠ []) :
    parts.length ≤ (parts.flatMap f).length := by
  induction parts with
  | nil => simp
  | cons x rest ih =>
      have hfirst := List.length_pos_iff.mpr (h x (by simp))
      have hrest := ih fun y hy => h y (List.mem_cons_of_mem x hy)
      simp only [List.flatMap_cons, List.length_append, List.length_cons]
      omega

theorem intercalate_cons_eq_flatMap (glue part : List α) (parts : List (List α)) :
    glue.intercalate (part :: parts) = part ++ parts.flatMap (glue ++ ·) := by
  induction parts generalizing part with
  | nil => simp
  | cons next rest ih => simp [List.intercalate_cons_cons, ih]

theorem mem_intercalate {glue : List α} {parts : List (List α)} {x : α}
    (h : x ∈ glue.intercalate parts) : x ∈ glue ∨ ∃ part ∈ parts, x ∈ part := by
  cases parts with
  | nil => cases h
  | cons first rest =>
      rw [intercalate_cons_eq_flatMap] at h
      rcases List.mem_append.mp h with h | h
      · exact .inr ⟨first, by simp, h⟩
      · obtain ⟨part, hpart, hx⟩ := List.mem_flatMap.mp h
        rcases List.mem_append.mp hx with hx | hx
        · exact .inl hx
        · exact .inr ⟨part, List.mem_cons_of_mem first hpart, hx⟩

theorem length_le_intercalate {glue part : List α} {parts : List (List α)}
    (h : part ∈ parts) : part.length ≤ (glue.intercalate parts).length := by
  cases parts with
  | nil => cases h
  | cons first rest =>
      rw [intercalate_cons_eq_flatMap, List.length_append]
      rcases List.mem_cons.mp h with rfl | h
      · omega
      · obtain ⟨before, after, rfl⟩ := List.append_of_mem h
        simp only [List.flatMap_append, List.flatMap_cons, List.length_append]
        omega

theorem length_le_length_intercalate {glue : List α} (hglue : glue ≠ [])
    (parts : List (List α)) : parts.length ≤ (glue.intercalate parts).length + 1 := by
  cases parts with
  | nil => simp
  | cons first rest =>
      have hrest := @length_le_length_flatMap _ _ (glue ++ ·) rest (by simp [hglue])
      rw [intercalate_cons_eq_flatMap]
      simp only [List.length_append, List.length_cons]
      omega

/-! ### Counting class by class -/

theorem sum_map_ite_eq_countP (p : β → Bool) (l : List β) :
    (l.map fun b => if p b then 1 else 0).sum = l.countP p := by
  induction l with
  | nil => rfl
  | cons b rest ih => rw [List.map_cons, List.sum_cons, ih, List.countP_cons, Nat.add_comm]

/-- When every element fits one class, counting class by class counts every element once. -/
theorem sum_countP_eq (fits : α → β → Bool) {classes : List β} {l : List α}
    (hone : ∀ a ∈ l, classes.countP (fits a) = 1) (p : α → Bool) :
    (classes.map fun b => l.countP fun a => p a && fits a b).sum = l.countP p := by
  induction l with
  | nil => simp
  | cons a rest ih =>
      have hrest := ih fun a' ha' => hone a' (List.mem_cons_of_mem a ha')
      have hfirst : (classes.map fun b => if p a && fits a b then 1 else 0).sum =
          if p a then 1 else 0 := by
        cases p a with
        | true => simpa using (sum_map_ite_eq_countP (fits a) classes).trans (hone a (by simp))
        | false => simp
      simp only [List.countP_cons, List.sum_map_add, hrest, hfirst]

end Terralens
