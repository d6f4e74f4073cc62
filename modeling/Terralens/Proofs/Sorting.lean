import Mathlib.Data.List.Sort

/-!
# Sorting parts in any order

A stable sort inserts the elements one by one, each before the first that is not less
(`mergeSort_eq_foldr`). Elements of which one is strictly less may be inserted in either
order, so a part of a list whose elements are never tied, unless they are equal, may be
permuted before the sort, whatever stands around it (`mergeSort_append_of_perm`). Tied elements
keep the order in which they are given (`stablySorted_mergeSort`).
-/

namespace Terralens

variable {α : Type} {le : α → α → Bool}

/-- Puts an element before the first one that is not less. -/
def insertSorted (le : α → α → Bool) (a : α) (l : List α) : List α :=
  l.orderedInsert (fun x y => le x y = true) a

theorem insertSorted_nil (a : α) : insertSorted le a [] = [a] := rfl

theorem insertSorted_of_le {a b : α} (h : le a b) (l : List α) :
    insertSorted le a (b :: l) = a :: b :: l := by
  simp [insertSorted, h]

theorem insertSorted_of_not_le {a b : α} (h : le a b = false) (l : List α) :
    insertSorted le a (b :: l) = b :: insertSorted le a l := by
  simp [insertSorted, h]

/-- An element goes behind those it is not at most, and before the next one. -/
theorem insertSorted_append {a : α} {before after : List α}
    (hbefore : ∀ b ∈ before, le a b = false) (hafter : ∀ b ∈ after, le a b) :
    insertSorted le a (before ++ after) = before ++ a :: after := by
  induction before with
  | nil =>
      cases after with
      | nil => rfl
      | cons b rest => exact insertSorted_of_le (hafter b (by simp)) rest
  | cons b rest ih =>
      rw [List.cons_append, insertSorted_of_not_le (hbefore b (by simp)),
        ih fun d hd => hbefore d (List.mem_cons_of_mem b hd), List.cons_append]

/-- Of two elements one of which is strictly less, either may be inserted first. -/
theorem insertSorted_comm (trans : ∀ a b c, le a b → le b c → le a c) {a b : α}
    (hab : le a b) (hba : le b a = false) (l : List α) :
    insertSorted le a (insertSorted le b l) = insertSorted le b (insertSorted le a l) := by
  induction l with
  | nil =>
      rw [insertSorted_nil, insertSorted_nil, insertSorted_of_le hab, insertSorted_of_not_le hba,
        insertSorted_nil]
  | cons c rest ih =>
      by_cases hbc : le b c
      · have hac := trans a b c hab hbc
        rw [insertSorted_of_le hbc, insertSorted_of_le hab, insertSorted_of_le hac,
          insertSorted_of_not_le hba, insertSorted_of_le hbc]
      · rw [Bool.not_eq_true] at hbc
        rw [insertSorted_of_not_le hbc]
        by_cases hac : le a c
        · rw [insertSorted_of_le hac, insertSorted_of_le hac, insertSorted_of_not_le hba,
            insertSorted_of_not_le hbc]
        · rw [Bool.not_eq_true] at hac
          rw [insertSorted_of_not_le hac, insertSorted_of_not_le hac, insertSorted_of_not_le hbc,
            ih]

theorem mergeSort_cons_eq (trans : ∀ a b c, le a b → le b c → le a c)
    (total : ∀ a b, le a b || le b a) (a : α) (l : List α) :
    (a :: l).mergeSort le = insertSorted le a (l.mergeSort le) := by
  obtain ⟨before, after, hcons, hrest, hbefore⟩ := List.mergeSort_cons trans total a l
  have hsorted := List.pairwise_mergeSort trans total (a :: l)
  rw [hcons, List.pairwise_append, List.pairwise_cons] at hsorted
  have hbefore : ∀ b ∈ before, le a b = false := fun b hb => by simpa using hbefore b hb
  rw [hcons, hrest, insertSorted_append hbefore hsorted.2.1.1]

/-- A stable sort inserts the elements from the last to the first. -/
theorem mergeSort_eq_foldr (trans : ∀ a b c, le a b → le b c → le a c)
    (total : ∀ a b, le a b || le b a) (l : List α) :
    l.mergeSort le = l.foldr (insertSorted le) [] := by
  induction l with
  | nil => exact List.mergeSort_nil
  | cons a rest ih => rw [mergeSort_cons_eq trans total, ih, List.foldr_cons]

/-- A part of a list without ties between different elements may be permuted before a
  stable sort. -/
theorem mergeSort_append_of_perm (trans : ∀ a b c, le a b → le b c → le a c)
    (total : ∀ a b, le a b || le b a) {part part' : List α} (hperm : part.Perm part')
    (hties : ∀ a ∈ part, ∀ b ∈ part, le a b → le b a → a = b) (before after : List α) :
    (before ++ part ++ after).mergeSort le = (before ++ part' ++ after).mergeSort le := by
  have hcomm : ∀ a ∈ part, ∀ b ∈ part, ∀ l,
      insertSorted le b (insertSorted le a l) = insertSorted le a (insertSorted le b l) := by
    intro a ha b hb l
    by_cases hab : le a b
    · by_cases hba : le b a
      · rw [hties a ha b hb hab hba]
      · exact (insertSorted_comm trans hab (by simpa using hba) l).symm
    · have hba : le b a := by simpa [hab] using total a b
      exact insertSorted_comm trans hba (by simpa using hab) l
  simp only [mergeSort_eq_foldr trans total, List.foldr_append]
  rw [hperm.foldr_eq' hcomm]

/-! ### Ties -/

def tied (le : α → α → Bool) (a b : α) : Bool := le a b && le b a

/-- A list in order, with tied elements in the order in which another list has them. -/
structure StablySorted (le : α → α → Bool) (l sorted : List α) : Prop where
  perm : sorted.Perm l
  ordered : sorted.Pairwise fun a b => le a b
  ties : ∀ a, sorted.filter (tied le a) = l.filter (tied le a)

theorem stablySorted_mergeSort (trans : ∀ a b c, le a b → le b c → le a c)
    (total : ∀ a b, le a b || le b a) (l : List α) : StablySorted le l (l.mergeSort le) := by
  constructor
  case perm => exact List.mergeSort_perm l le
  case ordered => exact List.pairwise_mergeSort trans total l
  case ties =>
      intro a
      -- What is tied with `a` is in order already, so the sort keeps it as a part of the list.
      have hordered : (l.filter (tied le a)).Pairwise fun b c => le b c := by
        refine List.pairwise_of_forall_mem_list fun b hb c hc => ?_
        have hba := (Bool.and_eq_true_iff.mp (List.mem_filter.mp hb).2).2
        have hac := (Bool.and_eq_true_iff.mp (List.mem_filter.mp hc).2).1
        exact trans b a c hba hac
      have hkept : (l.filter (tied le a)).Sublist (l.mergeSort le) :=
        List.sublist_mergeSort trans total hordered List.filter_sublist
      have hsub : (l.filter (tied le a)).Sublist ((l.mergeSort le).filter (tied le a)) := by
        have hfilter := hkept.filter (tied le a)
        simpa only [List.filter_filter, Bool.and_self] using hfilter
      have hlength := ((List.mergeSort_perm l le).filter (tied le a)).length_eq
      exact (hsub.eq_of_length hlength.symm).symm

end Terralens
