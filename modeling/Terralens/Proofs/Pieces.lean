import Terralens.Text.Basic

/-!
# Separators in a text

A text is cut into pieces at its separators, and put together again from pieces without
separators. Replacing one character is the same as replacing it wherever it stands.
-/

namespace Terralens.Text

theorem pieces_ne_nil (sep : Char) (s : List Char) : pieces sep s ≠ [] := by
  induction s with
  | nil => simp [pieces]
  | cons c rest ih =>
      unfold pieces
      split
      · simp
      · split
        · simp
        · simp

theorem pieces_cons_self (sep : Char) (s : List Char) :
    pieces sep (sep :: s) = [] :: pieces sep s := by
  simp [pieces]

theorem pieces_cons_of_ne {sep c : Char} (h : c ≠ sep) {s first : List Char}
    {others : List (List Char)} (hs : pieces sep s = first :: others) :
    pieces sep (c :: s) = (c :: first) :: others := by
  simp [pieces, h, hs]

theorem pieces_of_not_mem {sep : Char} {s : List Char} (h : sep ∉ s) : pieces sep s = [s] := by
  induction s with
  | nil => rfl
  | cons c rest ih =>
      have hc : c ≠ sep := fun heq => h (by simp [heq])
      have hrest : sep ∉ rest := fun hmem => h (List.mem_cons_of_mem c hmem)
      exact pieces_cons_of_ne hc (ih hrest)

theorem not_mem_of_mem_pieces {sep : Char} {s piece : List Char} (h : piece ∈ pieces sep s) :
    sep ∉ piece := by
  induction s generalizing piece with
  | nil =>
      rw [pieces, List.mem_singleton] at h
      simp [h]
  | cons c rest ih =>
      obtain ⟨first, others, hrest⟩ := List.exists_cons_of_ne_nil (pieces_ne_nil sep rest)
      by_cases hc : c = sep
      · subst hc
        rw [pieces_cons_self] at h
        rcases List.mem_cons.mp h with rfl | h
        · exact List.not_mem_nil
        · exact ih h
      · rw [pieces_cons_of_ne hc hrest] at h
        rw [hrest] at ih
        rcases List.mem_cons.mp h with rfl | h
        · intro hsep
          rcases List.mem_cons.mp hsep with rfl | hsep
          · exact hc rfl
          · exact ih List.mem_cons_self hsep
        · exact ih (List.mem_cons_of_mem first h)

/-- A separator stands between the pieces before it and those after it. -/
theorem pieces_append (sep : Char) (s t : List Char) :
    pieces sep (s ++ sep :: t) = pieces sep s ++ pieces sep t := by
  induction s with
  | nil => exact pieces_cons_self sep t
  | cons c rest ih =>
      rw [List.cons_append]
      by_cases hc : c = sep
      · subst hc
        rw [pieces_cons_self, pieces_cons_self, ih, List.cons_append]
      · obtain ⟨first, others, hrest⟩ := List.exists_cons_of_ne_nil (pieces_ne_nil sep rest)
        rw [hrest, List.cons_append] at ih
        rw [pieces_cons_of_ne hc hrest, pieces_cons_of_ne hc ih, List.cons_append]

/-- Parts without separators, each with one behind it, are the pieces of what they form, and an
  empty piece stands behind the last separator. -/
theorem pieces_flatMap {sep : Char} {parts : List (List Char)} (h : ∀ part ∈ parts, sep ∉ part) :
    pieces sep (parts.flatMap (· ++ [sep])) = parts ++ [[]] := by
  induction parts with
  | nil => rfl
  | cons first rest ih =>
      have hrest := ih fun part hpart => h part (List.mem_cons_of_mem first hpart)
      rw [List.flatMap_cons, List.append_assoc, List.singleton_append, pieces_append,
        pieces_of_not_mem (h first List.mem_cons_self), hrest]
      rfl

theorem eq_nil_of_pieces {sep : Char} {s : List Char} (h : pieces sep s = [[]]) : s = [] := by
  cases s with
  | nil => rfl
  | cons c rest =>
      obtain ⟨first, others, hrest⟩ := List.exists_cons_of_ne_nil (pieces_ne_nil sep rest)
      by_cases hc : c = sep
      · subst hc
        rw [pieces_cons_self, hrest] at h
        simp at h
      · rw [pieces_cons_of_ne hc hrest] at h
        simp at h

/-- Replacing a single character looks at each character on its own. -/
theorem replaceAll_singleton (c : Char) (new s : List Char) :
    replaceAll [c] new s = s.flatMap fun d => if d = c then new else [d] := by
  unfold replaceAll
  induction s with
  | nil => rfl
  | cons d rest ih =>
      rw [replaceFrom, List.flatMap_cons]
      by_cases hd : d = c
      · subst hd
        simp [ih]
      · simp [ih, hd, Ne.symm hd]

end Terralens.Text
