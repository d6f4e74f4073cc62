import Terralens.EntryRef

/-!
# Entries and how they are written

An entry is written as its key behind an opening that its kind has. Among entries of one kind
the key can be read back (`eq_of_kind_of_text`); no opening that is not empty begins like another,
so two entries written alike have the same kind, or one of them is written by its bare key
(`kind_eq_of_text`).
-/

namespace Terralens

namespace EntryKind

/-- What stands before the key where an entry of the kind is written. -/
def opening : EntryKind → List Char
  | .resource => []
  | .provider => []
  | .dataSource => ['d', 'a', 't', 'a', '.']
  | .variable => ['v', 'a', 'r', '.']
  | .output => ['o', 'u', 't', 'p', 'u', 't', '.']
  | .local => ['l', 'o', 'c', 'a', 'l', '.']
  | .module => ['m', 'o', 'd', 'u', 'l', 'e', '.']

def isBare (kind : EntryKind) : Bool := kind.opening.isEmpty

theorem eq_of_opening_isPrefixOf {a b : EntryKind} (ha : a.isBare = false)
    (h : a.opening.isPrefixOf b.opening) : a = b := by
  revert ha h
  cases a <;> cases b <;> decide

end EntryKind

namespace EntryRef

theorem toList_text (r : EntryRef) : r.text.toList = r.kind.opening ++ r.key.toList := by
  obtain ⟨kind, key⟩ := r
  cases kind <;> simp [text, EntryKind.opening]

theorem eq_of_kind_of_text {a b : EntryRef} (hkind : a.kind = b.kind) (htext : a.text = b.text) :
    a = b := by
  have hchars : a.kind.opening ++ a.key.toList = b.kind.opening ++ b.key.toList := by
    rw [← toList_text, ← toList_text, htext]
  rw [hkind, List.append_cancel_left_eq, String.toList_inj] at hchars
  cases a
  cases b
  simp_all

/-- Entries written alike are of one kind, unless one of them is written by its bare key. -/
theorem kind_eq_of_text {a b : EntryRef} (ha : a.kind.isBare = false)
    (hb : b.kind.isBare = false) (htext : a.text = b.text) : a.kind = b.kind := by
  have hchars : a.kind.opening ++ a.key.toList = b.kind.opening ++ b.key.toList := by
    rw [← toList_text, ← toList_text, htext]
  have hfirst : a.kind.opening <+: b.kind.opening ++ b.key.toList := ⟨_, hchars⟩
  rcases List.prefix_or_prefix_of_prefix hfirst (List.prefix_append _ _) with h | h
  · exact EntryKind.eq_of_opening_isPrefixOf ha (List.isPrefixOf_iff_prefix.mpr h)
  · exact (EntryKind.eq_of_opening_isPrefixOf hb (List.isPrefixOf_iff_prefix.mpr h)).symm

/-- Nothing but a resource comes before a resource. -/
theorem kind_eq_resource_of_lt {a b : EntryRef} (h : compare a b = .lt)
    (hb : b.kind = .resource) : a.kind = .resource := by
  have hrank : compare a.kind.rank b.kind.rank ≠ .gt := by
    intro hgt
    change (compare a.kind.rank b.kind.rank).then (compare a.key b.key) = .lt at h
    rw [hgt] at h
    cases h
  have hzero : a.kind.rank ≤ 0 := by
    rw [hb] at hrank
    exact Nat.compare_ne_gt.mp hrank
  exact EntryKind.rank_injective (Nat.le_zero.mp hzero)

end EntryRef

end Terralens
