import Terralens.Lint

/-!
# Orders of paths, locations and findings

Components, paths and locations are ordered lexicographically, findings by their location and
code, errors by their file. The last two orders are total but leave ties: two findings are tied
when they have the same code at the same place, two errors when they are about the same file.
-/

namespace Terralens

open Std (TransOrd LawfulEqOrd TransCmp OrientedCmp LawfulEqCmp)

/-! ### Paths and locations -/

theorem Component.eq_of_rank_of_text {a b : Component} (hrank : a.rank = b.rank)
    (htext : a.text = b.text) : a = b := by
  cases a <;> cases b <;> simp_all [Component.rank, Component.text]

instance : TransOrd Component :=
  inferInstanceAs (TransCmp (compareLex (compareOn Component.rank) (compareOn Component.text)))

instance : LawfulEqOrd Component where
  eq_of_compare {a b} h := by
    obtain ⟨hrank, htext⟩ := Ordering.then_eq_eq.mp h
    exact Component.eq_of_rank_of_text (LawfulEqCmp.eq_of_compare hrank)
      (LawfulEqCmp.eq_of_compare htext)

instance : TransCmp Path.order := inferInstanceAs (TransCmp (compareOn Path.components))

instance : TransOrd Path := inferInstanceAs (TransCmp Path.order)

instance : TransOrd Location :=
  inferInstanceAs (TransCmp (compareLex (compareOn Location.file) (compareOn Location.line)))

theorem Path.order_eq_eq_iff {p q : Path} : p.order q = .eq ↔ p.same q = true := by
  rw [Path.order, LawfulEqCmp.compare_eq_iff_eq, Path.same, beq_iff_eq]

theorem Location.order_eq_eq_iff {a b : Location} :
    a.order b = .eq ↔ a.file.same b.file = true ∧ a.line = b.line := by
  rw [Location.order, Ordering.then_eq_eq, Path.order_eq_eq_iff, LawfulEqCmp.compare_eq_iff_eq]

theorem isLE_total {α : Type} (cmp : α → α → Ordering) [OrientedCmp cmp] (a b : α) :
    (cmp a b).isLE || (cmp b a).isLE := by
  rw [Bool.or_eq_true, ← OrientedCmp.isGE_iff_isLE (a := a)]
  cases cmp a b <;> simp

/-! ### Findings -/

def Finding.order : Finding → Finding → Ordering :=
  compareLex (compareOn Finding.location) (compareOn Finding.code)

instance : TransCmp Finding.order := inferInstanceAs (TransCmp (compareLex _ _))

theorem Finding.atMost_eq (a b : Finding) : a.atMost b = (Finding.order a b).isLE := rfl

theorem Finding.atMost_trans (a b c : Finding) (hab : a.atMost b) (hbc : b.atMost c) :
    a.atMost c := by
  rw [Finding.atMost_eq] at *
  exact TransCmp.isLE_trans hab hbc

theorem Finding.atMost_total (a b : Finding) : a.atMost b || b.atMost a :=
  isLE_total Finding.order a b

/-- Findings are tied when they have the same code at the same place. -/
theorem Finding.tied {a b : Finding} (hab : a.atMost b) (hba : b.atMost a) :
    a.location.file.same b.location.file ∧ a.location.line = b.location.line ∧ a.code = b.code := by
  have htied : Finding.order a b = .eq := OrientedCmp.isLE_antisymm hab hba
  obtain ⟨hlocation, hcode⟩ := Ordering.then_eq_eq.mp htied
  obtain ⟨hfile, hline⟩ := Location.order_eq_eq_iff.mp hlocation
  exact ⟨hfile, hline, LawfulEqCmp.eq_of_compare hcode⟩

/-! ### Errors -/

theorem Path.atMost_trans {p q r : Path} (hpq : p.atMost q) (hqr : q.atMost r) : p.atMost r := by
  rw [Path.atMost] at *
  exact TransCmp.isLE_trans hpq hqr

theorem Path.atMost_total (p q : Path) : p.atMost q || q.atMost p := isLE_total Path.order p q

theorem Path.same_of_atMost {p q : Path} (hpq : p.atMost q) (hqp : q.atMost p) : p.same q := by
  rw [Path.atMost] at hpq hqp
  exact Path.order_eq_eq_iff.mp (OrientedCmp.isLE_antisymm hpq hqp)

theorem Path.order_eq_lt {p q : Path} (hle : p.atMost q) (hne : ¬ p.same q) : p.order q = .lt := by
  rw [← Path.order_eq_eq_iff] at hne
  rw [Path.atMost] at hle
  cases h : p.order q with
  | lt => rfl
  | eq => exact absurd h hne
  | gt => simp [h] at hle

theorem Error.atMost_trans (a b c : Error) (hab : a.atMost b) (hbc : b.atMost c) :
    a.atMost c := by
  unfold Error.atMost at *
  cases ha : a.file? with
  | none => rfl
  | some p =>
      cases hb : b.file? with
      | none => simp [ha, hb] at hab
      | some q =>
          cases hc : c.file? with
          | none => simp [hb, hc] at hbc
          | some r =>
              simp only [ha, hb, hc] at hab hbc ⊢
              exact Path.atMost_trans hab hbc

theorem Error.atMost_total (a b : Error) : a.atMost b || b.atMost a := by
  unfold Error.atMost
  cases a.file? with
  | none => rfl
  | some p =>
      cases b.file? with
      | none => rfl
      | some q => exact Path.atMost_total p q

end Terralens
