import Mathlib.Algebra.BigOperators.Group.List.Basic
import Mathlib.Algebra.GroupWithZero.Nat
import Terralens.Proofs.KeyMap

/-!
# What a map of a list keeps

Of several entries with one key the map of a list keeps the last, so of several maps that are put
into one, one behind the other, the last that has a key counts (`get?_ofList_flatMap`).

Let the values have weights. An insertion takes the weight of the old value away (`weight_insert`),
so no weight is lost exactly when every entry that a later one replaces weighs nothing
(`weight_ofList_eq_iff`). Then every entry that weighs something is in the map
(`get?_ofList_of_keeps`).
-/

namespace Terralens

open Std (TransOrd TransCmp OrientedCmp LawfulEqOrd LawfulEqCmp)

variable {κ ν : Type} {w : ν → Nat}

def weight (w : ν → Nat) (entries : List (κ × ν)) : Nat := (entries.map fun e => w e.2).sum

theorem weight_cons (k : κ) (v : ν) (entries : List (κ × ν)) :
    weight w ((k, v) :: entries) = w v + weight w entries := by
  simp [weight]

theorem weight_append_singleton (entries : List (κ × ν)) (k : κ) (v : ν) :
    weight w (entries ++ [(k, v)]) = weight w entries + w v := by
  simp [weight]

/-- No entry that weighs something is followed by one with the same key. -/
def Keeps (w : ν → Nat) (entries : List (κ × ν)) : Prop :=
  entries.Pairwise fun e f => e.1 = f.1 → w e.2 = 0

theorem keeps_append_singleton_iff {entries : List (κ × ν)} {e : κ × ν} :
    Keeps w (entries ++ [e]) ↔ Keeps w entries ∧ ∀ f ∈ entries, f.1 = e.1 → w f.2 = 0 := by
  simp [Keeps, List.pairwise_append]

variable [Ord κ] [TransOrd κ] [LawfulEqOrd κ]

/-- In key order, what holds of any two entries one behind the other is what holds of any two in
  increasing order. -/
theorem InKeyOrder.pairwise_iff {entries : List (κ × ν)} (h : InKeyOrder entries)
    {R : κ × ν → κ × ν → Prop} :
    entries.Pairwise R ↔ ∀ e ∈ entries, ∀ f ∈ entries, compare e.1 f.1 = .lt → R e f := by
  induction entries with
  | nil => simp
  | cons e rest ih =>
      obtain ⟨hfirst, hrest⟩ := inKeyOrder_cons.mp h
      rw [List.pairwise_cons, ih hrest]
      constructor
      · rintro ⟨hR, hpairs⟩ f hf g hg hlt
        rcases List.mem_cons.mp hf with rfl | hf'
        · rcases List.mem_cons.mp hg with rfl | hg'
          · exact absurd rfl (ne_of_compare_lt hlt)
          · exact hR g hg'
        · rcases List.mem_cons.mp hg with rfl | hg'
          · rw [OrientedCmp.gt_iff_lt.mpr (hfirst f hf')] at hlt
            cases hlt
          · exact hpairs f hf' g hg' hlt
      · intro hpairs
        constructor
        · intro f hf
          exact hpairs e List.mem_cons_self f (List.mem_cons_of_mem e hf) (hfirst f hf)
        · intro f hf g hg hlt
          exact hpairs f (List.mem_cons_of_mem e hf) g (List.mem_cons_of_mem e hg) hlt

theorem weight_insertEntry {entries : List (κ × ν)} (h : InKeyOrder entries) (k : κ) (v : ν) :
    weight w (insertEntry k v entries) + (findEntry k entries).elim 0 w =
      weight w entries + w v := by
  induction entries with
  | nil => simp [insertEntry, weight]
  | cons e rest ih =>
      obtain ⟨k', v'⟩ := e
      obtain ⟨hfirst, hrest⟩ := inKeyOrder_cons.mp h
      simp only [insertEntry]
      split
      next hlt =>
          have hnew : findEntry k ((k', v') :: rest) = none := by
            apply findEntry_eq_none_iff.mpr
            intro f hf
            rcases List.mem_cons.mp hf with rfl | hf
            · exact (ne_of_compare_lt hlt).symm
            · exact (ne_of_compare_lt (TransCmp.lt_trans hlt (hfirst f hf))).symm
          rw [hnew, weight_cons]
          simp only [Option.elim_none]
          omega
      next heq =>
          rw [LawfulEqCmp.eq_of_compare heq, findEntry_cons_self, weight_cons, weight_cons]
          simp only [Option.elim_some]
          omega
      next hgt =>
          have hstep := ih hrest
          rw [findEntry_cons_of_ne (ne_of_compare_gt hgt), weight_cons, weight_cons]
          omega

namespace KeyMap

/-- What a list says of a key counts less than what is said behind it. -/
theorem get?_ofList_append (entries more : List (κ × ν)) (k : κ) :
    (ofList (entries ++ more)).get? k = ((ofList more).get? k).or ((ofList entries).get? k) := by
  induction more using List.reverseRecOn with
  | nil => simp [ofList]
  | append_singleton more e ih =>
      obtain ⟨k', v⟩ := e
      rw [← List.append_assoc, ofList_append_singleton, ofList_append_singleton]
      by_cases hk : k = k'
      · subst hk
        rw [get?_insert_self, get?_insert_self, Option.some_or]
      · rw [get?_insert_of_ne _ hk, get?_insert_of_ne _ hk, ih]

/-- Of several maps put into one, the last that has a key gives it its value. -/
theorem get?_ofList_flatMap {α : Type} (maps : List α) (f : α → KeyMap κ ν) (k : κ) :
    (ofList (maps.flatMap fun a => (f a).entries)).get? k =
      (maps.filterMap fun a => (f a).get? k).getLast? := by
  induction maps using List.reverseRecOn with
  | nil => rfl
  | append_singleton maps a ih =>
      rw [List.flatMap_append, List.flatMap_singleton, get?_ofList_append, ofList_entries, ih,
        List.filterMap_append, List.getLast?_append]
      congr 1
      cases h : (f a).get? k <;> simp [h]

/-- An insertion adds the weight of the new value and takes that of the old one away. -/
theorem weight_insert (m : KeyMap κ ν) (k : κ) (v : ν) :
    weight w (m.insert k v).entries + (m.get? k).elim 0 w = weight w m.entries + w v :=
  weight_insertEntry m.ordered k v

theorem weight_ofList_le (entries : List (κ × ν)) :
    weight w (ofList entries).entries ≤ weight w entries := by
  induction entries using List.reverseRecOn with
  | nil => exact Nat.le_refl _
  | append_singleton entries e ih =>
      obtain ⟨k, v⟩ := e
      have hstep := (ofList entries).weight_insert (w := w) k v
      rw [ofList_append_singleton, weight_append_singleton]
      omega

/-- Where no weight is lost, every entry that weighs something is in the map. -/
theorem get?_ofList_of_keeps {entries : List (κ × ν)} (h : Keeps w entries) {e : κ × ν}
    (he : e ∈ entries) (hw : w e.2 ≠ 0) : (ofList entries).get? e.1 = some e.2 := by
  induction entries using List.reverseRecOn with
  | nil => cases he
  | append_singleton entries f ih =>
      obtain ⟨hkeeps, hlast⟩ := keeps_append_singleton_iff.mp h
      obtain ⟨k, v⟩ := f
      rw [ofList_append_singleton]
      rcases List.mem_append.mp he with he | he
      · have hne : e.1 ≠ k := fun heq => hw (hlast e he heq)
        rw [get?_insert_of_ne _ hne]
        exact ih hkeeps he
      · rw [List.mem_singleton.mp he]
        exact get?_insert_self _ k v

theorem weight_ofList_eq_iff {entries : List (κ × ν)} :
    weight w (ofList entries).entries = weight w entries ↔ Keeps w entries := by
  induction entries using List.reverseRecOn with
  | nil => simp [Keeps, weight, ofList, empty]
  | append_singleton entries e ih =>
      obtain ⟨k, v⟩ := e
      have hstep := (ofList entries).weight_insert (w := w) k v
      have hle := weight_ofList_le (w := w) entries
      -- The last entry replaces one without weight, and nothing was lost before it.
      have hsplit : weight w (ofList (entries ++ [(k, v)])).entries =
          weight w (entries ++ [(k, v)]) ↔
            weight w (ofList entries).entries = weight w entries ∧
              ((ofList entries).get? k).elim 0 w = 0 := by
        rw [ofList_append_singleton, weight_append_singleton]
        constructor
        · intro h
          constructor <;> omega
        · rintro ⟨hsame, hold⟩
          omega
      rw [hsplit, ih, keeps_append_singleton_iff]
      refine and_congr_right fun hkeeps => ?_
      constructor
      · intro hold f hf hkey
        by_contra hw
        have hget := get?_ofList_of_keeps hkeeps hf hw
        rw [hkey] at hget
        rw [hget] at hold
        exact hw hold
      · intro hall
        cases hget : (ofList entries).get? k with
        | none => rfl
        | some old => exact hall _ (mem_of_get?_ofList hget) rfl

end KeyMap

end Terralens
