import Terralens.KeyMap
import Mathlib.Data.List.Induction

/-!
# Maps in key order: lookups, insertions and permutations

A map is determined by its entries in any order (`ext_of_perm`), a lookup finds exactly the
entry of its key (`get?_eq_some_iff`), and inserting under a new key adds one entry and
changes none (`entries_insert_perm`). `ofList` is described by what each key ends with.
-/

namespace Terralens

open Std (TransOrd LawfulEqOrd LawfulEqCmp TransCmp OrientedCmp ReflCmp)

variable {κ ν μ : Type} [Ord κ]

/-! ### Lists of entries -/

theorem findEntry_eq_none_iff [LawfulEqOrd κ] {k : κ} {entries : List (κ × ν)} :
    findEntry k entries = none ↔ ∀ e ∈ entries, e.1 ≠ k := by
  induction entries with
  | nil => simp
  | cons e rest ih =>
      obtain ⟨k', v⟩ := e
      by_cases h : k = k'
      · subst h
        simp [findEntry_cons_self]
      · rw [findEntry_cons_of_ne h, ih]
        simp [Ne.symm h]

theorem mem_of_findEntry_eq_some [LawfulEqOrd κ] {k : κ} {v : ν} {entries : List (κ × ν)}
    (h : findEntry k entries = some v) : (k, v) ∈ entries := by
  induction entries with
  | nil => simp at h
  | cons e rest ih =>
      obtain ⟨k', v'⟩ := e
      by_cases hk : k = k'
      · subst hk
        rw [findEntry_cons_self] at h
        simp [Option.some.inj h]
      · rw [findEntry_cons_of_ne hk] at h
        exact List.mem_cons_of_mem _ (ih h)

theorem InKeyOrder.nodup_keys [LawfulEqOrd κ] {entries : List (κ × ν)}
    (h : InKeyOrder entries) : (entries.map (·.1)).Nodup := by
  rw [List.Nodup, List.pairwise_map]
  exact List.Pairwise.imp ne_of_compare_lt h

theorem InKeyOrder.findEntry_eq_some_iff [LawfulEqOrd κ] {k : κ} {v : ν}
    {entries : List (κ × ν)} (h : InKeyOrder entries) :
    findEntry k entries = some v ↔ (k, v) ∈ entries := by
  refine ⟨mem_of_findEntry_eq_some, fun hmem => ?_⟩
  induction entries with
  | nil => simp at hmem
  | cons e rest ih =>
      obtain ⟨k', v'⟩ := e
      obtain ⟨hfirst, hrest⟩ := inKeyOrder_cons.mp h
      rcases List.mem_cons.mp hmem with heq | hmem
      · cases heq
        exact findEntry_cons_self k v rest
      · rw [findEntry_cons_of_ne (ne_of_compare_lt (hfirst _ hmem)).symm]
        exact ih hrest hmem

theorem insertEntry_perm [LawfulEqOrd κ] {k : κ} {v : ν} {entries : List (κ × ν)}
    (h : findEntry k entries = none) : (insertEntry k v entries).Perm ((k, v) :: entries) := by
  induction entries with
  | nil => exact List.Perm.refl _
  | cons e rest ih =>
      obtain ⟨k', v'⟩ := e
      have hnew := findEntry_eq_none_iff.mp h
      simp only [insertEntry]
      split
      · exact List.Perm.refl _
      next heq => exact absurd (LawfulEqCmp.eq_of_compare heq).symm (hnew (k', v') (by simp))
      · have hrest : findEntry k rest = none :=
          findEntry_eq_none_iff.mpr fun e he => hnew e (by simp [he])
        exact ((ih hrest).cons _).trans (List.Perm.swap _ _ _)

/-- An entry beyond all others is inserted at the end. -/
theorem insertEntry_eq_append [TransOrd κ] {k : κ} {v : ν} {entries : List (κ × ν)}
    (h : ∀ e ∈ entries, compare e.1 k = .lt) : insertEntry k v entries = entries ++ [(k, v)] := by
  induction entries with
  | nil => rfl
  | cons e rest ih =>
      have hgt : compare k e.1 = .gt := OrientedCmp.gt_iff_lt.mpr (h e (by simp))
      simp only [insertEntry, hgt]
      rw [ih fun f hf => h f (by simp [hf])]
      rfl

namespace KeyMap

/-! ### Lookups -/

@[ext] theorem ext {m m' : KeyMap κ ν} (h : m.entries = m'.entries) : m = m' := by
  cases m
  cases m'
  simp_all

@[simp] theorem entries_empty : (empty : KeyMap κ ν).entries = [] := rfl

theorem get?_eq_some_iff [LawfulEqOrd κ] {m : KeyMap κ ν} {k : κ} {v : ν} :
    m.get? k = some v ↔ (k, v) ∈ m.entries :=
  m.ordered.findEntry_eq_some_iff

theorem mem_keys_iff {m : KeyMap κ ν} {k : κ} : k ∈ m.keys ↔ ∃ v, (k, v) ∈ m.entries := by
  simp [keys]

theorem get?_eq_none_iff [LawfulEqOrd κ] {m : KeyMap κ ν} {k : κ} :
    m.get? k = none ↔ k ∉ m.keys := by
  unfold get?
  rw [findEntry_eq_none_iff, mem_keys_iff]
  grind

theorem contains_iff [LawfulEqOrd κ] {m : KeyMap κ ν} {k : κ} : m.contains k ↔ k ∈ m.keys := by
  rw [contains, Option.isSome_iff_ne_none, Ne, get?_eq_none_iff, Classical.not_not]

theorem nodup_keys [LawfulEqOrd κ] (m : KeyMap κ ν) : m.keys.Nodup := m.ordered.nodup_keys

theorem get?_filterKeys [LawfulEqOrd κ] (m : KeyMap κ ν) {p : κ → Bool} {k : κ} (h : p k) :
    (m.filterKeys p).get? k = m.get? k := by
  apply Option.ext
  intro v
  rw [get?_eq_some_iff, get?_eq_some_iff, filterKeys, List.mem_filter]
  exact and_iff_left h

/-- A map is determined by its entries in any order. -/
theorem ext_of_perm [TransOrd κ] [LawfulEqOrd κ] {m m' : KeyMap κ ν}
    (h : m.entries.Perm m'.entries) : m = m' := by
  apply ext
  refine h.eq_of_pairwise ?_ m.ordered m'.ordered
  intro a b _ _ hab hba
  rw [OrientedCmp.gt_iff_lt.mpr hab] at hba
  cases hba

/-! ### Changed values -/

def mapWithKey (m : KeyMap κ ν) (f : κ → ν → μ) : KeyMap κ μ :=
  ⟨m.entries.map fun e => (e.1, f e.1 e.2), by
    unfold InKeyOrder
    rw [List.pairwise_map]
    exact m.ordered⟩

theorem get?_mapWithKey [LawfulEqOrd κ] (m : KeyMap κ ν) (f : κ → ν → μ) (k : κ) :
    (m.mapWithKey f).get? k = (m.get? k).map (f k) := by
  have hfind : ∀ entries : List (κ × ν), findEntry k (entries.map fun e => (e.1, f e.1 e.2)) =
      (findEntry k entries).map (f k) := by
    intro entries
    induction entries with
    | nil => rfl
    | cons e rest ih =>
        obtain ⟨k', v⟩ := e
        by_cases hk : k = k'
        · subst hk
          rw [List.map_cons, findEntry_cons_self, findEntry_cons_self, Option.map_some]
        · rw [List.map_cons, findEntry_cons_of_ne hk, findEntry_cons_of_ne hk, ih]
  exact hfind m.entries

theorem get?_map [LawfulEqOrd κ] (m : KeyMap κ ν) (f : ν → μ) (k : κ) :
    (m.map f).get? k = (m.get? k).map f :=
  get?_mapWithKey m (fun _ => f) k

theorem values_map (m : KeyMap κ ν) (f : ν → μ) : (m.map f).values = m.values.map f := by
  simp [values, KeyMap.map, Function.comp_def]

theorem isEmpty_map (m : KeyMap κ ν) (f : ν → μ) : (m.map f).isEmpty = m.isEmpty := by
  simp [isEmpty, KeyMap.map]

theorem size_map (m : KeyMap κ ν) (f : ν → μ) : (m.map f).size = m.size := by
  simp [size, KeyMap.map]

theorem isEmpty_mapWithKey (m : KeyMap κ ν) (f : κ → ν → μ) :
    (m.mapWithKey f).isEmpty = m.isEmpty := by
  simp [isEmpty, mapWithKey]

theorem size_mapWithKey (m : KeyMap κ ν) (f : κ → ν → μ) : (m.mapWithKey f).size = m.size := by
  simp [size, mapWithKey]

/-! ### Maps of lists in key order -/

variable [TransOrd κ]

theorem ofList_append_singleton (entries : List (κ × ν)) (k : κ) (v : ν) :
    ofList (entries ++ [(k, v)]) = (ofList entries).insert k v := by
  simp [ofList]

/-- The map of entries in key order has exactly these entries. -/
theorem entries_ofList_of_inKeyOrder {entries : List (κ × ν)} (h : InKeyOrder entries) :
    (ofList entries).entries = entries := by
  induction entries using List.reverseRecOn with
  | nil => rfl
  | append_singleton entries e ih =>
      obtain ⟨hinit, -, hlast⟩ := List.pairwise_append.mp h
      rw [ofList_append_singleton]
      change insertEntry e.1 e.2 (ofList entries).entries = _
      rw [ih hinit]
      exact insertEntry_eq_append fun f hf => hlast f hf e (by simp)

theorem ofList_entries (m : KeyMap κ ν) : ofList m.entries = m :=
  ext (entries_ofList_of_inKeyOrder m.ordered)

/-! ### Insertions -/

variable [LawfulEqOrd κ]

theorem entries_insert_perm {m : KeyMap κ ν} {k : κ} (h : m.get? k = none) (v : ν) :
    (m.insert k v).entries.Perm ((k, v) :: m.entries) :=
  insertEntry_perm h

theorem mem_keys_insert {m : KeyMap κ ν} {k k' : κ} {v : ν} :
    k' ∈ (m.insert k v).keys ↔ k' = k ∨ k' ∈ m.keys := by
  rw [← Classical.not_not (a := k' ∈ (m.insert k v).keys), ← get?_eq_none_iff]
  by_cases h : k' = k
  · simp [h]
  · rw [get?_insert_of_ne m h, get?_eq_none_iff]
    simp [h]

/-! ### Maps of lists -/

theorem mem_keys_ofList {entries : List (κ × ν)} {k : κ} :
    k ∈ (ofList entries).keys ↔ ∃ v, (k, v) ∈ entries := by
  induction entries using List.reverseRecOn with
  | nil => simp [ofList, keys]
  | append_singleton entries e ih =>
      obtain ⟨k', v'⟩ := e
      rw [ofList_append_singleton, mem_keys_insert, ih]
      grind

/-- The value of a key in the map of a list is one the list gives to it. -/
theorem mem_of_get?_ofList {entries : List (κ × ν)} {k : κ} {v : ν}
    (h : (ofList entries).get? k = some v) : (k, v) ∈ entries := by
  induction entries using List.reverseRecOn with
  | nil => simp [ofList] at h
  | append_singleton entries e ih =>
      obtain ⟨k', v'⟩ := e
      rw [ofList_append_singleton] at h
      by_cases hk : k = k'
      · subst hk
        rw [get?_insert_self] at h
        simp [Option.some.inj h]
      · rw [get?_insert_of_ne _ hk] at h
        simp [ih h]

/-- A key to which a list gives one value has it in the map of the list. -/
theorem get?_ofList_of_unique {entries : List (κ × ν)} {k : κ} {v : ν}
    (hmem : (k, v) ∈ entries) (hunique : ∀ v', (k, v') ∈ entries → v' = v) :
    (ofList entries).get? k = some v := by
  cases hfound : (ofList entries).get? k with
  | none =>
      exact absurd (mem_keys_ofList.mpr ⟨v, hmem⟩) (get?_eq_none_iff.mp hfound)
  | some v' => rw [hunique v' (mem_of_get?_ofList hfound)]

end KeyMap

namespace KeySet

theorem mem_iff [LawfulEqOrd κ] {s : KeySet κ} {k : κ} : s.mem k ↔ k ∈ s.toList :=
  KeyMap.contains_iff

theorem pairwise_toList (s : KeySet κ) : s.toList.Pairwise fun a b => compare a b = .lt := by
  unfold KeySet.toList KeyMap.keys
  rw [List.pairwise_map]
  exact s.ordered

theorem eq_of_increasing [TransOrd κ] [LawfulEqOrd κ] {l l' : List κ}
    (hl : l.Pairwise fun a b => compare a b = .lt) (hl' : l'.Pairwise fun a b => compare a b = .lt)
    (h : ∀ k, k ∈ l ↔ k ∈ l') : l = l' := by
  have hperm : l.Perm l' :=
    (List.perm_ext_iff_of_nodup (hl.imp ne_of_compare_lt) (hl'.imp ne_of_compare_lt)).mpr h
  refine hperm.eq_of_pairwise ?_ hl hl'
  intro a b _ _ hab hba
  rw [OrientedCmp.gt_iff_lt.mpr hab] at hba
  cases hba

@[simp] theorem mem_toList_ofList [TransOrd κ] [LawfulEqOrd κ]
    {elements : List κ} {k : κ} :
    k ∈ (KeySet.ofList elements).toList ↔ k ∈ elements := by
  unfold KeySet.toList KeySet.ofList
  rw [KeyMap.mem_keys_ofList]
  simp

end KeySet

end Terralens
