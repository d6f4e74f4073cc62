/-!
# Maps in key order

A map is the list of its entries in strictly increasing order of the keys, and carries the
proof of that order. Inserting under a key that is present replaces the entry, so two maps
with the same entries are equal.
-/

namespace Terralens

open Std (TransOrd OrientedOrd LawfulEqOrd LawfulEqCmp)

variable {κ ν μ : Type} [Ord κ]

/-- Inserts into a list of entries in key order, replacing the entry of an equal key. -/
def insertEntry (k : κ) (v : ν) : List (κ × ν) → List (κ × ν)
  | [] => [(k, v)]
  | (k', v') :: rest =>
      match compare k k' with
      | .lt => (k, v) :: (k', v') :: rest
      | .eq => (k, v) :: rest
      | .gt => (k', v') :: insertEntry k v rest

def findEntry (k : κ) : List (κ × ν) → Option ν
  | [] => none
  | (k', v) :: rest => if compare k k' == .eq then some v else findEntry k rest

def InKeyOrder (entries : List (κ × ν)) : Prop :=
  entries.Pairwise fun a b => compare a.1 b.1 = .lt

instance (entries : List (κ × ν)) : Decidable (InKeyOrder entries) :=
  inferInstanceAs (Decidable (List.Pairwise _ _))

theorem inKeyOrder_nil : InKeyOrder ([] : List (κ × ν)) := List.Pairwise.nil

theorem inKeyOrder_cons {e : κ × ν} {entries : List (κ × ν)} :
    InKeyOrder (e :: entries) ↔
      (∀ f ∈ entries, compare e.1 f.1 = .lt) ∧ InKeyOrder entries :=
  List.pairwise_cons

theorem mem_of_mem_insertEntry {k : κ} {v : ν} {entries : List (κ × ν)} {e : κ × ν}
    (h : e ∈ insertEntry k v entries) : e = (k, v) ∨ e ∈ entries := by
  induction entries with
  | nil => simpa [insertEntry] using h
  | cons f rest ih =>
      simp only [insertEntry] at h
      split at h <;> grind

theorem InKeyOrder.insertEntry [TransOrd κ] {entries : List (κ × ν)} (h : InKeyOrder entries)
    (k : κ) (v : ν) : InKeyOrder (insertEntry k v entries) := by
  induction entries with
  | nil => exact List.pairwise_singleton _ _
  | cons f rest ih =>
      obtain ⟨hfirst, hrest⟩ := inKeyOrder_cons.mp h
      simp only [Terralens.insertEntry]
      split
      next hlt =>
          refine inKeyOrder_cons.mpr ⟨fun e he => ?_, h⟩
          rcases List.mem_cons.mp he with rfl | he
          · exact hlt
          · exact Std.TransCmp.lt_trans hlt (hfirst e he)
      next heq =>
          refine inKeyOrder_cons.mpr ⟨fun e he => ?_, hrest⟩
          exact Std.TransCmp.lt_of_eq_of_lt heq (hfirst e he)
      next hgt =>
          refine inKeyOrder_cons.mpr ⟨fun e he => ?_, ih hrest⟩
          rcases mem_of_mem_insertEntry he with rfl | he
          · exact Std.OrientedCmp.lt_of_gt hgt
          · exact hfirst e he

theorem InKeyOrder.mapValues {entries : List (κ × ν)} (h : InKeyOrder entries) (f : ν → μ) :
    InKeyOrder (entries.map fun (k, v) => (k, f v)) := by
  unfold InKeyOrder
  rw [List.pairwise_map]
  exact h

theorem ne_of_compare_lt [LawfulEqOrd κ] {a b : κ} (h : compare a b = .lt) : a ≠ b :=
  fun heq => by simp [heq] at h

theorem ne_of_compare_gt [LawfulEqOrd κ] {a b : κ} (h : compare a b = .gt) : a ≠ b :=
  fun heq => by simp [heq] at h

@[simp] theorem findEntry_nil (k : κ) : findEntry k ([] : List (κ × ν)) = none := rfl

theorem findEntry_cons_self [LawfulEqOrd κ] (k : κ) (v : ν) (rest : List (κ × ν)) :
    findEntry k ((k, v) :: rest) = some v := by
  simp [findEntry]

theorem findEntry_cons_of_ne [LawfulEqOrd κ] {k k' : κ} (h : k ≠ k') (v : ν)
    (rest : List (κ × ν)) : findEntry k ((k', v) :: rest) = findEntry k rest := by
  have hcompare : compare k k' ≠ .eq := fun heq => h (LawfulEqCmp.eq_of_compare heq)
  simp [findEntry, hcompare]

theorem findEntry_insertEntry_self [LawfulEqOrd κ] (k : κ) (v : ν) (entries : List (κ × ν)) :
    findEntry k (insertEntry k v entries) = some v := by
  induction entries with
  | nil => exact findEntry_cons_self k v []
  | cons e rest ih =>
      simp only [insertEntry]
      split
      · exact findEntry_cons_self k v _
      · exact findEntry_cons_self k v _
      next hgt =>
          rw [findEntry_cons_of_ne (ne_of_compare_gt hgt), ih]

theorem findEntry_insertEntry_of_ne [LawfulEqOrd κ] {k k' : κ} (h : k' ≠ k) (v : ν)
    (entries : List (κ × ν)) : findEntry k' (insertEntry k v entries) = findEntry k' entries := by
  induction entries with
  | nil => exact findEntry_cons_of_ne h v []
  | cons e rest ih =>
      simp only [insertEntry]
      split
      · exact findEntry_cons_of_ne h v _
      next heq =>
          have hk := LawfulEqCmp.eq_of_compare heq
          rw [findEntry_cons_of_ne h, findEntry_cons_of_ne (hk ▸ h)]
      · simp only [findEntry, ih]

structure KeyMap (κ ν : Type) [Ord κ] where
  entries : List (κ × ν)
  ordered : InKeyOrder entries
deriving DecidableEq, Repr

namespace KeyMap

def empty : KeyMap κ ν := ⟨[], inKeyOrder_nil⟩

instance : Inhabited (KeyMap κ ν) := ⟨empty⟩

def get? (m : KeyMap κ ν) (k : κ) : Option ν := findEntry k m.entries

def contains (m : KeyMap κ ν) (k : κ) : Bool := (m.get? k).isSome

/-- The map with a value under a key, whatever was there before. -/
def insert [TransOrd κ] (m : KeyMap κ ν) (k : κ) (v : ν) : KeyMap κ ν :=
  ⟨insertEntry k v m.entries, m.ordered.insertEntry k v⟩

/-- The map of the given entries; of several with one key the last counts. -/
def ofList [TransOrd κ] (entries : List (κ × ν)) : KeyMap κ ν :=
  entries.foldl (fun m (k, v) => m.insert k v) empty

@[simp] theorem get?_empty (k : κ) : (empty : KeyMap κ ν).get? k = none := rfl

@[simp] theorem get?_insert_self [TransOrd κ] [LawfulEqOrd κ] (m : KeyMap κ ν) (k : κ) (v : ν) :
    (m.insert k v).get? k = some v :=
  findEntry_insertEntry_self k v m.entries

theorem get?_insert_of_ne [TransOrd κ] [LawfulEqOrd κ] (m : KeyMap κ ν) {k k' : κ} (h : k' ≠ k)
    (v : ν) : (m.insert k v).get? k' = m.get? k' :=
  findEntry_insertEntry_of_ne h v m.entries

def keys (m : KeyMap κ ν) : List κ := m.entries.map (·.1)

def values (m : KeyMap κ ν) : List ν := m.entries.map (·.2)

def size (m : KeyMap κ ν) : Nat := m.entries.length

def isEmpty (m : KeyMap κ ν) : Bool := m.entries.isEmpty

def filterKeys (m : KeyMap κ ν) (p : κ → Bool) : KeyMap κ ν :=
  ⟨m.entries.filter fun e => p e.1, m.ordered.filter _⟩

def map (m : KeyMap κ ν) (f : ν → μ) : KeyMap κ μ :=
  ⟨m.entries.map fun (k, v) => (k, f v), m.ordered.mapValues f⟩

end KeyMap

abbrev KeySet (κ : Type) [Ord κ] := KeyMap κ Unit

namespace KeySet

def ofList [TransOrd κ] (elements : List κ) : KeySet κ :=
  KeyMap.ofList (elements.map fun k => (k, ()))

def add [TransOrd κ] (s : KeySet κ) (k : κ) : KeySet κ := KeyMap.insert s k ()

def toList (s : KeySet κ) : List κ := KeyMap.keys s

def mem (s : KeySet κ) (k : κ) : Bool := KeyMap.contains s k

end KeySet

end Terralens
