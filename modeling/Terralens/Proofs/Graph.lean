import Terralens.Graph
import Terralens.Proofs.Parts
import Terralens.Proofs.KeyMap
import Mathlib.Data.List.Nodup

/-!
# Graphs of dependencies

Nodes and edges enter a graph one after the other, and a node only on its first mention. What
one step brings in is said once (`Gains`), and what a loop of steps brings in follows by one
induction (`Gains.foldl`); loops stand in each other for the entries and their targets. Numbers
and nodes determine each other, so looking for neighbours by number finds those of the edges
(`mem_neighbours_iff`). `Depicts` says what the graph of dependencies shows of them, and
`depicts_ofDependencies` that it does, also after more nodes are added.
-/

namespace Terralens

def Increasing (l : List EntryRef) : Prop := l.Pairwise fun a b => compare a b = .lt

namespace Graph

variable {g g' g'' : Graph} {r s : EntryRef}

/-! ### Nodes, numbers and edges -/

theorem contains_iff : g.contains r ↔ r ∈ g.nodes := by
  rw [contains, KeyMap.contains, Option.isSome_iff_exists, List.mem_iff_getElem?]
  exact exists_congr fun i => g.numbered r i

theorem nodup_nodes (g : Graph) : g.nodes.Nodup := by
  rw [List.nodup_iff_getElem?_ne_getElem?]
  intro i j hij hj heq
  have hsome : g.nodes[j]? = some g.nodes[j] := List.getElem?_eq_getElem hj
  have hnumber := (g.numbered _ i).mpr (heq.trans hsome)
  rw [(g.numbered _ j).mpr hsome] at hnumber
  cases hnumber
  exact Nat.lt_irrefl _ hij

theorem getElem?_number (h : g.contains r) : g.nodes[g.number r h]? = some r :=
  (g.numbered r _).mp (Option.some_get h).symm

theorem length_edges (g : Graph) : g.edges.length = g.edgeCount := List.length_pmap

def found (e : EntryRef × EntryRef) : Option EntryRef × Option EntryRef := (some e.1, some e.2)

theorem found_injective : Function.Injective found := by
  rintro ⟨a, b⟩ ⟨a', b'⟩ h
  simpa [found] using h

def lookup (nodes : List EntryRef) (l : Nat × Nat) : Option EntryRef × Option EntryRef :=
  (nodes[l.1]?, nodes[l.2]?)

/-- The edges are what their links lead to. -/
theorem map_found_edges (g : Graph) : g.edges.map found = g.links.map (lookup g.nodes) := by
  unfold edges
  rw [List.map_pmap, ← List.pmap_eq_map g.linked]
  apply List.pmap_congr_left
  intro l hl hends _
  simp [found, lookup, hends]

theorem mem_edges_iff : (r, s) ∈ g.edges ↔
    ∃ l ∈ g.links, g.nodes[l.1]? = some r ∧ g.nodes[l.2]? = some s := by
  rw [← List.mem_map_of_injective found_injective, map_found_edges, List.mem_map]
  simp [found, lookup]

theorem mem_nodes_of_mem_edges (h : (r, s) ∈ g.edges) : r ∈ g.nodes ∧ s ∈ g.nodes := by
  obtain ⟨l, -, hr, hs⟩ := mem_edges_iff.mp h
  exact ⟨List.mem_of_getElem? hr, List.mem_of_getElem? hs⟩

/-! ### What a step brings in -/

/-- A step from one graph to another brings in some nodes, where they are new, and some edges
  behind those already there. -/
structure Gains (rs : List EntryRef) (es : List (EntryRef × EntryRef)) (g g' : Graph) : Prop where
  nodes : ∀ r, r ∈ g'.nodes ↔ r ∈ g.nodes ∨ r ∈ rs
  edges : g'.edges = g.edges ++ es

theorem Gains.refl (g : Graph) : Gains [] [] g g := ⟨by simp, by simp⟩

theorem Gains.trans {rs rs' : List EntryRef} {es es' : List (EntryRef × EntryRef)}
    (h : Gains rs es g g') (h' : Gains rs' es' g' g'') :
    Gains (rs ++ rs') (es ++ es') g g'' := by
  constructor
  · intro r
    rw [h'.nodes, h.nodes, List.mem_append, or_assoc]
  · rw [h'.edges, h.edges, List.append_assoc]

/-- A loop brings in what its steps bring in, in their order. -/
theorem Gains.foldl {α : Type} {step : Graph → α → Graph} {rs : α → List EntryRef}
    {es : α → List (EntryRef × EntryRef)} (h : ∀ g a, Gains (rs a) (es a) g (step g a))
    (l : List α) (g : Graph) : Gains (l.flatMap rs) (l.flatMap es) g (l.foldl step g) := by
  induction l generalizing g with
  | nil => exact Gains.refl g
  | cons a rest ih =>
      rw [List.flatMap_cons, List.flatMap_cons]
      exact (h g a).trans (ih (step g a))

theorem gains_addNode (g : Graph) (r : EntryRef) : Gains [r] [] g (g.addNode r) := by
  by_cases h : g.contains r
  · have hsame : g.addNode r = g := by simp [addNode, h]
    rw [hsame]
    refine ⟨fun s => ?_, by simp⟩
    have hmem := contains_iff.mp h
    grind
  · have hnodes : (g.addNode r).nodes = g.nodes ++ [r] := by simp [addNode, h]
    have hlinks : (g.addNode r).links = g.links := by simp [addNode, h]
    constructor
    · intro s
      rw [hnodes, List.mem_append]
    · -- An old number stands for the same node as before, so every link leads where it led.
      have hold : ∀ l ∈ g.links, lookup (g.addNode r).nodes l = lookup g.nodes l := by
        intro l hl
        obtain ⟨hsource, htarget⟩ := g.linked l hl
        simp [lookup, hnodes, List.getElem?_append_left hsource,
          List.getElem?_append_left htarget]
      apply List.map_injective_iff.mpr found_injective
      rw [map_found_edges, hlinks, List.append_nil, map_found_edges]
      exact List.map_congr_left hold

theorem gains_addEdge (source : EntryRef) (g : Graph) (target : EntryRef) :
    Gains [source, target] [(source, target)] g (addEdge source g target) := by
  have hends := (gains_addNode g source).trans (gains_addNode (g.addNode source) target)
  constructor
  · exact hends.nodes
  · have hold : ((g.addNode source).addNode target).edges = g.edges := by
      simpa using hends.edges
    apply List.map_injective_iff.mpr found_injective
    rw [map_found_edges, ← hold, List.map_append, map_found_edges]
    simp [addEdge, lookup, found, getElem?_number]

theorem gains_addEntry (g : Graph) (e : EntryRef × KeySet EntryRef) :
    Gains ([e.1] ++ e.2.toList.flatMap fun t => [e.1, t]) (e.2.toList.map fun t => (e.1, t))
      g (g.addEntry e) := by
  rw [List.map_eq_flatMap]
  exact (gains_addNode g e.1).trans (Gains.foldl (gains_addEdge e.1) e.2.toList _)

/-! ### Neighbours -/

/-- The neighbours of an entry are the nodes at the far ends of its links. -/
theorem mem_neighbours_iff {near far : Nat × Nat → Nat} :
    s ∈ g.neighbours near far r ↔
      ∃ l ∈ g.links, g.nodes[near l]? = some r ∧ g.nodes[far l]? = some s := by
  unfold neighbours
  cases hnumber : g.numbers.get? r with
  | none =>
      have habsent : ∀ i : Nat, g.nodes[i]? ≠ some r := by
        intro i hi
        rw [(g.numbered r i).mpr hi] at hnumber
        cases hnumber
      simp [habsent]
  | some i =>
      have hnear : ∀ l, near l = i ↔ g.nodes[near l]? = some r := by
        intro l
        rw [← g.numbered r (near l), hnumber, Option.some.injEq, eq_comm]
      simp [List.mem_filterMap, hnear, and_assoc]

theorem increasing_neighbours (g : Graph) (near far : Nat × Nat → Nat) (r : EntryRef) :
    Increasing (g.neighbours near far r) := by
  unfold neighbours
  split
  · exact List.Pairwise.nil
  · exact KeySet.pairwise_toList _

theorem increasing_dependenciesOf (g : Graph) (r : EntryRef) : Increasing (g.dependenciesOf r) :=
  g.increasing_neighbours _ _ r

theorem increasing_dependentsOf (g : Graph) (r : EntryRef) : Increasing (g.dependentsOf r) :=
  g.increasing_neighbours _ _ r

theorem mem_dependenciesOf_iff : s ∈ g.dependenciesOf r ↔ (r, s) ∈ g.edges :=
  mem_neighbours_iff.trans mem_edges_iff.symm

theorem mem_dependentsOf_iff : s ∈ g.dependentsOf r ↔ (s, r) ∈ g.edges := by
  rw [dependentsOf, mem_neighbours_iff, mem_edges_iff]
  simp only [and_comm]

/-! ### Kinds -/

theorem sum_countKind (g : Graph) : (EntryKind.all.map g.countKind).sum = g.nodeCount := by
  have hone : ∀ r ∈ g.nodes, EntryKind.all.countP (fun kind => r.kind == kind) = 1 := by
    intro r _
    cases r.kind <;> decide
  have hsum := sum_countP_eq (fun (r : EntryRef) kind => r.kind == kind) hone fun _ => true
  simp only [Bool.true_and, List.countP_true] at hsum
  exact hsum

/-! ### The graph of dependencies -/

/-- A graph shows dependencies and some more entries: its nodes are all entries mentioned, its
  edges go from each entry to its targets in the order of the dependencies, and its queries
  answer from the dependencies. -/
structure Depicts (m : DependencyMap) (added : List EntryRef) (g : Graph) : Prop where
  distinct : g.nodes.Nodup
  nodes : ∀ r, r ∈ g.nodes ↔ r ∈ m.keys ∨ (∃ e ∈ m.entries, r ∈ e.2.toList) ∨ r ∈ added
  contains : ∀ r, g.contains r ↔ r ∈ g.nodes
  edges : g.edges = m.entries.flatMap fun e => e.2.toList.map fun t => (e.1, t)
  once : g.edges.Nodup
  edgeCount : g.edgeCount = (m.values.map KeyMap.size).sum
  dependencies : ∀ r, g.dependenciesOf r = ((m.get? r).map KeySet.toList).getD []
  dependents : ∀ r, g.dependentsOf r = (m.entries.filter fun e => e.2.mem r).map (·.1)
  increasing : ∀ r, Increasing (g.dependenciesOf r) ∧ Increasing (g.dependentsOf r)
  kinds : (EntryKind.all.map g.countKind).sum = g.nodeCount

/-- What comes into the graph of dependencies, and then with more nodes. -/
theorem gains_ofDependencies (m : DependencyMap) (added : List EntryRef) :
    Gains
      ((m.entries.flatMap fun e => [e.1] ++ e.2.toList.flatMap fun t => [e.1, t]) ++
        added.flatMap fun r => [r])
      ((m.entries.flatMap fun e => e.2.toList.map fun t => (e.1, t)) ++ added.flatMap fun _ => [])
      empty (added.foldl addNode (ofDependencies m)) :=
  (Gains.foldl gains_addEntry m.entries empty).trans (Gains.foldl gains_addNode added _)

theorem nodup_targetPairs (m : DependencyMap) :
    (m.entries.flatMap fun e => e.2.toList.map fun t => (e.1, t)).Nodup := by
  rw [List.nodup_flatMap]
  constructor
  · intro e _
    refine (KeyMap.nodup_keys e.2).map ?_
    intro t t' h
    exact (Prod.mk.inj h).2
  · refine m.ordered.imp ?_
    intro e f hlt p he hf
    obtain ⟨t, _, rfl⟩ := List.mem_map.mp he
    obtain ⟨t', _, heq⟩ := List.mem_map.mp hf
    exact ne_of_compare_lt hlt (Prod.mk.inj heq).1.symm

/-- The graph of dependencies shows them, whatever nodes are added to it. Nodes and edges are gained
  one by one (`Gains`), nodes without repetition, so what the graph holds in the end is read off
  what came in. -/
theorem depicts_ofDependencies (m : DependencyMap) (added : List EntryRef) :
    Depicts m added (added.foldl addNode (ofDependencies m)) := by
  obtain ⟨hnodes, hedges⟩ := gains_ofDependencies m added
  generalize added.foldl addNode (ofDependencies m) = g at hnodes hedges
  have hpairs : g.edges = m.entries.flatMap fun e => e.2.toList.map fun t => (e.1, t) := by
    have hnone : added.flatMap (fun _ => ([] : List (EntryRef × EntryRef))) = [] :=
      List.flatMap_eq_nil_iff.mpr fun _ _ => rfl
    rw [hedges, hnone, List.append_nil]
    rfl
  have hmem : ∀ r t, (r, t) ∈ g.edges ↔ ∃ ts, m.get? r = some ts ∧ t ∈ ts.toList := by
    intro r t
    simp only [hpairs, KeyMap.get?_eq_some_iff, List.mem_flatMap, List.mem_map, Prod.mk.injEq]
    constructor
    · rintro ⟨e, he, _, ht, rfl, rfl⟩
      exact ⟨e.2, he, ht⟩
    · rintro ⟨ts, hts, ht⟩
      exact ⟨(r, ts), hts, t, ht, rfl, rfl⟩
  constructor
  case distinct => exact g.nodup_nodes
  case nodes =>
      intro r
      rw [hnodes, KeyMap.mem_keys_iff]
      simp only [empty, List.mem_append, List.mem_flatMap, List.mem_cons, List.not_mem_nil]
      grind
  case contains => exact fun r => contains_iff
  case edges => exact hpairs
  case once =>
      rw [hpairs]
      exact nodup_targetPairs m
  case edgeCount =>
      rw [← length_edges, hpairs, List.length_flatMap, KeyMap.values, List.map_map]
      congr 1
      refine List.map_congr_left fun e _ => ?_
      simp [KeySet.toList, KeyMap.keys, KeyMap.size]
  case dependencies =>
      intro r
      apply KeySet.eq_of_increasing (g.increasing_dependenciesOf r)
      · cases m.get? r with
        | none => exact List.Pairwise.nil
        | some ts => exact KeySet.pairwise_toList ts
      · intro t
        rw [mem_dependenciesOf_iff, hmem]
        cases m.get? r <;> simp
  case dependents =>
      intro r
      apply KeySet.eq_of_increasing (g.increasing_dependentsOf r)
      · rw [List.pairwise_map]
        exact List.Pairwise.filter _ m.ordered
      · intro s
        rw [mem_dependentsOf_iff, hmem]
        simp only [KeyMap.get?_eq_some_iff, List.mem_map, List.mem_filter, KeySet.mem_iff]
        constructor
        · rintro ⟨ts, hts, hr⟩
          exact ⟨(s, ts), ⟨hts, hr⟩, rfl⟩
        · rintro ⟨e, ⟨he, hr⟩, rfl⟩
          exact ⟨e.2, he, hr⟩
  case increasing => exact fun r => ⟨g.increasing_dependenciesOf r, g.increasing_dependentsOf r⟩
  case kinds => exact g.sum_countKind

end Graph

end Terralens
