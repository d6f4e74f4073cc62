import Terralens.Dependencies

/-!
# Dependency graphs

The graph of what refers to what. Nodes and edges keep the order in which they came in. A node
has a number, its place among the nodes; a map beside the nodes gives each its number, and an
edge joins two numbers. The map and the nodes belong together in every graph, and so do the
edges and the nodes, so both facts are part of the type.
-/

namespace Terralens

/-- A graph of entries; an edge leads from an entry to one it refers to (`DependencyGraph`). The
  links are the edges by the numbers of their ends. -/
structure Graph where
  nodes : List EntryRef
  numbers : KeyMap EntryRef Nat
  links : List (Nat × Nat)
  numbered : ∀ r i, numbers.get? r = some i ↔ nodes[i]? = some r
  linked : ∀ l ∈ links, l.1 < nodes.length ∧ l.2 < nodes.length
deriving Repr

namespace Graph

def empty : Graph where
  nodes := []
  numbers := .empty
  links := []
  numbered r i := by simp
  linked l hl := by cases hl

instance : Inhabited Graph := ⟨empty⟩

/-- Whether an entry is a node (`contains`). -/
def contains (g : Graph) (r : EntryRef) : Bool := g.numbers.contains r

theorem getElem?_ne_of_not_contains {g : Graph} {r : EntryRef} (h : ¬ g.contains r) (i : Nat) :
    g.nodes[i]? ≠ some r := by
  intro hi
  simp [contains, KeyMap.contains, (g.numbered r i).mpr hi] at h

/-- The graph with an entry as its last node, unless it is a node already (`add_node`). -/
def addNode (g : Graph) (r : EntryRef) : Graph :=
  if h : g.contains r then g
  else
    { g with
      nodes := g.nodes ++ [r]
      numbers := g.numbers.insert r g.nodes.length
      numbered := by
        intro s i
        have hnew := getElem?_ne_of_not_contains h i
        by_cases hs : s = r
        · subst hs
          rw [KeyMap.get?_insert_self]
          grind
        · rw [KeyMap.get?_insert_of_ne _ hs, g.numbered]
          grind
      linked := by
        intro l hl
        have := g.linked l hl
        simp only [List.length_append]
        omega }

def number (g : Graph) (r : EntryRef) (h : g.contains r) : Nat := (g.numbers.get? r).get h

theorem number_lt (g : Graph) (r : EntryRef) (h : g.contains r) :
    g.number r h < g.nodes.length := by
  have hnumber : g.numbers.get? r = some (g.number r h) := (Option.some_get h).symm
  exact (List.getElem?_eq_some_iff.mp ((g.numbered r _).mp hnumber)).1

theorem contains_addNode (g : Graph) (r : EntryRef) : (g.addNode r).contains r := by
  unfold addNode
  split
  next h => exact h
  next => simp [contains, KeyMap.contains]

theorem contains_addNode_of_contains {g : Graph} {s : EntryRef} (h : g.contains s)
    (r : EntryRef) : (g.addNode r).contains s := by
  by_cases hs : s = r
  · subst hs
    exact g.contains_addNode s
  · unfold addNode
    split
    · exact h
    · simpa [contains, KeyMap.contains, KeyMap.get?_insert_of_ne _ hs] using h

/-- The graph with an edge, and with its ends as nodes. An edge that is there already is added once
  more. -/
def addEdge (source : EntryRef) (g : Graph) (target : EntryRef) : Graph :=
  let g' := (g.addNode source).addNode target
  have hsource := contains_addNode_of_contains (g.contains_addNode source) target
  have htarget := (g.addNode source).contains_addNode target
  { g' with
    links := g'.links ++ [(g'.number source hsource, g'.number target htarget)]
    linked := by
      intro l hl
      rcases List.mem_append.mp hl with hl | hl
      · exact g'.linked l hl
      · rw [List.mem_singleton.mp hl]
        exact ⟨g'.number_lt source hsource, g'.number_lt target htarget⟩ }

def addEntry (g : Graph) (entry : EntryRef × KeySet EntryRef) : Graph :=
  entry.2.toList.foldl (addEdge entry.1) (g.addNode entry.1)

/-- The graph of dependencies (`from_map`): for each entry the node and then its edges, so targets
  that have not come yet become nodes on the way. -/
def ofDependencies (m : DependencyMap) : Graph := m.entries.foldl addEntry empty

/-- The edges by the entries at their ends, in the order in which they came (`edges`). -/
def edges (g : Graph) : List (EntryRef × EntryRef) :=
  g.links.pmap (fun l h => (g.nodes.get ⟨l.1, h.1⟩, g.nodes.get ⟨l.2, h.2⟩)) g.linked

def nodeCount (g : Graph) : Nat := g.nodes.length

def edgeCount (g : Graph) : Nat := g.links.length

/-- The nodes at the far ends of the edges whose near end is an entry, in increasing order and each
  once (`neighbors`). -/
def neighbours (g : Graph) (near far : Nat × Nat → Nat) (r : EntryRef) : List EntryRef :=
  match g.numbers.get? r with
  | none => []
  | some i =>
      (KeySet.ofList ((g.links.filter (near · == i)).filterMap (g.nodes[far ·]?))).toList

/-- What an entry refers to, in increasing order (`dependencies_of`). -/
def dependenciesOf (g : Graph) (r : EntryRef) : List EntryRef := g.neighbours Prod.fst Prod.snd r

/-- What refers to an entry, in increasing order (`dependents_of`). -/
def dependentsOf (g : Graph) (r : EntryRef) : List EntryRef := g.neighbours Prod.snd Prod.fst r

/-- How many nodes are of a kind (`count_kind`). -/
def countKind (g : Graph) (kind : EntryKind) : Nat := g.nodes.countP (·.kind == kind)

end Graph

end Terralens
