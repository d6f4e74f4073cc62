import Terralens.Graph.Export
import Terralens.Proofs.Delimited
import Terralens.Proofs.EntryRef
import Terralens.Proofs.Pieces

/-!
# Reading a graph back from DOT

Escaping replaces backslashes, then quotes, then line breaks, and comes to the same as one pass
over the characters (`dotEscaped_eq`), so an escaped name never ends at a quote of its own
(`delimits_quoted`). Each line of a node or an edge therefore tells what it is about and where it
ends, the colour of a node tells its kind, and the lines of nodes end where an empty line or the
closing brace follows (`delimits_dotNode`, `delimits_dotEdge`). So two graphs with one text have
the same nodes, and edges between entries written alike (`write_dot_eq_iff`).
-/

namespace Terralens

namespace Graph

/-! ### Escaped names -/

def dotChar (c : Char) : List Char :=
  if c = '\\' then ['\\', '\\']
  else if c = '"' then ['\\', '"']
  else if c = '\n' then ['\\', 'n']
  else [c]

theorem dotEscaped_eq (s : List Char) : dotEscaped s = s.flatMap dotChar := by
  simp only [dotEscaped, Text.replaceAll_singleton, List.flatMap_assoc]
  congr 1
  funext c
  by_cases hslash : c = '\\'
  · subst hslash
    rfl
  · by_cases hquote : c = '"'
    · subst hquote
      rfl
    · by_cases hbreak : c = '\n'
      · subst hbreak
        rfl
      · simp [dotChar, hslash, hquote, hbreak]

theorem dotChar_cases (c : Char) :
    (c = '\\' ∧ dotChar c = ['\\', '\\']) ∨ (c = '"' ∧ dotChar c = ['\\', '"']) ∨
      (c = '\n' ∧ dotChar c = ['\\', 'n']) ∨
      (c ≠ '\\' ∧ c ≠ '"' ∧ c ≠ '\n' ∧ dotChar c = [c]) := by
  unfold dotChar
  by_cases hslash : c = '\\'
  · simp [hslash]
  · by_cases hquote : c = '"'
    · simp [hquote]
    · by_cases hbreak : c = '\n' <;> simp [hslash, hquote, hbreak]

/-- No writing of a character begins that of another. -/
theorem delimits_dotChar : Delimits dotChar id := by
  apply delimits_of_isPrefixOf
  intro a b h
  rcases dotChar_cases a with ⟨ha, hwrite⟩ | ⟨ha, hwrite⟩ | ⟨ha, hwrite⟩ | ⟨ha, _, _, hwrite⟩ <;>
    rcases dotChar_cases b with ⟨hb, hwrite'⟩ | ⟨hb, hwrite'⟩ | ⟨hb, hwrite'⟩ |
      ⟨hb, _, _, hwrite'⟩ <;>
    rw [hwrite, hwrite'] at h <;> simp [List.isPrefixOf] at h <;> grind

/-- A text at which an escaped name ends. -/
def EndsName (s : List Char) : Prop := s.head? = some '"'

/-- No character of a name is written with a quote in front. -/
theorem not_endsName_dotChar (c : Char) (s : List Char) : ¬ EndsName (dotChar c ++ s) := by
  unfold EndsName
  rcases dotChar_cases c with ⟨_, hwrite⟩ | ⟨_, hwrite⟩ | ⟨_, hwrite⟩ | ⟨_, hc, _, hwrite⟩ <;>
    simp_all

/-- The first quote that stands in front of a character ends the name. -/
theorem delimits_quoted : Delimits (fun s : List Char => s.flatMap dotChar ++ ['"']) id := by
  intro a b s t heq
  rw [List.append_assoc, List.append_assoc] at heq
  have hends : ∀ rest, EndsName (['"'] ++ rest) := fun _ => rfl
  obtain ⟨hmap, hrest⟩ :=
    delimits_dotChar.flatMap not_endsName_dotChar (hends s) (hends t) heq
  exact ⟨by simpa using hmap, List.append_cancel_left hrest⟩

/-- A name in quotes tells how its entry is written. -/
theorem delimits_dotName : Delimits (fun r => (dotName r).toList) EntryRef.text := by
  have hname : ∀ r, (dotName r).toList = ['"'] ++ (r.text.toList.flatMap dotChar ++ ['"']) := by
    intro r
    simp [dotName, dotEscaped_eq]
  simp only [hname]
  exact ((delimits_quoted.comp fun r : EntryRef => r.text.toList).after ['"']).imp
    fun _ _ => String.toList_inj.mp

/-! ### Lines -/

def dotStyle (kind : EntryKind) : List Char :=
  (" [fillcolor=\"" ++ kind.colour ++ "\"" ++ dotShape kind ++ "];\n").toList

/-- The kinds have different colours. -/
theorem delimits_dotStyle : Delimits dotStyle id := by
  apply delimits_of_isPrefixOf
  intro a b h
  revert h
  cases a <;> cases b <;> decide

theorem delimits_dotNode : Delimits (fun r => (dotNode r).toList) id := by
  have hline : ∀ r, (dotNode r).toList =
      "    ".toList ++ ((dotName r).toList ++ dotStyle r.kind) := by
    intro r
    simp [dotNode, dotStyle, String.append_assoc]
  simp only [hline]
  refine ((delimits_dotName.append (delimits_dotStyle.comp EntryRef.kind)).after _).imp ?_
  intro a b h
  obtain ⟨htext, hkind⟩ := Prod.mk.inj h
  exact EntryRef.eq_of_kind_of_text hkind htext

def writtenEnds (e : EntryRef × EntryRef) : String × String := (e.1.text, e.2.text)

theorem delimits_dotEdge : Delimits (fun e => (dotEdge e).toList) writtenEnds := by
  have hline : ∀ e : EntryRef × EntryRef, (dotEdge e).toList = "    ".toList ++
      ((dotName e.1).toList ++ (" -> ".toList ++ ((dotName e.2).toList ++ ";\n".toList))) := by
    intro e
    simp [dotEdge, String.append_assoc]
  simp only [hline]
  have htarget : Delimits (fun e : EntryRef × EntryRef =>
      " -> ".toList ++ ((dotName e.2).toList ++ ";\n".toList)) fun e => e.2.text :=
    ((delimits_dotName.comp Prod.snd).before _).after _
  exact ((delimits_dotName.comp Prod.fst).append htarget).after _

/-! ### The whole text -/

def dotStart : List Char :=
  "digraph tfagent \x7b\n    rankdir=LR;\n    node [shape=box, style=\"rounded,filled\"];\n\n".toList

def dotStop : List Char := "\x7d\n".toList

def dotRest (edges : List (EntryRef × EntryRef)) : List Char :=
  (if edges.isEmpty then "" else "\n").toList ++
    (edges.flatMap (fun e => (dotEdge e).toList) ++ dotStop)

theorem toList_dot (g : Graph) : g.dot.toList =
    dotStart ++ (g.nodes.flatMap (fun r => (dotNode r).toList) ++ dotRest g.edges) := by
  -- For any texts in the fixed places, so that these are not taken apart.
  have hparts : ∀ start gap stop : String,
      (start ++ String.join (g.nodes.map dotNode) ++ gap ++ String.join (g.edges.map dotEdge) ++
        stop).toList = start.toList ++ (g.nodes.flatMap (fun r => (dotNode r).toList) ++
          (gap.toList ++ (g.edges.flatMap (fun e => (dotEdge e).toList) ++ stop.toList))) := by
    intro start gap stop
    simp only [String.toList_append, String.toList_join, List.flatMap_map, List.append_assoc]
  exact hparts _ _ _

/-- A text at which a list of lines ends: the next line, if any, is not indented. -/
def EndsLines (s : List Char) : Prop := s.head? ≠ some ' '

theorem endsLines_dotStop : EndsLines dotStop := by
  unfold EndsLines dotStop
  decide

theorem endsLines_dotRest (edges : List (EntryRef × EntryRef)) : EndsLines (dotRest edges) := by
  unfold dotRest
  cases edges with
  | nil => exact endsLines_dotStop
  | cons e rest => simp [EndsLines]

theorem not_endsLines_dotNode (r : EntryRef) (s : List Char) :
    ¬ EndsLines ((dotNode r).toList ++ s) := by
  simp [EndsLines, dotNode]

theorem not_endsLines_dotEdge (e : EntryRef × EntryRef) (s : List Char) :
    ¬ EndsLines ((dotEdge e).toList ++ s) := by
  simp [EndsLines, dotEdge]

theorem toList_dotEdge_of_writtenEnds {e f : EntryRef × EntryRef}
    (h : writtenEnds e = writtenEnds f) : (dotEdge e).toList = (dotEdge f).toList := by
  obtain ⟨hsource, htarget⟩ := Prod.mk.inj h
  simp only [dotEdge, dotName, hsource, htarget]

/-- What follows the lines of nodes tells the edges, as far as their ends are written, and
  nothing else. -/
theorem dotRest_eq_iff {es es' : List (EntryRef × EntryRef)} :
    dotRest es = dotRest es' ↔ es.map writtenEnds = es'.map writtenEnds := by
  constructor
  · intro h
    have hlines : es.flatMap (fun e => (dotEdge e).toList) ++ dotStop =
        es'.flatMap (fun e => (dotEdge e).toList) ++ dotStop := by
      unfold dotRest at h
      cases es <;> cases es' <;> simp_all [dotStop]
    exact (delimits_dotEdge.flatMap not_endsLines_dotEdge endsLines_dotStop endsLines_dotStop
      hlines).1
  · intro h
    have hempty : es.isEmpty = es'.isEmpty := by
      simpa using congrArg List.isEmpty h
    unfold dotRest
    rw [hempty, flatMap_eq_of_map_eq (fun _ _ => toList_dotEdge_of_writtenEnds) h]

/-- Two graphs have the same text exactly when they have the same nodes in the same order, and the
  same edges in the same order as far as their ends are written. -/
theorem write_dot_eq_iff (g h : Graph) :
    g.write .dot = h.write .dot ↔
      g.nodes = h.nodes ∧ g.edges.map writtenEnds = h.edges.map writtenEnds := by
  change g.dot = h.dot ↔ _
  rw [← String.toList_inj, toList_dot, toList_dot, List.append_cancel_left_eq]
  constructor
  · intro heq
    obtain ⟨hnodes, hrest⟩ := delimits_dotNode.flatMap not_endsLines_dotNode
      (endsLines_dotRest g.edges) (endsLines_dotRest h.edges) heq
    exact ⟨by simpa using hnodes, dotRest_eq_iff.mp hrest⟩
  · rintro ⟨hnodes, hedges⟩
    rw [hnodes, dotRest_eq_iff.mpr hedges]

end Graph

end Terralens
