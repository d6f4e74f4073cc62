import Terralens.Graph
import Terralens.Text.Json
import Terralens.Text.Property.Word

/-!
# Graph exports

A graph in the formats in which it is handed to other programs: in the language of Graphviz, as a
Mermaid flow chart, and as data. In all of them the nodes come first and the edges after them, in
the order of the graph. The colour of a node shows its kind, its shape some kinds.
-/

namespace Terralens

open Text (Json)

inductive GraphFormat where
  | dot
  | json
  | mermaid
deriving DecidableEq, Repr, Inhabited

/-! ### DOT

Nodes are named by their entries, with quotes, backslashes and line breaks escaped. -/

/-- The colour of the nodes of a kind, the same in every format (`kind_color`). -/
def EntryKind.colour : EntryKind → String
  | .resource => "#e1f5fe"
  | .dataSource => "#ede7f6"
  | .variable => "#fff8e1"
  | .output => "#e8f5e9"
  | .local => "#f3e5f5"
  | .module => "#fbe9e7"
  | .provider => "#eceff1"

namespace Graph

/-- Escapes a name, backslashes first, so that those of other escapes stay as they are
  (`escape_dot_string`). -/
def dotEscaped (s : List Char) : List Char :=
  Text.replaceAll ['\n'] ['\\', 'n']
    (Text.replaceAll ['"'] ['\\', '"'] (Text.replaceAll ['\\'] ['\\', '\\'] s))

def dotName (r : EntryRef) : String := String.ofList ('"' :: dotEscaped r.text.toList ++ ['"'])

/-- The shape of the nodes of a kind, where it is not the usual one. -/
def dotShape : EntryKind → String
  | .variable => ", shape=ellipse"
  | .output => ", shape=ellipse"
  | .module => ", shape=component"
  | _ => ""

def dotNode (r : EntryRef) : String :=
  "    " ++ dotName r ++ " [fillcolor=\"" ++ r.kind.colour ++ "\"" ++ dotShape r.kind ++ "];\n"

def dotEdge (e : EntryRef × EntryRef) : String :=
  "    " ++ dotName e.1 ++ " -> " ++ dotName e.2 ++ ";\n"

/-- The graph in the language of Graphviz (`export_dot`): its nodes, then its edges. -/
def dot (g : Graph) : String :=
  "digraph tfagent \x7b\n    rankdir=LR;\n    node [shape=box, style=\"rounded,filled\"];\n\n" ++
    String.join (g.nodes.map dotNode) ++ (if g.edges.isEmpty then "" else "\n") ++
    String.join (g.edges.map dotEdge) ++ "\x7d\n"

/-! ### Mermaid

A node's identifier is its name with an underscore for every character that is neither a letter
nor a digit; its label is the name itself. The nodes of each kind form a class with a colour. -/

def isIdChar (c : Char) : Bool := Text.Property.isAlphanumeric c || c == '_'

/-- The identifier of a node: its name with an underscore for every character that an identifier may
  not hold (`sanitize_mermaid_id`). Different names may get the same identifier. -/
def mermaidId (r : EntryRef) : String :=
  String.ofList (r.text.toList.map fun c => if isIdChar c then c else '_')

/-- What stands in a label for a character of a name (`escape_mermaid_string`). -/
def mermaidChar (c : Char) : Char :=
  if c = '"' then '\'' else if c = '\n' then ' ' else c

def mermaidLabel (r : EntryRef) : String :=
  String.ofList ('"' :: r.text.toList.map mermaidChar ++ ['"'])

/-- What stands behind the identifier of a node: its label, in brackets that give its shape. -/
def mermaidBox (r : EntryRef) : String :=
  let label := mermaidLabel r
  match r.kind with
  | .variable => "([" ++ label ++ "])"
  | .output => "([" ++ label ++ "])"
  | .module => "[[" ++ label ++ "]]"
  | _ => "[" ++ label ++ "]"

def mermaidNode (r : EntryRef) : String := "    " ++ mermaidId r ++ mermaidBox r ++ "\n"

def mermaidEdge (e : EntryRef × EntryRef) : String :=
  "    " ++ mermaidId e.1 ++ " --> " ++ mermaidId e.2 ++ "\n"

/-- The name of the class of the nodes of a kind (`kind_class`). -/
def mermaidClass : EntryKind → String
  | .dataSource => "data"
  | kind => kind.text

def mermaidClassLines (g : Graph) (kind : EntryKind) : String :=
  let ids := (g.nodes.filter (·.kind == kind)).map mermaidId
  if ids.isEmpty then ""
  else
    "    classDef " ++ mermaidClass kind ++ " fill:" ++ kind.colour ++ "\n" ++
    "    class " ++ ",".intercalate ids ++ " " ++ mermaidClass kind ++ "\n"

/-- The graph as a flow chart (`export_mermaid`): its nodes, its edges, and a class for each kind
  that has nodes. -/
def mermaid (g : Graph) : String :=
  let classes := String.join (EntryKind.all.map g.mermaidClassLines)
  "graph LR\n" ++ String.join (g.nodes.map mermaidNode) ++ String.join (g.edges.map mermaidEdge) ++
    (if classes.isEmpty then "" else "\n" ++ classes)

/-! ### All formats -/

def nodeJson (r : EntryRef) : Json :=
  .object [("id", .string r.text), ("kind", .string r.kind.tag), ("key", .string r.key)]

def edgeJson (e : EntryRef × EntryRef) : Json :=
  .object [("from", .string e.1.text), ("to", .string e.2.text)]

/-- The graph as data (`export_json`). -/
def json (g : Graph) : Json :=
  .object [
    ("nodes", .array (g.nodes.map nodeJson)),
    ("edges", .array (g.edges.map edgeJson)),
    ("metadata", .object [("total_nodes", .nat g.nodeCount), ("total_edges", .nat g.edgeCount)])]

/-- The graph in a format (`export_graph`). -/
def write (g : Graph) : GraphFormat → String
  | .dot => g.dot
  | .json => g.json.pretty
  | .mermaid => g.mermaid

end Graph

end Terralens
