import Mathlib.Data.List.Dedup
import Terralens.Graph.Export
import Terralens.Proofs.Analysis
import Terralens.Proofs.Graph
import Terralens.Proofs.Headers
import Terralens.Proofs.Pieces

/-!
# Reading a graph back from a flow chart

A line of a flow chart draws a box or an arrow, or it says something about the classes. Reading
each line by itself gives the identifiers of the nodes and those at the ends of the edges, all in
their order (`boxes_write_mermaid`, `arrows_write_mermaid`). An identifier keeps only the letters
and digits of a name, so two entries share one exactly when their names differ in other characters
alone (`mermaidId_eq_iff`), and the chart tells the nodes and edges of a graph apart exactly when
the graph has no two such nodes (`write_mermaid_drawsApart_iff`).
-/

namespace Terralens.Graph

open Hcl (StopsAt stopsAt_nil stopsAt_cons takeWhile_append_stop)

/-! ### Reading a chart -/

/-- The identifier a text begins with, and what stands behind it. -/
def takeId (s : List Char) : String × List Char :=
  (String.ofList (s.takeWhile isIdChar), s.dropWhile isIdChar)

/-- The identifier of the box that a line draws. -/
def boxOf? (line : List Char) : Option String := do
  let s ← Text.afterStart? "    ".toList line
  match takeId s with
  | (id, '[' :: _) => some id
  | (id, '(' :: _) => some id
  | _ => none

/-- The identifiers at the ends of the arrow that a line draws. -/
def arrowOf? (line : List Char) : Option (String × String) := do
  let s ← Text.afterStart? "    ".toList line
  let (source, s) := takeId s
  let s ← Text.afterStart? " --> ".toList s
  match takeId s with
  | (target, []) => some (source, target)
  | _ => none

/-- The identifiers of the boxes of a chart, in their order. -/
def boxes (chart : String) : List String := (Text.pieces '\n' chart.toList).filterMap boxOf?

/-- The identifiers at the ends of the arrows of a chart, in their order. -/
def arrows (chart : String) : List (String × String) :=
  (Text.pieces '\n' chart.toList).filterMap arrowOf?

/-! ### Identifiers -/

theorem isIdChar_of_mem_mermaidId {r : EntryRef} {c : Char} (hc : c ∈ (mermaidId r).toList) :
    isIdChar c := by
  rw [mermaidId, String.toList_ofList] at hc
  obtain ⟨d, -, rfl⟩ := List.mem_map.mp hc
  by_cases hd : isIdChar d
  · rwa [if_pos hd]
  · rw [if_neg hd]
    decide

theorem not_mem_mermaidId {c : Char} (hc : isIdChar c = false) (r : EntryRef) :
    c ∉ (mermaidId r).toList := by
  intro hmem
  rw [isIdChar_of_mem_mermaidId hmem] at hc
  cases hc

theorem takeId_append {word rest : List Char} (hword : ∀ c ∈ word, isIdChar c)
    (hrest : StopsAt isIdChar rest) : takeId (word ++ rest) = (String.ofList word, rest) := by
  obtain ⟨htake, hdrop⟩ := takeWhile_append_stop hword hrest
  rw [takeId, htake, hdrop]

theorem takeId_mermaidId (r : EntryRef) {rest : List Char} (hrest : StopsAt isIdChar rest) :
    takeId ((mermaidId r).toList ++ rest) = (mermaidId r, rest) := by
  rw [takeId_append (fun _ => isIdChar_of_mem_mermaidId) hrest, String.ofList_toList]

/-- Two entries are written alike when their names differ only in characters that are neither
  letters nor digits. -/
def Alike (a b : EntryRef) : Prop :=
  List.Forall₂ (fun c d => c = d ∨
      Text.Property.isAlphanumeric c = false ∧ Text.Property.isAlphanumeric d = false)
    a.text.toList b.text.toList

theorem idChar_eq_iff (c d : Char) :
    (if isIdChar c then c else '_') = (if isIdChar d then d else '_') ↔
      c = d ∨ Text.Property.isAlphanumeric c = false ∧ Text.Property.isAlphanumeric d = false := by
  have hunderscore : Text.Property.isAlphanumeric '_' = false := by decide
  unfold isIdChar
  grind

/-- Two entries have one identifier exactly when they are written alike. -/
theorem mermaidId_eq_iff (a b : EntryRef) : mermaidId a = mermaidId b ↔ Alike a b := by
  unfold mermaidId Alike
  rw [← String.toList_inj, String.toList_ofList, String.toList_ofList, ← List.forall₂_eq_eq_eq,
    List.forall₂_map_left_iff, List.forall₂_map_right_iff]
  simp only [idChar_eq_iff]

/-! ### Lines of nodes -/

def nodeLine (r : EntryRef) : List Char :=
  "    ".toList ++ ((mermaidId r).toList ++ (mermaidBox r).toList)

theorem toList_mermaidNode (r : EntryRef) : (mermaidNode r).toList = nodeLine r ++ ['\n'] := by
  simp [mermaidNode, nodeLine]

theorem not_mem_mermaidLabel (r : EntryRef) : '\n' ∉ (mermaidLabel r).toList := by
  have hchar : ∀ c, mermaidChar c ≠ '\n' := by
    intro c
    unfold mermaidChar
    split
    · decide
    · split
      · decide
      · assumption
  simp [mermaidLabel, hchar]

theorem not_mem_nodeLine (r : EntryRef) : '\n' ∉ nodeLine r := by
  have hid := not_mem_mermaidId (show isIdChar '\n' = false by decide) r
  have hbox : '\n' ∉ (mermaidBox r).toList := by
    unfold mermaidBox
    cases r.kind <;> simp [not_mem_mermaidLabel]
  simp [nodeLine, hid, hbox]

/-- What stands behind the identifier of a node begins with a bracket. -/
theorem toList_mermaidBox (r : EntryRef) :
    ∃ rest, (mermaidBox r).toList = '[' :: rest ∨ (mermaidBox r).toList = '(' :: rest := by
  unfold mermaidBox
  cases r.kind <;> simp

theorem takeId_nodeLine (r : EntryRef) :
    takeId ((mermaidId r).toList ++ (mermaidBox r).toList) =
      (mermaidId r, (mermaidBox r).toList) := by
  apply takeId_mermaidId
  obtain ⟨rest, hbox | hbox⟩ := toList_mermaidBox r
  · rw [hbox]
    exact stopsAt_cons (by decide) rest
  · rw [hbox]
    exact stopsAt_cons (by decide) rest

theorem boxOf?_nodeLine (r : EntryRef) : boxOf? (nodeLine r) = some (mermaidId r) := by
  rw [boxOf?, nodeLine, afterStart?_append_self]
  simp only [Option.bind_eq_bind, Option.bind_some, takeId_nodeLine]
  obtain ⟨rest, hbox | hbox⟩ := toList_mermaidBox r <;> simp only [hbox]

theorem arrowOf?_nodeLine (r : EntryRef) : arrowOf? (nodeLine r) = none := by
  rw [arrowOf?, nodeLine, afterStart?_append_self]
  simp only [Option.bind_eq_bind, Option.bind_some, takeId_nodeLine]
  obtain ⟨rest, hbox | hbox⟩ := toList_mermaidBox r <;> rw [hbox] <;> rfl

/-! ### Lines of edges -/

def endIds (e : EntryRef × EntryRef) : String × String := (mermaidId e.1, mermaidId e.2)

def edgeLine (e : EntryRef × EntryRef) : List Char :=
  "    ".toList ++ ((mermaidId e.1).toList ++ (" --> ".toList ++ (mermaidId e.2).toList))

theorem toList_mermaidEdge (e : EntryRef × EntryRef) :
    (mermaidEdge e).toList = edgeLine e ++ ['\n'] := by
  simp [mermaidEdge, edgeLine]

theorem not_mem_edgeLine (e : EntryRef × EntryRef) : '\n' ∉ edgeLine e := by
  have hid := not_mem_mermaidId (show isIdChar '\n' = false by decide)
  simp [edgeLine, hid]

theorem takeId_edgeLine (e : EntryRef × EntryRef) :
    takeId ((mermaidId e.1).toList ++ (" --> ".toList ++ (mermaidId e.2).toList)) =
      (mermaidId e.1, " --> ".toList ++ (mermaidId e.2).toList) :=
  takeId_mermaidId e.1 (stopsAt_cons (by decide) _)

theorem boxOf?_edgeLine (e : EntryRef × EntryRef) : boxOf? (edgeLine e) = none := by
  rw [boxOf?, edgeLine, afterStart?_append_self]
  simp only [Option.bind_eq_bind, Option.bind_some, takeId_edgeLine]
  rfl

theorem arrowOf?_edgeLine (e : EntryRef × EntryRef) : arrowOf? (edgeLine e) = some (endIds e) := by
  have htarget : takeId (mermaidId e.2).toList = (mermaidId e.2, []) := by
    have h := takeId_mermaidId e.2 (stopsAt_nil isIdChar)
    rwa [List.append_nil] at h
  rw [arrowOf?, edgeLine, afterStart?_append_self]
  simp only [Option.bind_eq_bind, Option.bind_some, takeId_edgeLine, afterStart?_append_self,
    htarget]
  rfl

/-! ### Other lines -/

/-- A line that draws nothing: it is not indented, or its second word does not begin with a
  dash. -/
inductive Quiet : List Char → Prop where
  | blank : Quiet []
  | title : Quiet "graph LR".toList
  | statement {word rest : List Char} (hword : word.all isIdChar) (hrest : '-' ∉ rest.head?) :
      Quiet ("    ".toList ++ (word ++ ' ' :: rest))

theorem takeId_word {word : List Char} (hword : word.all isIdChar) (rest : List Char) :
    takeId (word ++ ' ' :: rest) = (String.ofList word, ' ' :: rest) :=
  takeId_append (List.all_eq_true.mp hword) (stopsAt_cons (by decide) rest)

theorem Quiet.boxOf? {line : List Char} (h : Quiet line) : boxOf? line = none := by
  cases h with
  | blank => decide
  | title => decide
  | @statement word rest hword _ =>
      rw [Graph.boxOf?, afterStart?_append_self]
      simp [takeId_word hword]

theorem Quiet.arrowOf? {line : List Char} (h : Quiet line) : arrowOf? line = none := by
  cases h with
  | blank => decide
  | title => decide
  | @statement word rest hword hrest =>
      -- What stands behind the word goes on like an arrow up to the dash only.
      have hdash : Text.afterStart? " --> ".toList (' ' :: rest) = none := by
        cases rest with
        | nil => rfl
        | cons c more =>
            have hc : '-' ≠ c := by simpa [eq_comm] using hrest
            simp [Text.afterStart?, hc]
      rw [Graph.arrowOf?, afterStart?_append_self]
      simp only [Option.bind_eq_bind, Option.bind_some, takeId_word hword, hdash,
        Option.bind_none]

/-- The two lines about the class of a kind, for the identifiers that belong to it. -/
def classLines (ids : String) (kind : EntryKind) : List (List Char) :=
  ["    ".toList ++ ("classDef".toList ++ ' ' ::
      (mermaidClass kind ++ " fill:" ++ kind.colour).toList),
    "    ".toList ++ ("class".toList ++ ' ' :: (ids ++ " " ++ mermaidClass kind).toList)]

theorem quiet_of_mem_classLines {ids : String} {kind : EntryKind} {line : List Char}
    (hids : ∀ c ∈ ids.toList, isIdChar c ∨ c = ',') (h : line ∈ classLines ids kind) :
    Quiet line ∧ '\n' ∉ line := by
  rw [classLines, List.mem_pair] at h
  rcases h with rfl | rfl
  · constructor
    · apply Quiet.statement
      · decide
      · cases kind <;> decide
    · cases kind <;> decide
  · constructor
    · apply Quiet.statement
      · decide
      · cases hchars : ids.toList with
        | nil => simp [hchars]
        | cons c rest =>
            have hc := hids c (by simp [hchars])
            have hdash : '-' ≠ c := by
              rintro rfl
              revert hc
              decide
            simpa [hchars] using hdash.symm
    · have hbreak : '\n' ∉ ids.toList := by
        intro hmem
        have hc := hids '\n' hmem
        revert hc
        decide
      have hclass : '\n' ∉ (mermaidClass kind).toList := by cases kind <;> decide
      simp [hbreak, hclass]

/-- The lines about the class of a kind, if there are nodes of that kind. -/
def kindLines (g : Graph) (kind : EntryKind) : List (List Char) :=
  let ids := (g.nodes.filter (·.kind == kind)).map mermaidId
  if ids.isEmpty then [] else classLines (",".intercalate ids) kind

theorem toList_mermaidClassLines (g : Graph) (kind : EntryKind) :
    (g.mermaidClassLines kind).toList = (g.kindLines kind).flatMap (· ++ ['\n']) := by
  simp only [mermaidClassLines, kindLines]
  split
  · rfl
  · simp [classLines]

theorem mem_intercalate_ids {rs : List EntryRef} {c : Char}
    (hc : c ∈ (",".intercalate (rs.map mermaidId)).toList) : isIdChar c ∨ c = ',' := by
  rw [String.toList_intercalate, List.map_map] at hc
  rcases mem_intercalate hc with hc | ⟨id, hid, hc⟩
  · exact .inr (by simpa using hc)
  · obtain ⟨r, -, rfl⟩ := List.mem_map.mp hid
    exact .inl (isIdChar_of_mem_mermaidId hc)

theorem quiet_of_mem_kindLines {g : Graph} {kind : EntryKind} {line : List Char}
    (h : line ∈ g.kindLines kind) : Quiet line ∧ '\n' ∉ line := by
  simp only [kindLines] at h
  split at h
  · cases h
  · exact quiet_of_mem_classLines (fun _ => mem_intercalate_ids) h

/-! ### The whole chart -/

/-- The lines about classes, behind a blank one, or none at all. -/
def lastLines (g : Graph) : List (List Char) :=
  let classes := EntryKind.all.flatMap g.kindLines
  if classes.isEmpty then [] else [] :: classes

theorem quiet_of_mem_lastLines {g : Graph} {line : List Char} (h : line ∈ g.lastLines) :
    Quiet line ∧ '\n' ∉ line := by
  simp only [lastLines] at h
  split at h
  · cases h
  · rcases List.mem_cons.mp h with rfl | h
    · exact ⟨.blank, List.not_mem_nil⟩
    · obtain ⟨kind, -, hline⟩ := List.mem_flatMap.mp h
      exact quiet_of_mem_kindLines hline

theorem toList_join_mermaidClassLines (g : Graph) :
    (String.join (EntryKind.all.map g.mermaidClassLines)).toList =
      (EntryKind.all.flatMap g.kindLines).flatMap (· ++ ['\n']) := by
  rw [String.toList_join, List.flatMap_map, List.flatMap_assoc]
  simp only [toList_mermaidClassLines]

def chartLines (g : Graph) : List (List Char) :=
  "graph LR".toList :: (g.nodes.map nodeLine ++ (g.edges.map edgeLine ++ g.lastLines))

theorem toList_mermaid (g : Graph) : g.mermaid.toList = g.chartLines.flatMap (· ++ ['\n']) := by
  have hclasses := g.toList_join_mermaidClassLines
  have hempty : (String.join (EntryKind.all.map g.mermaidClassLines)).isEmpty =
      (EntryKind.all.flatMap g.kindLines).isEmpty := by
    rw [Bool.eq_iff_iff, String.isEmpty_iff, ← String.toList_eq_nil_iff, hclasses]
    cases EntryKind.all.flatMap g.kindLines <;> simp
  simp only [mermaid, chartLines, lastLines, hempty]
  split
  · simp [List.flatMap_map, toList_mermaidNode, toList_mermaidEdge]
  · simp [List.flatMap_map, toList_mermaidNode, toList_mermaidEdge, hclasses]

theorem not_mem_of_mem_chartLines {g : Graph} {line : List Char} (h : line ∈ g.chartLines) :
    '\n' ∉ line := by
  rw [chartLines, List.mem_cons, List.mem_append, List.mem_append] at h
  rcases h with rfl | h | h | h
  · decide
  · obtain ⟨r, -, rfl⟩ := List.mem_map.mp h
    exact not_mem_nodeLine r
  · obtain ⟨e, -, rfl⟩ := List.mem_map.mp h
    exact not_mem_edgeLine e
  · exact (quiet_of_mem_lastLines h).2

theorem pieces_write_mermaid (g : Graph) :
    Text.pieces '\n' (g.write .mermaid).toList = g.chartLines ++ [[]] := by
  change Text.pieces '\n' g.mermaid.toList = _
  rw [toList_mermaid, Text.pieces_flatMap fun _ => not_mem_of_mem_chartLines]

section

variable {α : Type} {read? : List Char → Option α}

/-- What is read off a chart comes from the lines of its nodes and edges. -/
theorem filterMap_pieces {node : EntryRef → Option α} {edge : EntryRef × EntryRef → Option α}
    (hnode : ∀ r, read? (nodeLine r) = node r) (hedge : ∀ e, read? (edgeLine e) = edge e)
    (hquiet : ∀ line, Quiet line → read? line = none) (g : Graph) :
    (Text.pieces '\n' (g.write .mermaid).toList).filterMap read? =
      g.nodes.filterMap node ++ g.edges.filterMap edge := by
  have hlast : g.lastLines.filterMap read? = [] := by
    apply List.filterMap_eq_nil_iff.mpr
    intro line hline
    exact hquiet line (quiet_of_mem_lastLines hline).1
  rw [pieces_write_mermaid, chartLines, List.cons_append,
    List.filterMap_cons_none (hquiet _ .title)]
  simp [List.filterMap_append, List.filterMap_map, hnode, hedge, hlast, hquiet _ .blank]

end

/-- The chart of a graph draws one box for each node, in order. -/
theorem boxes_write_mermaid (g : Graph) : boxes (g.write .mermaid) = g.nodes.map mermaidId := by
  rw [boxes, filterMap_pieces boxOf?_nodeLine boxOf?_edgeLine (fun _ => Quiet.boxOf?)]
  simp

/-- The chart of a graph draws one arrow for each edge, in order. -/
theorem arrows_write_mermaid (g : Graph) : arrows (g.write .mermaid) = g.edges.map endIds := by
  rw [arrows, filterMap_pieces arrowOf?_nodeLine arrowOf?_edgeLine (fun _ => Quiet.arrowOf?)]
  simp

/-- An arrow of a chart stands for an edge of a graph: no other two nodes have the identifiers at
  its ends. -/
def StandsFor (g : Graph) (arrow : String × String) (e : EntryRef × EntryRef) : Prop :=
  ∀ r ∈ g.nodes, ∀ s ∈ g.nodes, endIds (r, s) = arrow ↔ (r, s) = e

/-- The chart tells the nodes and the edges of a graph apart. -/
structure DrawsApart (g : Graph) : Prop where
  /-- There are as many different identifiers of boxes as nodes. -/
  boxes : (boxes (g.write .mermaid)).dedup.length = g.nodeCount
  /-- Each arrow stands for the edge in its place. -/
  arrows : List.Forall₂ g.StandsFor (arrows (g.write .mermaid)) g.edges

theorem length_dedup_eq_iff {α : Type} [DecidableEq α] {l : List α} :
    l.dedup.length = l.length ↔ l.Nodup := by
  rw [← List.dedup_eq_self]
  exact ⟨(List.dedup_sublist l).eq_of_length, congrArg List.length⟩

/-- A chart tells nodes and edges apart exactly when no two nodes are written alike, that is, when
  no names differ only in characters that identifiers may not hold. The boxes and arrows are read
  back from the text of the chart line by line. -/
theorem write_mermaid_drawsApart_iff (g : Graph) :
    g.DrawsApart ↔ ∀ r ∈ g.nodes, ∀ s ∈ g.nodes, Alike r s → r = s := by
  have hboxes : (boxes (g.write .mermaid)).dedup.length = g.nodeCount ↔
      ∀ r ∈ g.nodes, ∀ s ∈ g.nodes, Alike r s → r = s := by
    simp only [← mermaidId_eq_iff]
    rw [boxes_write_mermaid, nodeCount, ← List.length_map mermaidId, length_dedup_eq_iff,
      List.nodup_map_iff_inj_on g.nodup_nodes]
  constructor
  · intro h
    exact hboxes.mp h.boxes
  · intro hapart
    refine ⟨hboxes.mpr hapart, ?_⟩
    rw [arrows_write_mermaid, List.forall₂_map_left_iff, List.forall₂_same]
    -- The ends of an edge are nodes, so the identifiers of its arrow are theirs alone.
    rintro ⟨source, target⟩ hedge r hr s hs
    obtain ⟨hsource, htarget⟩ := mem_nodes_of_mem_edges hedge
    constructor
    · intro hids
      obtain ⟨hr', hs'⟩ := Prod.mk.inj hids
      rw [hapart r hr source hsource ((mermaidId_eq_iff r source).mp hr'),
        hapart s hs target htarget ((mermaidId_eq_iff s target).mp hs')]
    · rintro ⟨⟩
      rfl

/-- Two buckets whose names differ in a dash, and an output that refers to one of them. -/
def bucketFiles : List SourceFile :=
  [⟨⟨"main.tf"⟩, "resource \"aws_s3_bucket\" \"web-1\" \x7b\n\x7d\n\n" ++
    "resource \"aws_s3_bucket\" \"web_1\" \x7b\n\x7d\n\n" ++
    "output \"site\" \x7b\n  value = aws_s3_bucket.web_1.id\n\x7d\n", .terraform⟩]

theorem not_drawsApart_bucketFiles :
    ∃ a, analyzeFiles ⟨"."⟩ bucketFiles = .ok a ∧ ¬ (ofDependencies a.dependencies).DrawsApart := by
  have hany : (analyzeFiles ⟨"."⟩ bucketFiles).toOption.any fun a =>
      ((ofDependencies a.dependencies).nodes.map mermaidId).dedup.length ≠
        (ofDependencies a.dependencies).nodeCount := by
    decide +kernel
  obtain ⟨a, ha, hshared⟩ := exists_analysis_of_any hany
  refine ⟨a, ha, ?_⟩
  intro h
  have hboxes := h.boxes
  rw [boxes_write_mermaid] at hboxes
  exact of_decide_eq_true hshared hboxes

end Terralens.Graph
