import Terralens.Yaml.Token

/-!
# Nodes of a YAML text

The documents of a text, as trees of scalars, sequences and mappings. An alias stands for
the node with its anchor; a node left out is an empty plain scalar.
-/

namespace Terralens.Yaml

inductive Node where
  | scalar (plain : Bool) (text : String)
  | sequence (items : List Node)
  | mapping (entries : List (Node × Node))
deriving Repr, Inhabited

def Node.missing : Node := .scalar true ""

abbrev Anchors := List (String × Node)

/-- What a reader of nodes gives: a result, the anchors, and the tokens left. -/
abbrev Parsed (α : Type) := Option (α × Anchors × List Token)

def nextIs (ts : List Token) (stops : List Token) : Bool := ts.head?.any stops.contains

/-- The anchor and tag before a node, in any order and each at most once: the anchor's name,
  whether there was anything, and the tokens left. -/
def properties (ts : List Token) : Option String × Bool × List Token :=
  match ts with
  | .anchor a :: .tag _ :: rest => (some a, true, rest)
  | .tag _ :: .anchor a :: rest => (some a, true, rest)
  | .anchor a :: rest => (some a, true, rest)
  | .tag _ :: rest => (none, true, rest)
  | _ => (none, false, ts)

def bindAnchor (name : Option String) (node : Node) (anchors : Anchors) : Anchors :=
  match name with
  | some name => (name, node) :: anchors
  | none => anchors

inductive Part where
  /-- A node; whether a block may stand there, and whether a sequence may stand there without
    indentation of its own. -/
  | node (block loose : Bool)
  /-- The items of a block sequence; a loose one has no end token. -/
  | sequenceItems (loose : Bool)
  | mappingItems
  | flowItems (first : Bool)
  | flowEntries (first : Bool)

inductive Result where
  | node (n : Node)
  | items (ns : List Node)
  | entries (es : List (Node × Node))

def Result.toNode : Result → Node
  | .node n => n
  | .items ns => .sequence ns
  | .entries es => .mapping es

def Result.consItem (n : Node) : Result → Result
  | .items ns => .items (n :: ns)
  | r => r

def Result.consEntry (k v : Node) : Result → Result
  | .entries es => .entries ((k, v) :: es)
  | r => r

/-- Reads a part, with at most `fuel` steps one inside the other. -/
def readPart : Nat → Part → Anchors → List Token → Parsed Result
  | 0, _, _, _ => none
  | fuel + 1, part, anchors, ts =>
      let nodeUnless (block loose : Bool) (stops : List Token) (anchors : Anchors)
          (ts : List Token) : Parsed Node :=
        if nextIs ts stops then some (.missing, anchors, ts)
        else (readPart fuel (.node block loose) anchors ts).map fun (r, more) => (r.toNode, more)
      let valueUnless (block loose : Bool) (stops : List Token) (anchors : Anchors)
          (ts : List Token) : Parsed Node :=
        match ts with
        | .value :: ts => nodeUnless block loose stops anchors ts
        | ts => some (.missing, anchors, ts)
      match part with
      | .node block loose =>
          match ts with
          -- The latest anchor of a name comes first in the list, so it is the one that is found.
          | .reference name :: ts => (anchors.lookup name).map fun n => (.node n, anchors, ts)
          | ts =>
              let (name, any, ts) := properties ts
              let read : Parsed Result :=
                match ts with
                | .blockEntry :: _ =>
                    if loose then readPart fuel (.sequenceItems true) anchors ts
                    else if any then some (.node .missing, anchors, ts) else none
                | .scalar plain text :: ts => some (.node (.scalar plain text), anchors, ts)
                | .flowSequence :: ts => readPart fuel (.flowItems true) anchors ts
                | .flowMapping :: ts => readPart fuel (.flowEntries true) anchors ts
                | .blockSequence :: rest =>
                    if block then readPart fuel (.sequenceItems false) anchors rest
                    else if any then some (.node .missing, anchors, ts) else none
                | .blockMapping :: rest =>
                    if block then readPart fuel .mappingItems anchors rest
                    else if any then some (.node .missing, anchors, ts) else none
                | ts => if any then some (.node .missing, anchors, ts) else none
              read.map fun (r, anchors, ts) =>
                (.node r.toNode, bindAnchor name r.toNode anchors, ts)
      | .sequenceItems loose =>
          match ts with
          | .blockEntry :: ts =>
              let stops := if loose then [.blockEntry, .key, .value, .blockEnd]
                else [.blockEntry, .blockEnd]
              match nodeUnless true false stops anchors ts with
              | none => none
              | some (n, anchors, ts) =>
                  (readPart fuel (.sequenceItems loose) anchors ts).map fun (r, more) =>
                    (r.consItem n, more)
          | ts =>
              if loose then some (.items [], anchors, ts)
              else
                match ts with
                | .blockEnd :: ts => some (.items [], anchors, ts)
                | _ => none
      | .mappingItems =>
          match ts with
          | .key :: ts =>
              match nodeUnless true true [.key, .value, .blockEnd] anchors ts with
              | none => none
              | some (k, anchors, ts) =>
                  match valueUnless true true [.key, .value, .blockEnd] anchors ts with
                  | none => none
                  | some (v, anchors, ts) =>
                      (readPart fuel .mappingItems anchors ts).map fun (r, more) =>
                        (r.consEntry k v, more)
          | .blockEnd :: ts => some (.entries [], anchors, ts)
          | _ => none
      | .flowItems first =>
          match ts with
          | .flowSequenceEnd :: ts => some (.items [], anchors, ts)
          | ts =>
              match if first then some ts else flowRest ts with
              | none => none
              | some (.flowSequenceEnd :: ts) => some (.items [], anchors, ts)
              | some (.key :: ts) =>
                  match nodeUnless false false [.value, .flowEntry, .flowSequenceEnd] anchors ts with
                  | none => none
                  | some (k, anchors, ts) =>
                      match valueUnless false false [.flowEntry, .flowSequenceEnd] anchors ts with
                      | none => none
                      | some (v, anchors, ts) =>
                          (readPart fuel (.flowItems false) anchors ts).map fun (r, more) =>
                            (r.consItem (.mapping [(k, v)]), more)
              | some ts =>
                  match nodeUnless false false [] anchors ts with
                  | none => none
                  | some (n, anchors, ts) =>
                      (readPart fuel (.flowItems false) anchors ts).map fun (r, more) =>
                        (r.consItem n, more)
      | .flowEntries first =>
          match ts with
          | .flowMappingEnd :: ts => some (.entries [], anchors, ts)
          | ts =>
              match if first then some ts else flowRest ts with
              | none => none
              | some (.flowMappingEnd :: ts) => some (.entries [], anchors, ts)
              | some (.key :: ts) =>
                  match nodeUnless false false [.value, .flowEntry, .flowMappingEnd] anchors ts with
                  | none => none
                  | some (k, anchors, ts) =>
                      match valueUnless false false [.flowEntry, .flowMappingEnd] anchors ts with
                      | none => none
                      | some (v, anchors, ts) =>
                          (readPart fuel (.flowEntries false) anchors ts).map fun (r, more) =>
                            (r.consEntry k v, more)
              | some ts =>
                  match nodeUnless false false [] anchors ts with
                  | none => none
                  | some (k, anchors, ts) =>
                      (readPart fuel (.flowEntries false) anchors ts).map fun (r, more) =>
                        (r.consEntry k .missing, more)
where
  /-- The tokens behind the comma between two items. -/
  flowRest : List Token → Option (List Token)
    | .flowEntry :: ts => some ts
    | _ => none

def dropEnds : List Token → List Token
  | .documentEnd :: ts => dropEnds ts
  | ts => ts

def isMark : Token → Bool
  | .version => true
  | .handle _ => true
  | .documentStart => true
  | .documentEnd => true
  | _ => false

/-- The handles that the directives of a document name and the tokens behind its start mark.
  No more than one version may be named, and no handle twice. -/
def documentStart? (version : Bool) (handles : List String) :
    List Token → Option (List String × List Token)
  | .version :: ts => if version then none else documentStart? true handles ts
  | .handle name :: ts =>
      if handles.contains name then none else documentStart? version (name :: handles) ts
  | .documentStart :: ts => some (handles, ts)
  | _ => none

/-- The start of a document. The first one may have neither directives nor a start mark, but
  then it has content. -/
def documentContent? (first : Bool) (ts : List Token) : Option (List String × List Token) :=
  match ts with
  | t :: _ =>
      if first && !isMark t then some ([], ts)
      else documentStart? false [] ts
  | [] => none

def isStrange (handles : List String) : Token → Bool
  | .tag (some name) => !handles.contains name
  | _ => false

/-- The node of a document whose start was read, and the tokens behind the document. -/
def documentNode (handles : List String) (ts : List Token) : Option (Node × List Token) :=
  if (ts.takeWhile (!isMark ·)).any (isStrange handles) then none
  else
    match ts with
    | [] => some (.missing, ts)
    | t :: _ =>
        if isMark t then some (.missing, ts)
        else
          (readPart (2 * ts.length + 2) (.node true false) [] ts).map fun (r, _, ts) =>
            (r.toNode, ts)

/-- The documents among tokens, at most `fuel` of them. -/
def documentsFrom : Nat → Bool → List Token → Option (List Node)
  | 0, _, _ => none
  | fuel + 1, first, ts =>
      let ts := if first then ts else dropEnds ts
      if ts.isEmpty then some []
      else
        match (documentContent? first ts).bind fun (handles, ts) => documentNode handles ts with
        | none => none
        | some (n, rest) =>
            let rest := match rest with
              | .documentEnd :: rest => rest
              | rest => rest
            (documentsFrom fuel false rest).map (n :: ·)

/-- The documents of a text; `none` when it is no YAML. -/
def documents? (text : String) : Option (List Node) :=
  (tokens? text.toList).bind fun ts => documentsFrom (ts.length + 1) true ts

end Terralens.Yaml
