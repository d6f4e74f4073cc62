import Terralens.Error
import Terralens.Options
import Terralens.Options.Environment
import Terralens.Yaml.Node

/-!
# Reading options

Options are written in YAML, one mapping for each section. What is not mentioned keeps its
default; keys without meaning do not matter. Only plain scalars are numbers or booleans, but
any scalar is a text.
-/

namespace Terralens

open Yaml (Node)
open Decimal

namespace Yaml.Node

def string? : Node → Option String
  | .scalar _ text => some text
  | _ => none

def bool? : Node → Option Bool
  | .scalar true text =>
      if ["true", "True", "TRUE"].contains text then some true
      else if ["false", "False", "FALSE"].contains text then some false
      else none
  | _ => none

def digitsTo? (base : Nat) (ds : List Char) : Option Nat :=
  let values := ds.filterMap hexDigit?
  if ds.isEmpty || values.length != ds.length || values.any (base ≤ ·) then none
  else some (values.foldl (fun n d => base * n + d) 0)

/-- A natural number in decimal without leading zeros, or to another base after `0x`, `0o` or
  `0b`; a plus sign may stand before it. -/
def naturalText? (s : List Char) : Option Nat :=
  match if s.head? == some '+' then s.drop 1 else s with
  | '0' :: 'x' :: rest => digitsTo? 16 rest
  | '0' :: 'o' :: rest => digitsTo? 8 rest
  | '0' :: 'b' :: rest => digitsTo? 2 rest
  | ['0'] => some 0
  | '0' :: _ => none
  | rest => digitsTo? 10 rest

def nat? (limit : Nat) : Node → Option Nat
  | .scalar true text => (naturalText? text.toList).filter (· < limit)
  | _ => none

/-- The digits and the power of ten of a decimal number without a sign. -/
def decimalText? (s : List Char) : Option (Nat × Int) :=
  let (whole, rest) := s.span Char.isDigit
  let (fraction, rest) :=
    match rest with
    | '.' :: rest => rest.span Char.isDigit
    | _ => ([], rest)
  let power : Option Int :=
    match rest with
    | [] => some 0
    | e :: rest =>
        if e == 'e' || e == 'E' then
          match rest with
          | '-' :: ds => (digitsTo? 10 ds).map fun n => -(n : Int)
          | '+' :: ds => (digitsTo? 10 ds).map Int.ofNat
          | ds => (digitsTo? 10 ds).map Int.ofNat
        else none
  match digitsTo? 10 (whole ++ fraction), power with
  | some digits, some power => some (digits, power - fraction.length)
  | _, _ => none

def temperature? : Node → Option Temperature
  | .scalar true text =>
      if [".inf", ".Inf", ".INF", "+.inf", "+.Inf", "+.INF"].contains text then
        some (.infinite false)
      else if ["-.inf", "-.Inf", "-.INF"].contains text then some (.infinite true)
      else if [".nan", ".NaN", ".NAN"].contains text then some .undefined
      else
        let s := text.toList
        let negative := s.head? == some '-'
        let body := if negative || s.head? == some '+' then s.drop 1 else s
        (decimalText? body).bind fun (digits, power) =>
          (Binary.ofDecimal? .double negative digits power).map Temperature.ofBinary
  | _ => none

def strings? : Node → Option (List String)
  | .sequence items => items.mapM string?
  | .scalar true "" => some []
  | _ => none

end Yaml.Node

/-- The fields of a section: for each key, what its node changes. -/
abbrev Fields (σ : Type) := List (String × (Node → σ → Option σ))

def readEntries {σ : Type} (fields : Fields σ) : List String → List (Node × Node) → σ → Option σ
  | _, [], s => some s
  | seen, (key, v) :: rest, s =>
      match key.string? with
      | none => none
      | some key =>
          match List.lookup key fields with
          | none => readEntries fields seen rest s
          | some set =>
              if seen.contains key then none
              else (set v s).bind (readEntries fields (key :: seen) rest)

/-- Reads a section. One that is left empty keeps its defaults. -/
def readSection {σ : Type} (fields : Fields σ) (node : Node) (s : σ) : Option σ :=
  match node with
  | .mapping entries => readEntries fields [] entries s
  | .scalar true "" => some s
  | _ => none

def scanFields : Fields ScanOptions := [
  ("recursive", fun n o => n.bool?.map fun b => { o with recursive := b }),
  ("exclude_patterns", fun n o => n.strings?.map fun ps => { o with excludePatterns := ps }),
  ("max_depth", fun n o => (n.nat? (Nat.pow 2 64)).map fun d => { o with maxDepth := d }),
  ("parallel", fun n o => n.bool?.map fun b => { o with parallel := b })]

def modelFields : Fields ModelOptions := [
  ("host", fun n o => n.string?.map fun s => { o with host := s }),
  ("name", fun n o => n.string?.map fun s => { o with name := s }),
  ("temperature", fun n o => n.temperature?.map fun t => { o with temperature := t }),
  ("max_tokens", fun n o => (n.nat? (Nat.pow 2 32)).map fun d => { o with maxTokens := d }),
  ("timeout_secs", fun n o => (n.nat? (Nat.pow 2 64)).map fun d => { o with timeoutSeconds := d })]

def agentFields : Fields AgentOptions := [
  ("max_context_bytes",
    fun n o => (n.nat? (Nat.pow 2 64)).map fun d => { o with maxContextBytes := d }),
  ("docs_snapshot", fun n o => n.string?.map fun s => { o with docsSnapshot := s })]

def outputFields : Fields OutputOptions := [
  ("colored", fun n o => n.bool?.map fun b => { o with coloured := b }),
  ("verbose", fun n o => n.bool?.map fun b => { o with verbose := b }),
  ("pretty", fun n o => n.bool?.map fun b => { o with pretty := b })]

def optionFields : Fields Options := [
  ("scan", fun n o => (readSection scanFields n o.scan).map fun s => { o with scan := s }),
  ("model", fun n o => (readSection modelFields n o.model).map fun s => { o with model := s }),
  ("agent", fun n o => (readSection agentFields n o.agent).map fun s => { o with agent := s }),
  ("output", fun n o => (readSection outputFields n o.output).map fun s => { o with output := s })]

/-- The options a text writes; it may hold one document at most. -/
def optionsOfYaml? (text : String) : Option Options :=
  match Yaml.documents? text with
  | some [] => some {}
  | some [node] => readSection optionFields node {}
  | _ => none

/-- The options a text writes, with the variables of the environment in it (`from_yaml`). -/
def Options.read (env : Environment) (text : String) : Except Error Options :=
  match optionsOfYaml? (expandVariables env.value? text) with
  | some options => .ok options
  | none => .error (.settingsSyntax "Invalid configuration YAML" none)

end Terralens
