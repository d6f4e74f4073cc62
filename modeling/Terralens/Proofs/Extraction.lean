import Terralens.Extraction
import Terralens.Proofs.KeyMap

/-!
# What an addition does

Blocks are read on their own: which labels they need (`Block.Labelled`), which entries they
define (`Block.defines`), and what these entries hold, field by field as it is written in the
block (`Block.resource` and what follows). The entries that an extraction makes are these
(`ResourceEntry.ofBlock_eq_ok_iff` and what follows).

`Added` says once what a successful addition of a block does to a configuration, one constructor
for each kind of block; an addition succeeds exactly for a labelled block whose entries are new
(`addBlock_succeeds_iff`), and then it is one of these (`added_of_addBlock`).
-/

namespace Terralens

/-! ### Blocks and what they define -/

/-- The name of an entry, with its kind. A provider has its alias, or none. -/
inductive EntryName where
  | resource (key : ResourceKey)
  | dataSource (key : ResourceKey)
  | input (name : String)
  | output (name : String)
  | local (name : String)
  | module (name : String)
  | provider (name : String) (alternate : Option String)
deriving DecidableEq, Repr

/-- The text of a value that is a literal string. An expression has none, even one that is a
  name. -/
def textIn? : Option Value → Option String
  | some (.string s) => some s
  | _ => none

/-- A truth value, if that is what was found. -/
def flagIn? : Option Value → Option Bool
  | some (.bool b) => some b
  | _ => none

/-- Texts and expressions stand for themselves, other values are kept as they are written. -/
def plainText : Value → String
  | .string s => s
  | .expression s => s
  | v => v.text

/-- What a value requires of a provider: a text is a version, a map has source and version. -/
def requirementIn : Value → ProviderRequirement
  | .string version => ⟨none, some version⟩
  | .map entries =>
      ⟨textIn? (findEntry "source" entries), textIn? (findEntry "version" entries)⟩
  | _ => ⟨none, none⟩

namespace Block

def labelsNeeded (type : String) : Nat :=
  match type with
  | "resource" => 2
  | "data" => 2
  | "variable" => 1
  | "output" => 1
  | "provider" => 1
  | "module" => 1
  | _ => 0

def Labelled (b : Block) : Prop := labelsNeeded b.type ≤ b.labels.length

instance (b : Block) : Decidable b.Labelled := inferInstanceAs (Decidable (_ ≤ _))

def label (b : Block) (index : Nat) : String := b.labels.getD index ""

def resourceKey (b : Block) : ResourceKey := ⟨b.label 0, b.label 1⟩

/-- The alias of a provider block: a text under `alias`, or none. -/
def alternate (b : Block) : Option String := textIn? (b.attributes.get? "alias")

def defines (b : Block) : List EntryName :=
  match b.type with
  | "resource" => [.resource b.resourceKey]
  | "data" => [.dataSource b.resourceKey]
  | "variable" => [.input (b.label 0)]
  | "output" => [.output (b.label 0)]
  | "locals" => b.attributes.keys.map .local
  | "provider" => [.provider (b.label 0) b.alternate]
  | "module" => [.module (b.label 0)]
  | _ => []

/-- The entry of a resource or data source has the attributes and the nested blocks as they are. -/
def resource (b : Block) : ResourceEntry := ⟨b.resourceKey, b.attributes, b.blocks, b.location⟩

/-- The entry of a variable. Description and sensitivity count where they are a text and a truth
  value, the default is any value, and the type is kept as text. -/
def input (b : Block) : VariableEntry where
  name := b.label 0
  description := textIn? (b.attributes.get? "description")
  type := (b.attributes.get? "type").map plainText
  default := b.attributes.get? "default"
  sensitive := flagIn? (b.attributes.get? "sensitive")
  hasValidation := b.blocks.any (·.type == "validation")
  location := b.location

/-- The entry of an output, whose value is kept as text. -/
def output (b : Block) : OutputEntry where
  name := b.label 0
  description := textIn? (b.attributes.get? "description")
  value := (b.attributes.get? "value").map plainText
  sensitive := flagIn? (b.attributes.get? "sensitive")
  location := b.location

/-- The entry of a module call: source and version stand beside the other attributes. -/
def module (b : Block) : ModuleEntry where
  name := b.label 0
  source := textIn? (b.attributes.get? "source")
  version := textIn? (b.attributes.get? "version")
  attributes :=
    ⟨b.attributes.entries.filter fun e => e.1 != "source" && e.1 != "version",
      b.attributes.ordered.filter _⟩
  location := b.location

def provider (b : Block) : ProviderEntry := ⟨b.label 0, b.alternate, b.attributes, b.location⟩

/-- The settings in a block: its version constraint if that is a text, what its
  `required_providers` blocks require, the later in place of the earlier, and the label of its
  first `backend` block. -/
def settings (b : Block) : Settings where
  requiredVersion := textIn? (b.attributes.get? "required_version")
  requiredProviders :=
    .ofList ((b.blocks.filter (·.type == "required_providers")).flatMap fun inner =>
      inner.attributes.entries.map fun (name, v) => (name, requirementIn v))
  backend := ((b.blocks.filter (·.type == "backend")).head?).bind (·.labels.head?)
  location := b.location

/-- The entries of a `locals` block under their names. -/
def localEntries (b : Block) : List (String × LocalEntry) :=
  b.attributes.entries.map fun (name, v) => (name, ⟨name, plainText v, b.location⟩)

def unrecognized (b : Block) : UnrecognizedBlock := ⟨b.type, b.labels, b.location⟩

end Block

def knownTypes : List String :=
  ["resource", "data", "variable", "output", "locals", "provider", "module", "terraform"]

def Configuration.Defines (c : Configuration) : EntryName → Prop
  | .resource key => key ∈ c.resources.keys
  | .dataSource key => key ∈ c.dataSources.keys
  | .input name => name ∈ c.inputs.keys
  | .output name => name ∈ c.outputs.keys
  | .local name => name ∈ c.locals.keys
  | .module name => name ∈ c.modules.keys
  | .provider name alternate => ∃ p ∈ c.providers, p.name = name ∧ p.alternate = alternate

/-! ### Labels and entries of a block -/

theorem bind_string?_eq (found : Option Value) : found.bind Value.string? = textIn? found := by
  cases found with
  | none => rfl
  | some v => cases v <;> rfl

theorem bind_bool?_eq (found : Option Value) : found.bind Value.bool? = flagIn? found := by
  cases found with
  | none => rfl
  | some v => cases v <;> rfl

theorem Value.rawText_eq (v : Value) : v.rawText = plainText v := by
  cases v <;> rfl

theorem ProviderRequirement.ofValue_eq (v : Value) : ofValue v = requirementIn v := by
  cases v <;> simp [ofValue, requirementIn, bind_string?_eq]

theorem Block.string?_eq (b : Block) (name : String) :
    b.string? name = textIn? (b.attributes.get? name) :=
  bind_string?_eq _

theorem Block.bool?_eq (b : Block) (name : String) :
    b.bool? name = flagIn? (b.attributes.get? name) :=
  bind_bool?_eq _

theorem Block.nested_isEmpty_eq (b : Block) (type : String) :
    (!(b.nested type).isEmpty) = b.blocks.any (·.type == type) := by
  rw [nested, Bool.eq_iff_iff]
  simp [List.filter_eq_nil_iff]

theorem Settings.ofBlock_eq (b : Block) : ofBlock b = b.settings := by
  simp only [ofBlock, requiredProvidersOf, Block.string?_eq, ProviderRequirement.ofValue_eq,
    ← List.head?_eq_getElem?]
  rfl

theorem Block.requiredLabel_of_lt {b : Block} {index : Nat} (h : index < b.labels.length)
    (what : String) : b.requiredLabel index what = .ok (b.label index) := by
  simp [requiredLabel, label, h]

theorem Block.requiredLabel_of_le {b : Block} {index : Nat} (h : b.labels.length ≤ index)
    (what : String) :
    b.requiredLabel index what = .error (.incomplete b.location
      ("'" ++ b.type ++ "' block is missing its " ++ what ++ " label")) := by
  simp [requiredLabel, h]

theorem except_bind_eq_ok_iff {ε α β : Type} {x : Except ε α} {f : α → Except ε β} {b : β} :
    (x >>= f) = .ok b ↔ ∃ a, x = .ok a ∧ f a = .ok b := by
  cases x with
  | error e => simp [bind, Except.bind]
  | ok a => simp [bind, Except.bind]

theorem Block.requiredLabel_eq_ok_iff {b : Block} {index : Nat} {what label : String} :
    b.requiredLabel index what = .ok label ↔
      index < b.labels.length ∧ label = b.label index := by
  by_cases h : index < b.labels.length
  · rw [requiredLabel_of_lt h]
    simp [h, eq_comm]
  · rw [requiredLabel_of_le (Nat.le_of_not_lt h)]
    simp [h]

theorem Block.ofLabel_eq_ok_iff {α : Type} {b : Block} {index : Nat} {what : String}
    {f : String → α} {e : α} :
    (do let label ← b.requiredLabel index what; pure (f label) : Except Error α) = .ok e ↔
      index < b.labels.length ∧ e = f (b.label index) := by
  rw [except_bind_eq_ok_iff]
  constructor
  · rintro ⟨label, hlabel, he⟩
    obtain ⟨hindex, rfl⟩ := requiredLabel_eq_ok_iff.mp hlabel
    exact ⟨hindex, (Except.ok.inj he).symm⟩
  · rintro ⟨hindex, rfl⟩
    exact ⟨_, requiredLabel_of_lt hindex what, rfl⟩

theorem ResourceEntry.ofBlock_eq_ok_iff {b : Block} {e : ResourceEntry} :
    ResourceEntry.ofBlock b = .ok e ↔ 2 ≤ b.labels.length ∧ e = b.resource := by
  unfold ofBlock
  rw [except_bind_eq_ok_iff]
  constructor
  · rintro ⟨type, htype, he⟩
    obtain ⟨-, rfl⟩ := Block.requiredLabel_eq_ok_iff.mp htype
    exact Block.ofLabel_eq_ok_iff.mp he
  · rintro ⟨hlabels, rfl⟩
    exact ⟨_, Block.requiredLabel_of_lt (by omega) _,
      Block.ofLabel_eq_ok_iff.mpr ⟨hlabels, rfl⟩⟩

theorem VariableEntry.ofBlock_eq_ok_iff {b : Block} {e : VariableEntry} :
    VariableEntry.ofBlock b = .ok e ↔ 1 ≤ b.labels.length ∧ e = b.input := by
  simp only [ofBlock, Block.string?_eq, Block.bool?_eq, Block.nested_isEmpty_eq]
  exact Block.ofLabel_eq_ok_iff

theorem OutputEntry.ofBlock_eq_ok_iff {b : Block} {e : OutputEntry} :
    OutputEntry.ofBlock b = .ok e ↔ 1 ≤ b.labels.length ∧ e = b.output := by
  simp only [ofBlock, Block.string?_eq, Block.bool?_eq]
  exact Block.ofLabel_eq_ok_iff

theorem ModuleEntry.ofBlock_eq_ok_iff {b : Block} {e : ModuleEntry} :
    ModuleEntry.ofBlock b = .ok e ↔ 1 ≤ b.labels.length ∧ e = b.module := by
  simp only [ofBlock, Block.string?_eq]
  exact Block.ofLabel_eq_ok_iff

theorem ProviderEntry.ofBlock_eq_ok_iff {b : Block} {e : ProviderEntry} :
    ProviderEntry.ofBlock b = .ok e ↔ 1 ≤ b.labels.length ∧ e = b.provider := by
  simp only [ofBlock, Block.string?_eq]
  exact Block.ofLabel_eq_ok_iff

/-! ### Additions -/

theorem insertUnique_eq_ok_iff {κ ν : Type} [Ord κ] [Std.TransOrd κ] {kind : EntryKind}
    {name : κ → String} {location : ν → Location} {m m' : KeyMap κ ν} {k : κ} {v : ν} :
    insertUnique kind name location m k v = .ok m' ↔ m.get? k = none ∧ m' = m.insert k v := by
  unfold insertUnique
  cases h : m.get? k with
  | some first => simp
  | none => simp [eq_comm]

theorem addEntry_eq_ok_iff {κ ν : Type} [Ord κ] [Std.TransOrd κ] {kind : EntryKind}
    {name : κ → String} {location : ν → Location} {key : ν → κ} {m m' : KeyMap κ ν}
    {entry : Except Error ν} :
    addEntry kind name location key m entry = .ok m' ↔
      ∃ e, entry = .ok e ∧ m.get? (key e) = none ∧ m' = m.insert (key e) e := by
  unfold addEntry
  rw [except_bind_eq_ok_iff]
  simp only [insertUnique_eq_ok_iff]

/-- What becomes of a configuration to which an entry is added that a block defines when
  it has its labels. -/
theorem addEntry_bind_eq_ok_iff {κ ν : Type} [Ord κ] [Std.TransOrd κ] {kind : EntryKind}
    {name : κ → String} {location : ν → Location} {key : ν → κ} {m : KeyMap κ ν}
    {entry : Except Error ν} {labelled : Prop} {e : ν}
    (hentry : ∀ e', entry = .ok e' ↔ labelled ∧ e' = e)
    {put : KeyMap κ ν → Configuration} {c : Configuration} :
    (do let m' ← addEntry kind name location key m entry; pure (put m') :
      Except Error Configuration) = .ok c ↔
      labelled ∧ m.get? (key e) = none ∧ c = put (m.insert (key e) e) := by
  simp only [except_bind_eq_ok_iff, addEntry_eq_ok_iff, hentry]
  constructor
  · rintro ⟨_, ⟨_, ⟨hlabelled, rfl⟩, hnew, rfl⟩, hput⟩
    exact ⟨hlabelled, hnew, (Except.ok.inj hput).symm⟩
  · rintro ⟨hlabelled, hnew, rfl⟩
    exact ⟨_, ⟨_, ⟨hlabelled, rfl⟩, hnew, rfl⟩, rfl⟩

namespace Configuration

theorem addResource_eq_ok_iff {c c' : Configuration} {b : Block} :
    c.addResource b = .ok c' ↔ 2 ≤ b.labels.length ∧ c.resources.get? b.resourceKey = none ∧
      c' = { c with resources := c.resources.insert b.resourceKey b.resource } :=
  addEntry_bind_eq_ok_iff fun _ => ResourceEntry.ofBlock_eq_ok_iff

theorem addDataSource_eq_ok_iff {c c' : Configuration} {b : Block} :
    c.addDataSource b = .ok c' ↔ 2 ≤ b.labels.length ∧ c.dataSources.get? b.resourceKey = none ∧
      c' = { c with dataSources := c.dataSources.insert b.resourceKey b.resource } :=
  addEntry_bind_eq_ok_iff fun _ => ResourceEntry.ofBlock_eq_ok_iff

theorem addVariable_eq_ok_iff {c c' : Configuration} {b : Block} :
    c.addVariable b = .ok c' ↔ 1 ≤ b.labels.length ∧ c.inputs.get? (b.label 0) = none ∧
      c' = { c with inputs := c.inputs.insert (b.label 0) b.input } :=
  addEntry_bind_eq_ok_iff fun _ => VariableEntry.ofBlock_eq_ok_iff

theorem addOutput_eq_ok_iff {c c' : Configuration} {b : Block} :
    c.addOutput b = .ok c' ↔ 1 ≤ b.labels.length ∧ c.outputs.get? (b.label 0) = none ∧
      c' = { c with outputs := c.outputs.insert (b.label 0) b.output } :=
  addEntry_bind_eq_ok_iff fun _ => OutputEntry.ofBlock_eq_ok_iff

theorem addModule_eq_ok_iff {c c' : Configuration} {b : Block} :
    c.addModule b = .ok c' ↔ 1 ≤ b.labels.length ∧ c.modules.get? (b.label 0) = none ∧
      c' = { c with modules := c.modules.insert (b.label 0) b.module } :=
  addEntry_bind_eq_ok_iff fun _ => ModuleEntry.ofBlock_eq_ok_iff

theorem addProvider_eq_ok_iff {c c' : Configuration} {b : Block} :
    c.addProvider b = .ok c' ↔ 1 ≤ b.labels.length ∧
      (∀ p ∈ c.providers, p.name = b.label 0 → p.alternate ≠ b.alternate) ∧
      c' = { c with providers := c.providers ++ [b.provider] } := by
  unfold addProvider
  rw [except_bind_eq_ok_iff]
  simp only [ProviderEntry.ofBlock_eq_ok_iff]
  have hfind : (c.providers.find? fun p =>
      p.name == b.provider.name && p.alternate == b.provider.alternate) = none ↔
      ∀ p ∈ c.providers, p.name = b.label 0 → p.alternate ≠ b.alternate := by
    simp [List.find?_eq_none, Block.provider]
  constructor
  · rintro ⟨_, ⟨hlabels, rfl⟩, hadd⟩
    split at hadd
    · cases hadd
    next hnone => exact ⟨hlabels, hfind.mp hnone, (Except.ok.inj hadd).symm⟩
  · rintro ⟨hlabels, hnew, rfl⟩
    refine ⟨_, ⟨hlabels, rfl⟩, ?_⟩
    rw [hfind.mpr hnew]
    rfl

/-- A block was added to a configuration, which thereby became another one. -/
inductive Added (c : Configuration) (b : Block) : Configuration → Prop where
  | resource (htype : b.type = "resource") (hlabels : 2 ≤ b.labels.length)
      (hnew : c.resources.get? b.resourceKey = none) :
      Added c b { c with resources := c.resources.insert b.resourceKey b.resource }
  | dataSource (htype : b.type = "data") (hlabels : 2 ≤ b.labels.length)
      (hnew : c.dataSources.get? b.resourceKey = none) :
      Added c b { c with dataSources := c.dataSources.insert b.resourceKey b.resource }
  | input (htype : b.type = "variable") (hlabels : 1 ≤ b.labels.length)
      (hnew : c.inputs.get? (b.label 0) = none) :
      Added c b { c with inputs := c.inputs.insert (b.label 0) b.input }
  | output (htype : b.type = "output") (hlabels : 1 ≤ b.labels.length)
      (hnew : c.outputs.get? (b.label 0) = none) :
      Added c b { c with outputs := c.outputs.insert (b.label 0) b.output }
  | module (htype : b.type = "module") (hlabels : 1 ≤ b.labels.length)
      (hnew : c.modules.get? (b.label 0) = none) :
      Added c b { c with modules := c.modules.insert (b.label 0) b.module }
  | locals (entries : KeyMap String LocalEntry) (htype : b.type = "locals")
      (hnew : ∀ name ∈ b.attributes.keys, name ∉ c.locals.keys)
      (hentries : entries.entries.Perm (c.locals.entries ++ b.localEntries)) :
      Added c b { c with locals := entries }
  | provider (htype : b.type = "provider") (hlabels : 1 ≤ b.labels.length)
      (hnew : ∀ p ∈ c.providers, p.name = b.label 0 → p.alternate ≠ b.alternate) :
      Added c b { c with providers := c.providers ++ [b.provider] }
  | settings (htype : b.type = "terraform") :
      Added c b { c with settings := c.settings ++ [b.settings] }
  | unrecognized (htype : b.type ∉ knownTypes) :
      Added c b { c with unrecognized := c.unrecognized ++ [b.unrecognized] }

/-- Local values are added when none of them is defined already. -/
theorem addLocals_succeeds (location : Location) {entries : List (String × Value)}
    {c : Configuration} (hnodup : (entries.map (·.1)).Nodup)
    (hnew : ∀ e ∈ entries, e.1 ∉ c.locals.keys) :
    ∃ m : KeyMap String LocalEntry,
      addLocals location entries c = .done { c with locals := m } ∧
      m.entries.Perm (c.locals.entries ++
        entries.map fun (name, v) => (name, ⟨name, plainText v, location⟩)) := by
  induction entries generalizing c with
  | nil => exact ⟨c.locals, rfl, by simp⟩
  | cons e rest ih =>
      obtain ⟨name, v⟩ := e
      obtain ⟨hfirst, hrest⟩ := List.nodup_cons.mp hnodup
      have hnone : c.locals.get? name = none :=
        KeyMap.get?_eq_none_iff.mpr (hnew (name, v) (by simp))
      let entry : LocalEntry := ⟨name, plainText v, location⟩
      have hrestNew : ∀ e ∈ rest, e.1 ∉ (c.locals.insert name entry).keys := by
        intro e he hmem
        rcases KeyMap.mem_keys_insert.mp hmem with heq | hmem
        · exact hfirst (List.mem_map.mpr ⟨e, he, heq⟩)
        · exact hnew e (by simp [he]) hmem
      obtain ⟨m, hadd, hm⟩ := ih (c := { c with locals := c.locals.insert name entry })
        hrest hrestNew
      refine ⟨m, ?_, hm.trans ?_⟩
      · rw [← hadd]
        simp only [addLocals, insertUnique, hnone, entry, Value.rawText_eq]
      · rw [List.map_cons]
        refine ((KeyMap.entries_insert_perm hnone entry).append_right _).trans ?_
        exact List.perm_middle.symm

/-- Adding local values of which one is defined already fails. -/
theorem addLocals_fails (location : Location) {entries : List (String × Value)}
    {c : Configuration} (hold : ∃ e ∈ entries, e.1 ∈ c.locals.keys) :
    (addLocals location entries c).error? ≠ none := by
  induction entries generalizing c with
  | nil => simp at hold
  | cons e rest ih =>
      obtain ⟨name, v⟩ := e
      simp only [addLocals, insertUnique]
      cases hget : c.locals.get? name with
      | some first => simp
      | none =>
          obtain ⟨e, he, hmem⟩ := hold
          rcases List.mem_cons.mp he with rfl | he
          · exact absurd hmem (KeyMap.get?_eq_none_iff.mp hget)
          · exact ih ⟨e, he, KeyMap.mem_keys_insert.mpr (.inr hmem)⟩

theorem ofExcept_error?_eq_none_iff {c : Configuration} {x : Except Error Configuration} :
    (Extraction.ofExcept c x).error? = none ↔
      x = .ok (Extraction.ofExcept c x).configuration := by
  cases x <;> simp [Extraction.ofExcept]

theorem toExcept_eq_ok_iff {x : Extraction} {c : Configuration} :
    x.toExcept = .ok c ↔ x.error? = none ∧ x.configuration = c := by
  unfold Extraction.toExcept
  cases h : x.error? with
  | none => simp
  | some e => simp

theorem ofExcept_succeeds {c c' : Configuration} {x : Except Error Configuration}
    (h : x = .ok c') : (Extraction.ofExcept c x).error? = none := by
  rw [h]
  rfl

/-- A successful addition is one of those that `Added` lists. -/
theorem added_of_addBlock {c : Configuration} {b : Block} (h : (c.addBlock b).error? = none) :
    Added c b (c.addBlock b).configuration := by
  generalize hx : c.addBlock b = x at h ⊢
  unfold addBlock at hx
  split at hx <;> subst hx
  next htype =>
      obtain ⟨hlabels, hnew, hc⟩ := addResource_eq_ok_iff.mp (ofExcept_error?_eq_none_iff.mp h)
      exact hc ▸ .resource htype hlabels hnew
  next htype =>
      obtain ⟨hlabels, hnew, hc⟩ := addDataSource_eq_ok_iff.mp (ofExcept_error?_eq_none_iff.mp h)
      exact hc ▸ .dataSource htype hlabels hnew
  next htype =>
      obtain ⟨hlabels, hnew, hc⟩ := addVariable_eq_ok_iff.mp (ofExcept_error?_eq_none_iff.mp h)
      exact hc ▸ .input htype hlabels hnew
  next htype =>
      obtain ⟨hlabels, hnew, hc⟩ := addOutput_eq_ok_iff.mp (ofExcept_error?_eq_none_iff.mp h)
      exact hc ▸ .output htype hlabels hnew
  next htype =>
      have hnew : ∀ e ∈ b.attributes.entries, e.1 ∉ c.locals.keys := by
        intro e he hmem
        exact addLocals_fails b.location ⟨e, he, hmem⟩ h
      obtain ⟨m, hadd, hm⟩ := addLocals_succeeds b.location b.attributes.nodup_keys hnew
      rw [hadd]
      refine .locals m htype ?_ hm
      intro name hname
      obtain ⟨e, he, rfl⟩ := List.mem_map.mp hname
      exact hnew e he
  next htype =>
      obtain ⟨hlabels, hnew, hc⟩ := addProvider_eq_ok_iff.mp (ofExcept_error?_eq_none_iff.mp h)
      exact hc ▸ .provider htype hlabels hnew
  next htype =>
      obtain ⟨hlabels, hnew, hc⟩ := addModule_eq_ok_iff.mp (ofExcept_error?_eq_none_iff.mp h)
      exact hc ▸ .module htype hlabels hnew
  next htype => exact Settings.ofBlock_eq b ▸ .settings htype
  next hresource hdata hvariable houtput hlocals hprovider hmodule hsettings =>
      refine .unrecognized ?_
      simp only [knownTypes, List.mem_cons, List.not_mem_nil, or_false, not_or]
      exact ⟨hresource, hdata, hvariable, houtput, hlocals, hprovider, hmodule, hsettings⟩

theorem Added.labelled {c c' : Configuration} {b : Block} (h : Added c b c') : b.Labelled := by
  cases h <;> simp_all [Block.Labelled, Block.labelsNeeded, knownTypes]

theorem Added.new {c c' : Configuration} {b : Block} (h : Added c b c') :
    ∀ n ∈ b.defines, ¬ c.Defines n := by
  cases h <;> simp_all [Block.defines, Defines, KeyMap.get?_eq_none_iff, knownTypes]

/-- An addition succeeds exactly for a block with its labels whose entries are all new. -/
theorem addBlock_succeeds_iff {c : Configuration} {b : Block} :
    (c.addBlock b).error? = none ↔ b.Labelled ∧ ∀ n ∈ b.defines, ¬ c.Defines n := by
  constructor
  · intro h
    exact ⟨(added_of_addBlock h).labelled, (added_of_addBlock h).new⟩
  · rintro ⟨hlabelled, hnew⟩
    have hlabels : ∀ {type : String}, b.type = type →
        Block.labelsNeeded type ≤ b.labels.length := by
      rintro type rfl
      exact hlabelled
    unfold addBlock
    split
    next htype =>
        have hkey := hnew (.resource b.resourceKey) (by simp [Block.defines, htype])
        exact ofExcept_succeeds
          (addResource_eq_ok_iff.mpr ⟨hlabels htype, KeyMap.get?_eq_none_iff.mpr hkey, rfl⟩)
    next htype =>
        have hkey := hnew (.dataSource b.resourceKey) (by simp [Block.defines, htype])
        exact ofExcept_succeeds
          (addDataSource_eq_ok_iff.mpr ⟨hlabels htype, KeyMap.get?_eq_none_iff.mpr hkey, rfl⟩)
    next htype =>
        have hkey := hnew (.input (b.label 0)) (by simp [Block.defines, htype])
        exact ofExcept_succeeds
          (addVariable_eq_ok_iff.mpr ⟨hlabels htype, KeyMap.get?_eq_none_iff.mpr hkey, rfl⟩)
    next htype =>
        have hkey := hnew (.output (b.label 0)) (by simp [Block.defines, htype])
        exact ofExcept_succeeds
          (addOutput_eq_ok_iff.mpr ⟨hlabels htype, KeyMap.get?_eq_none_iff.mpr hkey, rfl⟩)
    next htype =>
        have hkeys : ∀ e ∈ b.attributes.entries, e.1 ∉ c.locals.keys := by
          intro e he
          refine hnew (.local e.1) ?_
          simp only [Block.defines, htype]
          exact List.mem_map_of_mem (List.mem_map_of_mem he)
        obtain ⟨m, hadd, -⟩ := addLocals_succeeds b.location b.attributes.nodup_keys hkeys
        rw [hadd]
        rfl
    next htype =>
        have hkey := hnew (.provider (b.label 0) b.alternate) (by simp [Block.defines, htype])
        have hproviders : ∀ p ∈ c.providers, p.name = b.label 0 →
            p.alternate ≠ b.alternate :=
          fun p hp hname halias => hkey ⟨p, hp, hname, halias⟩
        exact ofExcept_succeeds (addProvider_eq_ok_iff.mpr ⟨hlabels htype, hproviders, rfl⟩)
    next htype =>
        have hkey := hnew (.module (b.label 0)) (by simp [Block.defines, htype])
        exact ofExcept_succeeds
          (addModule_eq_ok_iff.mpr ⟨hlabels htype, KeyMap.get?_eq_none_iff.mpr hkey, rfl⟩)
    next => rfl
    next => rfl

/-- What is defined after an addition was defined before or is defined by the block. -/
theorem Added.defines_iff {c c' : Configuration} {b : Block} (h : Added c b c') (n : EntryName) :
    c'.Defines n ↔ c.Defines n ∨ n ∈ b.defines := by
  cases h with
  | locals entries htype hnew hentries =>
      have hkeys : ∀ name, name ∈ entries.keys ↔ name ∈ c.locals.keys ∨
          name ∈ b.attributes.keys := by
        intro name
        rw [KeyMap.keys, (hentries.map (·.1)).mem_iff]
        simp [KeyMap.keys, Block.localEntries]
      cases n <;> simp [Defines, Block.defines, htype, hkeys]
  | provider htype hlabels hnew =>
      cases n <;>
        simp only [Defines, Block.defines, htype, List.mem_singleton, reduceCtorEq, or_false,
          List.mem_append, EntryName.provider.injEq]
      constructor
      · rintro ⟨p, hp | rfl, hname, halternate⟩
        · exact .inl ⟨p, hp, hname, halternate⟩
        · exact .inr ⟨hname.symm, halternate.symm⟩
      · rintro (⟨p, hp, hname, halternate⟩ | ⟨rfl, rfl⟩)
        · exact ⟨p, .inl hp, hname, halternate⟩
        · exact ⟨b.provider, .inr rfl, rfl, rfl⟩
  | _ => cases n <;> simp_all [Defines, Block.defines, KeyMap.mem_keys_insert, knownTypes, or_comm]

end Configuration

end Terralens
