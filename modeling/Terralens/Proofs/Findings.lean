import Mathlib.Data.List.Perm.Basic
import Terralens.Lint
import Terralens.Proofs.Accounting
import Terralens.Proofs.Orders

/-!
# What the checks find

The findings on a configuration are said in terms of the blocks it was built from: one for each
block and each check that the block fails (`Check.Fails`), with the place of the block, in the
order of places and codes (`ofBlocks_findings`).

A check looks at the entries of a configuration, so each kind of entry is compared with the block
that defines it first (`findings_resource` and what follows). As every block is accounted for in
one collection, and blocks of other types fail no check, the findings of all collections together
are those of all blocks (`Accounts.findings_perm`).
-/

namespace Terralens

/-! ### Checks of blocks -/

/-- The checks of good practice. -/
inductive Check where
  | tags
  | dependsOn
  | requiredVersion
  | validation
deriving DecidableEq, Repr

namespace Check

def all : List Check := [.tags, .dependsOn, .requiredVersion, .validation]

def code : Check → String
  | .tags => "missing-tags"
  | .dependsOn => "empty-depends-on"
  | .requiredVersion => "missing-required-version"
  | .validation => "variable-without-validation"

def severity : Check → Severity
  | .tags => .warning
  | .dependsOn => .warning
  | .requiredVersion => .suggestion
  | .validation => .suggestion

def types : Check → List String
  | .tags => ["resource"]
  | .dependsOn => ["resource", "data", "module"]
  | .requiredVersion => ["terraform"]
  | .validation => ["variable"]

def Minds : Check → Block → Prop
  | .tags, b => "aws_".toList <+: (b.label 0).toList ∧ "tags" ∉ b.attributes.keys
  | .dependsOn, b => b.attributes.get? "depends_on" = some (.list [])
  | .requiredVersion, b =>
      ∀ version, b.attributes.get? "required_version" ≠ some (.string version)
  | .validation, b => ∀ inner ∈ b.blocks, inner.type ≠ "validation"

def Fails (check : Check) (b : Block) : Prop := b.type ∈ check.types ∧ check.Minds b

/-- How findings call a block whose `depends_on` may be empty. -/
def subject (b : Block) : String :=
  match b.type with
  | "resource" => "resource " ++ b.resourceKey.text
  | "data" => "data source data." ++ b.resourceKey.text
  | _ => "module " ++ b.label 0

def message (b : Block) : Check → String
  | .tags => "resource " ++ b.resourceKey.text ++ " should have tags"
  | .dependsOn => subject b ++ " has an empty depends_on"
  | .requiredVersion => "consider adding a required_version constraint"
  | .validation => "consider adding validation for variable " ++ b.label 0

def finding (check : Check) (b : Block) : Finding :=
  ⟨check.code, check.severity, check.message b, b.location⟩

theorem finding_dependsOn {b : Block} {name : String} (h : subject b = name) :
    Check.dependsOn.finding b =
      ⟨"empty-depends-on", .warning, name ++ " has an empty depends_on", b.location⟩ := by
  unfold finding message
  rw [h, code, severity]

end Check

theorem hasEmptyDependsOn_iff {attributes : KeyMap String Value} :
    hasEmptyDependsOn attributes ↔ attributes.get? "depends_on" = some (.list []) := by
  unfold hasEmptyDependsOn
  split
  next h => simp [h]
  next h => simpa using h

theorem textIn?_eq_none_iff {found : Option Value} :
    textIn? found = none ↔ ∀ s, found ≠ some (.string s) := by
  unfold textIn?
  split
  next => simp
  next h => simpa using h

instance (check : Check) (b : Block) : Decidable (check.Minds b) :=
  match check with
  | .tags => inferInstanceAs (Decidable (_ ∧ _))
  | .dependsOn => decidable_of_iff _ hasEmptyDependsOn_iff
  | .requiredVersion =>
      decidable_of_iff (textIn? (b.attributes.get? "required_version") = none) textIn?_eq_none_iff
  | .validation => inferInstanceAs (Decidable (∀ inner ∈ b.blocks, _))

instance (check : Check) (b : Block) : Decidable (check.Fails b) :=
  inferInstanceAs (Decidable (_ ∧ _))

/-! ### The order of findings -/

/-- A finding comes before another one: it lies further ahead, or at the same place and has the
  smaller code. -/
def Finding.Precedes (f g : Finding) : Prop :=
  compare f.location g.location = .lt ∨ compare f.location g.location = .eq ∧ f.code ≤ g.code

theorem Finding.precedes_of_atMost {f g : Finding} (h : f.atMost g) : f.Precedes g := by
  have hcodes : (compare f.code g.code).isLE ↔ f.code ≤ g.code :=
    isLE_compareOfLessAndEq String.le_antisymm String.not_le String.le_total
  rw [Finding.atMost, Ordering.isLE_then_iff_or] at h
  rcases h with hlocation | ⟨hlocation, hcode⟩
  · exact .inl hlocation
  · exact .inr ⟨hlocation, hcodes.mp hcode⟩

/-! ### Findings at one block -/

namespace Block

/-- What the checks find at a block: something for each check that it fails. -/
def findings (b : Block) : List Finding :=
  Check.all.flatMap fun check => if check.Fails b then [check.finding b] else []

def checkedTypes : List String := ["resource", "data", "module", "terraform", "variable"]

/-- Only those checks count that are about blocks of the type. -/
theorem findings_eq {b : Block} {type : String} (checks : List Check) (h : b.type = type)
    (hchecks : Check.all.filter (type ∈ ·.types) = checks) :
    b.findings = checks.flatMap fun check => if check.Minds b then [check.finding b] else [] := by
  subst h
  have hfilter : ∀ all : List Check,
      (all.flatMap fun check => if check.Fails b then [check.finding b] else []) =
        (all.filter (b.type ∈ ·.types)).flatMap fun check =>
          if check.Minds b then [check.finding b] else [] := by
    intro all
    induction all with
    | nil => rfl
    | cons check rest ih =>
        rw [List.flatMap_cons, ih]
        by_cases htype : b.type ∈ check.types <;> simp [Check.Fails, htype]
  rw [findings, hfilter, hchecks]

/-- Blocks of other types fail no check. -/
theorem findings_eq_nil {b : Block} (h : b.type ∉ checkedTypes) : b.findings = [] := by
  have hchecks : Check.all.filter (b.type ∈ ·.types) = [] := by
    simp_all [checkedTypes, Check.all, Check.types]
  rw [findings_eq [] rfl hchecks, List.flatMap_nil]

theorem findings_resource {b : Block} (h : b.type = "resource") :
    b.resource.findings = b.findings := by
  have htags : (("aws_".toList.isPrefixOf b.resource.key.type.toList &&
      !b.resource.attributes.contains "tags") = true) ↔ Check.tags.Minds b := by
    rw [Bool.and_eq_true, List.isPrefixOf_iff_prefix, Bool.not_eq_true', ← Bool.not_eq_true,
      KeyMap.contains_iff]
    rfl
  have hsubject : Check.subject b = "resource " ++ b.resourceKey.text := by
    simp only [Check.subject, h]
  rw [findings_eq [.tags, .dependsOn] h rfl, List.flatMap_cons, List.flatMap_singleton,
    Check.finding_dependsOn hsubject]
  exact congrArg₂ (· ++ ·) (if_congr htags rfl rfl) (if_congr hasEmptyDependsOn_iff rfl rfl)

theorem findings_data {b : Block} (h : b.type = "data") :
    b.resource.dataFindings = b.findings := by
  have hsubject : Check.subject b = "data source data." ++ b.resourceKey.text := by
    simp only [Check.subject, h]
  rw [findings_eq [.dependsOn] h rfl, List.flatMap_singleton, Check.finding_dependsOn hsubject]
  exact if_congr hasEmptyDependsOn_iff rfl rfl

theorem findings_module {b : Block} (h : b.type = "module") : b.module.findings = b.findings := by
  have hsubject : Check.subject b = "module " ++ b.label 0 := by
    simp [Check.subject, h]
  -- Source and version are kept apart, but `depends_on` stays among the attributes.
  have hkept : b.module.attributes.get? "depends_on" = b.attributes.get? "depends_on" :=
    KeyMap.get?_filterKeys b.attributes (p := fun k => k != "source" && k != "version") (by decide)
  have hdepends : hasEmptyDependsOn b.module.attributes ↔ Check.dependsOn.Minds b := by
    rw [hasEmptyDependsOn_iff, hkept]
    rfl
  rw [findings_eq [.dependsOn] h rfl, List.flatMap_singleton, Check.finding_dependsOn hsubject]
  exact if_congr hdepends rfl rfl

theorem findings_settings {b : Block} (h : b.type = "terraform") :
    b.settings.findings = b.findings := by
  have hversion : b.settings.requiredVersion.isNone ↔ Check.requiredVersion.Minds b := by
    rw [Option.isNone_iff_eq_none]
    exact textIn?_eq_none_iff
  rw [findings_eq [.requiredVersion] h rfl, List.flatMap_singleton]
  exact if_congr hversion rfl rfl

theorem findings_input {b : Block} (h : b.type = "variable") : b.input.findings = b.findings := by
  have hvalidation : b.input.hasValidation ↔ ¬ Check.validation.Minds b := by
    change b.blocks.any (·.type == "validation") = true ↔ ¬ ∀ inner ∈ b.blocks, _
    simp [List.any_eq_true]
  rw [findings_eq [.validation] h rfl, List.flatMap_singleton, ← ite_not]
  exact if_congr hvalidation rfl rfl

end Block

namespace Configuration

/-! ### Findings at all blocks -/

theorem type_of_mem_ofType {type : String} {b : Block} {bs : List Block} (h : b ∈ ofType type bs) :
    b.type = type :=
  beq_iff_eq.mp (List.mem_filter.mp h).2

/-- The values listed for blocks of one type are the values of these blocks, so what is found at the
  ones is found at the others. -/
theorem flatMap_values_perm {κ ν : Type} [Ord κ] {m : KeyMap κ ν} {type : String} {bs : List Block}
    {key : Block → κ} {value : Block → ν} {find : ν → List Finding}
    (h : m.entries.Perm ((ofType type bs).map fun b => (key b, value b)))
    (hfind : ∀ b, b.type = type → find (value b) = b.findings) :
    (m.values.flatMap find).Perm ((ofType type bs).flatMap Block.findings) := by
  have hvalues : m.values.Perm ((ofType type bs).map value) := by
    have hmap := h.map Prod.snd
    rwa [List.map_map] at hmap
  refine (hvalues.flatMap_right find).trans ?_
  rw [List.flatMap_map]
  apply List.Perm.of_eq
  apply List.flatMap_congr
  intro b hb
  exact hfind b (type_of_mem_ofType hb)

/-- Of the types in a list only that of a block picks what is found at the block. -/
theorem flatMap_ite_type {α : Type} {types : List String} (hnodup : types.Nodup) (type : String)
    (found : List α) :
    (types.flatMap fun t => if type = t then found else []) =
      if type ∈ types then found else [] := by
  induction types with
  | nil => rfl
  | cons t rest ih =>
      obtain ⟨hnew, hrest⟩ := List.nodup_cons.mp hnodup
      rw [List.flatMap_cons, ih hrest]
      by_cases htype : type = t
      · subst htype
        simp [hnew]
      · simp [htype]

/-- Blocks may be taken type by type, when nothing is found at those of other types. -/
theorem flatMap_ofType_perm {α : Type} {types : List String} (hnodup : types.Nodup)
    {find : Block → List α} (hnone : ∀ b, b.type ∉ types → find b = []) (bs : List Block) :
    (types.flatMap fun type => (ofType type bs).flatMap find).Perm (bs.flatMap find) := by
  induction bs with
  | nil => simp [ofType]
  | cons b rest ih =>
      have hsplit : (fun type => (ofType type (b :: rest)).flatMap find) = fun type =>
          (if b.type = type then find b else []) ++ (ofType type rest).flatMap find := by
        funext type
        by_cases htype : b.type = type <;> simp [ofType, htype]
      have hfirst : (types.flatMap fun type => if b.type = type then find b else []) = find b := by
        rw [flatMap_ite_type hnodup]
        split
        · rfl
        next hother => exact (hnone b hother).symm
      rw [hsplit, List.flatMap_cons]
      refine (List.flatMap_append_perm types _ _).symm.trans ?_
      rw [hfirst]
      exact ih.append_left _

/-- The findings of all collections are those at all blocks. -/
theorem Accounts.findings_perm {bs : List Block} {c : Configuration} (h : Accounts bs c) :
    c.findings.Perm (bs.flatMap Block.findings) := by
  have hresources := flatMap_values_perm h.resources fun _ => Block.findings_resource
  have hdataSources := flatMap_values_perm h.dataSources fun _ => Block.findings_data
  have hmodules := flatMap_values_perm h.modules fun _ => Block.findings_module
  have hinputs := flatMap_values_perm h.inputs fun _ => Block.findings_input
  have hsettings : c.settings.flatMap Settings.findings =
      (ofType "terraform" bs).flatMap Block.findings := by
    rw [h.settings, List.flatMap_map]
    apply List.flatMap_congr
    intro b hb
    exact Block.findings_settings (type_of_mem_ofType hb)
  have htypes : (Block.checkedTypes.flatMap fun type =>
      (ofType type bs).flatMap Block.findings).Perm (bs.flatMap Block.findings) :=
    flatMap_ofType_perm (by decide) (fun _ => Block.findings_eq_nil) bs
  simp only [Block.checkedTypes, List.flatMap_cons, List.flatMap_nil, List.append_nil,
    ← List.append_assoc] at htypes
  refine (List.mergeSort_perm _ _).trans (List.Perm.trans ?_ htypes)
  rw [hsettings]
  exact (((hresources.append hdataSources).append hmodules).append_right _).append hinputs

/-- The findings on the configuration of some blocks are in order, and they are what the checks find
  at these blocks: one for each block and each check that it fails, with the place of the block. -/
theorem ofBlocks_findings {bs : List Block} {c : Configuration} (h : ofBlocks bs = .ok c) :
    c.findings.Pairwise Finding.Precedes ∧ c.findings.Perm (bs.flatMap Block.findings) := by
  constructor
  · have hsorted := List.pairwise_mergeSort Finding.atMost_trans Finding.atMost_total
      (c.resources.values.flatMap ResourceEntry.findings ++
        c.dataSources.values.flatMap ResourceEntry.dataFindings ++
        c.modules.values.flatMap ModuleEntry.findings ++
        c.settings.flatMap Settings.findings ++
        c.inputs.values.flatMap VariableEntry.findings)
    exact hsorted.imp Finding.precedes_of_atMost
  · exact (Accounts.of_ofBlocks h).findings_perm

/-- Blocks of all types that checks are about. Two of them are at the same place, and the value of
  `required_version` is no text. -/
def uncheckedBlocks : List Block :=
  [⟨"terraform", [], .ofList [("required_version", .expression "local.version")], [],
      ⟨⟨"main.tf"⟩, 9⟩⟩,
    ⟨"resource", ["aws_vpc", "main"], .ofList [("depends_on", .list [])], [], ⟨⟨"main.tf"⟩, 1⟩⟩,
    ⟨"resource", ["google_storage_bucket", "logs"], .empty, [], ⟨⟨"main.tf"⟩, 5⟩⟩,
    ⟨"data", ["aws_ami", "base"], .ofList [("depends_on", .list [])], [], ⟨⟨"main.tf"⟩, 1⟩⟩,
    ⟨"module", ["net"], .ofList [("source", .string "./net"), ("depends_on", .list [])], [],
      ⟨⟨"a/main.tf"⟩, 2⟩⟩,
    ⟨"variable", ["region"], .empty, [], ⟨⟨"inputs.tf"⟩, 1⟩⟩,
    ⟨"variable", ["size"], .empty, [⟨"validation", [], .empty, [], ⟨⟨"inputs.tf"⟩, 5⟩⟩],
      ⟨⟨"inputs.tf"⟩, 4⟩⟩]

theorem ofBlocks_findings_uncheckedBlocks :
    ∃ c, ofBlocks uncheckedBlocks = .ok c ∧ c.findings.Pairwise Finding.Precedes ∧
      c.findings.Perm (uncheckedBlocks.flatMap Block.findings) ∧
      (uncheckedBlocks.flatMap Block.findings).map (·.code) =
        ["missing-required-version", "missing-tags", "empty-depends-on", "empty-depends-on",
          "empty-depends-on", "variable-without-validation"] := by
  obtain ⟨hsorted, hperm⟩ := @ofBlocks_findings uncheckedBlocks _ rfl
  exact ⟨_, rfl, hsorted, hperm, by decide +kernel⟩

end Configuration

end Terralens
