import Terralens.Proofs.Accounting
import Terralens.Proofs.Overwriting

/-!
# Required providers

A block of settings may say more than once what it requires of a provider, in several of its
`required_providers` blocks. None of this is ever a reason to reject blocks
(`ofBlocks_succeeds_filter_iff`), so the settings keep what the last of them says
(`get?_requiredProvidersOf`). Hence every requirement is kept exactly where all that is said of one
provider is the same (`ofBlocks_requirements`).
-/

namespace Terralens

/-! ### One requirement -/

/-- A requirement is what a value says: a text is a version, a map gives source and version where
  they are texts. -/
structure ProviderRequirement.States (r : ProviderRequirement) (v : Value) : Prop where
  source : ∀ s, r.source = some s ↔
    ∃ entries, v = .map entries ∧ findEntry "source" entries = some (.string s)
  version : ∀ s, r.version = some s ↔ v = .string s ∨
    ∃ entries, v = .map entries ∧ findEntry "version" entries = some (.string s)

theorem bind_string?_eq_some_iff {found : Option Value} {s : String} :
    found.bind Value.string? = some s ↔ found = some (.string s) := by
  cases found with
  | none => simp
  | some v => cases v <;> simp [Value.string?]

theorem ProviderRequirement.states_ofValue (v : Value) : (ofValue v).States v := by
  constructor
  case source =>
      intro s
      cases v <;> simp [ofValue, bind_string?_eq_some_iff]
  case version =>
      intro s
      cases v <;> simp [ofValue, bind_string?_eq_some_iff]

theorem ProviderRequirement.states_iff {r : ProviderRequirement} {v : Value} :
    r.States v ↔ r = ofValue v := by
  constructor
  · intro h
    have hof := states_ofValue v
    have hsource : r.source = (ofValue v).source :=
      Option.ext fun s => (h.source s).trans (hof.source s).symm
    have hversion : r.version = (ofValue v).version :=
      Option.ext fun s => (h.version s).trans (hof.version s).symm
    cases r
    simp_all
  · rintro rfl
    exact states_ofValue v

/-! ### All that a block requires -/

namespace Block

/-- What the `required_providers` blocks inside a block say of a provider, one after the other. -/
def requirementsOf (b : Block) (name : String) : List Value :=
  (b.nested "required_providers").filterMap (·.attributes.get? name)

/-- A block says the same of a provider wherever it says something. -/
def RequiresAlike (b : Block) : Prop :=
  ∀ name, ∀ v ∈ b.requirementsOf name, ∀ w ∈ b.requirementsOf name,
    ∀ r : ProviderRequirement, r.States v ↔ r.States w

end Block

/-- Of several requirements of one provider the last counts. -/
theorem get?_requiredProvidersOf (b : Block) (name : String) :
    (requiredProvidersOf b).get? name =
      (b.requirementsOf name).getLast?.map ProviderRequirement.ofValue := by
  have hmaps : requiredProvidersOf b = .ofList ((b.nested "required_providers").flatMap fun inner =>
      (inner.attributes.map ProviderRequirement.ofValue).entries) := rfl
  rw [hmaps, KeyMap.get?_ofList_flatMap, ← List.getLast?_map, Block.requirementsOf,
    List.map_filterMap]
  simp only [KeyMap.get?_map]

namespace Settings

/-- Settings have every requirement that stands in a block, with the source and version that it was
  written with. -/
def KeepsRequirements (s : Settings) (b : Block) : Prop :=
  ∀ inner ∈ b.nested "required_providers", ∀ name v, inner.attributes.get? name = some v →
    ∃ r, s.requiredProviders.get? name = some r ∧ r.States v

/-- Settings have the last requirement of each provider, and so all of them exactly when they are
  alike. -/
structure KeepsLast (b : Block) (s : Settings) : Prop where
  last : ∀ name r, s.requiredProviders.get? name = some r ↔
    ∃ v, (b.requirementsOf name).getLast? = some v ∧ r.States v
  all : s.KeepsRequirements b ↔ b.RequiresAlike

theorem keepsRequirements_iff {s : Settings} {b : Block} :
    s.KeepsRequirements b ↔ ∀ name, ∀ v ∈ b.requirementsOf name,
      ∃ r, s.requiredProviders.get? name = some r ∧ r.States v := by
  simp only [KeepsRequirements, Block.requirementsOf, List.mem_filterMap]
  constructor
  · rintro h name v ⟨inner, hinner, hv⟩
    exact h inner hinner name v hv
  · intro h inner hinner name v hv
    exact h name v ⟨inner, hinner, hv⟩

theorem keepsLast_ofBlock (b : Block) : KeepsLast b (ofBlock b) := by
  have hlast : ∀ name r, (ofBlock b).requiredProviders.get? name = some r ↔
      ∃ v, (b.requirementsOf name).getLast? = some v ∧ r.States v := by
    intro name r
    change (requiredProvidersOf b).get? name = some r ↔ _
    rw [get?_requiredProvidersOf, Option.map_eq_some_iff]
    simp only [ProviderRequirement.states_iff, eq_comm]
  refine ⟨hlast, keepsRequirements_iff.trans ?_⟩
  constructor
  · -- Two requirements of one provider are both what is kept.
    intro hkeeps name v hv w hw r
    obtain ⟨kept, hkept, hstates⟩ := hkeeps name v hv
    obtain ⟨kept', hkept', hstates'⟩ := hkeeps name w hw
    obtain rfl : kept = kept' := Option.some.inj (hkept.symm.trans hkept')
    rw [ProviderRequirement.states_iff] at hstates hstates' ⊢
    rw [ProviderRequirement.states_iff, ← hstates, ← hstates']
  · intro halike name v hv
    have hne : b.requirementsOf name ≠ [] := List.ne_nil_of_mem hv
    have hget := List.getLast?_eq_some_getLast hne
    have hstates := ProviderRequirement.states_ofValue ((b.requirementsOf name).getLast hne)
    refine ⟨_, (hlast name _).mpr ⟨_, hget, hstates⟩, ?_⟩
    exact (halike name v hv _ (List.getLast_mem hne) _).mpr hstates

end Settings

namespace Configuration

/-! ### Settings among other blocks -/

theorem defines_settings {b : Block} (h : b.type = "terraform") : b.defines = [] := by
  simp [Block.defines, h]

theorem labelled_settings {b : Block} (h : b.type = "terraform") : b.Labelled := by
  simp [Block.Labelled, Block.labelsNeeded, h]

/-- Settings are no reason to reject blocks, whatever they require. -/
theorem ofBlocks_succeeds_filter_iff (bs : List Block) :
    (∃ c, ofBlocks (bs.filter (·.type ≠ "terraform")) = .ok c) ↔ ∃ c, ofBlocks bs = .ok c := by
  simp only [ofBlocks_eq_ok_iff, exists_and_left, exists_eq', and_true, addBlocks_succeeds_iff,
    List.pairwise_filter, List.mem_filter, decide_eq_true_eq]
  refine and_congr ?_ (and_congr ?_ ?_)
  · constructor
    · intro h b hb
      by_cases htype : b.type = "terraform"
      · exact labelled_settings htype
      · exact h b ⟨hb, htype⟩
    · intro h b hb
      exact h b hb.1
  · simp [not_defines_empty]
  · -- What defines nothing is apart from everything.
    refine List.Pairwise.iff fun a b => ?_
    constructor
    · intro h n hn hn'
      refine h ?_ ?_ n hn hn'
      · intro htype
        simp [defines_settings htype] at hn
      · intro htype
        simp [defines_settings htype] at hn'
    · intro h _ _
      exact h

/-- What a block of settings requires of providers is never a reason to reject blocks; and the
  settings have the last requirement of each provider only, so a block has all its requirements kept
  exactly when those of one provider are alike. -/
theorem ofBlocks_requirements (bs : List Block) :
    ((∃ c, ofBlocks bs = .ok c) ↔ ∃ c, ofBlocks (bs.filter (·.type ≠ "terraform")) = .ok c) ∧
      ∀ c, ofBlocks bs = .ok c →
        List.Forall₂ Settings.KeepsLast (ofType "terraform" bs) c.settings := by
  refine ⟨(ofBlocks_succeeds_filter_iff bs).symm, ?_⟩
  intro c hc
  rw [(Accounts.of_ofBlocks hc).settings, List.forall₂_map_right_iff, List.forall₂_same]
  intro b _
  rw [← Settings.ofBlock_eq b]
  exact Settings.keepsLast_ofBlock b

/-- Settings that require two versions of one provider. -/
def disagreeingBlocks : List Block :=
  [⟨"terraform", [], .empty,
    [⟨"required_providers", [],
        .ofList [("aws",
          .map [("source", .string "hashicorp/aws"), ("version", .string "~> 4.0")])],
        [], ⟨⟨"main.tf"⟩, 2⟩⟩,
      ⟨"required_providers", [], .ofList [("aws", .string "~> 5.0")], [], ⟨⟨"main.tf"⟩, 9⟩⟩],
    ⟨⟨"main.tf"⟩, 1⟩⟩]

/-- They are accepted, but one of the two versions is gone. -/
theorem not_keepsRequirements_disagreeingBlocks :
    ∃ c, ofBlocks disagreeingBlocks = .ok c ∧
      ¬ List.Forall₂ (fun b s => Settings.KeepsRequirements s b)
        (ofType "terraform" disagreeingBlocks) c.settings := by
  refine ⟨_, rfl, ?_⟩
  intro hkeeps
  obtain ⟨hfirst, -⟩ := List.forall₂_cons.mp hkeeps
  obtain ⟨r, hr, hstates⟩ := hfirst _ (.head _) "aws"
    (.map [("source", .string "hashicorp/aws"), ("version", .string "~> 4.0")]) rfl
  have hlast : r = ⟨none, some "~> 5.0"⟩ := by
    cases hr
    rfl
  have hsource := (hstates.source "hashicorp/aws").mpr ⟨_, rfl, rfl⟩
  rw [hlast] at hsource
  cases hsource

end Configuration

end Terralens
