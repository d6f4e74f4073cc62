import Terralens.Proofs.Accounting

/-!
# Runs of documents

A run of documents succeeds exactly when the run of all their blocks does, as assignments
define no entries (`addDocuments_succeeds_iff`). The configuration then accounts for these
blocks and for the assignments: those in files of variable values give their names values, the
others are kept in their order (`Collects`).
-/

namespace Terralens

def Document.given (d : Document) : List Assignment := if d.kind = .tfvars then d.assignments else []

def Document.stray (d : Document) : List Assignment := if d.kind = .tfvars then [] else d.assignments

namespace Configuration

/-! ### Assignments -/

def withValues (values : KeyMap String VariableValue) (given : List Assignment) :
    KeyMap String VariableValue :=
  given.foldl (fun m a => m.insert a.name ⟨a.value, a.location⟩) values

theorem mem_keys_withValues {values : KeyMap String VariableValue} {given : List Assignment}
    {name : String} :
    name ∈ (withValues values given).keys ↔ name ∈ values.keys ∨ ∃ a ∈ given, a.name = name := by
  induction given generalizing values with
  | nil => simp [withValues]
  | cons a rest ih =>
      have hrest := @ih (values.insert a.name ⟨a.value, a.location⟩)
      rw [withValues] at hrest
      rw [withValues, List.foldl_cons, hrest, KeyMap.mem_keys_insert]
      simp only [List.mem_cons, exists_eq_or_imp, eq_comm (a := name)]
      tauto

theorem foldl_addAssignment_tfvars (assignments : List Assignment) (c : Configuration) :
    assignments.foldl (addAssignment .tfvars) c =
      { c with variableValues := withValues c.variableValues assignments } := by
  induction assignments generalizing c with
  | nil => rfl
  | cons a rest ih => exact ih _

theorem foldl_addAssignment_of_ne {kind : FileKind} (hkind : kind ≠ .tfvars)
    (assignments : List Assignment) (c : Configuration) :
    assignments.foldl (addAssignment kind) c =
      { c with strayAttributes := c.strayAttributes ++ assignments } := by
  have hadd : ∀ c a, addAssignment kind c a =
      { c with strayAttributes := c.strayAttributes ++ [a] } := by
    intro c a
    cases kind with
    | tfvars => exact absurd rfl hkind
    | _ => rfl
  induction assignments generalizing c with
  | nil => simp
  | cons a rest ih => simp [hadd, ih]

theorem foldl_addAssignment (d : Document) (c : Configuration) :
    d.assignments.foldl (addAssignment d.kind) c =
      { c with
        variableValues := withValues c.variableValues d.given
        strayAttributes := c.strayAttributes ++ d.stray } := by
  by_cases hkind : d.kind = .tfvars
  · rw [hkind, foldl_addAssignment_tfvars]
    simp [Document.given, Document.stray, hkind]
  · rw [foldl_addAssignment_of_ne hkind]
    simp [Document.given, Document.stray, hkind, withValues]

/-! ### Runs -/

theorem addDocument_succeeds_iff {c : Configuration} {d : Document} :
    (c.addDocument d).error? = none ↔ (c.addBlocks d.blocks).error? = none := by
  unfold addDocument
  cases h : (c.addBlocks d.blocks).error? with
  | none => simp [h, Extraction.done]
  | some e => simp [h]

theorem configuration_addDocument {c : Configuration} {d : Document}
    (h : (c.addDocument d).error? = none) :
    (c.addDocument d).configuration =
      { (c.addBlocks d.blocks).configuration with
        variableValues := withValues c.variableValues d.given
        strayAttributes := c.strayAttributes ++ d.stray } := by
  have hblocks := addDocument_succeeds_iff.mp h
  obtain ⟨hvalues, hstray⟩ := addBlocks_keeps_assignments hblocks
  unfold addDocument
  simp only [hblocks, Option.isSome_none, Bool.false_eq_true, if_false, Extraction.done]
  rw [foldl_addAssignment, hvalues, hstray]

theorem addDocuments_cons_succeeds_iff {c : Configuration} {d : Document} {ds : List Document} :
    (c.addDocuments (d :: ds)).error? = none ↔
      (c.addDocument d).error? = none ∧
        ((c.addDocument d).configuration.addDocuments ds).error? = none := by
  cases h : (c.addDocument d).error? with
  | none => simp [addDocuments, h]
  | some e => simp [addDocuments, h]

theorem addDocuments_cons_of_succeeds {c : Configuration} {d : Document}
    (h : (c.addDocument d).error? = none) (ds : List Document) :
    c.addDocuments (d :: ds) = (c.addDocument d).configuration.addDocuments ds := by
  simp [addDocuments, h]

/-- Whether blocks can be added depends only on what is defined. -/
theorem addBlocks_succeeds_congr {c c' : Configuration} (h : ∀ n, c.Defines n ↔ c'.Defines n)
    (bs : List Block) : (c.addBlocks bs).error? = none ↔ (c'.addBlocks bs).error? = none := by
  simp only [addBlocks_succeeds_iff, h]

/-- A run of documents succeeds exactly when the run of all their blocks does. -/
theorem addDocuments_succeeds_iff {c : Configuration} {ds : List Document} :
    (c.addDocuments ds).error? = none ↔ (c.addBlocks (ds.flatMap (·.blocks))).error? = none := by
  induction ds generalizing c with
  | nil => simp [addDocuments, addBlocks, Extraction.done]
  | cons d rest ih =>
      rw [addDocuments_cons_succeeds_iff, ih, List.flatMap_cons, addBlocks_append_succeeds_iff,
        addDocument_succeeds_iff]
      refine and_congr_right fun hblocks => ?_
      refine addBlocks_succeeds_congr (fun n => ?_) _
      rw [configuration_addDocument (addDocument_succeeds_iff.mpr hblocks)]
      cases n <;> rfl

/-- A configuration holds what documents define, and what they assign. -/
structure Collects (ds : List Document) (c : Configuration) : Prop where
  accounts : Accounts (ds.flatMap (·.blocks)) c
  stray : c.strayAttributes = ds.flatMap (·.stray)
  values : ∀ name, name ∈ c.variableValues.keys ↔ ∃ d ∈ ds, ∃ a ∈ d.given, a.name = name

theorem collects_empty : Collects [] empty :=
  ⟨accounts_empty, rfl, by simp [empty, KeyMap.keys]⟩

theorem Collects.document {ds : List Document} {c : Configuration} (h : Collects ds c)
    {d : Document} (hok : (c.addDocument d).error? = none) :
    Collects (ds ++ [d]) (c.addDocument d).configuration := by
  rw [configuration_addDocument hok]
  constructor
  case accounts =>
      have haccounts := accounts_addBlocks h.accounts (addDocument_succeeds_iff.mp hok)
      rw [List.flatMap_append, List.flatMap_singleton]
      exact { haccounts with }
  case stray => simp [h.stray]
  case values =>
      intro name
      rw [mem_keys_withValues, h.values]
      simp [or_and_right, exists_or]

theorem collects_addDocuments {ds more : List Document} {c : Configuration} (h : Collects ds c)
    (hok : (c.addDocuments more).error? = none) :
    Collects (ds ++ more) (c.addDocuments more).configuration := by
  induction more generalizing ds c with
  | nil => simpa [addDocuments, Extraction.done] using h
  | cons d rest ih =>
      obtain ⟨hfirst, hrest⟩ := addDocuments_cons_succeeds_iff.mp hok
      rw [addDocuments_cons_of_succeeds hfirst, List.append_cons]
      exact ih (h.document hfirst) hrest

theorem ofDocuments_eq_ok_iff {ds : List Document} {c : Configuration} :
    ofDocuments ds = .ok c ↔
      (empty.addDocuments ds).error? = none ∧ (empty.addDocuments ds).configuration = c :=
  toExcept_eq_ok_iff

/-- Documents define a configuration exactly when all their blocks together do. -/
theorem ofDocuments_succeeds_iff {ds : List Document} :
    (∃ c, ofDocuments ds = .ok c) ↔
      (∀ b ∈ ds.flatMap (·.blocks), b.Labelled) ∧
        (ds.flatMap (·.blocks)).Pairwise DefineApart := by
  simp only [ofDocuments_eq_ok_iff]
  rw [exists_and_left, addDocuments_succeeds_iff, addBlocks_succeeds_iff]
  simp [not_defines_empty]

theorem DefineApart.symm {a b : Block} (h : DefineApart a b) : DefineApart b a :=
  fun n hb ha => h n ha hb

/-- Whether documents define a configuration does not depend on their order. -/
theorem ofDocuments_succeeds_perm {ds ds' : List Document} (hperm : ds.Perm ds') :
    (∃ c, ofDocuments ds = .ok c) ↔ ∃ c, ofDocuments ds' = .ok c := by
  have hblocks : (ds.flatMap (·.blocks)).Perm (ds'.flatMap (·.blocks)) := hperm.flatMap_right _
  rw [ofDocuments_succeeds_iff, ofDocuments_succeeds_iff,
    hblocks.pairwise_iff DefineApart.symm]
  simp only [hblocks.mem_iff]

theorem collects_of_ofDocuments {ds : List Document} {c : Configuration}
    (h : ofDocuments ds = .ok c) : Collects ds c := by
  obtain ⟨hok, rfl⟩ := ofDocuments_eq_ok_iff.mp h
  simpa using collects_addDocuments collects_empty hok

end Configuration

end Terralens
