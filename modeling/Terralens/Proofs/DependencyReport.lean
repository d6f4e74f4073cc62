import Terralens.Proofs.Analysis
import Terralens.Proofs.Dependencies
import Terralens.Proofs.EntryRef
import Terralens.Proofs.Overwriting
import Terralens.Report.Json

/-!
# Dependencies in a JSON report

A report lists what an entry refers to under the name that the entry is written with, and counts
all dependencies in its summary. Entries of different kinds can be written alike, and then the
list of the last one stands for all of them. Only resources are keys that are written without
their kind, so of two keys that are written alike the first is a resource, and it is its list that
is lost (`keeps_namedTargets_iff`). So a report loses nothing exactly when no resource with
dependencies is written like another key (`analysisJson_losesNone_iff`).
-/

namespace Terralens

open Std (OrientedCmp LawfulEqCmp)
open Text (Json)

namespace Text.Json

/-! ### Reading values -/

/-- The first member of an object that has a name. -/
def member? (name : String) : Json → Option Json
  | .object members => members.lookup name
  | _ => none

@[simp] theorem member?_object (name : String) (members : List (String × Json)) :
    (object members).member? name = members.lookup name := rfl

def asString? : Json → Option String
  | .string s => some s
  | _ => none

def asStrings? : Json → Option (List String)
  | .array items => items.mapM asString?
  | _ => none

theorem asStrings?_strings (names : List String) : (strings names).asStrings? = some names := by
  change (names.map Json.string).mapM asString? = some names
  induction names with
  | nil => rfl
  | cons name rest ih => simp [List.mapM_cons, asString?, ih]

theorem nat_inj {m n : Nat} : nat m = nat n ↔ m = n := by
  constructor
  · intro h
    have htext : m.repr = n.repr := Json.number.inj h
    rw [Nat.repr_eq_ofList_toDigits, Nat.repr_eq_ofList_toDigits] at htext
    have hdigits := String.ofList_injective htext
    rw [← Nat.ofDigitChars_ten_toDigits (n := m), hdigits, Nat.ofDigitChars_ten_toDigits]
  · exact congrArg nat

end Text.Json

namespace Report

/-! ### Reading a report -/

/-- The names that a report lists under a name. -/
def listedUnder (report : Json) (name : String) : Option (List String) := do
  let lists ← report.member? "dependencies"
  (← lists.member? name).asStrings?

/-- The number of names that a report lists under all names. -/
def listedCount (report : Json) : Nat :=
  match report.member? "dependencies" with
  | some (.object lists) => (lists.map fun l => (l.2.asStrings?.getD []).length).sum
  | _ => 0

/-- The number of dependencies that the summary of a report gives. -/
def summaryCount (report : Json) : Option Json := do
  (← report.member? "summary").member? "total_dependency_edges"

/-- A report loses no dependency: under the name of every key it lists all its targets, and it
  lists as many names as its summary counts. -/
structure LosesNone (m : DependencyMap) (report : Json) : Prop where
  listed : ∀ r targets, (r, targets) ∈ m.entries →
    ∃ names, listedUnder report r.text = some names ∧ ∀ t ∈ targets.toList, t.text ∈ names
  counted : summaryCount report = some (.nat (listedCount report))

theorem lookup_map_entries {κ ν μ : Type} [Ord κ] [BEq κ] [LawfulBEq κ] [Std.LawfulEqOrd κ]
    (f : ν → μ) (m : KeyMap κ ν) (k : κ) :
    (m.entries.map fun e => (e.1, f e.2)).lookup k = (m.get? k).map f := by
  unfold KeyMap.get?
  induction m.entries with
  | nil => rfl
  | cons e rest ih =>
      obtain ⟨k', v⟩ := e
      by_cases hk : k = k'
      · subst hk
        simp [findEntry_cons_self]
      · rw [findEntry_cons_of_ne hk, ← ih]
        simp [List.lookup_cons, beq_false_of_ne hk]

variable (timestamp : String) (a : Analysis)

theorem member?_dependencies : (analysisJson timestamp a).member? "dependencies" =
    some (.object ((dependencyNames a.dependencies).entries.map fun e => (e.1, .strings e.2))) := by
  simp [analysisJson, List.lookup_cons]

theorem listedUnder_analysisJson (name : String) :
    listedUnder (analysisJson timestamp a) name = (dependencyNames a.dependencies).get? name := by
  simp only [listedUnder, member?_dependencies, Option.bind_eq_bind, Option.bind_some,
    Json.member?_object, lookup_map_entries]
  cases (dependencyNames a.dependencies).get? name with
  | none => rfl
  | some names => exact Json.asStrings?_strings names

theorem listedCount_analysisJson : listedCount (analysisJson timestamp a) =
    weight List.length (dependencyNames a.dependencies).entries := by
  simp [listedCount, member?_dependencies, weight, Json.asStrings?_strings, Function.comp_def]

theorem summaryCount_analysisJson :
    summaryCount (analysisJson timestamp a) = some (.nat (dependencyCount a.dependencies)) := by
  simp [summaryCount, analysisJson, summaryJson, List.lookup_cons]

/-! ### What a report keeps -/

/-- What each key of a map refers to, by the names that the entries are written with. -/
def namedTargets (m : DependencyMap) : List (String × List String) :=
  m.entries.map fun e => (e.1.text, e.2.toList.map EntryRef.text)

theorem dependencyNames_eq (m : DependencyMap) : dependencyNames m = .ofList (namedTargets m) := rfl

theorem dependencyCount_eq (m : DependencyMap) :
    dependencyCount m = weight List.length (namedTargets m) := by
  simp [dependencyCount, weight, namedTargets, KeyMap.values, KeyMap.size, KeySet.toList,
    KeyMap.keys, List.sum_eq_foldr, Function.comp_def]

/-- A report loses nothing exactly when no key with targets is written like a later one. -/
theorem losesNone_iff_keeps : LosesNone a.dependencies (analysisJson timestamp a) ↔
    Keeps List.length (namedTargets a.dependencies) := by
  have hcounted : summaryCount (analysisJson timestamp a) =
      some (.nat (listedCount (analysisJson timestamp a))) ↔
        Keeps List.length (namedTargets a.dependencies) := by
    rw [summaryCount_analysisJson, listedCount_analysisJson, dependencyCount_eq,
      dependencyNames_eq, Option.some_inj, Json.nat_inj, eq_comm, KeyMap.weight_ofList_eq_iff]
  constructor
  · intro h
    exact hcounted.mp h.counted
  · intro h
    refine ⟨?_, hcounted.mpr h⟩
    intro r targets hmem
    have hnamed : (r.text, targets.toList.map EntryRef.text) ∈ namedTargets a.dependencies :=
      List.mem_map.mpr ⟨_, hmem, rfl⟩
    simp only [listedUnder_analysisJson, dependencyNames_eq]
    -- The list of a key without targets may be another's, but there is one under its name.
    by_cases hempty : targets.toList = []
    · obtain ⟨names, hnames⟩ := KeyMap.mem_keys_iff.mp (KeyMap.mem_keys_ofList.mpr ⟨_, hnamed⟩)
      refine ⟨names, KeyMap.get?_eq_some_iff.mpr hnames, ?_⟩
      simp [hempty]
    · refine ⟨_, KeyMap.get?_ofList_of_keeps h hnamed (by simpa using hempty), ?_⟩
      intro t ht
      exact List.mem_map_of_mem ht

end Report

/-! ### Keys that are written alike -/

/-- A key of a map is hidden when it is a resource and another key is written like it. -/
def IsHidden (m : DependencyMap) (r : EntryRef) : Prop :=
  r.kind = .resource ∧ ∃ s ∈ m.keys, s ≠ r ∧ s.text = r.text

instance (m : DependencyMap) (r : EntryRef) : Decidable (IsHidden m r) :=
  inferInstanceAs (Decidable (_ ∧ ∃ s ∈ m.keys, _))

/-- Of the keys of dependencies, only resources are written without their kind. -/
theorem Configuration.kind_of_mem_dependencies {c : Configuration} {r : EntryRef}
    (h : r ∈ c.dependencies.keys) : r.kind = .resource ∨ r.kind.isBare = false := by
  rw [dependencies_eq] at h
  obtain ⟨targets, hmem⟩ := KeyMap.mem_keys_ofList.mp h
  obtain ⟨x, -, hx⟩ := List.mem_map.mp hmem
  obtain ⟨rfl, -⟩ := Prod.mk.inj hx
  cases x with
  | resource e => exact .inl rfl
  | dataSource e => exact .inr rfl
  | output e => exact .inr rfl
  | «local» e => exact .inr rfl
  | module e => exact .inr rfl

/-- Of two keys that are written alike the first is a resource. -/
theorem Configuration.kind_eq_resource_of_text {c : Configuration} {r s : EntryRef}
    (hr : r ∈ c.dependencies.keys) (hs : s ∈ c.dependencies.keys) (hlt : compare r s = .lt)
    (htext : r.text = s.text) : r.kind = .resource := by
  rcases kind_of_mem_dependencies hr with hresource | hr
  · exact hresource
  · rcases kind_of_mem_dependencies hs with hs | hs
    · exact EntryRef.kind_eq_resource_of_lt hlt hs
    · have hsame := EntryRef.eq_of_kind_of_text (EntryRef.kind_eq_of_text hr hs htext) htext
      exact absurd hsame (ne_of_compare_lt hlt)

/-- No list is lost exactly when the hidden keys have no targets. -/
theorem Configuration.keeps_namedTargets_iff (c : Configuration) :
    Keeps List.length (Report.namedTargets c.dependencies) ↔
      ∀ e ∈ c.dependencies.entries, IsHidden c.dependencies e.1 → e.2.toList = [] := by
  unfold Keeps Report.namedTargets
  rw [List.pairwise_map, c.dependencies.ordered.pairwise_iff]
  constructor
  · rintro h ⟨r, targets⟩ hmem ⟨hkind, s, hs, hne, htext⟩
    have hr : r ∈ c.dependencies.keys := KeyMap.mem_keys_iff.mpr ⟨targets, hmem⟩
    have hlt : compare r s = .lt := by
      cases hcompare : compare r s with
      | lt => rfl
      | eq => exact absurd (LawfulEqCmp.eq_of_compare hcompare).symm hne
      | gt =>
          -- Then the other key is a resource too, and the same one.
          have hkind' := kind_eq_resource_of_text hs hr (OrientedCmp.lt_of_gt hcompare) htext
          exact absurd (EntryRef.eq_of_kind_of_text (hkind'.trans hkind.symm) htext) hne
    obtain ⟨others, hs⟩ := KeyMap.mem_keys_iff.mp hs
    simpa using h (r, targets) hmem (s, others) hs hlt htext.symm
  · rintro h ⟨r, targets⟩ hr ⟨s, others⟩ hs hlt htext
    have hr' : r ∈ c.dependencies.keys := KeyMap.mem_keys_iff.mpr ⟨targets, hr⟩
    have hs' : s ∈ c.dependencies.keys := KeyMap.mem_keys_iff.mpr ⟨others, hs⟩
    have hkind := kind_eq_resource_of_text hr' hs' hlt htext
    have hempty := h (r, targets) hr ⟨hkind, s, hs', (ne_of_compare_lt hlt).symm, htext.symm⟩
    simp [hempty]

/-- The report on the files of a directory loses no dependency exactly when no resource with
  dependencies is written like another key. The later of two keys that are displayed alike takes the
  place of the earlier one, and resources come first. -/
theorem Report.analysisJson_losesNone_iff {directory : Path} {files : List SourceFile}
    {a : Analysis} (h : analyzeFiles directory files = .ok a) (timestamp : String) :
    LosesNone a.dependencies (analysisJson timestamp a) ↔
      ∀ e ∈ a.dependencies.entries, IsHidden a.dependencies e.1 → e.2.toList = [] := by
  obtain ⟨c, -, rfl⟩ := analyzeFiles_eq_ok_iff.mp h
  rw [losesNone_iff_keeps]
  exact c.keeps_namedTargets_iff

/-- A network, a resource of some type that refers to it, and an output with the name of that
  resource. -/
def networkFiles (type : String) : List SourceFile :=
  [⟨⟨"main.tf"⟩, "resource \"aws_vpc\" \"main\" \x7b\n\x7d\n\n" ++
    "resource \"" ++ type ++ "\" \"id\" \x7b\n  vpc = aws_vpc.main.id\n\x7d\n\n" ++
    "output \"id\" \x7b\n  value = \"x\"\n\x7d\n", .terraform⟩]

theorem Report.analysisJson_losesNone_networkFiles :
    ∃ a, analyzeFiles ⟨"."⟩ (networkFiles "aws_subnet") = .ok a ∧
      LosesNone a.dependencies (analysisJson "2025-01-01T00:00:00+00:00" a) := by
  have hany : (analyzeFiles ⟨"."⟩ (networkFiles "aws_subnet")).toOption.any fun a =>
      ∀ e ∈ a.dependencies.entries, IsHidden a.dependencies e.1 → e.2.toList = [] := by
    decide +kernel
  obtain ⟨a, ha, hhidden⟩ := exists_analysis_of_any hany
  exact ⟨a, ha, (analysisJson_losesNone_iff ha _).mpr (of_decide_eq_true hhidden)⟩

/-- With a resource of the type `output` the summary counts a dependency, but none is listed. -/
theorem Report.not_losesNone_networkFiles :
    ∃ a, analyzeFiles ⟨"."⟩ (networkFiles "output") = .ok a ∧
      ¬ LosesNone a.dependencies (analysisJson "2025-01-01T00:00:00+00:00" a) := by
  have hany : (analyzeFiles ⟨"."⟩ (networkFiles "output")).toOption.any fun a =>
      dependencyCount a.dependencies = 1 ∧
        weight List.length (dependencyNames a.dependencies).entries = 0 := by
    decide +kernel
  obtain ⟨a, ha, hcounts⟩ := exists_analysis_of_any hany
  obtain ⟨hcount, hlisted⟩ := of_decide_eq_true hcounts
  refine ⟨a, ha, ?_⟩
  intro h
  have hcounted := h.counted
  rw [summaryCount_analysisJson, listedCount_analysisJson, hcount, hlisted, Option.some_inj,
    Json.nat_inj] at hcounted
  cases hcounted

end Terralens
