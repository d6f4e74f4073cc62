import Terralens.Lint
import Terralens.Proofs.Analysis
import Terralens.Proofs.Documents
import Terralens.Proofs.Orders
import Terralens.Proofs.Sorting

/-!
# The order of files

The files of a directory may be analyzed in any order, as long as their paths differ. Whether
the analysis succeeds, the entries, the dependencies, the errors of files set aside and the
findings are the same; what is kept in the order of the files is permuted with them
(`analyzeFiles_perm`). Only the value a variable ends up with may depend on the order.

Entries are kept by their keys, so permuted blocks give equal collections
(`Collects.sameUpToOrder`). Errors and findings are sorted. No two errors are about the same
file, and two findings about settings are tied only when they lie at the same place of the same
file, so that they are equal.
-/

namespace Terralens

/-! ### Configurations up to order -/

namespace Configuration

/-- Two configurations hold the same, what has no key up to its order, and values for the same
  variables. The values themselves may differ, as of several for one variable the last counts. -/
structure SameUpToOrder (c c' : Configuration) : Prop where
  resources : c.resources = c'.resources
  dataSources : c.dataSources = c'.dataSources
  inputs : c.inputs = c'.inputs
  outputs : c.outputs = c'.outputs
  locals : c.locals = c'.locals
  modules : c.modules = c'.modules
  providers : c.providers.Perm c'.providers
  settings : c.settings.Perm c'.settings
  unrecognized : c.unrecognized.Perm c'.unrecognized
  strayAttributes : c.strayAttributes.Perm c'.strayAttributes
  givenVariables : ∀ name, name ∈ c.variableValues.keys ↔ name ∈ c'.variableValues.keys

theorem Collects.sameUpToOrder {ds ds' : List Document} {c c' : Configuration}
    (h : Collects ds c) (h' : Collects ds' c') (hperm : ds.Perm ds') : SameUpToOrder c c' := by
  have hblocks : (ds.flatMap (·.blocks)).Perm (ds'.flatMap (·.blocks)) := hperm.flatMap_right _
  have htype : ∀ type, (ofType type (ds.flatMap (·.blocks))).Perm
      (ofType type (ds'.flatMap (·.blocks))) := fun type => hblocks.filter _
  -- Maps with the same entries are equal; lists agree only up to the order of the files.
  have heq : ∀ {κ ν : Type} [Ord κ] [Std.TransOrd κ] [Std.LawfulEqOrd κ] {m m' : KeyMap κ ν}
      {entries entries' : List (κ × ν)}, m.entries.Perm entries → m'.entries.Perm entries' →
      entries.Perm entries' → m = m' :=
    fun hm hm' hentries => KeyMap.ext_of_perm (hm.trans (hentries.trans hm'.symm))
  have haccounts := h.accounts
  have haccounts' := h'.accounts
  constructor
  case resources => exact heq haccounts.resources haccounts'.resources ((htype _).map _)
  case dataSources => exact heq haccounts.dataSources haccounts'.dataSources ((htype _).map _)
  case inputs => exact heq haccounts.inputs haccounts'.inputs ((htype _).map _)
  case outputs => exact heq haccounts.outputs haccounts'.outputs ((htype _).map _)
  case locals => exact heq haccounts.locals haccounts'.locals ((htype _).flatMap_right _)
  case modules => exact heq haccounts.modules haccounts'.modules ((htype _).map _)
  case providers =>
      rw [haccounts.providers, haccounts'.providers]
      exact (htype _).map _
  case settings =>
      rw [haccounts.settings, haccounts'.settings]
      exact (htype _).map _
  case unrecognized =>
      rw [haccounts.unrecognized, haccounts'.unrecognized]
      exact (hblocks.filter _).map _
  case strayAttributes =>
      rw [h.stray, h'.stray]
      exact hperm.flatMap_right _
  case givenVariables =>
      intro name
      rw [h.values, h'.values]
      simp only [hperm.mem_iff]

theorem SameUpToOrder.dependencies_eq {c c' : Configuration} (h : SameUpToOrder c c') :
    c.dependencies = c'.dependencies := by
  simp only [dependencies, entryTexts, knownEntries, h.resources, h.dataSources, h.inputs,
    h.outputs, h.locals, h.modules]

theorem code_of_mem_settings_findings {s : Settings} {f : Finding} (h : f ∈ s.findings) :
    f = ⟨"missing-required-version", .suggestion, "consider adding a required_version constraint",
      s.location⟩ := by
  unfold Settings.findings at h
  split at h
  · simpa using h
  · cases h

/-- The findings are the same when no settings of different files lie at the same path. -/
theorem SameUpToOrder.findings_eq {c c' : Configuration} (h : SameUpToOrder c c')
    (hpaths : ∀ s ∈ c.settings, ∀ t ∈ c.settings, s.location.file.same t.location.file →
      s.location.file = t.location.file) : c.findings = c'.findings := by
  -- All other findings are listed from collections in key order, so they are the same lists.
  have hties : ∀ f ∈ c.settings.flatMap Settings.findings,
      ∀ g ∈ c.settings.flatMap Settings.findings, f.atMost g → g.atMost f → f = g := by
    intro f hf g hg hfg hgf
    obtain ⟨s, hs, hf⟩ := List.mem_flatMap.mp hf
    obtain ⟨t, ht, hg⟩ := List.mem_flatMap.mp hg
    obtain ⟨hfile, hline, -⟩ := Finding.tied hfg hgf
    rw [code_of_mem_settings_findings hf, code_of_mem_settings_findings hg] at hfile hline ⊢
    have hlocation : s.location = t.location := by
      have hpath := hpaths s hs t ht hfile
      cases hsl : s.location
      cases htl : t.location
      simp_all
    rw [hlocation]
  unfold findings
  rw [← h.resources, ← h.dataSources, ← h.modules, ← h.inputs]
  exact mergeSort_append_of_perm Finding.atMost_trans Finding.atMost_total
    (h.settings.flatMap_right _) hties _ _

end Configuration

/-! ### Analyses -/

theorem Configuration.Collects.location_settings {files : List SourceFile} {c : Configuration}
    (h : Collects (documentsOf files) c) {s : Settings} (hs : s ∈ c.settings) :
    ∃ f ∈ files, s.location.file = f.path := by
  rw [h.accounts.settings] at hs
  obtain ⟨b, hb, rfl⟩ := List.mem_map.mp hs
  obtain ⟨f, hf, -, hfile⟩ := exists_file_of_block (List.mem_filter.mp hb).1
  exact ⟨f, hf, hfile⟩

namespace Analysis

/-- Two analyses agree, in what is kept in the order of the files up to that order. -/
structure SameUpToOrder (a a' : Analysis) : Prop where
  configuration : a.configuration.SameUpToOrder a'.configuration
  dependencies : a.dependencies = a'.dependencies
  parseErrors : a.parseErrors = a'.parseErrors
  findings : a.configuration.findings = a'.configuration.findings
  files : a.files.Perm a'.files

end Analysis

/-- The errors of files with different paths are sorted in one way only. -/
theorem sortByFile_errorsOf {files : List SourceFile}
    (hunique : ∀ f ∈ files, ∀ g ∈ files, f.path.same g.path → f = g) {errors : List Error}
    (hperm : (errorsOf files).Perm errors) :
    Error.sortByFile (errorsOf files) = Error.sortByFile errors := by
  -- Tied errors are about the same file, and a file has one document or one error.
  have hties : ∀ e ∈ errorsOf files, ∀ e' ∈ errorsOf files, e.atMost e' → e'.atMost e →
      e = e' := by
    intro e he e' he' hle hge
    obtain ⟨f, hf, hdocument⟩ := mem_errorsOf_iff.mp he
    obtain ⟨g, hg, hdocument'⟩ := mem_errorsOf_iff.mp he'
    rw [Error.atMost, SourceFile.document_eq_error hdocument,
      SourceFile.document_eq_error hdocument'] at hle hge
    have hfile := hunique f hf g hg (Path.same_of_atMost hle hge)
    rw [hfile, hdocument'] at hdocument
    exact (Except.error.inj hdocument).symm
  simpa [Error.sortByFile] using
    mergeSort_append_of_perm Error.atMost_trans Error.atMost_total hperm hties [] []

/-- The order of files with different paths does not matter to their analysis. In every order it
  succeeds, or in none; the entries, dependencies, findings and errors are the same, and what is
  kept in the order of the files is the same up to that order. -/
theorem analyzeFiles_perm (directory : Path) {files files' : List SourceFile}
    (hperm : files.Perm files')
    (hpaths : files.Pairwise fun f g => f.path.same g.path = false) :
    ((∃ a, analyzeFiles directory files = .ok a) ↔ ∃ a, analyzeFiles directory files' = .ok a) ∧
      ∀ a a', analyzeFiles directory files = .ok a → analyzeFiles directory files' = .ok a' →
        a.SameUpToOrder a' := by
  have hdocuments : (documentsOf files).Perm (documentsOf files') :=
    (hperm.map SourceFile.document).filterMap _
  have herrors : (errorsOf files).Perm (errorsOf files') :=
    (hperm.map SourceFile.document).filterMap _
  have hunique := SourceFile.eq_of_same_path hpaths
  constructor
  · rw [analyzeFiles_succeeds_iff, analyzeFiles_succeeds_iff]
    exact Configuration.ofDocuments_succeeds_perm hdocuments
  · intro a a' h h'
    obtain ⟨c, hc, rfl⟩ := analyzeFiles_eq_ok_iff.mp h
    obtain ⟨c', hc', rfl⟩ := analyzeFiles_eq_ok_iff.mp h'
    have hcollects := Configuration.collects_of_ofDocuments hc
    have hsame := hcollects.sameUpToOrder (Configuration.collects_of_ofDocuments hc') hdocuments
    constructor
    case configuration => exact hsame
    case dependencies => exact hsame.dependencies_eq
    case parseErrors => exact sortByFile_errorsOf hunique herrors
    case findings =>
        -- Settings with the same path are those of one file, so their places are written alike.
        refine hsame.findings_eq fun s hs t ht hfile => ?_
        obtain ⟨f, hf, hs⟩ := hcollects.location_settings hs
        obtain ⟨g, hg, ht⟩ := hcollects.location_settings ht
        rw [hs, ht] at hfile ⊢
        rw [hunique f hf g hg hfile]
    case files => exact hdocuments.map _

/-- A file of settings, one of an output, and one that is not well formed. -/
def sampleFiles : List SourceFile :=
  [⟨⟨"main.tf"⟩, "terraform \x7b\n\x7d\n", .terraform⟩,
    ⟨⟨"outputs.tf"⟩, "output \"id\" \x7b\nvalue = 1\n\x7d\n", .terraform⟩,
    ⟨⟨"broken.tf"⟩, "resource", .terraform⟩]

theorem analyzeFiles_perm_sampleFiles :
    sampleFiles.Perm sampleFiles.reverse ∧
      (sampleFiles.Pairwise fun f g => f.path.same g.path = false) ∧
      ∃ a a', analyzeFiles ⟨"."⟩ sampleFiles = .ok a ∧
        analyzeFiles ⟨"."⟩ sampleFiles.reverse = .ok a' ∧ a.SameUpToOrder a' ∧
        a.files.length = 2 ∧ a.parseErrors.length = 1 := by
  have hperm : sampleFiles.Perm sampleFiles.reverse := (List.reverse_perm _).symm
  have hpaths : sampleFiles.Pairwise fun f g => f.path.same g.path = false := by decide
  have hany : (analyzeFiles ⟨"."⟩ sampleFiles).toOption.any fun a =>
      a.files.length = 2 ∧ a.parseErrors.length = 1 := by
    decide +kernel
  obtain ⟨a, ha, hlengths⟩ := exists_analysis_of_any hany
  obtain ⟨hiff, hsame⟩ := analyzeFiles_perm ⟨"."⟩ hperm hpaths
  obtain ⟨a', ha'⟩ := hiff.mp ⟨a, ha⟩
  exact ⟨hperm, hpaths, a, a', ha, ha', hsame a a' ha ha', of_decide_eq_true hlengths⟩

end Terralens
