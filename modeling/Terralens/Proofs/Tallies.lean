import Terralens.Lint
import Terralens.Proofs.Documents
import Terralens.Proofs.MalformedFiles
import Terralens.Proofs.Parts

/-!
# Findings file by file

The lint report of an analysis has one status for each file, in the order of the paths, and the
numbers in it are those of all findings (`ofAnalysis_tallies`). A finding lies where the block lies
that it is about (`Accounts.exists_block_of_finding`), hence in a well-formed file, and in no other
when the paths of the files differ. So what is counted file by file is counted once
(`sum_countP_eq`).
-/

namespace Terralens

/-! ### Where findings lie -/

theorem ResourceEntry.location_of_mem_findings {e : ResourceEntry} {f : Finding}
    (h : f ∈ e.findings) : f.location = e.location := by
  unfold ResourceEntry.findings at h
  rcases List.mem_append.mp h with h | h
  · split at h
    · rw [List.mem_singleton.mp h]
    · cases h
  · split at h
    · rw [List.mem_singleton.mp h]
    · cases h

theorem ResourceEntry.location_of_mem_dataFindings {e : ResourceEntry} {f : Finding}
    (h : f ∈ e.dataFindings) : f.location = e.location := by
  unfold ResourceEntry.dataFindings at h
  split at h
  · rw [List.mem_singleton.mp h]
  · cases h

theorem ModuleEntry.location_of_mem_findings {e : ModuleEntry} {f : Finding}
    (h : f ∈ e.findings) : f.location = e.location := by
  unfold ModuleEntry.findings at h
  split at h
  · rw [List.mem_singleton.mp h]
  · cases h

theorem Settings.location_of_mem_findings {s : Settings} {f : Finding}
    (h : f ∈ s.findings) : f.location = s.location := by
  unfold Settings.findings at h
  split at h
  · rw [List.mem_singleton.mp h]
  · cases h

theorem VariableEntry.location_of_mem_findings {e : VariableEntry} {f : Finding}
    (h : f ∈ e.findings) : f.location = e.location := by
  unfold VariableEntry.findings at h
  split at h
  · cases h
  · rw [List.mem_singleton.mp h]

namespace Configuration

/-- A finding lies where a block lies. -/
theorem Accounts.exists_block_of_finding {bs : List Block} {c : Configuration}
    (h : Accounts bs c) {f : Finding} (hf : f ∈ c.findings) : ∃ b ∈ bs, f.location = b.location := by
  have hblock : ∀ {type : String} {b : Block}, b ∈ ofType type bs → b ∈ bs :=
    fun hb => (List.mem_filter.mp hb).1
  unfold findings at hf
  simp only [List.mem_mergeSort, List.mem_append, List.mem_flatMap] at hf
  rcases hf with (((⟨e, he, hf⟩ | ⟨e, he, hf⟩) | ⟨e, he, hf⟩) | ⟨s, hs, hf⟩) | ⟨e, he, hf⟩
  · obtain ⟨b, hb, rfl⟩ := (mem_values_iff h.resources).mp he
    exact ⟨b, hblock hb, ResourceEntry.location_of_mem_findings hf⟩
  · obtain ⟨b, hb, rfl⟩ := (mem_values_iff h.dataSources).mp he
    exact ⟨b, hblock hb, ResourceEntry.location_of_mem_dataFindings hf⟩
  · obtain ⟨b, hb, rfl⟩ := (mem_values_iff h.modules).mp he
    exact ⟨b, hblock hb, ModuleEntry.location_of_mem_findings hf⟩
  · rw [h.settings] at hs
    obtain ⟨b, hb, rfl⟩ := List.mem_map.mp hs
    exact ⟨b, hblock hb, Settings.location_of_mem_findings hf⟩
  · obtain ⟨b, hb, rfl⟩ := (mem_values_iff h.inputs).mp he
    exact ⟨b, hblock hb, VariableEntry.location_of_mem_findings hf⟩

/-- A finding lies in a well-formed file. -/
theorem Collects.exists_file_of_finding {files : List SourceFile} {c : Configuration}
    (h : Collects (documentsOf files) c) {f : Finding} (hf : f ∈ c.findings) :
    ∃ file ∈ files, file.isWellFormed ∧ f.location.file = file.path := by
  obtain ⟨b, hb, hlocation⟩ := h.accounts.exists_block_of_finding hf
  obtain ⟨file, hfile, hdocument, hpath⟩ := exists_file_of_block hb
  refine ⟨file, hfile, SourceFile.isWellFormed_iff.mpr hdocument, ?_⟩
  rw [hlocation]
  exact hpath

end Configuration

/-! ### One status for each file -/

namespace LintReport

def status (findings : List Finding) (f : SourceFile) : FileStatus :=
  if f.isWellFormed then statusOf findings f.path
  else ⟨f.path, false, some f.error.message, 0, 0⟩

theorem path_status (findings : List Finding) (f : SourceFile) :
    (status findings f).path = f.path := by
  unfold status
  split <;> rfl

def found (findings : List Finding) (path : Path) (severity : Severity) : List Finding :=
  findings.filter fun x => x.severity = severity ∧ x.location.file.same path

/-- A file and how it fared: whether it is well formed, its error if it is not, and how many of
  the findings of each severity lie in it. -/
structure Describes (findings : List Finding) (f : SourceFile) (s : FileStatus) : Prop where
  path : s.path = f.path
  valid : s.valid ↔ ∃ d, f.document = .ok d
  error : s.error = (errorOf? f.document).map Error.message
  warnings : s.warnings = (found findings f.path .warning).length
  suggestions : s.suggestions = (found findings f.path .suggestion).length

/-- A report on the analysis of some files. It has the findings on the configuration, all of them,
  and one status for each file, in the order of their paths. Every finding lies in exactly one of
  the well-formed files, so that the numbers of all statuses are those of all findings, and these
  are warnings and suggestions. -/
structure Tallies (files : List SourceFile) (a : Analysis) (r : LintReport) : Prop where
  findings : r.findings = a.configuration.findings
  statuses : ∃ ordered, ordered.Perm files ∧ List.Forall₂ (Describes r.findings) ordered r.files
  sorted : r.files.Pairwise fun s t => s.path.order t.path = .lt
  located : ∀ x ∈ r.findings, ∃ f ∈ files, (∃ d, f.document = .ok d) ∧
    x.location.file.same f.path ∧ ∀ g ∈ files, x.location.file.same g.path → g = f
  count : ∀ severity, r.count severity = (r.findings.filter (·.severity = severity)).length
  warnings : (r.files.map (·.warnings)).sum = (r.findings.filter (·.severity = .warning)).length
  suggestions :
    (r.files.map (·.suggestions)).sum = (r.findings.filter (·.severity = .suggestion)).length
  total : (r.findings.filter (·.severity = .warning)).length +
    (r.findings.filter (·.severity = .suggestion)).length = r.findings.length

theorem countIn_eq (findings : List Finding) (path : Path) (severity : Severity) :
    countIn findings path severity = (found findings path severity).length := by
  rw [countIn, found, List.countP_eq_length_filter]
  congr 1
  apply List.filter_congr
  intro x _
  rw [Bool.eq_iff_iff, Bool.and_eq_true, beq_iff_eq, decide_eq_true_eq]

theorem count_eq (r : LintReport) (severity : Severity) :
    r.count severity = (r.findings.filter (·.severity = severity)).length := by
  rw [count, List.countP_eq_length_filter]
  rfl

/-- Nothing is found in a malformed file when all findings lie in others. -/
theorem found_eq_nil {findings : List Finding} {path : Path}
    (h : ∀ x ∈ findings, x.location.file.same path = false) (severity : Severity) :
    found findings path severity = [] := by
  rw [found, List.filter_eq_nil_iff]
  intro x hx
  simp [h x hx]

theorem describes_status {findings : List Finding} {f : SourceFile}
    (hfound : ∀ x ∈ findings, x.location.file.same f.path → f.isWellFormed) :
    Describes findings f (status findings f) := by
  unfold status
  cases h : f.isWellFormed with
  | true =>
      obtain ⟨d, hd⟩ := SourceFile.isWellFormed_iff.mp h
      rw [if_pos rfl]
      constructor
      case path => rfl
      case valid => exact ⟨fun _ => ⟨d, hd⟩, fun _ => rfl⟩
      case error => simp [statusOf, hd, errorOf?]
      case warnings => exact countIn_eq findings f.path .warning
      case suggestions => exact countIn_eq findings f.path .suggestion
  | false =>
      have herror := SourceFile.document_eq_error_of_malformed h
      have hnone : ∀ x ∈ findings, x.location.file.same f.path = false := by
        intro x hx
        by_contra hsame
        rw [Bool.not_eq_false] at hsame
        simp [h] at hfound
        simp [hfound x hx] at hsame
      rw [if_neg (by simp)]
      constructor
      case path => rfl
      case valid => simp [herror]
      case error => simp [herror, errorOf?]
      case warnings => rw [found_eq_nil hnone, List.length_nil]
      case suggestions => rw [found_eq_nil hnone, List.length_nil]

/-- The statuses of a report are those of the files in the order of their paths. -/
theorem files_ofAnalysis {directory : Path} {files : List SourceFile} {a : Analysis}
    (ha : analyzeFiles directory files = .ok a) :
    ∃ ordered : List SourceFile, ordered.Perm files ∧ (ordered.Pairwise fun f g => f.atMost g) ∧
      (ofAnalysis a).files = ordered.map (status a.configuration.findings) := by
  obtain ⟨c, hc, rfl⟩ := analyzeFiles_eq_ok_iff.mp ha
  -- The report lists the well-formed files first and the malformed ones behind them; each of
  -- the two lists has the statuses of its files, and one sorting puts both in order.
  have hwell : (wellFormed files).map (status c.findings) =
      ((documentsOf files).map (·.path)).map (statusOf c.findings) := by
    rw [map_path_documentsOf, List.map_map]
    apply List.map_congr_left
    intro f hf
    have hvalid : f.isWellFormed = true := (List.mem_filter.mp hf).2
    simp [status, hvalid]
  have hmalformed : ((malformed files).mergeSort SourceFile.atMost).map (status c.findings) =
      (Error.sortByFile (errorsOf files)).filterMap statusOfError? := by
    rw [sortByFile_errorsOf_eq_map, List.filterMap_map]
    rw [← List.filterMap_eq_map]
    apply List.filterMap_congr
    intro f hf
    rw [List.mem_mergeSort] at hf
    have hinvalid := not_isWellFormed_of_mem_malformed hf
    have hfile := SourceFile.document_eq_error (SourceFile.document_eq_error_of_malformed hinvalid)
    simp [status, hinvalid, statusOfError?, hfile]
  let unordered := wellFormed files ++ (malformed files).mergeSort SourceFile.atMost
  have hunordered : unordered.Perm files :=
    ((List.mergeSort_perm _ _).append_left _).trans (List.filter_append_perm _ _)
  refine ⟨unordered.mergeSort SourceFile.atMost, ?_, ?_, ?_⟩
  · exact (List.mergeSort_perm _ _).trans hunordered
  · apply List.pairwise_mergeSort
    · intro f g h hfg hgh
      exact Path.atMost_trans hfg hgh
    · intro f g
      exact Path.atMost_total f.path g.path
  · have hsort : (unordered.mergeSort SourceFile.atMost).map (status c.findings) =
        (unordered.map (status c.findings)).mergeSort fun s t => s.path.atMost t.path := by
      apply List.map_mergeSort
      intro f _ g _
      rw [path_status, path_status]
      rfl
    rw [hsort, List.map_append, hwell, hmalformed]
    rfl

end LintReport

/-- A path that one of several files has, whose paths differ, is counted once among them. -/
theorem countP_same_path {files : List SourceFile}
    (hpaths : files.Pairwise fun f g => f.path.same g.path = false) {p : Path} {f : SourceFile}
    (hf : f ∈ files) (hp : p.same f.path) : files.countP (fun g => p.same g.path) = 1 := by
  have hnodup : (files.map (·.path.components)).Nodup := by
    rw [List.Nodup, List.pairwise_map]
    refine hpaths.imp ?_
    intro g h hdistinct heq
    simp [Path.same, heq] at hdistinct
  have hmem : p.components ∈ files.map (·.path.components) := by
    rw [Path.same, beq_iff_eq] at hp
    exact List.mem_map.mpr ⟨f, hf, hp.symm⟩
  have hcount := List.count_eq_one_of_mem hnodup hmem
  rw [List.count_eq_countP, List.countP_map] at hcount
  rw [← hcount]
  apply List.countP_congr
  intro g _
  rw [Path.same, beq_iff_eq, Function.comp_apply, beq_iff_eq, eq_comm]

/-- When every finding lies in exactly one of the files, those counted file by file are all of
  them. -/
theorem LintReport.sum_statuses {files ordered : List SourceFile} {findings : List Finding}
    (hperm : ordered.Perm files)
    (hone : ∀ x ∈ findings, files.countP (fun f => x.location.file.same f.path) = 1)
    {severity : Severity} {number : FileStatus → Nat}
    (hnumber : ∀ f ∈ ordered,
      number (status findings f) = (found findings f.path severity).length) :
    ((ordered.map (status findings)).map number).sum =
      (findings.filter (·.severity = severity)).length := by
  have hsum := sum_countP_eq (fun (x : Finding) (f : SourceFile) => x.location.file.same f.path)
    hone fun x => x.severity == severity
  calc ((ordered.map (status findings)).map number).sum
      = (ordered.map fun f => countIn findings f.path severity).sum := by
        rw [List.map_map]
        congr 1
        apply List.map_congr_left
        intro f hf
        rw [countIn_eq]
        exact hnumber f hf
    _ = (files.map fun f => countIn findings f.path severity).sum := (hperm.map _).sum_eq
    _ = findings.countP fun x => x.severity == severity := hsum
    _ = (findings.filter (·.severity = severity)).length := List.countP_eq_length_filter

/-- Every finding is a warning or a suggestion. -/
theorem Finding.length_severities (findings : List Finding) :
    (findings.filter (·.severity = .warning)).length +
      (findings.filter (·.severity = .suggestion)).length = findings.length := by
  have hother : findings.filter (fun x => !decide (x.severity = .warning)) =
      findings.filter (·.severity = .suggestion) := by
    apply List.filter_congr
    intro x _
    cases x.severity <;> decide
  rw [← hother]
  exact (List.length_eq_length_filter_add _).symm

/-- A finding lies in one well-formed file, and in no other when the paths differ. -/
theorem exists_only_file_of_finding {directory : Path} {files : List SourceFile}
    (hpaths : files.Pairwise fun f g => f.path.same g.path = false) {a : Analysis}
    (ha : analyzeFiles directory files = .ok a) {x : Finding}
    (hx : x ∈ a.configuration.findings) :
    ∃ f ∈ files, f.isWellFormed ∧ x.location.file.same f.path ∧
      ∀ g ∈ files, x.location.file.same g.path → g = f := by
  obtain ⟨c, hc, rfl⟩ := analyzeFiles_eq_ok_iff.mp ha
  have hcollects := Configuration.collects_of_ofDocuments hc
  obtain ⟨f, hf, hvalid, hfile⟩ := hcollects.exists_file_of_finding hx
  rw [hfile]
  refine ⟨f, hf, hvalid, by simp [Path.same], ?_⟩
  intro g hg hsame
  exact (SourceFile.eq_of_same_path hpaths f hf g hg hsame).symm

/-- The report on an analysis tells of every file once, and counts every finding once. Every finding
  lies in a well-formed file, as it has the place of a block of that file, and in no other, as the
  paths differ. -/
theorem ofAnalysis_tallies {directory : Path} {files : List SourceFile}
    (hpaths : files.Pairwise fun f g => f.path.same g.path = false) {a : Analysis}
    (ha : analyzeFiles directory files = .ok a) :
    LintReport.Tallies files a (LintReport.ofAnalysis a) := by
  have hlocated : ∀ x ∈ a.configuration.findings, _ :=
    fun x hx => exists_only_file_of_finding hpaths ha hx
  have hone : ∀ x ∈ a.configuration.findings,
      files.countP (fun f => x.location.file.same f.path) = 1 := by
    intro x hx
    obtain ⟨f, hf, -, hsame, -⟩ := hlocated x hx
    exact countP_same_path hpaths hf hsame
  obtain ⟨ordered, hperm, hordered, hfiles⟩ := LintReport.files_ofAnalysis ha
  have hdescribes : ∀ f ∈ ordered,
      LintReport.Describes a.configuration.findings f
        (LintReport.status a.configuration.findings f) := by
    intro f hf
    apply LintReport.describes_status
    intro x hx hsame
    obtain ⟨g, hg, hvalid, -, honly⟩ := hlocated x hx
    rw [honly f (hperm.mem_iff.mp hf) hsame]
    exact hvalid
  constructor
  case findings => rfl
  case statuses =>
      refine ⟨ordered, hperm, ?_⟩
      rw [hfiles, List.forall₂_map_right_iff, List.forall₂_same]
      exact hdescribes
  case sorted =>
      rw [hfiles, List.pairwise_map]
      simp only [LintReport.path_status]
      have hdistinct : ordered.Pairwise fun f g => f.path.same g.path = false :=
        (hperm.pairwise_iff fun {f g} h => by simpa [Path.same, Bool.beq_comm] using h).mpr hpaths
      refine hordered.imp₂ ?_ hdistinct
      intro f g hle hne
      exact Path.order_eq_lt hle (by simp [hne])
  case located =>
      intro x hx
      obtain ⟨f, hf, hvalid, hsame, honly⟩ := hlocated x hx
      exact ⟨f, hf, SourceFile.isWellFormed_iff.mp hvalid, hsame, honly⟩
  case count => exact LintReport.count_eq _
  case warnings =>
      rw [hfiles]
      exact LintReport.sum_statuses hperm hone fun f hf => (hdescribes f hf).warnings
  case suggestions =>
      rw [hfiles]
      exact LintReport.sum_statuses hperm hone fun f hf => (hdescribes f hf).suggestions
  case total => exact Finding.length_severities a.configuration.findings

/-- A file with a warning, one with a suggestion, and one that is not well formed. -/
def lintedFiles : List SourceFile :=
  [⟨⟨"main.tf"⟩, "resource \"aws_vpc\" \"main\" \x7b\n\x7d\n", .terraform⟩,
    ⟨⟨"inputs.tf"⟩, "variable \"region\" \x7b\n\x7d\n", .terraform⟩,
    ⟨⟨"broken.tf"⟩, "resource", .terraform⟩]

theorem ofAnalysis_tallies_lintedFiles :
    (lintedFiles.Pairwise fun f g => f.path.same g.path = false) ∧
      ∃ a, analyzeFiles ⟨"."⟩ lintedFiles = .ok a ∧
        LintReport.Tallies lintedFiles a (LintReport.ofAnalysis a) ∧
        (a.configuration.resources.values.flatMap ResourceEntry.findings).length = 1 ∧
        (a.configuration.inputs.values.flatMap VariableEntry.findings).length = 1 := by
  have hany : (analyzeFiles ⟨"."⟩ lintedFiles).toOption.any fun a =>
      (a.configuration.resources.values.flatMap ResourceEntry.findings).length = 1 ∧
        (a.configuration.inputs.values.flatMap VariableEntry.findings).length = 1 := by
    decide +kernel
  obtain ⟨a, ha, hfindings⟩ := exists_analysis_of_any hany
  exact ⟨by decide, a, ha, ofAnalysis_tallies (by decide) ha, of_decide_eq_true hfindings⟩

end Terralens
