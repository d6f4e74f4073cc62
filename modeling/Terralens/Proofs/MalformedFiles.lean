import Terralens.Proofs.Analysis
import Terralens.Proofs.Orders
import Terralens.Proofs.Sorting

/-!
# Malformed files

A malformed file is set aside: what a list of files leads to, an analysis or an error, is what its
well-formed files lead to alone (`analyzeFiles_setsAside`). All that a malformed file adds to the
analysis is one error that names it, and these errors come in the order of their files, those of
equal paths as the files were given.

The documents of a list of files are those of its well-formed files (`documentsOf_wellFormed`),
and its errors are those of the others (`errorsOf_eq_map`), so the two parts can be followed apart.
-/

namespace Terralens

namespace SourceFile

def isWellFormed (f : SourceFile) : Bool := f.document.isOk

def atMost (f g : SourceFile) : Bool := f.path.atMost g.path

/-- An error reports a file when it is why the file has no document, and names the file as
  malformed. -/
structure ReportedBy (f : SourceFile) (e : Error) : Prop where
  cause : f.document = .error e
  names : ∃ detail line column, e = .malformed f.path detail line column

def error (f : SourceFile) : Error := (errorOf? f.document).getD default

theorem isWellFormed_iff {f : SourceFile} : f.isWellFormed ↔ ∃ d, f.document = .ok d := by
  unfold isWellFormed
  cases f.document <;> simp [Except.isOk, Except.toBool]

theorem document_eq_error_of_malformed {f : SourceFile} (h : f.isWellFormed = false) :
    f.document = .error f.error := by
  cases hdocument : f.document with
  | ok d => simp [isWellFormed, hdocument, Except.isOk, Except.toBool] at h
  | error e => simp [error, hdocument, errorOf?]

theorem reportedBy_error {f : SourceFile} (h : f.isWellFormed = false) : f.ReportedBy f.error :=
  ⟨document_eq_error_of_malformed h, exists_malformed (document_eq_error_of_malformed h)⟩

end SourceFile

def wellFormed (files : List SourceFile) : List SourceFile := files.filter (·.isWellFormed)

def malformed (files : List SourceFile) : List SourceFile := files.filter fun f => !f.isWellFormed

/-! ### Documents and errors -/

/-- What a function takes from the elements of one kind only, taken from these alone. -/
theorem filterMap_eq_map_filter {α β : Type} {take : α → Option β} {p : α → Bool} {g : α → β}
    (hsome : ∀ a, p a → take a = some (g a)) (hnone : ∀ a, p a = false → take a = none)
    (l : List α) : l.filterMap take = (l.filter p).map g := by
  induction l with
  | nil => rfl
  | cons a rest ih =>
      cases h : p a with
      | true =>
          rw [List.filterMap_cons_some (hsome a h), List.filter_cons_of_pos h, List.map_cons, ih]
      | false =>
          rw [List.filterMap_cons_none (hnone a h), List.filter_cons_of_neg (by simp [h]), ih]

theorem documentsOf_wellFormed (files : List SourceFile) :
    documentsOf (wellFormed files) = documentsOf files := by
  unfold documentsOf wellFormed
  rw [List.filterMap_map, List.filterMap_map, List.filterMap_filter]
  apply List.filterMap_congr
  intro f _
  cases h : f.isWellFormed with
  | true => rfl
  | false => simp [SourceFile.document_eq_error_of_malformed h, Except.toOption]

theorem map_path_documentsOf (files : List SourceFile) :
    (documentsOf files).map (·.path) = (wellFormed files).map (·.path) := by
  unfold documentsOf
  rw [List.filterMap_map, List.map_filterMap]
  apply filterMap_eq_map_filter
  · intro f h
    obtain ⟨d, hd⟩ := SourceFile.isWellFormed_iff.mp h
    simp [hd, Except.toOption, (SourceFile.document_eq_ok hd).1]
  · intro f h
    simp [SourceFile.document_eq_error_of_malformed h, Except.toOption]

theorem errorsOf_eq_map (files : List SourceFile) :
    errorsOf files = (malformed files).map SourceFile.error := by
  unfold errorsOf
  rw [List.filterMap_map]
  apply filterMap_eq_map_filter
  · intro f h
    rw [Bool.not_eq_true'] at h
    simp [SourceFile.document_eq_error_of_malformed h, errorOf?]
  · intro f h
    rw [Bool.not_eq_false'] at h
    obtain ⟨d, hd⟩ := SourceFile.isWellFormed_iff.mp h
    simp [hd, errorOf?]

theorem malformed_wellFormed (files : List SourceFile) : malformed (wellFormed files) = [] := by
  simp [malformed, wellFormed, List.filter_filter]

theorem length_wellFormed_add_length_malformed (files : List SourceFile) :
    (wellFormed files).length + (malformed files).length = files.length :=
  (List.length_eq_length_filter_add SourceFile.isWellFormed).symm

/-! ### Errors in the order of their files -/

theorem not_isWellFormed_of_mem_malformed {files : List SourceFile} {f : SourceFile}
    (h : f ∈ malformed files) : f.isWellFormed = false := by
  simpa using (List.mem_filter.mp h).2

/-- Errors are ordered as the files they are about. -/
theorem sortByFile_errorsOf_eq_map (files : List SourceFile) :
    Error.sortByFile (errorsOf files) =
      ((malformed files).mergeSort SourceFile.atMost).map SourceFile.error := by
  rw [errorsOf_eq_map, Error.sortByFile, List.map_mergeSort]
  intro f hf g hg
  have hfile := SourceFile.document_eq_error
    (SourceFile.document_eq_error_of_malformed (not_isWellFormed_of_mem_malformed hf))
  have hfile' := SourceFile.document_eq_error
    (SourceFile.document_eq_error_of_malformed (not_isWellFormed_of_mem_malformed hg))
  rw [Error.atMost, hfile, hfile']
  rfl

theorem stablySorted_malformed (files : List SourceFile) :
    StablySorted SourceFile.atMost (malformed files)
      ((malformed files).mergeSort SourceFile.atMost) := by
  apply stablySorted_mergeSort
  · intro f g h hfg hgh
    exact Path.atMost_trans hfg hgh
  · intro f g
    exact Path.atMost_total f.path g.path

/-! ### Analyses -/

namespace Analysis

/-- One analysis has what another has of the well-formed files among the given ones, and an error
  for each of the others. -/
structure SetsAside (given : List SourceFile) (a a' : Analysis) : Prop where
  files : a.files = a'.files
  configuration : a.configuration = a'.configuration
  dependencies : a.dependencies = a'.dependencies
  paths : a.files = (wellFormed given).map (·.path)
  parseErrors : ∃ ordered, StablySorted SourceFile.atMost (malformed given) ordered ∧
    List.Forall₂ SourceFile.ReportedBy ordered a.parseErrors
  noOtherErrors : a'.parseErrors = []
  totalFiles : a.totalFiles = given.length

end Analysis

theorem analyzeFiles_eq_error_iff {directory : Path} {files : List SourceFile} {e : Error} :
    analyzeFiles directory files = .error e ↔
      Configuration.ofDocuments (documentsOf files) = .error e := by
  unfold analyzeFiles
  rw [readDocuments_eq]
  change (Configuration.ofDocuments (documentsOf files) >>= _) = _ ↔ _
  cases Configuration.ofDocuments (documentsOf files) with
  | ok c => simp [bind, Except.bind, pure, Except.pure]
  | error e' => simp [bind, Except.bind]

/-- Malformed files are set aside. The others lead to the same error, or to the same analysis apart
  from the errors of the files set aside, of which there is one for each, in the order of the
  paths. -/
theorem analyzeFiles_setsAside (directory : Path) (files : List SourceFile) :
    (∀ e, analyzeFiles directory files = .error e ↔
      analyzeFiles directory (wellFormed files) = .error e) ∧
    ∀ a, analyzeFiles directory files = .ok a →
      ∃ a', analyzeFiles directory (wellFormed files) = .ok a' ∧ a.SetsAside files a' := by
  constructor
  · intro e
    rw [analyzeFiles_eq_error_iff, analyzeFiles_eq_error_iff, documentsOf_wellFormed]
  · intro a ha
    obtain ⟨c, hc, rfl⟩ := analyzeFiles_eq_ok_iff.mp ha
    have hc' := hc
    rw [← documentsOf_wellFormed] at hc'
    refine ⟨_, analyzeFiles_eq_ok_iff.mpr ⟨c, hc', rfl⟩, ?_⟩
    constructor
    case files => rw [documentsOf_wellFormed]
    case configuration => rfl
    case dependencies => rfl
    case paths => exact map_path_documentsOf files
    case parseErrors =>
        refine ⟨_, stablySorted_malformed files, ?_⟩
        rw [sortByFile_errorsOf_eq_map, List.forall₂_map_right_iff, List.forall₂_same]
        intro f hf
        rw [List.mem_mergeSort] at hf
        exact SourceFile.reportedBy_error (not_isWellFormed_of_mem_malformed hf)
    case noOtherErrors =>
        rw [sortByFile_errorsOf_eq_map, malformed_wellFormed, List.mergeSort_nil, List.map_nil]
    case totalFiles =>
        rw [Analysis.totalFiles, map_path_documentsOf, sortByFile_errorsOf_eq_map,
          List.length_map, List.length_map, List.length_mergeSort]
        exact length_wellFormed_add_length_malformed files

end Terralens
