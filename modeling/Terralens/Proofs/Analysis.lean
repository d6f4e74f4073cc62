import Terralens.Analysis
import Terralens.Proofs.Extraction
import Mathlib.Data.List.Pairwise

/-!
# What files are read as

Every file has a document or an error, and the error says only of this file that it is malformed
(`SourceFile.exists_malformed`). So reading many files never ends early: it gives the documents of
the well-formed files and the errors of the others (`readDocuments_eq`), and an analysis is what
the documents define, beside the sorted errors (`analyzeFiles_eq_ok_iff`).
-/

namespace Terralens

/-! ### Documents of files -/

theorem location_blockOf {file : Path} {lines : List (List Char)} {start : Nat}
    {part : Hcl.Structure} {b : Block} (h : (blockOf file lines start part).1 = some b) :
    b.location.file = file := by
  cases part with
  | «attribute» key e => cases h
  | block type labels body =>
      rw [blockOf] at h
      cases h
      rfl

theorem location_of_mem_partsOf {file : Path} {lines : List (List Char)} {start : Nat}
    {body : Hcl.Body} {b : Block} (h : b ∈ (partsOf file lines start body).1) :
    b.location.file = file := by
  induction body generalizing start with
  | nil => cases h
  | cons part rest ih =>
      cases part with
      | «attribute» key e => exact ih h
      | block type labels parts =>
          rw [partsOf] at h
          · rcases List.mem_append.mp h with h | h
            · exact location_blockOf (Option.mem_toList.mp h)
            · exact ih h
          · simp

/-- The document of a file has the path of the file, and its blocks lie in it. -/
theorem SourceFile.document_eq_ok {file : SourceFile} {d : Document} (h : file.document = .ok d) :
    d.path = file.path ∧ ∀ b ∈ d.blocks, b.location.file = file.path := by
  unfold document at h
  split at h
  · cases h
  · cases h
    exact ⟨rfl, fun b hb => location_of_mem_partsOf hb⟩

/-- A file without a document is malformed, and its error says so of this file. -/
theorem SourceFile.exists_malformed {file : SourceFile} {e : Error}
    (h : file.document = .error e) :
    ∃ detail line column, e = .malformed file.path detail line column := by
  unfold document at h
  split at h
  · cases h
    exact ⟨_, _, _, rfl⟩
  · cases h

theorem SourceFile.document_eq_error {file : SourceFile} {e : Error}
    (h : file.document = .error e) : e.file? = some file.path := by
  obtain ⟨detail, line, column, rfl⟩ := exists_malformed h
  rfl

theorem SourceFile.isRecoverable_of_document {file : SourceFile} {e : Error}
    (h : file.document = .error e) : e.isRecoverable := by
  obtain ⟨detail, line, column, rfl⟩ := exists_malformed h
  rfl

/-- Of files with different paths only one has the path of another one. -/
theorem SourceFile.eq_of_same_path {files : List SourceFile}
    (hpaths : files.Pairwise fun f g => f.path.same g.path = false) :
    ∀ f ∈ files, ∀ g ∈ files, f.path.same g.path → f = g := by
  have hsymm : Std.Symm fun f g : SourceFile => f.path.same g.path = false := by
    refine ⟨fun f g h => ?_⟩
    simpa [Path.same, Bool.beq_comm] using h
  intro f hf g hg hsame
  by_contra hne
  have hdistinct := hpaths.forall hf hg hne
  simp [hsame] at hdistinct

def errorOf? {ε α : Type} : Except ε α → Option ε
  | .ok _ => none
  | .error e => some e

def documentsOf (files : List SourceFile) : List Document :=
  (files.map SourceFile.document).filterMap Except.toOption

def errorsOf (files : List SourceFile) : List Error :=
  (files.map SourceFile.document).filterMap errorOf?

/-- What is taken from the result of one kind is taken from a file with that result. -/
theorem mem_filterMap_document_iff {α : Type} {take : Except Error Document → Option α} {a : α}
    {result : Except Error Document} (htake : ∀ x, take x = some a ↔ x = result)
    {files : List SourceFile} :
    a ∈ (files.map SourceFile.document).filterMap take ↔ ∃ f ∈ files, f.document = result := by
  simp only [List.mem_filterMap, List.mem_map, htake]
  constructor
  · rintro ⟨_, ⟨f, hf, rfl⟩, h⟩
    exact ⟨f, hf, h⟩
  · rintro ⟨f, hf, h⟩
    exact ⟨_, ⟨f, hf, rfl⟩, h⟩

theorem mem_documentsOf_iff {files : List SourceFile} {d : Document} :
    d ∈ documentsOf files ↔ ∃ f ∈ files, f.document = .ok d := by
  refine mem_filterMap_document_iff fun x => ?_
  cases x <;> simp [Except.toOption]

theorem mem_errorsOf_iff {files : List SourceFile} {e : Error} :
    e ∈ errorsOf files ↔ ∃ f ∈ files, f.document = .error e := by
  refine mem_filterMap_document_iff fun x => ?_
  cases x <;> simp [errorOf?]

/-- A block of the documents of files lies in a file that has one. -/
theorem exists_file_of_block {files : List SourceFile} {b : Block}
    (h : b ∈ (documentsOf files).flatMap (·.blocks)) :
    ∃ f ∈ files, (∃ d, f.document = .ok d) ∧ b.location.file = f.path := by
  obtain ⟨d, hd, hb⟩ := List.mem_flatMap.mp h
  obtain ⟨f, hf, hdocument⟩ := mem_documentsOf_iff.mp hd
  exact ⟨f, hf, ⟨d, hdocument⟩, (SourceFile.document_eq_ok hdocument).2 b hb⟩

theorem partitionResults_eq {α : Type} {results : List (Except Error α)}
    (hrecoverable : ∀ e, Except.error e ∈ results → e.isRecoverable) :
    partitionResults results =
      .ok (results.filterMap Except.toOption, results.filterMap errorOf?) := by
  induction results with
  | nil => rfl
  | cons result rest ih =>
      have hrest := ih fun e he => hrecoverable e (List.mem_cons_of_mem result he)
      cases result with
      | ok a =>
          rw [partitionResults, hrest]
          rfl
      | error e =>
          rw [partitionResults, if_pos (hrecoverable e (by simp)), hrest]
          rfl

theorem readDocuments_eq (files : List SourceFile) :
    readDocuments files = .ok (documentsOf files, errorsOf files) := by
  refine partitionResults_eq fun e he => ?_
  obtain ⟨f, -, hf⟩ := List.mem_map.mp he
  exact SourceFile.isRecoverable_of_document hf

/-! ### Analyses -/

theorem analyzeFiles_eq_ok_iff {directory : Path} {files : List SourceFile} {a : Analysis} :
    analyzeFiles directory files = .ok a ↔
      ∃ c, Configuration.ofDocuments (documentsOf files) = .ok c ∧
        a = ⟨directory, (documentsOf files).map (·.path), c, Error.sortByFile (errorsOf files),
          c.dependencies⟩ := by
  unfold analyzeFiles
  rw [readDocuments_eq]
  change (Configuration.ofDocuments (documentsOf files) >>= _) = _ ↔ _
  rw [except_bind_eq_ok_iff]
  refine exists_congr fun c => and_congr_right fun _ => ?_
  exact ⟨fun h => (Except.ok.inj h).symm, fun h => congrArg Except.ok h.symm⟩

theorem analyzeFiles_succeeds_iff {directory : Path} {files : List SourceFile} :
    (∃ a, analyzeFiles directory files = .ok a) ↔
      ∃ c, Configuration.ofDocuments (documentsOf files) = .ok c := by
  simp only [analyzeFiles_eq_ok_iff]
  constructor
  · rintro ⟨_, c, hc, -⟩
    exact ⟨c, hc⟩
  · rintro ⟨c, hc⟩
    exact ⟨_, c, hc, rfl⟩

theorem exists_analysis_of_any {directory : Path} {files : List SourceFile} {p : Analysis → Bool}
    (h : (analyzeFiles directory files).toOption.any p) :
    ∃ a, analyzeFiles directory files = .ok a ∧ p a := by
  cases ha : analyzeFiles directory files with
  | error e => simp [ha, Except.toOption] at h
  | ok a => exact ⟨a, rfl, by simpa [ha, Except.toOption] using h⟩

end Terralens
