import Terralens.Proofs.Scanning
import Mathlib.Data.List.Sort

/-!
# What is loaded from a directory

The files loaded from a directory are exactly those selected below it, in strictly increasing order
of their paths; when some of them cannot be read, the load fails at the first one
(`loadDirectory_selects`). So nothing that is not selected has an influence on the result.

The places of the selected files are in order in one way only (`InOrder.unique`), and a load reads
the files at these places one after the other (`exists_inOrder`). Whether a file can be read is said
by its bytes: they are those of a text (`HoldsText`), or there is a reason why not (`CannotBeRead`).
-/

namespace Terralens

open Std (OrientedCmp)

/-! ### Reading what was found -/

/-- A file with a path holds a text: it can be opened, and its bytes are the text in UTF-8. -/
structure HoldsText (path : Path) (content : Except Fault ByteArray) (text : String) : Prop where
  length : path.text.utf8ByteSize ≤ FileSystem.longestPath
  bytes : content = .ok text.toUTF8

/-- Why a file with a path cannot be read: the path is too long, opening the file meets a fault, or
  its bytes are those of no text. -/
inductive CannotBeRead (path : Path) : Except Fault ByteArray → Fault → Prop where
  | tooLong {content : Except Fault ByteArray}
      (hlength : FileSystem.longestPath < path.text.utf8ByteSize) :
      CannotBeRead path content .tooLong
  | notOpened {fault : Fault} (hlength : path.text.utf8ByteSize ≤ FileSystem.longestPath) :
      CannotBeRead path (.error fault) fault
  | notText {bytes : ByteArray} (hlength : path.text.utf8ByteSize ≤ FileSystem.longestPath)
      (hbytes : ∀ text : String, bytes ≠ text.toUTF8) : CannotBeRead path (.ok bytes) .notText

/-- The text of a file with a path, or why it cannot be read. -/
def textAt (path : Path) (content : Except Fault ByteArray) : Except Fault String :=
  if path.text.utf8ByteSize > FileSystem.longestPath then .error .tooLong else content.bind textOf

theorem fromUTF8?_eq_some_iff {bytes : ByteArray} {text : String} :
    String.fromUTF8? bytes = some text ↔ bytes = text.toUTF8 := by
  unfold String.fromUTF8?
  split
  next hvalid =>
      rw [Option.some.injEq, ← String.toByteArray_inj]
      exact Iff.rfl
  next hinvalid =>
      constructor
      · intro h
        contradiction
      · rintro rfl
        exact absurd text.isValidUTF8 hinvalid

theorem textOf_eq_ok_iff {bytes : ByteArray} {text : String} :
    textOf bytes = .ok text ↔ bytes = text.toUTF8 := by
  rw [← fromUTF8?_eq_some_iff, textOf]
  cases String.fromUTF8? bytes <;> simp

theorem textOf_eq_error_iff {bytes : ByteArray} {fault : Fault} :
    textOf bytes = .error fault ↔ (∀ text : String, bytes ≠ text.toUTF8) ∧ fault = .notText := by
  simp only [ne_eq, ← fromUTF8?_eq_some_iff, textOf]
  cases String.fromUTF8? bytes <;> simp [eq_comm]

theorem textAt_eq_ok_iff {path : Path} {content : Except Fault ByteArray} {text : String} :
    textAt path content = .ok text ↔ HoldsText path content text := by
  unfold textAt
  split
  next hlong =>
      constructor
      · intro h
        contradiction
      · intro h
        exact absurd h.length (Nat.not_le.mpr hlong)
  next hlength =>
      have hlength := Nat.not_lt.mp hlength
      cases content with
      | error fault =>
          constructor
          · intro h
            contradiction
          · rintro ⟨-, hbytes⟩
            contradiction
      | ok bytes =>
          change textOf bytes = .ok text ↔ _
          rw [textOf_eq_ok_iff]
          constructor
          · rintro rfl
            exact ⟨hlength, rfl⟩
          · rintro ⟨-, hbytes⟩
            exact Except.ok.inj hbytes

theorem textAt_eq_error_iff {path : Path} {content : Except Fault ByteArray} {fault : Fault} :
    textAt path content = .error fault ↔ CannotBeRead path content fault := by
  unfold textAt
  split
  next hlong =>
      constructor
      · intro h
        cases h
        exact .tooLong hlong
      · intro h
        cases h with
        | tooLong => rfl
        | notOpened hlength => exact absurd hlength (Nat.not_le.mpr hlong)
        | notText hlength => exact absurd hlength (Nat.not_le.mpr hlong)
  next hlength =>
      have hlength := Nat.not_lt.mp hlength
      constructor
      · intro h
        cases content with
        | error fault' =>
            cases h
            exact .notOpened hlength
        | ok bytes =>
            obtain ⟨hbytes, rfl⟩ := textOf_eq_error_iff.mp h
            exact .notText hlength hbytes
      · intro h
        cases h with
        | tooLong hlong => exact absurd hlength (Nat.not_le.mpr hlong)
        | notOpened => rfl
        | notText _ hbytes => exact textOf_eq_error_iff.mpr ⟨hbytes, rfl⟩

namespace FoundFile

def text (f : FoundFile) : Except Fault String := textAt f.path f.content

def Readable (f : FoundFile) : Prop := ∃ text, f.text = .ok text

/-- A source file is what a found file is read as. -/
structure ReadAs (f : FoundFile) (file : SourceFile) : Prop where
  path : file.path = f.path
  kind : FileKind.ofPath? f.path = some file.kind
  text : f.text = .ok file.text

variable {f : FoundFile} {kind : FileKind}

theorem readAs_iff (hkind : FileKind.ofPath? f.path = some kind) {text : String}
    (h : f.text = .ok text) {file : SourceFile} : f.ReadAs file ↔ file = ⟨f.path, text, kind⟩ := by
  constructor
  · rintro ⟨hpath, hkind', htext⟩
    rw [hkind] at hkind'
    rw [h] at htext
    cases file
    cases hkind'
    cases htext
    cases hpath
    rfl
  · rintro rfl
    exact ⟨rfl, hkind, h⟩

theorem source?_of_text (hkind : FileKind.ofPath? f.path = some kind) {text : String}
    (h : f.text = .ok text) : f.source? = .ok (some ⟨f.path, text, kind⟩) := by
  unfold FoundFile.text textAt at h
  unfold source?
  rw [hkind]
  split at h
  · contradiction
  next hlength => simp [hlength, h]

theorem source?_of_fault (hkind : FileKind.ofPath? f.path = some kind) {fault : Fault}
    (h : f.text = .error fault) : f.source? = .error (.fileRead f.path fault) := by
  unfold FoundFile.text textAt at h
  unfold source?
  rw [hkind]
  split at h
  next hlength =>
      cases h
      simp [hlength]
  next hlength => simp [hlength, h]

end FoundFile

section

variable {f : FoundFile} {kind : FileKind} {found : List FoundFile}

theorem readFound_cons_of_text (hkind : FileKind.ofPath? f.path = some kind) {text : String}
    (h : f.text = .ok text) :
    readFound (f :: found) = (readFound found).map (⟨f.path, text, kind⟩ :: ·) := by
  rw [readFound, FoundFile.source?_of_text hkind h]
  cases readFound found <;> rfl

theorem readFound_cons_of_fault (hkind : FileKind.ofPath? f.path = some kind) {fault : Fault}
    (h : f.text = .error fault) : readFound (f :: found) = .error (.fileRead f.path fault) := by
  rw [readFound, FoundFile.source?_of_fault hkind h]
  rfl

theorem readFound_eq_ok_iff (hkinds : ∀ f ∈ found, ∃ kind, FileKind.ofPath? f.path = some kind)
    {files : List SourceFile} :
    readFound found = .ok files ↔ List.Forall₂ FoundFile.ReadAs found files := by
  induction found generalizing files with
  | nil =>
      rw [List.forall₂_nil_left_iff]
      exact ⟨fun h => (Except.ok.inj h).symm, fun h => h ▸ rfl⟩
  | cons f rest ih =>
      obtain ⟨⟨kind, hkind⟩, hrest⟩ := List.forall_mem_cons.mp hkinds
      rw [List.forall₂_cons_left_iff]
      cases htext : f.text with
      | error fault =>
          have hnone : ∀ file, ¬ f.ReadAs file := by
            intro file hfile
            rw [hfile.text] at htext
            contradiction
          simp [readFound_cons_of_fault hkind htext, hnone]
      | ok text =>
          simp only [readFound_cons_of_text hkind htext, FoundFile.readAs_iff hkind htext,
            exists_and_left, exists_eq_left, ← ih hrest]
          cases readFound rest with
          | error e => simp [Except.map]
          | ok files' => simp [Except.map, eq_comm]

theorem readFound_append_of_fault
    (hkinds : ∀ f ∈ found, ∃ kind, FileKind.ofPath? f.path = some kind)
    {before after : List FoundFile} (hfound : found = before ++ f :: after)
    (hbefore : ∀ g ∈ before, g.Readable) {fault : Fault} (h : f.text = .error fault) :
    readFound found = .error (.fileRead f.path fault) := by
  subst hfound
  induction before with
  | nil =>
      obtain ⟨kind, hkind⟩ := hkinds f (by simp)
      exact readFound_cons_of_fault hkind h
  | cons g before ih =>
      obtain ⟨⟨kind, hkind⟩, hrest⟩ := List.forall_mem_cons.mp hkinds
      obtain ⟨⟨text, htext⟩, hbefore⟩ := List.forall_mem_cons.mp hbefore
      rw [List.cons_append, readFound_cons_of_text hkind htext, ih hbefore hrest]
      rfl

/-- All files can be read, or there is a first one that cannot. -/
theorem readable_or_exists_fault (found : List FoundFile) :
    (∀ f ∈ found, f.Readable) ∨ ∃ before f after fault, found = before ++ f :: after ∧
      (∀ g ∈ before, g.Readable) ∧ f.text = .error fault := by
  induction found with
  | nil => exact .inl (by simp)
  | cons f rest ih =>
      cases htext : f.text with
      | error fault => exact .inr ⟨[], f, rest, fault, rfl, by simp, htext⟩
      | ok text =>
          have hf : f.Readable := ⟨text, htext⟩
          rcases ih with hrest | ⟨before, g, after, fault, rfl, hbefore, hfault⟩
          · exact .inl (List.forall_mem_cons.mpr ⟨hf, hrest⟩)
          · exact .inr ⟨f :: before, g, after, fault, rfl, List.forall_mem_cons.mpr ⟨hf, hbefore⟩,
              hfault⟩

theorem readFound_succeeds_iff
    (hkinds : ∀ f ∈ found, ∃ kind, FileKind.ofPath? f.path = some kind) :
    (∃ files, readFound found = .ok files) ↔ ∀ f ∈ found, f.Readable := by
  constructor
  · rintro ⟨files, hfiles⟩ f hf
    rcases readable_or_exists_fault found with
      h | ⟨before, g, after, fault, hfound, hbefore, hfault⟩
    · exact h f hf
    · rw [readFound_append_of_fault hkinds hfound hbefore hfault] at hfiles
      contradiction
  · intro h
    induction found with
    | nil => exact ⟨[], rfl⟩
    | cons f rest ih =>
        obtain ⟨⟨kind, hkind⟩, hrest⟩ := List.forall_mem_cons.mp hkinds
        obtain ⟨⟨text, htext⟩, h⟩ := List.forall_mem_cons.mp h
        obtain ⟨files, hfiles⟩ := ih hrest h
        exact ⟨_, by rw [readFound_cons_of_text hkind htext, hfiles]; rfl⟩

theorem readFound_eq_error_iff
    (hkinds : ∀ f ∈ found, ∃ kind, FileKind.ofPath? f.path = some kind) {e : Error} :
    readFound found = .error e ↔ ∃ before f after fault, found = before ++ f :: after ∧
      (∀ g ∈ before, g.Readable) ∧ f.text = .error fault ∧ e = .fileRead f.path fault := by
  constructor
  · intro he
    rcases readable_or_exists_fault found with
      h | ⟨before, f, after, fault, hfound, hbefore, hfault⟩
    · obtain ⟨files, hfiles⟩ := (readFound_succeeds_iff hkinds).mpr h
      rw [hfiles] at he
      contradiction
    · rw [readFound_append_of_fault hkinds hfound hbefore hfault] at he
      exact ⟨before, f, after, fault, hfound, hbefore, hfault, (Except.error.inj he).symm⟩
  · rintro ⟨before, f, after, fault, hfound, hbefore, hfault, rfl⟩
    exact readFound_append_of_fault hkinds hfound hbefore hfault

end

/-! ### Selected files in order -/

theorem FileTree.WellNamed.isEntryName_of_descend? {t found : FileTree} (h : t.WellNamed)
    {names : List String} (hfound : t.descend? names = some found) :
    ∀ name ∈ names, IsEntryName name := by
  induction names generalizing t with
  | nil => simp
  | cons name names ih =>
      cases h with
      | directory hordered hnames htrees =>
          obtain ⟨t, hmem, hfound⟩ := (descend?_cons_eq_some_iff hordered).mp hfound
          exact List.forall_mem_cons.mpr ⟨hnames _ hmem, ih (htrees _ hmem) hfound⟩
      | _ => simp [descend?, child?] at hfound

theorem Selected.isEntryName {o : ScanOptions} {levels : Nat} {t : FileTree} {names : List String}
    {kind : FileKind} {content : Except Fault ByteArray}
    (h : Selected o levels t names kind content) (hnamed : t.WellNamed) :
    ∀ name ∈ names, IsEntryName name := by
  obtain ⟨found, hfound, _⟩ := h.file
  exact hnamed.isEntryName_of_descend? hfound

theorem Selected.ofPath? {o : ScanOptions} {levels : Nat} {t : FileTree} {names : List String}
    {kind : FileKind} {content : Except Fault ByteArray}
    (h : Selected o levels t names kind content) (hnamed : t.WellNamed) {path : Path}
    (hpath : path.text ≠ "") : FileKind.ofPath? (path.descend names) = some kind := by
  obtain ⟨name, hlast, hending⟩ := h.ending
  have hpasses := h.passes name (List.mem_of_getLast? hlast)
  exact FileKind.ofPath?_descend hpath (h.isEntryName hnamed) hlast hending hpasses.visible

/-- The places of the files selected below a tree, in strictly increasing order of the names that
  lead to them, name by name. -/
structure InOrder (o : ScanOptions) (t : FileTree) (places : List Placed) : Prop where
  selected : ∀ x, x ∈ places ↔ ∃ kind, Selected o o.levels t x.1 kind x.2
  ordered : places.Pairwise fun x y => compare x.1 y.1 = .lt

section

variable {s : FileSystem} {o : ScanOptions} {path : Path} {t : FileTree}

/-- Trees that select the same files have the same places in order. -/
theorem InOrder.unique {t' : FileTree} {places places' : List Placed}
    (h : InOrder o t places) (h' : InOrder o t' places')
    (hsame : ∀ names kind content,
      Selected o o.levels t' names kind content ↔ Selected o o.levels t names kind content) :
    places = places' := by
  have hirrefl : ∀ x y : Placed, compare x.1 y.1 = .lt → x ≠ y := by
    rintro x y hlt rfl
    simp [Std.compare_self] at hlt
  have hperm : places.Perm places' := by
    have hnodup := h.ordered.imp (hirrefl _ _)
    have hnodup' := h'.ordered.imp (hirrefl _ _)
    apply (List.perm_ext_iff_of_nodup hnodup hnodup').mpr
    intro x
    simp only [h.selected, h'.selected, hsame]
  refine hperm.eq_of_pairwise ?_ h.ordered h'.ordered
  intro x y _ _ hxy hyx
  rw [OrientedCmp.gt_iff_lt.mpr hxy] at hyx
  contradiction

/-- A scan with a tree of directories that it can list. -/
structure Scannable (s : FileSystem) (o : ScanOptions) (path : Path) (t : FileTree) : Prop where
  found : s.get? path = some t
  isDirectory : t.isDirectory
  named : t.WellNamed
  listed : Listable o o.levels path t

theorem FileSystem.followLinks_of_found {root : FileTree} {links : Nat} {place place' : List String}
    {pieces : List (List Char)} (h : follow root pieces place = .ok (.found place' t)) :
    followLinks root links place pieces = .ok (place', some t) := by
  rw [followLinks, h]
  rfl

theorem text_ne_empty_of_get? (h : s.get? path = some t) : path.text ≠ "" := by
  intro hempty
  simp [FileSystem.get?, FileSystem.locate, hempty] at h

theorem Scannable.loadDirectory_eq (h : Scannable s o path t) :
    loadDirectory s o path = loadTree o path t := by
  have hdirectory := h.isDirectory
  cases t with
  | directory entries => rw [loadDirectory, h.found]
  | _ => simp [FileTree.isDirectory] at hdirectory

def atMostFrom (path : Path) (x y : Placed) : Bool := (path.descend x.1).atMost (path.descend y.1)

theorem pairwise_mergeSort_atMostFrom (path : Path) (places : List Placed) :
    (places.mergeSort (atMostFrom path)).Pairwise fun x y => atMostFrom path x y := by
  apply List.pairwise_mergeSort
  · intro x y z hxy hyz
    exact Path.atMost_trans hxy hyz
  · intro x y
    exact Path.atMost_total (path.descend x.1) (path.descend y.1)

/-- A load reads the selected files in order: the walk finds them, each at one place (`finds_walk`),
  and sorting by the paths is sorting by the names. -/
theorem exists_inOrder (h : Scannable s o path t) :
    ∃ places, InOrder o t places ∧
      loadDirectory s o path = readFound (places.map (foundAt path)) := by
  obtain ⟨places, hplaces⟩ := finds_walk h.named h.listed
  have hperm := List.mergeSort_perm places (atMostFrom path)
  refine ⟨places.mergeSort (atMostFrom path), ?_, ?_⟩
  · constructor
    case selected =>
      intro x
      rw [hperm.mem_iff, hplaces.mem]
    case ordered =>
      -- Paths in order that are never the same are in strictly increasing order, as their names.
      have hnodup := (hperm.map Prod.fst).nodup_iff.mpr hplaces.nodup
      rw [List.Nodup, List.pairwise_map] at hnodup
      refine ((pairwise_mergeSort_atMostFrom path places).and hnodup).imp_of_mem ?_
      rintro x y hx hy ⟨hle, hne⟩
      obtain ⟨kind, hx⟩ := (hplaces.mem x).mp (hperm.mem_iff.mp hx)
      obtain ⟨kind', hy⟩ := (hplaces.mem y).mp (hperm.mem_iff.mp hy)
      have hpath := text_ne_empty_of_get? h.found
      have hxnames := hx.isEntryName h.named
      have hynames := hy.isEntryName h.named
      rw [← Path.order_descend hpath hxnames hynames]
      apply Path.order_eq_lt hle
      intro hsame
      exact hne (Path.eq_of_same_descend hpath hxnames hynames hsame)
  · -- The found files are sorted by what the places are sorted by.
    rw [h.loadDirectory_eq, loadTree, o.depth_eq, hplaces.eq, List.map_mergeSort]
    · rfl
    · intro x _ y _
      rfl

/-! ### Loads -/

/-- A source file is what the selected file at a place is loaded as: with the path of the place,
  the kind its name tells, and its text. -/
structure LoadedAs (o : ScanOptions) (path : Path) (t : FileTree) (x : Placed) (file : SourceFile) :
    Prop where
  place : file.path = path.descend x.1
  selected : Selected o o.levels t x.1 file.kind x.2
  text : HoldsText (path.descend x.1) x.2 file.text

theorem loadedAs_iff (h : Scannable s o path t) {x : Placed} {file : SourceFile} :
    LoadedAs o path t x file ↔
      (∃ kind, Selected o o.levels t x.1 kind x.2) ∧ (foundAt path x).ReadAs file := by
  have hpath := text_ne_empty_of_get? h.found
  constructor
  · intro hfile
    have hkind := hfile.selected.ofPath? h.named hpath
    exact ⟨⟨file.kind, hfile.selected⟩, hfile.place, hkind, textAt_eq_ok_iff.mpr hfile.text⟩
  · rintro ⟨⟨kind, hselected⟩, hfile⟩
    have hkind := hfile.kind
    rw [foundAt, hselected.ofPath? h.named hpath] at hkind
    cases hkind
    exact ⟨hfile.path, hselected, textAt_eq_ok_iff.mp hfile.text⟩

theorem forall₂_loadedAs_iff (h : Scannable s o path t) {places : List Placed}
    {files : List SourceFile} :
    List.Forall₂ (LoadedAs o path t) places files ↔
      (∀ x ∈ places, ∃ kind, Selected o o.levels t x.1 kind x.2) ∧
        List.Forall₂ FoundFile.ReadAs (places.map (foundAt path)) files := by
  rw [List.forall₂_map_left_iff, ← List.forall₂_and_left]
  constructor
  · exact List.Forall₂.imp fun x file => (loadedAs_iff h).mp
  · exact List.Forall₂.imp fun x file => (loadedAs_iff h).mpr

/-- Every file at one of the places is of a kind. -/
theorem InOrder.exists_kind {places : List Placed} (hplaces : InOrder o t places)
    (h : Scannable s o path t) :
    ∀ f ∈ places.map (foundAt path), ∃ kind, FileKind.ofPath? f.path = some kind := by
  rw [List.forall_mem_map]
  intro x hx
  obtain ⟨kind, hselected⟩ := (hplaces.selected x).mp hx
  exact ⟨kind, hselected.ofPath? h.named (text_ne_empty_of_get? h.found)⟩

theorem InOrder.loadDirectory_eq {places : List Placed} (hplaces : InOrder o t places)
    (h : Scannable s o path t) :
    loadDirectory s o path = readFound (places.map (foundAt path)) := by
  obtain ⟨places', hplaces', hload⟩ := exists_inOrder h
  rw [hload, hplaces.unique hplaces' fun _ _ _ => Iff.rfl]

theorem loadDirectory_succeeds_iff (h : Scannable s o path t) :
    (∃ files, loadDirectory s o path = .ok files) ↔
      ∀ names kind content, Selected o o.levels t names kind content →
        ∃ text, HoldsText (path.descend names) content text := by
  obtain ⟨places, hplaces, hload⟩ := exists_inOrder h
  simp only [← textAt_eq_ok_iff]
  rw [hload, readFound_succeeds_iff (hplaces.exists_kind h), List.forall_mem_map]
  constructor
  · intro hreadable names kind content hselected
    exact hreadable (names, content) ((hplaces.selected _).mpr ⟨kind, hselected⟩)
  · intro hreadable x hx
    obtain ⟨kind, hselected⟩ := (hplaces.selected x).mp hx
    exact hreadable x.1 kind x.2 hselected

theorem loadDirectory_eq_ok_iff (h : Scannable s o path t) {files : List SourceFile} :
    loadDirectory s o path = .ok files ↔
      ∃ places, InOrder o t places ∧ List.Forall₂ (LoadedAs o path t) places files := by
  constructor
  · intro hfiles
    obtain ⟨places, hplaces, hload⟩ := exists_inOrder h
    rw [hload, readFound_eq_ok_iff (hplaces.exists_kind h)] at hfiles
    exact ⟨places, hplaces,
      (forall₂_loadedAs_iff h).mpr ⟨fun x hx => (hplaces.selected x).mp hx, hfiles⟩⟩
  · rintro ⟨places, hplaces, hfiles⟩
    rw [hplaces.loadDirectory_eq h, readFound_eq_ok_iff (hplaces.exists_kind h)]
    exact ((forall₂_loadedAs_iff h).mp hfiles).2

theorem loadDirectory_eq_error_iff (h : Scannable s o path t) {e : Error} :
    loadDirectory s o path = .error e ↔
      ∃ before x after fault, InOrder o t (before ++ x :: after) ∧
        (∀ y ∈ before, ∃ text, HoldsText (path.descend y.1) y.2 text) ∧
        CannotBeRead (path.descend x.1) x.2 fault ∧ e = .fileRead (path.descend x.1) fault := by
  simp only [← textAt_eq_ok_iff, ← textAt_eq_error_iff]
  constructor
  · intro he
    obtain ⟨places, hplaces, hload⟩ := exists_inOrder h
    rw [hload, readFound_eq_error_iff (hplaces.exists_kind h)] at he
    obtain ⟨found, f, found', fault, hfound, hbefore, hfault, rfl⟩ := he
    obtain ⟨before, rest, rfl, rfl, hrest⟩ := List.map_eq_append_iff.mp hfound
    obtain ⟨x, after, rfl, rfl, rfl⟩ := List.map_eq_cons_iff.mp hrest
    exact ⟨before, x, after, fault, hplaces, fun y hy => hbefore _ (List.mem_map_of_mem hy), hfault,
      rfl⟩
  · rintro ⟨before, x, after, fault, hplaces, hbefore, hfault, rfl⟩
    rw [hplaces.loadDirectory_eq h, readFound_eq_error_iff (hplaces.exists_kind h)]
    exact ⟨before.map (foundAt path), foundAt path x, after.map (foundAt path), fault,
      by rw [List.map_append, List.map_cons], List.forall_mem_map.mpr hbefore, hfault, rfl⟩

/-- A directory is loaded as the files selected in it, in the order of their paths, each with its
  kind and its text, or the load fails at the first of them that cannot be read. What is not
  selected has no influence: systems in which the same files are selected are loaded alike, whatever
  else they hold. -/
theorem loadDirectory_selects (h : Scannable s o path t) :
    ((∃ files, loadDirectory s o path = .ok files) ↔
      ∀ names kind content, Selected o o.levels t names kind content →
        ∃ text, HoldsText (path.descend names) content text) ∧
    (∀ files, loadDirectory s o path = .ok files ↔
      ∃ places, InOrder o t places ∧ List.Forall₂ (LoadedAs o path t) places files) ∧
    (∀ e, loadDirectory s o path = .error e ↔
      ∃ before x after fault, InOrder o t (before ++ x :: after) ∧
        (∀ y ∈ before, ∃ text, HoldsText (path.descend y.1) y.2 text) ∧
        CannotBeRead (path.descend x.1) x.2 fault ∧ e = .fileRead (path.descend x.1) fault) ∧
    ∀ s' t', Scannable s' o path t' →
      (∀ names kind content,
        Selected o o.levels t' names kind content ↔ Selected o o.levels t names kind content) →
      loadDirectory s' o path = loadDirectory s o path := by
  refine ⟨loadDirectory_succeeds_iff h, fun _ => loadDirectory_eq_ok_iff h,
    fun _ => loadDirectory_eq_error_iff h, ?_⟩
  intro s' t' h' hsame
  obtain ⟨places, hplaces, hload⟩ := exists_inOrder h
  obtain ⟨places', hplaces', hload'⟩ := exists_inOrder h'
  rw [hload, hload', hplaces.unique hplaces' hsame]

end

/-- A directory with two configuration files, one below it whose bytes are those of no text, and a
  hidden directory. In the order of paths, what is below `net` comes before `net-2.tf`. -/
def sampleTree : FileTree :=
  .directory
    [(".cache", .directory [("old.tf", .unreadable .denied)]),
      ("main.tf", .file "locals {}".toUTF8),
      ("net", .directory [("main.tf", .file ⟨#[0xff]⟩)]),
      ("net-2.tf", .file "variable \"id\" {}".toUTF8)]

def sampleSystem : FileSystem := ⟨.directory [("infra", sampleTree)], []⟩

def sampleScan : ScanOptions := { recursive := true, maxDepth := 2 }

/-- A scan of one level, as it is not recursive. -/
def flatScan : ScanOptions := { recursive := false, maxDepth := 2 }

theorem wellNamed_sampleTree : sampleTree.WellNamed := by
  have hbelow : ∀ name t, IsEntryName name → t.WellNamed →
      (FileTree.directory [(name, t)]).WellNamed := by
    intro name t hname ht
    apply FileTree.WellNamed.directory
    · exact List.pairwise_singleton _ _
    · exact List.forall_mem_singleton.mpr hname
    · exact List.forall_mem_singleton.mpr ht
  apply FileTree.WellNamed.directory
  · decide
  · decide
  · simp only [List.forall_mem_cons]
    exact ⟨hbelow _ _ (by decide) (.unreadable _), .file _, hbelow _ _ (by decide) (.file _),
      .file _, by simp⟩

/-- Any scan can list the directories of the tree that it comes to. -/
theorem listable_sampleTree (o : ScanOptions) (levels : Nat) :
    Listable o levels ⟨"/infra"⟩ sampleTree := by
  have hbelow : ∀ levels path name t, path.text.utf8ByteSize ≤ FileSystem.longestPath →
      t.isDirectory = false → Listable o levels path (.directory [(name, t)]) := by
    intro levels path name t hpath ht
    cases levels with
    | zero => exact listable_zero
    | succ levels =>
        apply (listable_directory_iff (List.pairwise_singleton _ _)).mpr
        exact ⟨hpath, List.forall_mem_singleton.mpr fun _ => listable_of_isDirectory ht⟩
  cases levels with
  | zero => exact listable_zero
  | succ levels =>
      apply (listable_directory_iff (by decide)).mpr
      refine ⟨by decide, ?_⟩
      simp only [List.forall_mem_cons]
      exact ⟨fun _ => hbelow _ _ _ _ (by decide) rfl, fun _ => listable_of_isDirectory rfl,
        fun _ => hbelow _ _ _ _ (by decide) rfl, fun _ => listable_of_isDirectory rfl, by simp⟩

theorem get?_sampleSystem : sampleSystem.get? ⟨"/infra"⟩ = some sampleTree := by
  have hstart : FileSystem.start sampleSystem.working ⟨"/infra"⟩ = ([], [[], "infra".toList]) := by
    rfl
  have hfollow : FileSystem.follow sampleSystem.root [[], "infra".toList] [] =
      .ok (.found ["infra"] sampleTree) := by
    rfl
  rw [FileSystem.get?, FileSystem.locate, if_neg (by decide), if_neg (by decide),
    if_neg (by decide), hstart]
  simp only [FileSystem.followLinks_of_found hfollow]

theorem scannable_sampleTree (o : ScanOptions) :
    Scannable sampleSystem o ⟨"/infra"⟩ sampleTree where
  found := get?_sampleSystem
  isDirectory := rfl
  named := wellNamed_sampleTree
  listed := listable_sampleTree o o.levels

/-- What a scan of so many levels finds in the tree is loaded in the order in which it is found. -/
theorem loadDirectory_sampleTree {o : ScanOptions} {levels : Nat} {found : List FoundFile}
    (hlevels : o.levels = levels) (hwalk : walk o ⟨"/infra"⟩ levels sampleTree = .ok found)
    (hordered : found.Pairwise fun f g => f.path.atMost g.path) :
    loadDirectory sampleSystem o ⟨"/infra"⟩ = readFound found := by
  rw [(scannable_sampleTree o).loadDirectory_eq, loadTree, o.depth_eq, hlevels, hwalk]
  change readFound (List.mergeSort _ _) = _
  rw [List.mergeSort_of_pairwise hordered]

def flatFiles : List SourceFile :=
  [⟨⟨"/infra/main.tf"⟩, "locals {}", .terraform⟩,
    ⟨⟨"/infra/net-2.tf"⟩, "variable \"id\" {}", .terraform⟩]

theorem loadDirectory_flatScan :
    loadDirectory sampleSystem flatScan ⟨"/infra"⟩ = .ok flatFiles := by
  have hwalk : walk flatScan ⟨"/infra"⟩ 1 sampleTree =
      .ok [⟨⟨"/infra/main.tf"⟩, .ok "locals {}".toUTF8⟩,
        ⟨⟨"/infra/net-2.tf"⟩, .ok "variable \"id\" {}".toUTF8⟩] := by
    rfl
  rw [loadDirectory_sampleTree rfl hwalk (by decide)]
  rfl

theorem loadDirectory_sampleScan :
    loadDirectory sampleSystem sampleScan ⟨"/infra"⟩ =
      .error (.fileRead ⟨"/infra/net/main.tf"⟩ .notText) := by
  have hwalk : walk sampleScan ⟨"/infra"⟩ 2 sampleTree =
      .ok [⟨⟨"/infra/main.tf"⟩, .ok "locals {}".toUTF8⟩, ⟨⟨"/infra/net/main.tf"⟩, .ok ⟨#[0xff]⟩⟩,
        ⟨⟨"/infra/net-2.tf"⟩, .ok "variable \"id\" {}".toUTF8⟩] := by
    rfl
  rw [loadDirectory_sampleTree rfl hwalk (by decide)]
  rfl

theorem loadDirectory_selects_sampleTree :
    (∀ o, Scannable sampleSystem o ⟨"/infra"⟩ sampleTree) ∧
      loadDirectory sampleSystem flatScan ⟨"/infra"⟩ = .ok flatFiles ∧
      (∃ places, InOrder flatScan sampleTree places ∧
        List.Forall₂ (LoadedAs flatScan ⟨"/infra"⟩ sampleTree) places flatFiles) ∧
      loadDirectory sampleSystem sampleScan ⟨"/infra"⟩ =
        .error (.fileRead ⟨"/infra/net/main.tf"⟩ .notText) ∧
      ∃ before x after fault, InOrder sampleScan sampleTree (before ++ x :: after) ∧
        (∀ y ∈ before, ∃ text, HoldsText (Path.descend ⟨"/infra"⟩ y.1) y.2 text) ∧
        CannotBeRead (Path.descend ⟨"/infra"⟩ x.1) x.2 fault ∧
        Error.fileRead ⟨"/infra/net/main.tf"⟩ .notText =
          .fileRead (Path.descend ⟨"/infra"⟩ x.1) fault := by
  refine ⟨scannable_sampleTree, loadDirectory_flatScan, ?_, loadDirectory_sampleScan, ?_⟩
  · have hflat := loadDirectory_selects (scannable_sampleTree flatScan)
    exact (hflat.2.1 _).mp loadDirectory_flatScan
  · have hdeep := loadDirectory_selects (scannable_sampleTree sampleScan)
    exact (hdeep.2.2.1 _).mp loadDirectory_sampleScan

end Terralens
