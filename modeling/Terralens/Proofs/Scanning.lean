import Terralens.Proofs.KeyMap
import Terralens.Proofs.Paths

/-!
# What a scan finds

A file below a directory is selected by where it lies and how it is named (`Selected`): not too
deep, under names none of which is passed over, and with the ending of a kind. A scan that can
list the directories it comes to finds exactly the selected files, each at one place
(`finds_walk`).

A directory selects what its entries select (`selected_directory_iff`), and a scan goes through
the entries one by one, so the proof is by induction on the levels and, for each level, on the
entries.
-/

namespace Terralens

/-! ### Selected files -/

/-- Each directory of a tree has its names in order, all of them names that entries can have. -/
inductive FileTree.WellNamed : FileTree → Prop
  | file (bytes : ByteArray) : WellNamed (.file bytes)
  | unreadable (fault : Fault) : WellNamed (.unreadable fault)
  | link (target : Path) : WellNamed (.link target)
  | directory {entries : List (String × FileTree)} (ordered : InKeyOrder entries)
      (names : ∀ e ∈ entries, IsEntryName e.1) (trees : ∀ e ∈ entries, WellNamed e.2) :
      WellNamed (.directory entries)

/-- How many levels below a directory a scan selects files: one, unless it is recursive. -/
def ScanOptions.levels (o : ScanOptions) : Nat := if o.recursive then max 1 o.maxDepth else 1

theorem ScanOptions.depth_eq (o : ScanOptions) : o.depth = o.levels := rfl

/-- A name that a scan does not pass over. Exclusions that are no patterns do not count. -/
structure ScanOptions.Passes (o : ScanOptions) (name : String) : Prop where
  visible : name.toList.head? ≠ some '.'
  noState : name ≠ "terraform.tfstate"
  notExcluded : ∀ pattern ∈ o.excludePatterns, ∀ tokens, Glob.tokens? pattern = some tokens →
    Glob.matchesFrom tokens name.toList = false

theorem ScanOptions.skips_eq_false_iff {o : ScanOptions} {name : String} :
    o.skips name = false ↔ o.Passes name := by
  have hpattern : ∀ pattern, Glob.standsFor pattern name = false ↔
      ∀ tokens, Glob.tokens? pattern = some tokens →
        Glob.matchesFrom tokens name.toList = false := by
    intro pattern
    unfold Glob.standsFor
    cases Glob.tokens? pattern <;> simp
  simp only [skips, Bool.or_eq_false_iff, List.any_eq_false, Bool.not_eq_true, hpattern,
    beq_eq_false_iff_ne]
  constructor
  · rintro ⟨⟨hvisible, hstate⟩, hexcluded⟩
    exact ⟨hvisible, hstate, hexcluded⟩
  · rintro ⟨hvisible, hstate, hexcluded⟩
    exact ⟨⟨hvisible, hstate⟩, hexcluded⟩

/-- What a regular file holds: its bytes, unless opening it meets a fault. Links and directories
  hold nothing. -/
inductive FileTree.Holds : FileTree → Except Fault ByteArray → Prop
  | file (bytes : ByteArray) : Holds (.file bytes) (.ok bytes)
  | unreadable (fault : Fault) : Holds (.unreadable fault) (.error fault)

theorem FileTree.holds_iff {t : FileTree} {content : Except Fault ByteArray} :
    t.Holds content ↔ t.content? = some content := by
  constructor
  · rintro (bytes | fault) <;> rfl
  · intro h
    cases t with
    | file bytes => cases h; exact .file bytes
    | unreadable fault => cases h; exact .unreadable fault
    | _ => simp [content?] at h

/-- A file that a scan selects below a tree, down to so many levels: the names that lead to it,
  the kind its name tells, and what it holds. -/
structure Selected (o : ScanOptions) (levels : Nat) (t : FileTree) (names : List String)
    (kind : FileKind) (content : Except Fault ByteArray) : Prop where
  file : ∃ found, t.descend? names = some found ∧ found.Holds content
  depth : names.length ≤ levels
  passes : ∀ name ∈ names, o.Passes name
  ending : ∃ name, names.getLast? = some name ∧ kind.ending <:+ name.toList

/-- A file selected in an entry of a directory, which is the file or has it below. -/
def SelectedIn (o : ScanOptions) (levels : Nat) (e : String × FileTree) (names : List String)
    (kind : FileKind) (content : Except Fault ByteArray) : Prop :=
  ∃ rest, names = e.1 :: rest ∧ o.Passes e.1 ∧
    ((rest = [] ∧ e.2.Holds content ∧ kind.ending <:+ e.1.toList) ∨
      Selected o levels e.2 rest kind content)

section

variable {o : ScanOptions} {levels : Nat} {t : FileTree} {entries : List (String × FileTree)}
  {names : List String} {kind : FileKind} {content : Except Fault ByteArray}

theorem Selected.ne_nil (h : Selected o levels t names kind content) : names ≠ [] := by
  rintro rfl
  obtain ⟨name, hlast, _⟩ := h.ending
  simp at hlast

theorem not_selected_zero : ¬ Selected o 0 t names kind content := by
  intro h
  exact h.ne_nil (List.length_eq_zero_iff.mp (Nat.le_zero.mp h.depth))

/-- Nothing is below what is no directory. -/
theorem not_selected_of_isDirectory (h : t.isDirectory = false) :
    ¬ Selected o levels t names kind content := by
  intro hselected
  obtain ⟨name, rest, rfl⟩ := List.exists_cons_of_ne_nil hselected.ne_nil
  have hchild : t.child? name = none := by
    cases t with
    | directory entries => simp [FileTree.isDirectory] at h
    | _ => rfl
  obtain ⟨found, hfound, _⟩ := hselected.file
  simp [FileTree.descend?, hchild] at hfound

theorem FileTree.descend?_cons_eq_some_iff (hordered : InKeyOrder entries) {name : String}
    {found : FileTree} :
    (FileTree.directory entries).descend? (name :: names) = some found ↔
      ∃ t, (name, t) ∈ entries ∧ t.descend? names = some found := by
  simp only [descend?, child?, Option.bind_eq_some_iff, hordered.findEntry_eq_some_iff]

theorem selected_directory_iff (hordered : InKeyOrder entries) :
    Selected o (levels + 1) (.directory entries) names kind content ↔
      ∃ e ∈ entries, SelectedIn o levels e names kind content := by
  constructor
  · intro h
    obtain ⟨name, rest, rfl⟩ := List.exists_cons_of_ne_nil h.ne_nil
    obtain ⟨found, hfound, hcontent⟩ := h.file
    obtain ⟨t, hmem, hrest⟩ := (FileTree.descend?_cons_eq_some_iff hordered).mp hfound
    obtain ⟨hname, hpasses⟩ := List.forall_mem_cons.mp h.passes
    obtain ⟨last, hlast, hending⟩ := h.ending
    -- Either the first name is the last one as well, or the rest leads on below its tree.
    refine ⟨(name, t), hmem, rest, rfl, hname, ?_⟩
    cases rest with
    | nil =>
        cases hlast
        cases hrest
        exact .inl ⟨rfl, hcontent, hending⟩
    | cons second others =>
        right
        rw [List.getLast?_cons_cons] at hlast
        constructor
        case file => exact ⟨found, hrest, hcontent⟩
        case depth => exact Nat.le_of_succ_le_succ h.depth
        case passes => exact hpasses
        case ending => exact ⟨last, hlast, hending⟩
  · rintro ⟨⟨name, t⟩, hmem, rest, rfl, hname, h⟩
    rcases h with ⟨rfl, hcontent, hending⟩ | h
    · -- The entry is the file.
      constructor
      case file =>
        exact ⟨t, (FileTree.descend?_cons_eq_some_iff hordered).mpr ⟨t, hmem, rfl⟩, hcontent⟩
      case depth => exact Nat.succ_le_succ (Nat.zero_le levels)
      case passes => exact List.forall_mem_singleton.mpr hname
      case ending => exact ⟨name, rfl, hending⟩
    · -- The file is below the entry and keeps its last name.
      obtain ⟨found, hfound, hcontent⟩ := h.file
      obtain ⟨last, hlast, hending⟩ := h.ending
      constructor
      case file =>
        exact ⟨found, (FileTree.descend?_cons_eq_some_iff hordered).mpr ⟨t, hmem, hfound⟩, hcontent⟩
      case depth => exact Nat.succ_le_succ h.depth
      case passes => exact List.forall_mem_cons.mpr ⟨hname, h.passes⟩
      case ending =>
        refine ⟨last, ?_, hending⟩
        rw [List.getLast?_cons, hlast]
        rfl

/-! ### Directories that can be listed -/

/-- Whether a scan can list the directories it comes to: none has a path that is too long. -/
def Listable (o : ScanOptions) (levels : Nat) (path : Path) (t : FileTree) : Prop :=
  ∀ names entries, t.descend? names = some (.directory entries) → names.length < levels →
    (∀ name ∈ names, o.Passes name) →
    (path.descend names).text.utf8ByteSize ≤ FileSystem.longestPath

theorem listable_zero {path : Path} : Listable o 0 path t := by
  intro names entries _ hlength
  exact absurd hlength (Nat.not_lt_zero _)

theorem listable_of_isDirectory (h : t.isDirectory = false) {path : Path} :
    Listable o levels path t := by
  intro names entries hfound
  cases t with
  | directory entries => simp [FileTree.isDirectory] at h
  | _ => cases names <;> simp [FileTree.descend?, FileTree.child?] at hfound

theorem listable_directory_iff (hordered : InKeyOrder entries) {path : Path} :
    Listable o (levels + 1) path (.directory entries) ↔
      path.text.utf8ByteSize ≤ FileSystem.longestPath ∧
        ∀ e ∈ entries, o.Passes e.1 → Listable o levels (path.join e.1) e.2 := by
  constructor
  · intro h
    refine ⟨h [] entries rfl (Nat.succ_pos levels) (by simp), ?_⟩
    intro e he hpasses names entries' hfound hlength hnames
    apply h (e.1 :: names) entries'
    · exact (FileTree.descend?_cons_eq_some_iff hordered).mpr ⟨e.2, he, hfound⟩
    · exact Nat.succ_lt_succ hlength
    · exact List.forall_mem_cons.mpr ⟨hpasses, hnames⟩
  · rintro ⟨hpath, hentries⟩ names entries' hfound hlength hnames
    cases names with
    | nil => exact hpath
    | cons name names =>
        obtain ⟨t, hmem, hfound⟩ := (FileTree.descend?_cons_eq_some_iff hordered).mp hfound
        obtain ⟨hname, hnames⟩ := List.forall_mem_cons.mp hnames
        exact hentries (name, t) hmem hname names entries' hfound (Nat.lt_of_succ_lt_succ hlength)
          hnames

end

/-! ### Scans -/

/-- A file found at a place below a directory: the names that lead there, and what it holds. -/
abbrev Placed := List String × Except Fault ByteArray

def foundAt (path : Path) (x : Placed) : FoundFile := ⟨path.descend x.1, x.2⟩

/-- A scan finds files at the given places below a directory: those with a property, each place
  once. -/
structure Finds (path : Path) (P : Placed → Prop) (scanned : Except Error (List FoundFile))
    (places : List Placed) : Prop where
  eq : scanned = .ok (places.map (foundAt path))
  nodup : (places.map Prod.fst).Nodup
  mem : ∀ x, x ∈ places ↔ P x

section

variable {o : ScanOptions} {levels : Nat} {t : FileTree} {entries : List (String × FileTree)}
  {path : Path} {P Q : Placed → Prop}

theorem finds_nothing (h : ∀ x, ¬ P x) : Finds path P (.ok []) [] := by
  constructor
  case eq => rfl
  case nodup => exact List.nodup_nil
  case mem => simp [h]

/-- The places found by two scans together, when no place is found by both. -/
theorem Finds.append {scanned scanned' : Except Error (List FoundFile)}
    {places places' : List Placed} (h : Finds path P scanned places)
    (h' : Finds path Q scanned' places') (hapart : ∀ x y, P x → Q y → x.1 ≠ y.1) :
    Finds path (fun x => P x ∨ Q x)
      (do let found ← scanned; let others ← scanned'; pure (found ++ others))
      (places ++ places') := by
  constructor
  case eq =>
    rw [h.eq, h'.eq, List.map_append]
    rfl
  case nodup =>
    rw [List.map_append, List.nodup_append]
    refine ⟨h.nodup, h'.nodup, ?_⟩
    intro names hnames names' hnames'
    obtain ⟨x, hx, rfl⟩ := List.mem_map.mp hnames
    obtain ⟨y, hy, rfl⟩ := List.mem_map.mp hnames'
    exact hapart x y ((h.mem x).mp hx) ((h'.mem y).mp hy)
  case mem =>
    intro x
    rw [List.mem_append, h.mem, h'.mem]

theorem Finds.congr {scanned : Except Error (List FoundFile)} {places : List Placed}
    (h : Finds path P scanned places) (hPQ : ∀ x, P x ↔ Q x) : Finds path Q scanned places where
  eq := h.eq
  nodup := h.nodup
  mem x := (h.mem x).trans (hPQ x)

/-- What is found from an entry of a directory is found below that directory. -/
theorem Finds.below {scanned : Except Error (List FoundFile)} {places : List Placed} {name : String}
    (h : Finds (path.join name) P scanned places) :
    Finds path (fun x => ∃ rest, x.1 = name :: rest ∧ P (rest, x.2)) scanned
      (places.map fun x => (name :: x.1, x.2)) := by
  constructor
  case eq =>
    rw [h.eq, List.map_map]
    rfl
  case nodup =>
    have hcons : (places.map fun x => (name :: x.1, x.2)).map Prod.fst =
        (places.map Prod.fst).map (name :: ·) := by
      rw [List.map_map, List.map_map]
      rfl
    rw [hcons, List.Nodup, List.pairwise_map]
    exact h.nodup.imp fun hne heq => hne (List.cons.inj heq).2
  case mem =>
    rintro ⟨names, content⟩
    rw [List.mem_map]
    constructor
    · rintro ⟨⟨rest, content'⟩, hmem, heq⟩
      cases heq
      exact ⟨rest, rfl, (h.mem _).mp hmem⟩
    · rintro ⟨rest, rfl, hP⟩
      exact ⟨(rest, content), (h.mem _).mpr hP, rfl⟩

def walkEntry (o : ScanOptions) (path : Path) (levels : Nat) (e : String × FileTree) :
    Except Error (List FoundFile) :=
  if o.skips e.1 then .ok []
  else
    match e.2.content? with
    | some content => .ok (if isConfigurationName e.1 then [⟨path.join e.1, content⟩] else [])
    | none => walk o (path.join e.1) levels e.2

theorem walkEntries_cons (o : ScanOptions) (path : Path) (levels : Nat) (e : String × FileTree)
    (rest : List (String × FileTree)) :
    walkEntries o path levels (e :: rest) =
      (do let below ← walkEntry o path levels e
          let others ← walkEntries o path levels rest
          pure (below ++ others)) := by
  rw [walkEntries, walkEntry]
  cases o.skips e.1 with
  | true => rfl
  | false => cases e.2.content? <;> rfl

theorem isDirectory_of_content? {content : Except Fault ByteArray}
    (h : t.content? = some content) : t.isDirectory = false := by
  cases t with
  | directory entries => simp [FileTree.content?] at h
  | _ => rfl

/-- An entry that is a file is found when its name is that of a configuration file. -/
theorem finds_file {name : String} {content : Except Fault ByteArray} (hpasses : o.Passes name)
    (hcontent : t.content? = some content) :
    ∃ places, Finds path (fun x => ∃ kind, SelectedIn o levels (name, t) x.1 kind x.2)
      (.ok (if isConfigurationName name then [⟨path.join name, content⟩] else [])) places := by
  have hbelow : ∀ rest kind content', ¬ Selected o levels t rest kind content' :=
    fun _ _ _ => not_selected_of_isDirectory (isDirectory_of_content? hcontent)
  have hselected : ∀ x : Placed, (∃ kind, SelectedIn o levels (name, t) x.1 kind x.2) ↔
      x = ([name], content) ∧ isConfigurationName name := by
    rintro ⟨names, content'⟩
    rw [isConfigurationName_iff]
    constructor
    · rintro ⟨kind, rest, hnames, _, h⟩
      rcases h with ⟨hrest, hcontent', hending⟩ | h
      · rw [FileTree.holds_iff, hcontent] at hcontent'
        cases hcontent'
        exact ⟨by simp_all, kind, hending⟩
      · exact absurd h (hbelow rest kind content')
    · rintro ⟨heq, kind, hending⟩
      cases heq
      exact ⟨kind, [], rfl, hpasses, .inl ⟨rfl, FileTree.holds_iff.mpr hcontent, hending⟩⟩
  cases hname : isConfigurationName name with
  | false => exact ⟨[], finds_nothing (by simp [hselected, hname])⟩
  | true =>
      refine ⟨[([name], content)], ?_⟩
      constructor
      case eq => rfl
      case nodup => exact List.pairwise_singleton _ _
      case mem => simp [hselected, hname]

/-- What is found from an entry, given what is found from the tree that it stands for. -/
theorem finds_entry {e : String × FileTree}
    (htree : o.Passes e.1 → ∃ places, Finds (path.join e.1)
      (fun x => ∃ kind, Selected o levels e.2 x.1 kind x.2) (walk o (path.join e.1) levels e.2)
      places) :
    ∃ places, Finds path (fun x => ∃ kind, SelectedIn o levels e x.1 kind x.2)
      (walkEntry o path levels e) places := by
  obtain ⟨name, t⟩ := e
  unfold walkEntry
  cases hskips : o.skips name with
  | true =>
      refine ⟨[], finds_nothing ?_⟩
      rintro x ⟨kind, rest, _, hpasses, _⟩
      rw [ScanOptions.skips_eq_false_iff.mpr hpasses] at hskips
      contradiction
  | false =>
      have hpasses := ScanOptions.skips_eq_false_iff.mp hskips
      rw [if_neg Bool.false_ne_true]
      split
      next content hcontent => exact finds_file hpasses hcontent
      next hcontent =>
          obtain ⟨places, hplaces⟩ := htree hpasses
          refine ⟨_, hplaces.below.congr ?_⟩
          rintro ⟨names, content⟩
          constructor
          · rintro ⟨rest, hnames, kind, h⟩
            exact ⟨kind, rest, hnames, hpasses, .inr h⟩
          · rintro ⟨kind, rest, hnames, _, h⟩
            rcases h with ⟨_, hcontent', _⟩ | h
            · rw [FileTree.holds_iff, hcontent] at hcontent'
              contradiction
            · exact ⟨rest, hnames, kind, h⟩

theorem finds_entries (hordered : InKeyOrder entries)
    (htrees : ∀ e ∈ entries, o.Passes e.1 → ∃ places, Finds (path.join e.1)
      (fun x => ∃ kind, Selected o levels e.2 x.1 kind x.2) (walk o (path.join e.1) levels e.2)
      places) :
    ∃ places, Finds path (fun x => ∃ kind, ∃ e ∈ entries, SelectedIn o levels e x.1 kind x.2)
      (walkEntries o path levels entries) places := by
  induction entries with
  | nil => exact ⟨[], finds_nothing (by simp)⟩
  | cons e rest ih =>
      obtain ⟨hfirst, hrest⟩ := inKeyOrder_cons.mp hordered
      obtain ⟨he, htrees⟩ := List.forall_mem_cons.mp htrees
      obtain ⟨places, hplaces⟩ := finds_entry he
      obtain ⟨others, hothers⟩ := ih hrest htrees
      -- The places in an entry begin with its name, which no other entry has.
      have hapart : ∀ x y : Placed, (∃ kind, SelectedIn o levels e x.1 kind x.2) →
          (∃ kind, ∃ f ∈ rest, SelectedIn o levels f y.1 kind y.2) → x.1 ≠ y.1 := by
        rintro x y ⟨_, _, hx, _⟩ ⟨_, f, hf, _, hy, _⟩ heq
        rw [hx, hy] at heq
        exact ne_of_compare_lt (hfirst f hf) (List.cons.inj heq).1
      rw [walkEntries_cons]
      refine ⟨_, (hplaces.append hothers hapart).congr ?_⟩
      intro x
      simp only [List.mem_cons, exists_eq_or_imp, exists_or]

/-- A scan that can list the directories it comes to finds what is selected. -/
theorem finds_walk (hnamed : t.WellNamed) (hlisted : Listable o levels path t) :
    ∃ places, Finds path (fun x => ∃ kind, Selected o levels t x.1 kind x.2)
      (walk o path levels t) places := by
  induction levels generalizing path t with
  | zero =>
      have hwalk : walk o path 0 t = .ok [] := by cases t <;> rfl
      rw [hwalk]
      exact ⟨[], finds_nothing fun x ⟨_, h⟩ => not_selected_zero h⟩
  | succ levels ih =>
      cases hnamed with
      | directory hordered hnames htrees =>
          rename_i entries
          obtain ⟨hpath, hlisted⟩ := (listable_directory_iff hordered).mp hlisted
          simp only [selected_directory_iff hordered]
          rw [walk, if_neg (Nat.not_lt.mpr hpath)]
          apply finds_entries hordered
          intro e he hpasses
          exact ih (htrees e he) (hlisted e he hpasses)
      | _ => exact ⟨[], finds_nothing fun x ⟨_, h⟩ => not_selected_of_isDirectory rfl h⟩

end

end Terralens
