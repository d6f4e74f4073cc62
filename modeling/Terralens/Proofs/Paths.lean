import Terralens.Scan
import Terralens.Proofs.Orders
import Terralens.Proofs.Pieces

/-!
# Paths below a directory

Names lead from a directory to a path below it (`Path.descend`). However the path of the directory
is written, the components of that path are those of the directory and then the names
(`components_descend`). So two lists of names lead to equal paths only if they are equal, and the
paths are ordered as the lists are, name by name (`order_descend`).

The kind of a file is told by the ending of its name, unless the name begins with a point
(`FileKind.ofPath?_descend`).
-/

namespace Terralens

/-! ### Components -/

/-- A name that an entry of a directory can have. -/
structure IsEntryName (name : String) : Prop where
  nonempty : name ≠ ""
  noSlash : '/' ∉ name.toList
  notHere : name ≠ "."
  notUp : name ≠ ".."

instance : DecidablePred IsEntryName := fun name =>
  decidable_of_iff (name ≠ "" ∧ '/' ∉ name.toList ∧ name ≠ "." ∧ name ≠ "..")
    ⟨fun ⟨hne, hslash, hhere, hup⟩ => ⟨hne, hslash, hhere, hup⟩,
      fun ⟨hne, hslash, hhere, hup⟩ => ⟨hne, hslash, hhere, hup⟩⟩

namespace Path

theorem inner?_of_isEntryName {name : String} (h : IsEntryName name) :
    inner? name.toList = some (.name name) := by
  have hnonempty : name.toList ≠ [] := fun heq => h.nonempty (String.toList_injective heq)
  have hhere : name.toList ≠ ['.'] := fun heq => h.notHere (String.toList_injective heq)
  have hup : name.toList ≠ ['.', '.'] := fun heq => h.notUp (String.toList_injective heq)
  simp [inner?, hnonempty, hhere, hup]

theorem componentsOf_root {rest : List (List Char)} (h : rest ≠ []) :
    componentsOf ([] :: rest) = .root :: rest.filterMap inner? := by
  obtain ⟨second, others, rfl⟩ := List.exists_cons_of_ne_nil h
  rfl

theorem componentsOf_cons (c : Char) (cs : List Char) (rest : List (List Char)) :
    componentsOf ((c :: cs) :: rest) = componentsOf [c :: cs] ++ rest.filterMap inner? := by
  simp [componentsOf]

theorem filterMap_inner?_append (rest : List (List Char)) (piece : List Char) :
    (rest ++ [piece]).filterMap inner? = rest.filterMap inner? ++ (inner? piece).toList := by
  rw [List.filterMap_append]
  cases h : inner? piece with
  | none => rw [List.filterMap_cons_none h]; rfl
  | some c => rw [List.filterMap_cons_some h]; rfl

/-- A piece at the end adds the component it stands for, as it is not the first. -/
theorem componentsOf_append_singleton {pieces : List (List Char)} (hne : pieces ≠ [])
    (piece : List Char) :
    componentsOf (pieces ++ [piece]) = componentsOf (pieces ++ [[]]) ++ (inner? piece).toList := by
  obtain ⟨first, rest, rfl⟩ := List.exists_cons_of_ne_nil hne
  cases first with
  | nil =>
      rw [List.cons_append, List.cons_append, componentsOf_root (by simp),
        componentsOf_root (by simp), filterMap_inner?_append, filterMap_inner?_append]
      simp [inner?]
  | cons c cs =>
      rw [List.cons_append, List.cons_append, componentsOf_cons, componentsOf_cons c cs (_ ++ [[]]),
        filterMap_inner?_append, filterMap_inner?_append]
      simp [inner?]

/-- An empty piece at the end does not count. -/
theorem componentsOf_append_nil {pieces : List (List Char)} (hne : pieces ≠ [])
    (hempty : pieces ≠ [[]]) : componentsOf (pieces ++ [[]]) = componentsOf pieces := by
  obtain ⟨first, rest, rfl⟩ := List.exists_cons_of_ne_nil hne
  cases first with
  | nil =>
      have hrest : rest ≠ [] := by
        rintro rfl
        exact hempty rfl
      rw [List.cons_append, componentsOf_root (by simp), componentsOf_root hrest,
        filterMap_inner?_append]
      simp [inner?]
  | cons c cs =>
      rw [List.cons_append, componentsOf_cons, componentsOf_cons c cs rest, filterMap_inner?_append]
      simp [inner?]

theorem join_text_ne_empty {d : Path} (hd : d.text ≠ "") (name : String) :
    (d.join name).text ≠ "" := by
  unfold join
  split
  next hroot =>
      rintro rfl
      simp [hd] at hroot
  next =>
      split
      · simp [hd]
      · simp

/-- The components of what a name leads to are those of the directory and the name. -/
theorem components_join {d : Path} (hd : d.text ≠ "") {name : String} (h : IsEntryName name) :
    (d.join name).components = d.components ++ [.name name] := by
  have hhead : name.toList.head? ≠ some '/' := by
    intro heq
    exact h.noSlash (List.mem_of_mem_head? heq)
  have hname := Text.pieces_of_not_mem h.noSlash
  have hlast : ∀ before : List Char,
      componentsOf (Text.pieces '/' before ++ [name.toList]) =
        componentsOf (Text.pieces '/' before ++ [[]]) ++ [.name name] := by
    intro before
    rw [componentsOf_append_singleton (Text.pieces_ne_nil '/' before), inner?_of_isEntryName h]
    rfl
  unfold join components
  rw [if_neg (by simp [hhead, hd])]
  split
  next hslash =>
      obtain ⟨before, hbefore⟩ := List.getLast?_eq_some_iff.mp (eq_of_beq hslash)
      rw [String.toList_append, hbefore, List.append_assoc, List.singleton_append,
        Text.pieces_append, Text.pieces_append, hname, hlast]
      rfl
  next =>
      have hpieces : Text.pieces '/' d.text.toList ≠ [[]] := by
        intro heq
        exact hd (String.toList_injective (Text.eq_nil_of_pieces heq))
      have htext : (d.text ++ "/" ++ name).toList = d.text.toList ++ '/' :: name.toList := by simp
      rw [htext, Text.pieces_append, hname, hlast,
        componentsOf_append_nil (Text.pieces_ne_nil '/' _) hpieces]

/-- The path that names lead to from a directory. -/
def descend (p : Path) (names : List String) : Path := names.foldl join p

theorem descend_cons (p : Path) (name : String) (names : List String) :
    p.descend (name :: names) = (p.join name).descend names := rfl

theorem components_descend {p : Path} (hp : p.text ≠ "") {names : List String}
    (h : ∀ name ∈ names, IsEntryName name) :
    (p.descend names).components = p.components ++ names.map .name := by
  induction names generalizing p with
  | nil => simp [descend]
  | cons name names ih =>
      obtain ⟨hname, hnames⟩ := List.forall_mem_cons.mp h
      rw [descend_cons, ih (join_text_ne_empty hp name) hnames, components_join hp hname,
        List.append_assoc, List.map_cons]
      rfl

/-- Different names lead to different paths. -/
theorem eq_of_same_descend {p : Path} (hp : p.text ≠ "") {names names' : List String}
    (h : ∀ name ∈ names, IsEntryName name) (h' : ∀ name ∈ names', IsEntryName name)
    (hsame : (p.descend names).same (p.descend names') = true) : names = names' := by
  rw [same, beq_iff_eq, components_descend hp h, components_descend hp h',
    List.append_cancel_left_eq] at hsame
  exact List.map_inj_right (fun _ _ heq => Component.name.inj heq) |>.mp hsame

theorem compare_map_name (names names' : List String) :
    compare (names.map Component.name) (names'.map Component.name) = compare names names' := by
  simp only [List.compare_eq_compareLex]
  induction names generalizing names' with
  | nil => cases names' <;> rfl
  | cons name names ih =>
      cases names' with
      | nil => rfl
      | cons name' names' =>
          rw [List.map_cons, List.map_cons, List.compareLex_cons_cons, List.compareLex_cons_cons,
            ih]
          rfl

theorem compare_append_left (base cs cs' : List Component) :
    compare (base ++ cs) (base ++ cs') = compare cs cs' := by
  simp only [List.compare_eq_compareLex]
  induction base with
  | nil => rfl
  | cons c base ih =>
      rw [List.cons_append, List.cons_append, List.compareLex_cons_cons, Std.compare_self, ih,
        Ordering.eq_then]

/-- Below a directory, paths are ordered by the names that lead to them, name by name. -/
theorem order_descend {p : Path} (hp : p.text ≠ "") {names names' : List String}
    (h : ∀ name ∈ names, IsEntryName name) (h' : ∀ name ∈ names', IsEntryName name) :
    (p.descend names).order (p.descend names') = compare names names' := by
  rw [order, components_descend hp h, components_descend hp h', compare_append_left,
    compare_map_name]

theorem fileName?_descend {p : Path} (hp : p.text ≠ "") {names : List String}
    (h : ∀ name ∈ names, IsEntryName name) {name : String} (hlast : names.getLast? = some name) :
    (p.descend names).fileName? = some name := by
  have hmap : (names.map Component.name).getLast? = some (.name name) := by
    rw [List.getLast?_map, hlast]
    rfl
  rw [fileName?, components_descend hp h, List.getLast?_append, hmap]
  rfl

/-! ### Endings -/

/-- What follows a point is the extension, when no other point follows and something stands
  before it. -/
theorem extensionOf_append {stem extension : List Char} (hstem : stem ≠ [])
    (h : '.' ∉ extension) : extensionOf (stem ++ '.' :: extension) = some extension := by
  have hafter : (stem ++ '.' :: extension).reverse.takeWhile (· != '.') = extension.reverse := by
    rw [List.reverse_append, List.reverse_cons, List.append_assoc, List.takeWhile_append_of_pos]
    · simp
    · intro c hc
      have hmem : c ∈ extension := List.mem_reverse.mp hc
      simp only [bne_iff_ne, ne_eq]
      rintro rfl
      exact h hmem
  have hlength : 0 < stem.length := List.length_pos_iff.mpr hstem
  rw [extensionOf, hafter, List.reverse_reverse, if_neg]
  rw [List.length_append, List.length_cons]
  omega

end Path

def FileKind.extension : FileKind → String
  | .terraform => "tf"
  | .tfvars => "tfvars"
  | .hcl => "hcl"

def FileKind.ending (kind : FileKind) : List Char := '.' :: kind.extension.toList

theorem FileKind.ofPath?_eq {p : Path} {kind : FileKind} (h : p.extension? = some kind.extension) :
    FileKind.ofPath? p = some kind := by
  rw [FileKind.ofPath?, h]
  cases kind <;> rfl

/-- A file has the kind of its ending, unless it is hidden. -/
theorem FileKind.ofPath?_descend {p : Path} (hp : p.text ≠ "") {names : List String}
    (h : ∀ name ∈ names, IsEntryName name) {name : String} (hlast : names.getLast? = some name)
    {kind : FileKind} (hending : kind.ending <:+ name.toList)
    (hvisible : name.toList.head? ≠ some '.') : FileKind.ofPath? (p.descend names) = some kind := by
  obtain ⟨stem, hstem⟩ := hending
  have hne : stem ≠ [] := by
    rintro rfl
    rw [← hstem] at hvisible
    exact hvisible rfl
  have hextension : '.' ∉ kind.extension.toList := by cases kind <;> decide
  apply FileKind.ofPath?_eq
  rw [Path.extension?, Path.fileName?_descend hp h hlast, Option.bind_some, ← hstem,
    FileKind.ending, Path.extensionOf_append hne hextension, Option.map_some, String.ofList_toList]

theorem isConfigurationName_iff {name : String} :
    isConfigurationName name ↔ ∃ kind : FileKind, kind.ending <:+ name.toList := by
  simp only [isConfigurationName, List.any_cons, List.any_nil, Bool.or_false, Bool.or_eq_true,
    List.isSuffixOf_iff_suffix]
  constructor
  · rintro (h | h | h)
    · exact ⟨.terraform, h⟩
    · exact ⟨.tfvars, h⟩
    · exact ⟨.hcl, h⟩
  · rintro ⟨kind, h⟩
    cases kind with
    | terraform => exact .inl h
    | tfvars => exact .inr (.inl h)
    | hcl => exact .inr (.inr h)

end Terralens
