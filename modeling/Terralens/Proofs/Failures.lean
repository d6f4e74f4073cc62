import Terralens.Proofs.Accounting

/-!
# What a failed addition does

`Failed` is to additions that fail what `Added` is to those that succeed: it says once which error
a block meets and what it leaves behind. A block fails because it lacks a label, because what it
defines is there already, or, for a `locals` block, because one of its names is. Only the last
changes the configuration: the names are added in their order up to the first one that is taken
(`addLocals_stops`), which is therefore the least of them. Every failed addition is one of these
(`failed_of_addBlock`), and a run of additions fails at its first block that does
(`addBlocks_stops`).
-/

namespace Terralens

/-! ### Names of entries and of labels -/

namespace EntryName

def kind : EntryName → EntryKind
  | .resource _ => .resource
  | .dataSource _ => .dataSource
  | .input _ => .variable
  | .output _ => .output
  | .local _ => .local
  | .module _ => .module
  | .provider _ _ => .provider

/-- How an entry is called: by its name, which a type precedes or an alias follows. -/
def text : EntryName → String
  | .resource key => key.type ++ "." ++ key.name
  | .dataSource key => key.type ++ "." ++ key.name
  | .input name => name
  | .output name => name
  | .local name => name
  | .module name => name
  | .provider name (some alternate) => name ++ "." ++ alternate
  | .provider name none => name

end EntryName

theorem ProviderEntry.reference_eq (p : ProviderEntry) :
    p.reference = (EntryName.provider p.name p.alternate).text := by
  unfold reference EntryName.text
  cases p.alternate <;> rfl

namespace Block

/-- What the labels are called that a block of some type needs. -/
def labelNames (type : String) : List String :=
  match type with
  | "resource" => ["type", "name"]
  | "data" => ["type", "name"]
  | "variable" => ["variable name"]
  | "output" => ["output name"]
  | "provider" => ["provider name"]
  | "module" => ["module name"]
  | _ => []

theorem length_labelNames (type : String) : (labelNames type).length = labelsNeeded type := by
  unfold labelNames
  split <;> simp_all [labelsNeeded]

/-- The error of a block whose labels end before all are there that have these names. -/
def missing (b : Block) (names : List String) : Error :=
  .incomplete b.location
    ("'" ++ b.type ++ "' block is missing its " ++ names.getD b.labels.length "" ++ " label")

def missingLabel (b : Block) : Error := b.missing (labelNames b.type)

end Block

namespace Configuration

/-- An entry is defined, and this is where. -/
def DefinesAt (c : Configuration) (l : Location) : EntryName → Prop
  | .resource key => ∃ e, c.resources.get? key = some e ∧ e.location = l
  | .dataSource key => ∃ e, c.dataSources.get? key = some e ∧ e.location = l
  | .input name => ∃ e, c.inputs.get? name = some e ∧ e.location = l
  | .output name => ∃ e, c.outputs.get? name = some e ∧ e.location = l
  | .local name => ∃ e, c.locals.get? name = some e ∧ e.location = l
  | .module name => ∃ e, c.modules.get? name = some e ∧ e.location = l
  | .provider name alternate =>
      ∃ p ∈ c.providers, (p.name = name ∧ p.alternate = alternate) ∧ p.location = l

/-- A block could not be added to a configuration; with the error, and with what the
  configuration became. -/
inductive Failed (c : Configuration) (b : Block) : Error → Configuration → Prop where
  | unlabelled (hlabels : ¬ b.Labelled) : Failed c b b.missingLabel c
  | taken (n : EntryName) (first : Location) (htype : b.type ≠ "locals") (hlabels : b.Labelled)
      (hdefines : b.defines = [n]) (hfirst : c.DefinesAt first n) :
      Failed c b (.duplicate n.kind n.text first b.location) c
  | locals (name : String) (first : Location) (entries : KeyMap String LocalEntry)
      (htype : b.type = "locals") (hname : name ∈ b.attributes.keys)
      (hfirst : c.DefinesAt first (.local name))
      (hnew : ∀ other ∈ b.attributes.keys, other < name → other ∉ c.locals.keys)
      (hentries : entries.entries.Perm
        (c.locals.entries ++ b.localEntries.filter fun e => e.1 < name)) :
      Failed c b (.duplicate .local name first b.location) { c with locals := entries }

/-! ### Entries of a block -/

end Configuration

theorem Block.ofLabel_eq_error_iff {α : Type} {b : Block} {what : String} {f : String → α}
    {e : Error} :
    (do let label ← b.requiredLabel 0 what; pure (f label) : Except Error α) = .error e ↔
      ¬ 1 ≤ b.labels.length ∧ e = b.missing [what] := by
  by_cases h : 0 < b.labels.length
  · rw [requiredLabel_of_lt h]
    simp [bind, Except.bind, pure, Except.pure, Nat.succ_le_of_lt h]
  · have hzero : b.labels.length = 0 := by omega
    rw [requiredLabel_of_le (by omega)]
    simp [bind, Except.bind, missing, hzero, eq_comm]

theorem ResourceEntry.ofBlock_eq_error_iff {b : Block} {e : Error} :
    ResourceEntry.ofBlock b = .error e ↔
      ¬ 2 ≤ b.labels.length ∧ e = b.missing ["type", "name"] := by
  unfold ofBlock
  by_cases htype : 0 < b.labels.length
  · rw [Block.requiredLabel_of_lt htype]
    by_cases hname : 1 < b.labels.length
    · rw [Block.requiredLabel_of_lt hname]
      simp [bind, Except.bind, pure, Except.pure, Nat.succ_le_of_lt hname]
    · have hone : b.labels.length = 1 := by omega
      rw [Block.requiredLabel_of_le (by omega)]
      simp [bind, Except.bind, Block.missing, hone, eq_comm]
  · have hzero : b.labels.length = 0 := by omega
    rw [Block.requiredLabel_of_le (by omega)]
    simp [bind, Except.bind, Block.missing, hzero, eq_comm]

/-- Why an entry cannot be added that a block defines when it has its labels. -/
theorem addEntry_bind_eq_error {κ ν : Type} [Ord κ] [Std.TransOrd κ] {kind : EntryKind}
    {name : κ → String} {location : ν → Location} {key : ν → κ} {m : KeyMap κ ν}
    {entry : Except Error ν} {labelled : Prop} {v : ν} {missing : Error}
    (hok : ∀ v', entry = .ok v' ↔ labelled ∧ v' = v)
    (herror : ∀ e', entry = .error e' ↔ ¬ labelled ∧ e' = missing)
    {put : KeyMap κ ν → Configuration} {e : Error}
    (h : (do let m' ← addEntry kind name location key m entry; pure (put m') :
      Except Error Configuration) = .error e) :
    (¬ labelled ∧ e = missing) ∨
      (labelled ∧ ∃ first, m.get? (key v) = some first ∧
        e = .duplicate kind (name (key v)) (location first) (location v)) := by
  unfold addEntry insertUnique at h
  cases hentry : entry with
  | error e' =>
      left
      rw [hentry] at h
      cases h
      exact (herror e).mp hentry
  | ok v' =>
      right
      obtain ⟨hlabelled, rfl⟩ := (hok v').mp hentry
      rw [hentry] at h
      cases hfound : m.get? (key v') with
      | none => simp [bind, Except.bind, pure, Except.pure, hfound] at h
      | some first =>
          refine ⟨hlabelled, first, rfl, ?_⟩
          simpa [bind, Except.bind, hfound, eq_comm] using h

namespace Configuration

theorem addProvider_eq_error {c : Configuration} {b : Block} {e : Error}
    (h : c.addProvider b = .error e) :
    (¬ 1 ≤ b.labels.length ∧ e = b.missing ["provider name"]) ∨
      (1 ≤ b.labels.length ∧ ∃ first ∈ c.providers,
        (first.name = b.label 0 ∧ first.alternate = b.alternate) ∧
          e = .duplicate .provider first.reference first.location b.location) := by
  unfold addProvider at h
  cases hentry : ProviderEntry.ofBlock b with
  | error e' =>
      left
      rw [hentry] at h
      cases h
      exact Block.ofLabel_eq_error_iff.mp hentry
  | ok entry =>
      right
      obtain ⟨hlabels, rfl⟩ := ProviderEntry.ofBlock_eq_ok_iff.mp hentry
      simp only [hentry, bind, Except.bind] at h
      split at h
      next first hfound =>
          have hfirst := List.find?_some hfound
          rw [Bool.and_eq_true, beq_iff_eq, beq_iff_eq] at hfirst
          exact ⟨hlabels, first, List.mem_of_find?_eq_some hfound, hfirst,
            (Except.error.inj h).symm⟩
      · cases h

/-! ### Local values -/

theorem compare_eq_lt_iff {a b : String} : compare a b = .lt ↔ a < b := compareOfLessAndEq_eq_lt

theorem addLocals_append {location : Location} {before : List (String × Value)}
    {c c' : Configuration} (h : addLocals location before c = .done c')
    (after : List (String × Value)) :
    addLocals location (before ++ after) c = addLocals location after c' := by
  induction before generalizing c with
  | nil =>
      cases h
      rfl
  | cons e rest ih =>
      obtain ⟨name, v⟩ := e
      rw [addLocals] at h
      rw [List.cons_append, addLocals]
      split at h
      · exact ih h
      · cases h

/-- Of names of which some are taken, there is a first one that is. -/
theorem exists_first_taken {c : Configuration} {entries : List (String × Value)}
    (h : ∃ e ∈ entries, e.1 ∈ c.locals.keys) :
    ∃ before name v after first, entries = before ++ (name, v) :: after ∧
      (∀ e ∈ before, e.1 ∉ c.locals.keys) ∧ c.locals.get? name = some first := by
  induction entries with
  | nil => simp at h
  | cons e rest ih =>
      obtain ⟨name, v⟩ := e
      cases hget : c.locals.get? name with
      | some first => exact ⟨[], name, v, rest, first, rfl, by simp, hget⟩
      | none =>
          have hname := KeyMap.get?_eq_none_iff.mp hget
          have hrest : ∃ e ∈ rest, e.1 ∈ c.locals.keys := by
            obtain ⟨e, he, hold⟩ := h
            rcases List.mem_cons.mp he with rfl | he
            · exact absurd hold hname
            · exact ⟨e, he, hold⟩
          obtain ⟨before, other, v', after, first, rfl, hnew, hfirst⟩ := ih hrest
          refine ⟨(name, v) :: before, other, v', after, first, rfl, ?_, hfirst⟩
          intro e he
          rcases List.mem_cons.mp he with rfl | he
          · exact hname
          · exact hnew e he

/-- The entries before one of them are those with smaller names. -/
theorem filter_lt_of_inKeyOrder {ν : Type} {before after : List (String × ν)} {name : String}
    {v : ν} (h : InKeyOrder (before ++ (name, v) :: after)) :
    (before ++ (name, v) :: after).filter (fun e => e.1 < name) = before := by
  obtain ⟨-, hafter, hacross⟩ := List.pairwise_append.mp h
  have hsmaller : ∀ e ∈ before, e.1 < name := fun e he =>
    compare_eq_lt_iff.mp (hacross e he (name, v) (by simp))
  have hlarger : ∀ e ∈ after, ¬ e.1 < name := fun e he =>
    String.lt_asymm (compare_eq_lt_iff.mp ((inKeyOrder_cons.mp hafter).1 e he))
  rw [List.filter_append, List.filter_cons_of_neg (by simp),
    List.filter_eq_self.mpr (by simpa using hsmaller),
    List.filter_eq_nil_iff.mpr (by simpa using hlarger), List.append_nil]

/-- Local values in the order of their names are added up to the first one that is defined
  already. -/
theorem addLocals_stops {location : Location} {entries : List (String × Value)}
    {c : Configuration} (horder : InKeyOrder entries) {e : Error}
    (h : (addLocals location entries c).error? = some e) :
    ∃ name v first m, (name, v) ∈ entries ∧ c.locals.get? name = some first ∧
      (∀ other ∈ entries, other.1 < name → other.1 ∉ c.locals.keys) ∧
      addLocals location entries c =
        ⟨{ c with locals := m }, some (.duplicate .local name first.location location)⟩ ∧
      m.entries.Perm (c.locals.entries ++ (entries.filter fun other => other.1 < name).map
        fun (name, v) => (name, ⟨name, v.rawText, location⟩)) := by
  have hold : ∃ e ∈ entries, e.1 ∈ c.locals.keys := by
    by_contra hnew
    push Not at hnew
    obtain ⟨m, hadd, -⟩ := addLocals_succeeds location horder.nodup_keys hnew
    rw [hadd] at h
    cases h
  obtain ⟨before, name, v, after, first, rfl, hnew, hfirst⟩ := exists_first_taken hold
  have hbefore := filter_lt_of_inKeyOrder horder
  obtain ⟨m, hadd, hm⟩ :=
    addLocals_succeeds location (InKeyOrder.nodup_keys (List.pairwise_append.mp horder).1) hnew
  refine ⟨name, v, first, m, by simp, hfirst, ?_, ?_, ?_⟩
  · intro other hother hless
    have hmem : other ∈ before := by
      rw [← hbefore]
      exact List.mem_filter.mpr ⟨hother, by simpa using hless⟩
    exact hnew other hmem
  · have hkept : m.get? name = some first := by
      rw [KeyMap.get?_eq_some_iff] at hfirst ⊢
      rw [hm.mem_iff]
      exact List.mem_append_left _ hfirst
    rw [addLocals_append hadd]
    simp [addLocals, insertUnique, hkept]
  · rw [hbefore]
    exact hm

/-! ### Blocks -/

theorem ofExcept_error?_eq_some_iff {c : Configuration} {x : Except Error Configuration}
    {e : Error} :
    (Extraction.ofExcept c x).error? = some e ↔ x = .error e := by
  cases x <;> simp [Extraction.ofExcept]

theorem configuration_ofExcept_error {c : Configuration} {x : Except Error Configuration}
    {e : Error} (h : x = .error e) : (Extraction.ofExcept c x).configuration = c := by
  rw [h]
  rfl

/-- A block of one entry fails for want of a label, or because the entry is there. -/
theorem failed_of_entry {c : Configuration} {b : Block} {e : Error} (n : EntryName)
    (names : List String) (htype : b.type ≠ "locals") (hnames : Block.labelNames b.type = names)
    (hdefines : b.defines = [n])
    (h : (¬ names.length ≤ b.labels.length ∧ e = b.missing names) ∨
      (names.length ≤ b.labels.length ∧
        ∃ first, c.DefinesAt first n ∧ e = .duplicate n.kind n.text first b.location)) :
    Failed c b e c := by
  have hlabelled : b.Labelled ↔ names.length ≤ b.labels.length := by
    rw [Block.Labelled, ← Block.length_labelNames, hnames]
  rcases h with ⟨hlabels, rfl⟩ | ⟨hlabels, first, hfirst, rfl⟩
  · rw [← hnames]
    exact .unlabelled (fun hb => hlabels (hlabelled.mp hb))
  · exact .taken n first htype (hlabelled.mpr hlabels) hdefines hfirst

/-- A block of one entry whose addition fails; `m` is the map its entry `v` belongs to. -/
theorem failed_of_addEntry {κ ν : Type} [Ord κ] [Std.TransOrd κ] {c : Configuration} {b : Block}
    {e : Error} (n : EntryName) (names : List String) {name : κ → String} {location : ν → Location}
    {key : ν → κ} {m : KeyMap κ ν} {entry : Except Error ν} {v : ν}
    {put : KeyMap κ ν → Configuration} (htype : b.type ≠ "locals")
    (hnames : Block.labelNames b.type = names) (hdefines : b.defines = [n])
    (hok : ∀ v', entry = .ok v' ↔ names.length ≤ b.labels.length ∧ v' = v)
    (herror : ∀ e', entry = .error e' ↔ ¬ names.length ≤ b.labels.length ∧ e' = b.missing names)
    (hfirst : ∀ first, m.get? (key v) = some first → c.DefinesAt (location first) n)
    (htext : name (key v) = n.text) (hlocation : location v = b.location)
    (h : (Extraction.ofExcept c (do
      let m' ← addEntry n.kind name location key m entry
      pure (put m'))).error? = some e) :
    Failed c b e (Extraction.ofExcept c (do
      let m' ← addEntry n.kind name location key m entry
      pure (put m'))).configuration := by
  have hadd := ofExcept_error?_eq_some_iff.mp h
  rw [configuration_ofExcept_error hadd]
  apply failed_of_entry n names htype hnames hdefines
  refine (addEntry_bind_eq_error hok herror hadd).imp_right ?_
  rintro ⟨hlabels, first, hfound, rfl⟩
  refine ⟨hlabels, location first, hfirst first hfound, ?_⟩
  rw [htext, hlocation]

/-- A failed addition is one of those that `Failed` lists. -/
theorem failed_of_addBlock {c : Configuration} {b : Block} {e : Error}
    (h : (c.addBlock b).error? = some e) : Failed c b e (c.addBlock b).configuration := by
  generalize hx : c.addBlock b = x at h ⊢
  unfold addBlock at hx
  -- One case for each type of block, in the order in which `addBlock` tries them.
  split at hx <;> subst hx
  case h_1 htype =>
      exact failed_of_addEntry (.resource b.resourceKey) ["type", "name"] (by simp [htype])
        (by rw [htype]; rfl) (by simp [Block.defines, htype])
        (fun _ => ResourceEntry.ofBlock_eq_ok_iff) (fun _ => ResourceEntry.ofBlock_eq_error_iff)
        (fun first hfirst => ⟨first, hfirst, rfl⟩) rfl rfl h
  case h_2 htype =>
      exact failed_of_addEntry (.dataSource b.resourceKey) ["type", "name"] (by simp [htype])
        (by rw [htype]; rfl) (by simp [Block.defines, htype])
        (fun _ => ResourceEntry.ofBlock_eq_ok_iff) (fun _ => ResourceEntry.ofBlock_eq_error_iff)
        (fun first hfirst => ⟨first, hfirst, rfl⟩) rfl rfl h
  case h_3 htype =>
      exact failed_of_addEntry (.input (b.label 0)) ["variable name"] (by simp [htype])
        (by rw [htype]; rfl) (by simp [Block.defines, htype])
        (fun _ => VariableEntry.ofBlock_eq_ok_iff) (fun _ => Block.ofLabel_eq_error_iff)
        (fun first hfirst => ⟨first, hfirst, rfl⟩) rfl rfl h
  case h_4 htype =>
      exact failed_of_addEntry (.output (b.label 0)) ["output name"] (by simp [htype])
        (by rw [htype]; rfl) (by simp [Block.defines, htype])
        (fun _ => OutputEntry.ofBlock_eq_ok_iff) (fun _ => Block.ofLabel_eq_error_iff)
        (fun first hfirst => ⟨first, hfirst, rfl⟩) rfl rfl h
  case h_5 htype =>
      obtain ⟨name, v, first, m, hname, hfirst, hnew, hadd, hm⟩ :=
        addLocals_stops b.attributes.ordered h
      rw [hadd] at h ⊢
      cases h
      -- Local values are added in the order of their names, so all smaller names were new.
      have hnames : ∀ other ∈ b.attributes.keys, other < name → other ∉ c.locals.keys := by
        intro other hother hless
        obtain ⟨e, he, rfl⟩ := List.mem_map.mp hother
        exact hnew e he hless
      refine .locals name first.location m htype (List.mem_map_of_mem hname)
        ⟨first, hfirst, rfl⟩ hnames ?_
      rw [Block.localEntries, List.filter_map]
      exact hm
  case h_6 htype =>
      have hadd := ofExcept_error?_eq_some_iff.mp h
      rw [configuration_ofExcept_error hadd]
      apply failed_of_entry (.provider (b.label 0) b.alternate) ["provider name"]
        (by simp [htype]) (by rw [htype]; rfl) (by simp [Block.defines, htype])
      refine (addProvider_eq_error hadd).imp_right ?_
      rintro ⟨hlabels, first, hfirst, ⟨hname, halternate⟩, rfl⟩
      refine ⟨hlabels, first.location, ⟨first, hfirst, ⟨hname, halternate⟩, rfl⟩, ?_⟩
      rw [ProviderEntry.reference_eq, hname, halternate]
      rfl
  case h_7 htype =>
      exact failed_of_addEntry (.module (b.label 0)) ["module name"] (by simp [htype])
        (by rw [htype]; rfl) (by simp [Block.defines, htype])
        (fun _ => ModuleEntry.ofBlock_eq_ok_iff) (fun _ => Block.ofLabel_eq_error_iff)
        (fun first hfirst => ⟨first, hfirst, rfl⟩) rfl rfl h
  case h_8 => cases h
  case h_9 => cases h

/-! ### Runs -/

theorem addBlocks_cons_of_fails {c : Configuration} {b : Block} {e : Error}
    (h : (c.addBlock b).error? = some e) (bs : List Block) :
    c.addBlocks (b :: bs) = c.addBlock b := by
  simp [addBlocks, h]

/-- A run that fails comes to its end at the first block that fails. -/
theorem addBlocks_stops {c : Configuration} {bs : List Block} {e : Error}
    (h : (c.addBlocks bs).error? = some e) :
    ∃ before b after, bs = before ++ b :: after ∧ (c.addBlocks before).error? = none ∧
      c.addBlocks bs = (c.addBlocks before).configuration.addBlock b := by
  induction bs generalizing c with
  | nil => cases h
  | cons b rest ih =>
      cases hfirst : (c.addBlock b).error? with
      | some e' => exact ⟨[], b, rest, rfl, rfl, addBlocks_cons_of_fails hfirst rest⟩
      | none =>
          rw [addBlocks_cons_of_succeeds hfirst] at h ⊢
          obtain ⟨before, b', after, rfl, hbefore, hstop⟩ := ih h
          refine ⟨b :: before, b', after, rfl, ?_, ?_⟩
          · exact addBlocks_cons_succeeds_iff.mpr ⟨hfirst, hbefore⟩
          · rw [addBlocks_cons_of_succeeds hfirst]
            exact hstop

end Configuration

end Terralens
