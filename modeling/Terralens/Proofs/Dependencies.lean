import Terralens.Dependencies
import Terralens.Proofs.References
import Terralens.Proofs.Runs
import Terralens.Proofs.Value

/-!
# Dependencies lose no reference

The text of an entry is glued together from the texts of its values, which may be lists and
maps to any depth, and of the blocks inside it. The glue consists of separators, so every
expression stands apart in the text of its entry (`Value.Contains.standsApart`,
`SourceEntry.Contains.standsApart`), and what is found in the expression alone is found in
the entry. `TracksReferences` says what the dependencies of a configuration are;
`tracksReferences_built` proves it of every configuration built by additions.
-/

namespace Terralens

/-! ### Parts that stand apart -/

/-- A text stands in another one between separators, or at its ends. -/
def StandsApart (s text : List Char) : Prop :=
  ∃ pre post, text = pre ++ s ++ post ∧ EndsApart pre ∧ StartsApart post

theorem standsApart_refl (s : List Char) : StandsApart s s :=
  ⟨[], [], by simp, endsApart_nil, startsApart_nil⟩

theorem StandsApart.trans {s t u : List Char} (hst : StandsApart s t) (htu : StandsApart t u) :
    StandsApart s u := by
  obtain ⟨pre, post, rfl, hpre, hpost⟩ := hst
  obtain ⟨before, after, rfl, hbefore, hafter⟩ := htu
  exact ⟨before ++ pre, post ++ after, by simp, hbefore.append hpre, hpost.append hafter⟩

theorem StandsApart.between {s t pre post : List Char} (h : StandsApart s t)
    (hpre : EndsApart pre) (hpost : StartsApart post) : StandsApart s (pre ++ t ++ post) :=
  h.trans ⟨pre, post, rfl, hpre, hpost⟩

def IsGlue (glue : List Char) : Prop := glue ≠ [] ∧ glue.all isSeparator

instance (glue : List Char) : Decidable (IsGlue glue) := inferInstanceAs (Decidable (_ ∧ _))

theorem IsGlue.startsApart {glue : List Char} (h : IsGlue glue) (s : List Char) :
    StartsApart (glue ++ s) := by
  cases glue with
  | nil => exact absurd rfl h.1
  | cons c rest => exact startsApart_cons (List.all_eq_true.mp h.2 c (by simp))

theorem IsGlue.endsApart {glue : List Char} (h : IsGlue glue) (s : List Char) :
    EndsApart (s ++ glue) := by
  rcases List.eq_nil_or_concat glue with rfl | ⟨init, c, rfl⟩
  · exact absurd rfl h.1
  · simpa [EndsApart] using List.all_eq_true.mp h.2 c (by simp)

theorem standsApart_intercalate {glue : List Char} (hglue : IsGlue glue) {s : List Char}
    {parts : List (List Char)} (hs : s ∈ parts) : StandsApart s (glue.intercalate parts) := by
  induction parts with
  | nil => cases hs
  | cons part rest ih =>
      cases rest with
      | nil =>
          rw [List.mem_singleton.mp hs, List.intercalate_singleton]
          exact standsApart_refl part
      | cons next more =>
          rw [List.intercalate_cons_cons]
          rcases List.mem_cons.mp hs with rfl | hs
          · exact ⟨[], glue ++ glue.intercalate (next :: more), by simp, endsApart_nil,
              hglue.startsApart _⟩
          · simpa using (ih hs).between (hglue.endsApart part) startsApart_nil

def valueLines (values : List Value) : List Char :=
  values.flatMap fun v => v.text.toList ++ ['\n']

theorem endsApart_valueLines (values : List Value) : EndsApart (valueLines values) := by
  rcases List.eq_nil_or_concat values with rfl | ⟨init, v, rfl⟩
  · exact endsApart_nil
  · have hglue : IsGlue ['\n'] := by decide
    simpa [valueLines] using hglue.endsApart (valueLines init ++ v.text.toList)

theorem standsApart_valueLines {v : Value} {values : List Value} (hv : v ∈ values) :
    StandsApart v.text.toList (valueLines values) := by
  obtain ⟨before, after, rfl⟩ := List.append_of_mem hv
  have hglue : IsGlue ['\n'] := by decide
  refine ⟨valueLines before, ['\n'] ++ valueLines after, by simp [valueLines],
    endsApart_valueLines before, hglue.startsApart _⟩

/-! ### Expressions in values and blocks -/

/-- A value is an expression with the given text, or has one in its items or entries. -/
inductive Value.Contains (s : String) : Value → Prop where
  | here : Contains s (.expression s)
  | item {items : List Value} {v : Value} (hmem : v ∈ items) (hv : Contains s v) :
      Contains s (.list items)
  | entry {entries : List (String × Value)} {k : String} {v : Value} (hmem : (k, v) ∈ entries)
      (hv : Contains s v) : Contains s (.map entries)

/-- An attribute of a block, or of a block in it at any depth, contains an expression. -/
inductive Block.Contains (s : String) : Block → Prop where
  | direct {b : Block} {v : Value} (hmem : v ∈ b.attributes.values) (hv : v.Contains s) :
      Contains s b
  | nested {b inner : Block} (hmem : inner ∈ b.blocks) (hinner : Contains s inner) :
      Contains s b

/-- An expression stands apart in the text of every value that contains it. -/
theorem Value.Contains.standsApart {s : String} {v : Value} (h : v.Contains s) :
    StandsApart s.toList v.text.toList := by
  -- By induction on how deep the expression lies; brackets, commas and signs are glue, which
  -- no reference goes across.
  induction h with
  | here => exact standsApart_refl _
  | @item items v hmem hv ih =>
      have hpart : StandsApart v.text.toList ([',', ' '].intercalate (items.map (·.text.toList))) :=
        standsApart_intercalate (by decide) (List.mem_map_of_mem hmem)
      have hopen : IsGlue ['['] := by decide
      have hclose : IsGlue [']'] := by decide
      rw [toList_text_list]
      exact ih.trans (hpart.between (hopen.endsApart []) (hclose.startsApart []))
  | @entry entries k v hmem hv ih =>
      have hsign : IsGlue [' ', '=', ' '] := by decide
      have hvalue : StandsApart v.text.toList (entryChars (k, v)) := by
        simpa [entryChars] using (standsApart_refl v.text.toList).between
          (hsign.endsApart k.toList) startsApart_nil
      have hpart : StandsApart (entryChars (k, v)) ([',', ' '].intercalate (entries.map entryChars)) :=
        standsApart_intercalate (by decide) (List.mem_map_of_mem hmem)
      have hopen : IsGlue ['\x7b', ' '] := by decide
      have hclose : IsGlue [' ', '\x7d'] := by decide
      rw [toList_text_map]
      exact ih.trans (hvalue.trans (hpart.between (hopen.endsApart []) (hclose.startsApart [])))

/-! ### The text of an entry -/

mutual

def Block.allValues : Block → List Value
  | ⟨_, _, attributes, blocks, _⟩ => attributes.values ++ allValuesOf blocks

def allValuesOf : List Block → List Value
  | [] => []
  | b :: rest => b.allValues ++ allValuesOf rest

end

theorem allValuesOf_eq_flatMap (bs : List Block) : allValuesOf bs = bs.flatMap Block.allValues := by
  induction bs with
  | nil => rfl
  | cons b rest ih => simp [allValuesOf, ih]

theorem valueLines_append (values values' : List Value) :
    valueLines (values ++ values') = valueLines values ++ valueLines values' :=
  List.flatMap_append

theorem toList_attributesText (attributes : KeyMap String Value) :
    (attributesText attributes).toList = valueLines attributes.values := by
  simp [attributesText, valueLines, List.flatMap_def, Function.comp_def]

mutual

theorem Block.toList_attributeText (b : Block) :
    b.attributeText.toList = valueLines b.allValues := by
  obtain ⟨type, labels, attributes, blocks, location⟩ := b
  rw [Block.attributeText, Block.allValues, valueLines_append, String.toList_append,
    toList_attributesText, toList_blocksText]

theorem toList_blocksText (bs : List Block) :
    (blocksText bs).toList = valueLines (allValuesOf bs) := by
  cases bs with
  | nil => rfl
  | cons b rest =>
      rw [blocksText, allValuesOf, valueLines_append, String.toList_append,
        b.toList_attributeText, toList_blocksText rest]

end

theorem Block.Contains.exists_value {s : String} {b : Block} (h : b.Contains s) :
    ∃ v ∈ b.allValues, v.Contains s := by
  induction h with
  | @direct b v hmem hv =>
      obtain ⟨type, labels, attributes, blocks, location⟩ := b
      exact ⟨v, List.mem_append_left _ hmem, hv⟩
  | @nested b inner hmem hinner ih =>
      obtain ⟨type, labels, attributes, blocks, location⟩ := b
      obtain ⟨v, hv, hcontains⟩ := ih
      refine ⟨v, List.mem_append_right _ ?_, hcontains⟩
      rw [allValuesOf_eq_flatMap]
      exact List.mem_flatMap.mpr ⟨inner, hmem, hv⟩

/-- An attribute of a resource or data source, or of a block in it at any depth, contains an
  expression. -/
def ResourceEntry.Contains (e : ResourceEntry) (s : String) : Prop :=
  (∃ v ∈ e.attributes.values, v.Contains s) ∨ ∃ b ∈ e.blocks, b.Contains s

theorem ResourceEntry.Contains.standsApart {e : ResourceEntry} {s : String} (h : e.Contains s) :
    StandsApart s.toList e.text.toList := by
  have htext : e.text.toList = valueLines (e.attributes.values ++ allValuesOf e.blocks) := by
    rw [ResourceEntry.text, String.toList_append, toList_attributesText, toList_blocksText,
      valueLines_append]
  have hvalue : ∃ v ∈ e.attributes.values ++ allValuesOf e.blocks, v.Contains s := by
    rcases h with ⟨v, hv, hcontains⟩ | ⟨b, hb, hcontains⟩
    · exact ⟨v, List.mem_append_left _ hv, hcontains⟩
    · obtain ⟨v, hv, hcontains⟩ := hcontains.exists_value
      refine ⟨v, List.mem_append_right _ ?_, hcontains⟩
      rw [allValuesOf_eq_flatMap]
      exact List.mem_flatMap.mpr ⟨b, hb, hv⟩
  obtain ⟨v, hv, hcontains⟩ := hvalue
  rw [htext]
  exact hcontains.standsApart.trans (standsApart_valueLines hv)

def ModuleEntry.Contains (e : ModuleEntry) (s : String) : Prop :=
  ∃ v ∈ e.attributes.values, v.Contains s

theorem ModuleEntry.Contains.standsApart {e : ModuleEntry} {s : String} (h : e.Contains s) :
    StandsApart s.toList e.text.toList := by
  obtain ⟨v, hv, hcontains⟩ := h
  have hlines : e.text.toList = ['\n'].intercalate (e.attributes.values.map (·.text.toList)) := by
    simp [ModuleEntry.text, Function.comp_def]
  rw [hlines]
  exact hcontains.standsApart.trans
    (standsApart_intercalate (by decide) (List.mem_map_of_mem hv))

/-! ### Entries with dependencies -/

/-- An entry of a kind whose text is searched for references. -/
inductive SourceEntry where
  | resource (e : ResourceEntry)
  | dataSource (e : ResourceEntry)
  | output (e : OutputEntry)
  | local (e : LocalEntry)
  | module (e : ModuleEntry)

namespace SourceEntry

def ref : SourceEntry → EntryRef
  | .resource e => .resource e.key
  | .dataSource e => .dataSource e.key
  | .output e => ⟨.output, e.name⟩
  | .local e => ⟨.local, e.name⟩
  | .module e => ⟨.module, e.name⟩

def text : SourceEntry → String
  | .resource e => e.text
  | .dataSource e => e.text
  | .output e => e.value.getD ""
  | .local e => e.value
  | .module e => e.text

/-- The entry contains an expression: in an attribute at any depth, or as its whole value. -/
def Contains (s : String) : SourceEntry → Prop
  | .resource e => e.Contains s
  | .dataSource e => e.Contains s
  | .output e => e.value = some s
  | .local e => e.value = s
  | .module e => e.Contains s

/-- An expression stands apart in the text of every entry that contains it. -/
theorem Contains.standsApart {s : String} {x : SourceEntry} (h : x.Contains s) :
    StandsApart s.toList x.text.toList := by
  cases x with
  | resource e => exact ResourceEntry.Contains.standsApart h
  | dataSource e => exact ResourceEntry.Contains.standsApart h
  | output e =>
      have hvalue : e.value = some s := h
      rw [SourceEntry.text, hvalue]
      exact standsApart_refl _
  | «local» e =>
      have hvalue : e.value = s := h
      rw [SourceEntry.text, hvalue]
      exact standsApart_refl _
  | module e => exact ModuleEntry.Contains.standsApart h

end SourceEntry

/-! ### The dependencies of a configuration -/

theorem mem_references_iff {text : String} {source r : EntryRef} {known : KeySet EntryRef} :
    r ∈ (references text source known).toList ↔
      r ∈ referencesIn text.toList ∧ r ≠ source ∧ r ∈ known.toList := by
  simp [references, KeySet.mem_iff]

/-- Every reference found in a part that stands apart is found in the whole text. -/
theorem StandsApart.references_subset {s text : String} (h : StandsApart s.toList text.toList)
    {source r : EntryRef} {known : KeySet EntryRef}
    (hr : r ∈ (references s source known).toList) :
    r ∈ (references text source known).toList := by
  obtain ⟨hmem, hrest⟩ := mem_references_iff.mp hr
  obtain ⟨pre, post, htext, hpre, hpost⟩ := h
  refine mem_references_iff.mpr ⟨?_, hrest⟩
  rw [htext]
  exact (referencesIn_part hpre hpost).subset hmem

namespace Configuration

def sources (c : Configuration) : List SourceEntry :=
  c.resources.values.map .resource ++ c.dataSources.values.map .dataSource ++
    c.outputs.values.map .output ++ c.locals.values.map .local ++ c.modules.values.map .module

/-- How the entries that can be referred to are referred to. -/
def targets (c : Configuration) : List EntryRef :=
  c.resources.values.map (.resource ·.key) ++ c.dataSources.values.map (.dataSource ·.key) ++
    c.inputs.values.map (⟨.variable, ·.name⟩) ++ c.locals.values.map (⟨.local, ·.name⟩) ++
    c.modules.values.map (⟨.module, ·.name⟩)

theorem entryTexts_eq_map (c : Configuration) :
    c.entryTexts = c.sources.map fun x => (x.ref, x.text) := by
  simp [entryTexts, sources, SourceEntry.ref, SourceEntry.text, Function.comp_def]

theorem WellKeyed.targets_eq {c : Configuration} (h : WellKeyed c) :
    c.targets = c.resources.keys.map .resource ++ c.dataSources.keys.map .dataSource ++
      c.inputs.keys.map (⟨.variable, ·⟩) ++ c.locals.keys.map (⟨.local, ·⟩) ++
      c.modules.keys.map (⟨.module, ·⟩) := by
  have hkeys : ∀ {κ ν : Type} [Ord κ] {m : KeyMap κ ν} {key : ν → κ} (f : κ → EntryRef),
      (∀ k e, (k, e) ∈ m.entries → key e = k) →
      m.values.map (fun e => f (key e)) = m.keys.map f := by
    intro κ ν _ m key f hm
    simp only [KeyMap.values, KeyMap.keys, List.map_map]
    refine List.map_congr_left ?_
    rintro ⟨k, e⟩ he
    simp [hm k e he]
  simp only [targets]
  rw [hkeys .resource h.resources, hkeys .dataSource h.dataSources,
    hkeys (⟨.variable, ·⟩) h.inputs, hkeys (⟨.local, ·⟩) h.locals, hkeys (⟨.module, ·⟩) h.modules]

/-- The entries that are known to the search are those that can be referred to. -/
theorem WellKeyed.knownEntries_eq {c : Configuration} (h : WellKeyed c) :
    c.knownEntries = .ofList c.targets := by
  rw [h.targets_eq, knownEntries]

theorem WellKeyed.mem_knownEntries_iff {c : Configuration} (h : WellKeyed c) {r : EntryRef} :
    r ∈ c.knownEntries.toList ↔ r ∈ c.targets := by
  rw [h.knownEntries_eq, KeySet.mem_toList_ofList]

/-- What the dependencies of a configuration are. Its sources are their keys, other existing
  entries their targets, and no reference in an expression of an entry is lost. -/
structure TracksReferences (c : Configuration) : Prop where
  keys : ∀ r, r ∈ c.dependencies.keys ↔ ∃ x ∈ c.sources, x.ref = r
  targets : ∀ r ts, c.dependencies.get? r = some ts → ∀ t ∈ ts.toList, t ∈ c.targets ∧ t ≠ r
  complete : ∀ x ∈ c.sources, (∀ y ∈ c.sources, y.ref = x.ref → y = x) →
    ∀ s, x.Contains s → ∃ ts, c.dependencies.get? x.ref = some ts ∧
      ∀ t ∈ (references s x.ref (.ofList c.targets)).toList, t ∈ ts.toList

theorem dependencies_eq (c : Configuration) :
    c.dependencies = .ofList (c.sources.map fun x =>
      (x.ref, references x.text x.ref c.knownEntries)) := by
  simp [dependencies, entryTexts_eq_map, Function.comp_def]

/-- The dependencies track the references in every configuration built by additions, whether or not
  some of them failed: the keys are the entries whose text is searched, the targets are existing
  entries other than the key, and no reference in an expression is missed, at whatever depth it
  stands. What the additions have to preserve for this is that every entry is stored under its own
  key (`wellKeyed_built`). -/
theorem tracksReferences_built (additions : List Addition) :
    TracksReferences (built additions) := by
  have hkeyed := wellKeyed_built additions
  generalize built additions = c at hkeyed
  constructor
  case keys =>
      intro r
      rw [dependencies_eq, KeyMap.mem_keys_ofList]
      simp
  case targets =>
      intro r ts hget t ht
      rw [dependencies_eq] at hget
      obtain ⟨x, -, hx⟩ := List.mem_map.mp (KeyMap.mem_of_get?_ofList hget)
      cases hx
      obtain ⟨-, hne, hknown⟩ := mem_references_iff.mp ht
      exact ⟨hkeyed.mem_knownEntries_iff.mp hknown, hne⟩
  case complete =>
      intro x hx hunique s hs
      -- Of sources with one reference only the last would keep its targets, hence `hunique`.
      refine ⟨references x.text x.ref c.knownEntries, ?_, fun t ht => ?_⟩
      · rw [dependencies_eq]
        refine KeyMap.get?_ofList_of_unique (List.mem_map_of_mem hx) ?_
        intro v hv
        obtain ⟨y, hy, heq⟩ := List.mem_map.mp hv
        simp only [Prod.mk.injEq] at heq
        rw [← heq.2, hunique y hy heq.1]
      · rw [← hkeyed.knownEntries_eq] at ht
        exact hs.standsApart.references_subset ht

end Configuration

end Terralens
