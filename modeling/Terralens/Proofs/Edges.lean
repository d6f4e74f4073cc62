import Terralens.Proofs.Accounting
import Terralens.Proofs.Dependencies
import Mathlib.Data.List.Nodup

/-!
# Edges and dropped expressions

Dependencies are looked for in what the entries keep of their blocks. A resource or data
source keeps every value; an output keeps only its `value`, and a module call neither its
nested blocks nor its source and version. A text glued together by separators is searched
part by part (`referencesIn_cut`), so the edges from an entry are the references in the values
kept, each searched on its own (`dependsOn_block_iff`). An edge for every reference in the
blocks is therefore the same as that no reference stands in a dropped expression alone
(`ofBlocks_dependsOn`).
-/

namespace Terralens

/-! ### Searching part by part -/

theorem referencesFrom_cut {pre post : List Char} {g : Char} (hg : isSeparator g) {skip : Nat}
    (hskip : skip ≤ pre.length) :
    referencesFrom skip (pre ++ g :: post) = referencesFrom skip pre ++ referencesIn post := by
  -- No match in `pre` extends over the separator, so the scan is never amid one when it gets there.
  induction pre generalizing skip with
  | nil =>
      have hzero : skip = 0 := by simpa using hskip
      rw [hzero, List.nil_append, referencesFrom_cons_separator hg]
      rfl
  | cons c rest ih =>
      cases skip with
      | succ skip => simpa [referencesFrom] using ih (by simpa using hskip)
      | zero =>
          have hzero := ih (Nat.zero_le rest.length)
          by_cases hc : mayPrecede c
          · simp only [referencesFrom, List.cons_append, hc, if_true,
              referenceAt_append (startsApart_cons hg)]
            cases hr : referenceAt rest with
            | none => exact hzero
            | some r => simp [ih (length_text_le hr)]
          · simpa [referencesFrom, hc] using hzero

/-- What stands on the two sides of a separator is searched apart. -/
theorem referencesIn_cut {g : Char} (hg : isSeparator g) (pre post : List Char) :
    referencesIn (pre ++ g :: post) = referencesIn pre ++ referencesIn post := by
  have hstart : referenceAt (pre ++ g :: post) = referenceAt pre :=
    referenceAt_append (startsApart_cons hg)
  unfold referencesIn
  rw [hstart]
  cases hr : referenceAt pre with
  | none => exact referencesFrom_cut hg (Nat.zero_le _)
  | some r =>
      rw [List.cons_append, ← referencesIn, ← referencesFrom_cut hg (length_text_le hr)]

theorem referencesIn_valueLines (values : List Value) :
    referencesIn (valueLines values) = values.flatMap fun v => referencesIn v.text.toList := by
  induction values with
  | nil => rfl
  | cons v rest ih =>
      have hlines : valueLines (v :: rest) = v.text.toList ++ '\n' :: valueLines rest := by
        simp [valueLines]
      rw [hlines, referencesIn_cut (by decide), ih, List.flatMap_cons]

theorem referencesIn_intercalate {g : Char} (hg : isSeparator g) (parts : List (List Char)) :
    referencesIn ([g].intercalate parts) = parts.flatMap referencesIn := by
  induction parts with
  | nil => rfl
  | cons part rest ih =>
      cases rest with
      | nil => simp [List.intercalate_singleton]
      | cons next more =>
          rw [List.intercalate_cons_cons, List.append_assoc, List.singleton_append,
            referencesIn_cut hg, ih]
          rfl

/-! ### What an entry keeps of its block -/

namespace Block

/-- The entry with dependencies that a block defines. A block of local values defines several,
  and no one of them stands for it. -/
def source? (b : Block) : Option SourceEntry :=
  match b.type with
  | "resource" => some (.resource b.resource)
  | "data" => some (.dataSource b.resource)
  | "output" => some (.output b.output)
  | "module" => some (.module b.module)
  | _ => none

/-- The values of a block that its entry keeps to be searched. -/
def keptValues (b : Block) : List Value :=
  match b.type with
  | "output" => (b.attributes.get? "value").toList
  | "module" => b.module.attributes.values
  | _ => b.allValues

/-- A value of a block as it is written where it is searched. -/
def searchedText (b : Block) (v : Value) : String :=
  if b.type = "output" then plainText v else v.text

/-- An expression of a block stands in a value that the entry keeps. -/
def Keeps (b : Block) (s : String) : Prop := ∃ v ∈ b.keptValues, v.Contains s

/-- An expression of a block is lost with the values that the entry does not keep. -/
def Drops (b : Block) (s : String) : Prop := b.Contains s ∧ ¬ b.Keeps s

/-- What is found in the text of an entry is found in the values kept, each on its own. -/
theorem referencesIn_source {b : Block} {x : SourceEntry} (h : b.source? = some x) :
    referencesIn x.text.toList =
      b.keptValues.flatMap fun v => referencesIn (b.searchedText v).toList := by
  have hresource : referencesIn b.resource.text.toList =
      b.allValues.flatMap fun v => referencesIn v.text.toList := by
    obtain ⟨type, labels, attributes, blocks, location⟩ := b
    rw [ResourceEntry.text, String.toList_append, toList_attributesText, toList_blocksText,
      ← valueLines_append]
    exact referencesIn_valueLines _
  have hmodule : referencesIn b.module.text.toList =
      b.module.attributes.values.flatMap fun v => referencesIn v.text.toList := by
    have hlines : b.module.text.toList =
        ['\n'].intercalate (b.module.attributes.values.map (·.text.toList)) := by
      simp [ModuleEntry.text, Function.comp_def]
    rw [hlines, referencesIn_intercalate (by decide), List.flatMap_map]
  unfold source? at h
  split at h
  next htype =>
      cases h
      simpa [SourceEntry.text, searchedText, keptValues, htype] using hresource
  next htype =>
      cases h
      simpa [SourceEntry.text, searchedText, keptValues, htype] using hresource
  next htype =>
      cases h
      simp only [SourceEntry.text, searchedText, keptValues, htype, output]
      cases b.attributes.get? "value" with
      | none => rfl
      | some v => simp
  next htype =>
      cases h
      simpa [SourceEntry.text, searchedText, keptValues, htype] using hmodule
  next => cases h

theorem standsApart_searchedText {b : Block} {v : Value} {s : String} (h : v.Contains s) :
    StandsApart s.toList (b.searchedText v).toList := by
  have hplain : plainText v = v.text := by cases h <;> rfl
  have htext : b.searchedText v = v.text := by simp [searchedText, hplain]
  rw [htext]
  exact h.standsApart

/-- A block of another type keeps all its expressions. -/
theorem keeps_of_contains {b : Block} {s : String} (houtput : b.type ≠ "output")
    (hmodule : b.type ≠ "module") (h : b.Contains s) : b.Keeps s := by
  have hkept : b.keptValues = b.allValues := by simp [keptValues]
  obtain ⟨v, hv, hs⟩ := h.exists_value
  exact ⟨v, hkept ▸ hv, hs⟩

end Block

/-! ### Edges -/

namespace Configuration

def DependsOn (c : Configuration) (r t : EntryRef) : Prop :=
  ∃ ts, c.dependencies.get? r = some ts ∧ t ∈ ts.toList

/-- The other entries that a text refers to as a part of an entry. -/
def referred (c : Configuration) (x : SourceEntry) (text : String) : List EntryRef :=
  (references text x.ref (.ofList c.targets)).toList

/-- Some value that the entry keeps of its block refers to an entry. -/
def KeptRefersTo (c : Configuration) (b : Block) (x : SourceEntry) (t : EntryRef) : Prop :=
  ∃ v ∈ b.keptValues, t ∈ c.referred x (b.searchedText v)

/-- Every reference in an expression of a block is an edge from the entry it defines. -/
def FindsReferences (blocks : List Block) (c : Configuration) : Prop :=
  ∀ b ∈ blocks, ∀ x, b.source? = some x → ∀ s, b.Contains s →
    ∀ t ∈ c.referred x s, c.DependsOn x.ref t

theorem Accounts.wellKeyed {blocks : List Block} {c : Configuration} (h : Accounts blocks c) :
    WellKeyed c := by
  have hmapped : ∀ {κ ν : Type} [Ord κ] {m : KeyMap κ ν} {bs : List Block} {key : Block → κ}
      {value : Block → ν} {keyOf : ν → κ}, m.entries.Perm (bs.map fun b => (key b, value b)) →
      (∀ b, keyOf (value b) = key b) → ∀ k e, (k, e) ∈ m.entries → keyOf e = k := by
    intro κ ν _ m bs key value keyOf hm hkey k e he
    obtain ⟨b, -, heq⟩ := List.mem_map.mp (hm.mem_iff.mp he)
    cases heq
    exact hkey b
  constructor
  case resources => exact hmapped h.resources fun _ => rfl
  case dataSources => exact hmapped h.dataSources fun _ => rfl
  case inputs => exact hmapped h.inputs fun _ => rfl
  case outputs => exact hmapped h.outputs fun _ => rfl
  case modules => exact hmapped h.modules fun _ => rfl
  case locals =>
      intro k e he
      obtain ⟨b, -, hin⟩ := List.mem_flatMap.mp (h.locals.mem_iff.mp he)
      obtain ⟨⟨name, v⟩, -, heq⟩ := List.mem_map.mp hin
      cases heq
      rfl

/-- Every block of a type with dependencies has its entry among the sources. -/
theorem Accounts.mem_sources {blocks : List Block} {c : Configuration} (h : Accounts blocks c)
    {b : Block} (hb : b ∈ blocks) {x : SourceEntry} (hx : b.source? = some x) :
    x ∈ c.sources := by
  have htyped : ∀ {type : String}, b.type = type → b ∈ ofType type blocks := by
    intro type htype
    simp [ofType, hb, htype]
  unfold Block.source? at hx
  split at hx
  next htype =>
      cases hx
      have hmem : b.resource ∈ c.resources.values :=
        (mem_values_iff h.resources).mpr ⟨b, htyped htype, rfl⟩
      simp [sources, hmem]
  next htype =>
      cases hx
      have hmem : b.resource ∈ c.dataSources.values :=
        (mem_values_iff h.dataSources).mpr ⟨b, htyped htype, rfl⟩
      simp [sources, hmem]
  next htype =>
      cases hx
      have hmem : b.output ∈ c.outputs.values :=
        (mem_values_iff h.outputs).mpr ⟨b, htyped htype, rfl⟩
      simp [sources, hmem]
  next htype =>
      cases hx
      have hmem : b.module ∈ c.modules.values :=
        (mem_values_iff h.modules).mpr ⟨b, htyped htype, rfl⟩
      simp [sources, hmem]
  next => cases hx

/-- An entry has the references in its text as dependencies, when no other entry is referred to
  in the same way. -/
theorem get?_dependencies {c : Configuration} {x : SourceEntry} (hx : x ∈ c.sources)
    (hunique : ∀ y ∈ c.sources, y.ref = x.ref → y = x) :
    c.dependencies.get? x.ref = some (references x.text x.ref c.knownEntries) := by
  rw [dependencies_eq]
  refine KeyMap.get?_ofList_of_unique (List.mem_map_of_mem hx) ?_
  intro ts hts
  obtain ⟨y, hy, heq⟩ := List.mem_map.mp hts
  obtain ⟨href, hts⟩ := Prod.mk.inj heq
  rw [← hts, hunique y hy href]

/-- The edges from an entry are the references in its text, when all entries are referred to in
  different ways. -/
theorem dependsOn_source_iff {c : Configuration} (hkeyed : WellKeyed c)
    (h : (c.sources.map SourceEntry.ref).Nodup) {x : SourceEntry} (hx : x ∈ c.sources)
    {t : EntryRef} : c.DependsOn x.ref t ↔ t ∈ c.referred x x.text := by
  have hget := get?_dependencies hx fun y hy href => List.inj_on_of_nodup_map h hy hx href
  rw [hkeyed.knownEntries_eq] at hget
  simp [DependsOn, hget, referred]

/-- The edges from the entry of a block are the references in the values it keeps. -/
theorem dependsOn_block_iff {blocks : List Block} {c : Configuration} (hc : Accounts blocks c)
    (h : (c.sources.map SourceEntry.ref).Nodup) {b : Block} (hb : b ∈ blocks) {x : SourceEntry}
    (hx : b.source? = some x) {t : EntryRef} :
    c.DependsOn x.ref t ↔ c.KeptRefersTo b x t := by
  rw [dependsOn_source_iff hc.wellKeyed h (hc.mem_sources hb hx)]
  simp only [KeptRefersTo, referred, mem_references_iff, Block.referencesIn_source hx,
    List.mem_flatMap]
  constructor
  · rintro ⟨⟨v, hv, ht⟩, hrest⟩
    exact ⟨v, hv, ht, hrest⟩
  · rintro ⟨v, hv, ht, hrest⟩
    exact ⟨⟨v, hv, ht⟩, hrest⟩

/-- A reference in an expression that an entry keeps is a reference in a value it keeps. -/
theorem keptRefersTo_of_keeps {c : Configuration} {b : Block} {x : SourceEntry} {s : String}
    (h : b.Keeps s) {t : EntryRef} (ht : t ∈ c.referred x s) : c.KeptRefersTo b x t := by
  obtain ⟨v, hv, hs⟩ := h
  exact ⟨v, hv, (Block.standsApart_searchedText hs).references_subset ht⟩

/-- The edges from the entry of a block are the references in the values it keeps. They have
  every reference in an expression of a block exactly when, in outputs and module calls, every
  reference in a dropped expression stands in a kept value too. -/
theorem ofBlocks_dependsOn {blocks : List Block} {c : Configuration}
    (hc : ofBlocks blocks = .ok c) (hrefs : (c.sources.map SourceEntry.ref).Nodup) :
    (∀ b ∈ blocks, ∀ x, b.source? = some x → ∀ t, c.DependsOn x.ref t ↔ c.KeptRefersTo b x t) ∧
      (c.FindsReferences blocks ↔
        ∀ b ∈ blocks, b.type = "output" ∨ b.type = "module" → ∀ x, b.source? = some x →
          ∀ s, b.Drops s → ∀ t ∈ c.referred x s, c.KeptRefersTo b x t) := by
  have haccounts : Accounts blocks c := by
    obtain ⟨hok, rfl⟩ := ofBlocks_eq_ok_iff.mp hc
    simpa using accounts_addBlocks accounts_empty hok
  have hedges : ∀ b ∈ blocks, ∀ x, b.source? = some x →
      ∀ t, c.DependsOn x.ref t ↔ c.KeptRefersTo b x t := by
    intro b hb x hx t
    exact dependsOn_block_iff haccounts hrefs hb hx
  refine ⟨hedges, ?_, ?_⟩
  · intro hfinds b hb _ x hx s hs t ht
    exact (hedges b hb x hx t).mp (hfinds b hb x hx s hs.1 t ht)
  · intro hdropped b hb x hx s hs t ht
    rw [hedges b hb x hx t]
    by_cases hkeeps : b.Keeps s
    · exact keptRefersTo_of_keeps hkeeps ht
    · have htype : b.type = "output" ∨ b.type = "module" := by
        by_contra hother
        rw [not_or] at hother
        exact hkeeps (Block.keeps_of_contains hother.1 hother.2 hs)
      exact hdropped b hb htype x hx s ⟨hs, hkeeps⟩ t ht

/-- A network, and an output that waits for it without its value saying so. -/
def waitingBlocks : List Block :=
  [⟨"resource", ["aws_vpc", "main"], .empty, [], ⟨⟨"main.tf"⟩, 1⟩⟩,
    ⟨"output", ["id"],
      .ofList [("value", .string "x"), ("depends_on", .list [.expression "aws_vpc.main"])], [],
      ⟨⟨"main.tf"⟩, 3⟩⟩]

theorem ofBlocks_dependsOn_waitingBlocks :
    ∃ c, ofBlocks waitingBlocks = .ok c ∧ (c.sources.map SourceEntry.ref).Nodup ∧
      ∀ b ∈ waitingBlocks, ∀ x, b.source? = some x →
        ∀ t, c.DependsOn x.ref t ↔ c.KeptRefersTo b x t := by
  refine ⟨_, rfl, ?_, (ofBlocks_dependsOn rfl ?_).1⟩
  all_goals decide +kernel

/-- The output does not depend on the network it waits for. -/
theorem not_findsReferences_waitingBlocks :
    ∃ c, ofBlocks waitingBlocks = .ok c ∧ (c.sources.map SourceEntry.ref).Nodup ∧
      ¬ c.FindsReferences waitingBlocks := by
  refine ⟨_, rfl, by decide +kernel, ?_⟩
  intro hfinds
  have hcontains : Block.Contains "aws_vpc.main" ⟨"output", ["id"],
      .ofList [("value", .string "x"), ("depends_on", .list [.expression "aws_vpc.main"])], [],
      ⟨⟨"main.tf"⟩, 3⟩⟩ :=
    .direct (v := .list [.expression "aws_vpc.main"]) (.head _) (.item (.head _) .here)
  obtain ⟨ts, hget, ht⟩ := hfinds _ (.tail _ (.head _)) _ rfl "aws_vpc.main" hcontains
    ⟨.resource, "aws_vpc.main"⟩ (by decide +kernel)
  have hnone : ts.toList = [] := by
    cases hget
    rfl
  simp [hnone] at ht

end Configuration

end Terralens
