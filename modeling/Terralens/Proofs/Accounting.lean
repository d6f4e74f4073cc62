import Terralens.Proofs.Extraction

/-!
# Every block is accounted for

A list of blocks defines a configuration exactly when every block has its labels and no two
blocks define the same entry. The configuration then holds, for each block, what that block
defines and nothing else: `Accounts` says so collection by collection, an addition extends it
by the added block (`Accounts.added`), and a run of additions by all of them
(`accounts_addBlocks`).
-/

namespace Terralens

namespace Configuration

def ofType (type : String) (blocks : List Block) : List Block := blocks.filter (·.type == type)

/-- A configuration holds one entry for each of the blocks, and no other. -/
structure Accounts (blocks : List Block) (c : Configuration) : Prop where
  resources : c.resources.entries.Perm
    ((ofType "resource" blocks).map fun b => (b.resourceKey, b.resource))
  dataSources : c.dataSources.entries.Perm
    ((ofType "data" blocks).map fun b => (b.resourceKey, b.resource))
  inputs : c.inputs.entries.Perm ((ofType "variable" blocks).map fun b => (b.label 0, b.input))
  outputs : c.outputs.entries.Perm ((ofType "output" blocks).map fun b => (b.label 0, b.output))
  modules : c.modules.entries.Perm ((ofType "module" blocks).map fun b => (b.label 0, b.module))
  locals : c.locals.entries.Perm ((ofType "locals" blocks).flatMap Block.localEntries)
  providers : c.providers = (ofType "provider" blocks).map Block.provider
  settings : c.settings = (ofType "terraform" blocks).map Block.settings
  unrecognized : c.unrecognized =
    (blocks.filter fun b => b.type ∉ knownTypes).map Block.unrecognized

/-! ### One addition -/

theorem ofType_append_singleton (type : String) (blocks : List Block) (b : Block) :
    ofType type (blocks ++ [b]) =
      ofType type blocks ++ if b.type = type then [b] else [] := by
  by_cases h : b.type = type <;> simp [ofType, h]

/-- The values of a map that has one entry for each block are those of the blocks. -/
theorem mem_values_iff {κ ν : Type} [Ord κ] {m : KeyMap κ ν} {bs : List Block} {key : Block → κ}
    {value : Block → ν} (h : m.entries.Perm (bs.map fun b => (key b, value b))) {v : ν} :
    v ∈ m.values ↔ ∃ b ∈ bs, v = value b := by
  rw [KeyMap.values, (h.map Prod.snd).mem_iff]
  simp [eq_comm]

theorem accounts_empty : Accounts [] .empty := by
  constructor <;> simp [ofType, Configuration.empty]

/-- An entry added under a new key is listed after those that were there. -/
theorem perm_insert {κ ν : Type} [Ord κ] [Std.TransOrd κ] [Std.LawfulEqOrd κ] {m : KeyMap κ ν}
    {k : κ} {entries : List (κ × ν)} (hnew : m.get? k = none) (h : m.entries.Perm entries)
    (v : ν) : (m.insert k v).entries.Perm (entries ++ [(k, v)]) :=
  (KeyMap.entries_insert_perm hnew v).trans
    ((h.cons _).trans (List.perm_append_singleton _ _).symm)

theorem Accounts.added {blocks : List Block} {c c' : Configuration} {b : Block}
    (h : Accounts blocks c) (hadd : Added c b c') : Accounts (blocks ++ [b]) c' := by
  have htypes := fun type => ofType_append_singleton type blocks b
  obtain ⟨hresources, hdataSources, hinputs, houtputs, hmodules, hlocals, hproviders, hsettings,
    hunrecognized⟩ := h
  -- Only the entries of the block's own type grow; for all other types it adds nothing.
  cases hadd with
  | resource htype hlabels hnew =>
      constructor
      case resources => simpa [htypes, htype] using perm_insert hnew hresources b.resource
      all_goals simp [knownTypes, *]
  | dataSource htype hlabels hnew =>
      constructor
      case dataSources => simpa [htypes, htype] using perm_insert hnew hdataSources b.resource
      all_goals simp [knownTypes, *]
  | input htype hlabels hnew =>
      constructor
      case inputs => simpa [htypes, htype] using perm_insert hnew hinputs b.input
      all_goals simp [knownTypes, *]
  | output htype hlabels hnew =>
      constructor
      case outputs => simpa [htypes, htype] using perm_insert hnew houtputs b.output
      all_goals simp [knownTypes, *]
  | module htype hlabels hnew =>
      constructor
      case modules => simpa [htypes, htype] using perm_insert hnew hmodules b.module
      all_goals simp [knownTypes, *]
  | locals entries htype hnew hentries =>
      constructor
      case locals => simpa [htypes, htype] using hentries.trans (hlocals.append_right _)
      all_goals simp [knownTypes, *]
  | provider htype hlabels hnew => constructor <;> simp [knownTypes, *]
  | settings htype => constructor <;> simp [knownTypes, *]
  | unrecognized htype =>
      simp only [knownTypes, List.mem_cons, List.not_mem_nil, or_false, not_or] at htype
      constructor <;> simp [knownTypes, *]

/-! ### Runs of additions -/

theorem addBlocks_cons_of_succeeds {c : Configuration} {b : Block}
    (h : (c.addBlock b).error? = none) (bs : List Block) :
    c.addBlocks (b :: bs) = (c.addBlock b).configuration.addBlocks bs := by
  simp [addBlocks, h]

theorem addBlocks_cons_succeeds_iff {c : Configuration} {b : Block} {bs : List Block} :
    (c.addBlocks (b :: bs)).error? = none ↔
      (c.addBlock b).error? = none ∧ ((c.addBlock b).configuration.addBlocks bs).error? = none := by
  cases h : (c.addBlock b).error? with
  | none => simp [addBlocks, h]
  | some e => simp [addBlocks, h]

theorem addBlocks_append_succeeds_iff {c : Configuration} {bs more : List Block} :
    (c.addBlocks (bs ++ more)).error? = none ↔
      (c.addBlocks bs).error? = none ∧
        ((c.addBlocks bs).configuration.addBlocks more).error? = none := by
  induction bs generalizing c with
  | nil => simp [addBlocks, Extraction.done]
  | cons b rest ih =>
      rw [List.cons_append, addBlocks_cons_succeeds_iff, addBlocks_cons_succeeds_iff, ih, and_assoc]
      refine and_congr_right fun hfirst => ?_
      rw [addBlocks_cons_of_succeeds hfirst]

theorem addBlocks_append_of_succeeds {c : Configuration} {bs : List Block}
    (h : (c.addBlocks bs).error? = none) (more : List Block) :
    c.addBlocks (bs ++ more) = (c.addBlocks bs).configuration.addBlocks more := by
  induction bs generalizing c with
  | nil => rfl
  | cons b rest ih =>
      obtain ⟨hfirst, hrest⟩ := addBlocks_cons_succeeds_iff.mp h
      rw [List.cons_append, addBlocks_cons_of_succeeds hfirst, addBlocks_cons_of_succeeds hfirst]
      exact ih hrest

/-- What holds of a configuration and the blocks added so far, if every addition keeps it,
  holds after all blocks. -/
theorem addBlocks_invariant {R : List Block → Configuration → Prop}
    (hstep : ∀ blocks c b c', R blocks c → Added c b c' → R (blocks ++ [b]) c')
    {blocks : List Block} {c : Configuration} {bs : List Block} (h : R blocks c)
    (hok : (c.addBlocks bs).error? = none) :
    R (blocks ++ bs) (c.addBlocks bs).configuration := by
  induction bs generalizing blocks c with
  | nil => simpa [addBlocks, Extraction.done] using h
  | cons b rest ih =>
      obtain ⟨hfirst, hrest⟩ := addBlocks_cons_succeeds_iff.mp hok
      rw [addBlocks_cons_of_succeeds hfirst, List.append_cons]
      exact ih (hstep _ _ _ _ h (added_of_addBlock hfirst)) hrest

theorem accounts_addBlocks {blocks : List Block} {c : Configuration} {bs : List Block}
    (h : Accounts blocks c) (hok : (c.addBlocks bs).error? = none) :
    Accounts (blocks ++ bs) (c.addBlocks bs).configuration :=
  addBlocks_invariant (fun _ _ _ _ h hadd => h.added hadd) h hok

/-- Blocks leave alone what is assigned outside of blocks. -/
theorem addBlocks_keeps_assignments {c : Configuration} {bs : List Block}
    (hok : (c.addBlocks bs).error? = none) :
    (c.addBlocks bs).configuration.variableValues = c.variableValues ∧
      (c.addBlocks bs).configuration.strayAttributes = c.strayAttributes := by
  let R : List Block → Configuration → Prop := fun _ c' =>
    c'.variableValues = c.variableValues ∧ c'.strayAttributes = c.strayAttributes
  have hstep : ∀ blocks d b d', R blocks d → Added d b d' → R (blocks ++ [b]) d' := by
    intro blocks d b d' h hadd
    cases hadd <;> exact h
  have hstart : R [] c := ⟨rfl, rfl⟩
  exact @addBlocks_invariant R hstep [] c bs hstart hok

def DefineApart (a b : Block) : Prop := ∀ n ∈ a.defines, n ∉ b.defines

instance : DecidableRel DefineApart := fun a b =>
  inferInstanceAs (Decidable (∀ n ∈ a.defines, n ∉ b.defines))

/-- A run of additions succeeds exactly when all blocks have their labels, none defines an
  entry that is there, and no two define the same entry. -/
theorem addBlocks_succeeds_iff {c : Configuration} {bs : List Block} :
    (c.addBlocks bs).error? = none ↔
      (∀ b ∈ bs, b.Labelled) ∧ (∀ b ∈ bs, ∀ n ∈ b.defines, ¬ c.Defines n) ∧
        bs.Pairwise DefineApart := by
  induction bs generalizing c with
  | nil => simp [addBlocks, Extraction.done]
  | cons b rest ih =>
      -- To the blocks behind it, what `b` defines is part of what is defined already.
      rw [addBlocks_cons_succeeds_iff, List.pairwise_cons]
      constructor
      · rintro ⟨hfirst, hrest⟩
        have hadded := added_of_addBlock hfirst
        obtain ⟨hlabelled, hnew, hapart⟩ := ih.mp hrest
        simp only [hadded.defines_iff, not_or] at hnew
        refine ⟨?_, ?_, fun a ha n hn hna => (hnew a ha n hna).2 hn, hapart⟩
        · simpa using ⟨hadded.labelled, hlabelled⟩
        · simpa using ⟨hadded.new, fun a ha n hn => (hnew a ha n hn).1⟩
      · rintro ⟨hlabelled, hnew, hfirst, hapart⟩
        have hok := addBlock_succeeds_iff.mpr ⟨hlabelled b (by simp), hnew b (by simp)⟩
        refine ⟨hok, ih.mpr ⟨fun a ha => hlabelled a (by simp [ha]), fun a ha n hn => ?_, hapart⟩⟩
        rw [(added_of_addBlock hok).defines_iff, not_or]
        exact ⟨hnew a (by simp [ha]) n hn, fun hnb => hfirst a ha n hnb hn⟩

/-! ### Whole configurations -/

theorem not_defines_empty (n : EntryName) : ¬ Configuration.empty.Defines n := by
  cases n <;> simp [Defines, Configuration.empty, KeyMap.keys]

theorem ofBlocks_eq_ok_iff {bs : List Block} {c : Configuration} :
    ofBlocks bs = .ok c ↔
      (empty.addBlocks bs).error? = none ∧ (empty.addBlocks bs).configuration = c :=
  toExcept_eq_ok_iff

theorem Accounts.of_ofBlocks {blocks : List Block} {c : Configuration}
    (h : ofBlocks blocks = .ok c) : Accounts blocks c := by
  obtain ⟨hok, rfl⟩ := ofBlocks_eq_ok_iff.mp h
  simpa using accounts_addBlocks accounts_empty hok

/-- Blocks define a configuration exactly when each has its labels and no two define the same
  entry; and then the configuration holds one entry for each of them, nothing else, and no
  assignment. -/
theorem ofBlocks_accounts (bs : List Block) :
    ((∃ c, ofBlocks bs = .ok c) ↔ (∀ b ∈ bs, b.Labelled) ∧ bs.Pairwise DefineApart) ∧
      ∀ c, ofBlocks bs = .ok c →
        Accounts bs c ∧ c.variableValues = .empty ∧ c.strayAttributes = [] := by
  simp only [ofBlocks_eq_ok_iff]
  constructor
  · rw [exists_and_left, addBlocks_succeeds_iff]
    simp [not_defines_empty]
  · rintro c ⟨hok, rfl⟩
    have haccounts := accounts_addBlocks accounts_empty hok
    exact ⟨by simpa using haccounts, addBlocks_keeps_assignments hok⟩

end Configuration

end Terralens
