import Terralens.Proofs.Documents
import Terralens.Proofs.Failures
import Terralens.Proofs.Runs

/-!
# Configurations only grow

Whatever is added to a configuration, and whether or not it can be added, what is there stays as it
is: every entry under its key, every list as the start of what it becomes (`KeptIn`). Only the
value given to a variable may be replaced by another. One step keeps this, hence every run of
additions (`keptIn_after`).

An addition that fails is not undone. A block then leaves the configuration as it was, or, when it
holds local values, with those before the first one that is taken (`LeftBy`). A document leaves
what its blocks do up to the one that fails, and none of its assignments (`LeftByDocument`). All
of it together is `built_grows`.
-/

namespace Terralens

/-! ### Entries that stay -/

/-- Every entry of one map is in another, under the same key. -/
def KeyMap.Within {κ ν : Type} [Ord κ] (m m' : KeyMap κ ν) : Prop :=
  ∀ k v, m.get? k = some v → m'.get? k = some v

theorem KeyMap.Within.refl {κ ν : Type} [Ord κ] (m : KeyMap κ ν) : m.Within m :=
  fun _ _ h => h

theorem KeyMap.Within.trans {κ ν : Type} [Ord κ] {m m' m'' : KeyMap κ ν} (h : m.Within m')
    (h' : m'.Within m'') : m.Within m'' :=
  fun k v hv => h' k v (h k v hv)

theorem KeyMap.within_insert {κ ν : Type} [Ord κ] [Std.TransOrd κ] [Std.LawfulEqOrd κ]
    {m : KeyMap κ ν} {k : κ} (hnew : m.get? k = none) (v : ν) : m.Within (m.insert k v) := by
  intro k' v' hv'
  by_cases hk : k' = k
  · subst hk
    rw [hnew] at hv'
    cases hv'
  · rw [get?_insert_of_ne m hk]
    exact hv'

theorem KeyMap.within_of_perm_append {κ ν : Type} [Ord κ] [Std.LawfulEqOrd κ]
    {m m' : KeyMap κ ν} {more : List (κ × ν)} (h : m'.entries.Perm (m.entries ++ more)) :
    m.Within m' := by
  intro k v hv
  rw [get?_eq_some_iff] at hv ⊢
  rw [h.mem_iff]
  exact List.mem_append_left _ hv

namespace Configuration

open Relation (ReflTransGen)

/-- All that one configuration holds is in another: its entries as they are, what it keeps in
  order at the start, and its variables with some value. -/
structure KeptIn (c c' : Configuration) : Prop where
  resources : c.resources.Within c'.resources
  dataSources : c.dataSources.Within c'.dataSources
  inputs : c.inputs.Within c'.inputs
  outputs : c.outputs.Within c'.outputs
  locals : c.locals.Within c'.locals
  modules : c.modules.Within c'.modules
  providers : c.providers <+: c'.providers
  settings : c.settings <+: c'.settings
  unrecognized : c.unrecognized <+: c'.unrecognized
  strayAttributes : c.strayAttributes <+: c'.strayAttributes
  givenVariables : c.variableValues.keys ⊆ c'.variableValues.keys

theorem KeptIn.refl (c : Configuration) : c.KeptIn c := by
  constructor
  case providers | settings | unrecognized | strayAttributes => exact List.prefix_rfl
  case givenVariables => exact List.Subset.refl _
  all_goals exact KeyMap.Within.refl _

theorem KeptIn.trans {c c' c'' : Configuration} (h : c.KeptIn c') (h' : c'.KeptIn c'') :
    c.KeptIn c'' where
  resources := h.resources.trans h'.resources
  dataSources := h.dataSources.trans h'.dataSources
  inputs := h.inputs.trans h'.inputs
  outputs := h.outputs.trans h'.outputs
  locals := h.locals.trans h'.locals
  modules := h.modules.trans h'.modules
  providers := h.providers.trans h'.providers
  settings := h.settings.trans h'.settings
  unrecognized := h.unrecognized.trans h'.unrecognized
  strayAttributes := h.strayAttributes.trans h'.strayAttributes
  givenVariables := List.Subset.trans h.givenVariables h'.givenVariables

theorem Added.keptIn {c c' : Configuration} {b : Block} (h : Added c b c') : c.KeptIn c' := by
  have hsame := KeptIn.refl c
  cases h with
  | resource _ _ hnew => exact { hsame with resources := KeyMap.within_insert hnew _ }
  | dataSource _ _ hnew => exact { hsame with dataSources := KeyMap.within_insert hnew _ }
  | input _ _ hnew => exact { hsame with inputs := KeyMap.within_insert hnew _ }
  | output _ _ hnew => exact { hsame with outputs := KeyMap.within_insert hnew _ }
  | module _ _ hnew => exact { hsame with modules := KeyMap.within_insert hnew _ }
  | locals _ _ _ hentries =>
      exact { hsame with locals := KeyMap.within_of_perm_append hentries }
  | provider => exact { hsame with providers := List.prefix_append _ _ }
  | settings => exact { hsame with settings := List.prefix_append _ _ }
  | unrecognized => exact { hsame with unrecognized := List.prefix_append _ _ }

theorem keptIn_addAssignment (c : Configuration) (kind : FileKind) (a : Assignment) :
    c.KeptIn (c.addAssignment kind a) := by
  have hsame := KeptIn.refl c
  cases kind with
  | tfvars =>
      refine { hsame with givenVariables := ?_ }
      intro name hname
      exact KeyMap.mem_keys_insert.mpr (.inr hname)
  | terraform => exact { hsame with strayAttributes := List.prefix_append _ _ }
  | hcl => exact { hsame with strayAttributes := List.prefix_append _ _ }

/-- One step keeps what is there. -/
theorem Step.keptIn {c c' : Configuration} (h : Step c c') : c.KeptIn c' := by
  cases h with
  | block hadd => exact hadd.keptIn
  | assignment kind a => exact keptIn_addAssignment c kind a

/-- A run of additions keeps what is there. -/
theorem keptIn_after (c : Configuration) (additions : List Addition) :
    c.KeptIn (c.after additions) := by
  have hsteps := steps_after c additions
  generalize c.after additions = c' at hsteps
  induction hsteps with
  | refl => exact KeptIn.refl c
  | tail _ hlast ih => exact ih.trans hlast.keptIn

/-! ### Providers -/

/-- No two providers have the same name and the same alias. -/
def ProvidersDiffer (c : Configuration) : Prop :=
  (c.providers.map fun p => (p.name, p.alternate)).Nodup

theorem ProvidersDiffer.added {c c' : Configuration} {b : Block} (h : c.ProvidersDiffer)
    (hadd : Added c b c') : c'.ProvidersDiffer := by
  cases hadd with
  | provider htype hlabels hnew =>
      unfold ProvidersDiffer
      rw [List.map_append, List.map_singleton]
      refine List.nodup_append.mpr ⟨h, List.pairwise_singleton _ _, ?_⟩
      intro a ha a' ha' heq
      obtain ⟨p, hp, rfl⟩ := List.mem_map.mp ha
      rw [List.mem_singleton.mp ha'] at heq
      obtain ⟨hname, halternate⟩ := Prod.ext_iff.mp heq
      exact hnew p hp hname halternate
  | _ => exact h

theorem providersDiffer_built (additions : List Addition) :
    (built additions).ProvidersDiffer := by
  refine built_invariant List.nodup_nil ?_ additions
  intro c c' h hstep
  cases hstep with
  | block hadd => exact h.added hadd
  | assignment kind a => cases kind <;> exact h

/-! ### Additions that fail -/

/-- What a block leaves that could not be added: a configuration as it was, or with the local
  values of the block whose names are smaller than the one that the error reports. -/
def LeftBy (c : Configuration) (b : Block) (e : Error) (c' : Configuration) : Prop :=
  (b.type ≠ "locals" → c' = c) ∧
    (b.type = "locals" → ∃ name first entries,
      name ∈ b.attributes.keys ∧ e = .duplicate .local name first b.location ∧
        c' = { c with locals := entries } ∧
        entries.entries.Perm (c.locals.entries ++ b.localEntries.filter fun l => l.1 < name))

theorem Failed.leftBy {c c' : Configuration} {b : Block} {e : Error} (h : Failed c b e c') :
    c.LeftBy b e c' := by
  cases h with
  | unlabelled hlabels =>
      refine ⟨fun _ => rfl, fun htype => ?_⟩
      -- A block of local values needs no label.
      exact absurd (by simp [Block.Labelled, Block.labelsNeeded, htype]) hlabels
  | taken n first htype => exact ⟨fun _ => rfl, fun hlocals => absurd hlocals htype⟩
  | locals name first entries htype hname hfirst hnew hentries =>
      refine ⟨fun hother => absurd htype hother, fun _ => ?_⟩
      exact ⟨name, first, entries, hname, rfl, rfl, hentries⟩

/-- What a document leaves that could not be added: what its blocks leave, added one by one up to
  the first that fails, and none of its assignments. -/
structure LeftByDocument (c : Configuration) (d : Document) (e : Error) (c' : Configuration)
    (before : List Block) (b : Block) : Prop where
  blocks : before ++ [b] <+: d.blocks
  added : ∀ p a, p ++ [a] <+: before → ((c.after (p.map .block)).addBlock a).error? = none
  failed : ((c.after (before.map .block)).addBlock b).error? = some e
  left : c' = ((c.after (before.map .block)).addBlock b).configuration
  noValues : c'.variableValues = c.variableValues
  noAttributes : c'.strayAttributes = c.strayAttributes

theorem after_blocks {c : Configuration} {bs : List Block} (h : (c.addBlocks bs).error? = none) :
    c.after (bs.map .block) = (c.addBlocks bs).configuration := by
  induction bs generalizing c with
  | nil => rfl
  | cons b rest ih =>
      obtain ⟨hfirst, hrest⟩ := addBlocks_cons_succeeds_iff.mp h
      rw [addBlocks_cons_of_succeeds hfirst, ← ih hrest]
      rfl

/-- A block leaves alone what is assigned outside of blocks, also when it fails. -/
theorem addBlock_keeps_assignments (c : Configuration) (b : Block) :
    (c.addBlock b).configuration.variableValues = c.variableValues ∧
      (c.addBlock b).configuration.strayAttributes = c.strayAttributes := by
  cases h : (c.addBlock b).error? with
  | none =>
      have hadd := added_of_addBlock h
      generalize (c.addBlock b).configuration = c' at hadd
      cases hadd <;> exact ⟨rfl, rfl⟩
  | some e =>
      have hfail := failed_of_addBlock h
      generalize (c.addBlock b).configuration = c' at hfail
      cases hfail <;> exact ⟨rfl, rfl⟩

theorem succeeds_of_prefix {c : Configuration} {bs p : List Block}
    (h : (c.addBlocks bs).error? = none) (hp : p <+: bs) : (c.addBlocks p).error? = none := by
  obtain ⟨more, rfl⟩ := hp
  exact (addBlocks_append_succeeds_iff.mp h).1

theorem leftByDocument_of_addDocument {c : Configuration} {d : Document} {e : Error}
    (h : (c.addDocument d).error? = some e) :
    ∃ before b, c.LeftByDocument d e (c.addDocument d).configuration before b := by
  have hblocks : c.addDocument d = c.addBlocks d.blocks := by
    cases hfails : (c.addBlocks d.blocks).error? with
    | none =>
        rw [addDocument_succeeds_iff.mpr hfails] at h
        cases h
    | some e' => simp [addDocument, hfails]
  rw [hblocks] at h ⊢
  obtain ⟨before, b, after, hsplit, hbefore, hstop⟩ := addBlocks_stops h
  have hstate := after_blocks hbefore
  obtain ⟨hvalues, hstray⟩ := addBlocks_keeps_assignments hbefore
  obtain ⟨hvalues', hstray'⟩ := addBlock_keeps_assignments (c.addBlocks before).configuration b
  refine ⟨before, b, ?_⟩
  constructor
  case blocks => exact ⟨after, by simp [hsplit]⟩
  case added =>
      intro p a hp
      have hok := succeeds_of_prefix hbefore hp
      rw [addBlocks_append_succeeds_iff] at hok
      rw [after_blocks hok.1]
      exact (addBlocks_cons_succeeds_iff.mp hok.2).1
  case failed => rw [hstate, ← hstop, h]
  case left => rw [hstate, hstop]
  case noValues => rw [hstop, hvalues', hvalues]
  case noAttributes => rw [hstop, hstray', hstray]

/-- What every run of additions keeps, and what is left by the additions in it that fail. Every
  entry is stored under its own key, no two providers have the same name and alias, and further
  additions take nothing away. A block that fails leaves the configuration as it was, except for the
  local values before the one that is defined already; a document that fails leaves what its blocks
  before the failing one define, and no assignments. -/
theorem built_grows (additions : List Addition) :
    WellKeyed (built additions) ∧ ProvidersDiffer (built additions) ∧
      (∀ more, (built additions).KeptIn (built (additions ++ more))) ∧
      (∀ b e, ((built additions).addBlock b).error? = some e →
        (built additions).LeftBy b e ((built additions).addBlock b).configuration) ∧
      ∀ d e, ((built additions).addDocument d).error? = some e →
        ∃ before b, (built additions).LeftByDocument d e
          ((built additions).addDocument d).configuration before b := by
  refine ⟨wellKeyed_built additions, providersDiffer_built additions, ?_, ?_, ?_⟩
  · intro more
    rw [built_append]
    exact keptIn_after (built additions) more
  · intro b e h
    exact (failed_of_addBlock h).leftBy
  · intro d e h
    exact leftByDocument_of_addDocument h

end Configuration

end Terralens
