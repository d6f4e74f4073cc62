import Terralens.Proofs.Edges

/-!
# Dependencies are local

The references of an entry are read off its own text. What else is defined decides only which of
them lead anywhere, never where they lead: there is no falling back from one kind of entry to
another. All that some blocks define is also there when they stand among others
(`Accounts.entriesWithin`), so the dependencies among what they define are the same in both
configurations (`ofBlocks_restrictsTo`).
-/

namespace Terralens

theorem append_subset_append {α : Type} {l l' k k' : List α} (hl : l ⊆ l') (hk : k ⊆ k') :
    l ++ k ⊆ l' ++ k' := by
  intro a ha
  rcases List.mem_append.mp ha with ha | ha
  · exact List.mem_append_left _ (hl ha)
  · exact List.mem_append_right _ (hk ha)

namespace Configuration

/-! ### What some of the blocks define -/

/-- Every entry of one configuration is in another, under the same key. -/
structure EntriesWithin (c c' : Configuration) : Prop where
  resources : c.resources.entries ⊆ c'.resources.entries
  dataSources : c.dataSources.entries ⊆ c'.dataSources.entries
  inputs : c.inputs.entries ⊆ c'.inputs.entries
  outputs : c.outputs.entries ⊆ c'.outputs.entries
  locals : c.locals.entries ⊆ c'.locals.entries
  modules : c.modules.entries ⊆ c'.modules.entries

/-- What some blocks define, they also define among others. -/
theorem Accounts.entriesWithin {blocks blocks' : List Block} {c c' : Configuration}
    (h : Accounts blocks c) (h' : Accounts blocks' c') (hsub : blocks ⊆ blocks') :
    c.EntriesWithin c' := by
  have htyped : ∀ type, ofType type blocks ⊆ ofType type blocks' :=
    fun type => List.filter_subset _ hsub
  have hmapped : ∀ {κ ν : Type} [Ord κ] {m m' : KeyMap κ ν} {type : String}
      {entry : Block → κ × ν}, m.entries.Perm ((ofType type blocks).map entry) →
      m'.entries.Perm ((ofType type blocks').map entry) → m.entries ⊆ m'.entries := by
    intro κ ν _ m m' type entry hm hm'
    exact List.Subset.trans hm.subset
      (List.Subset.trans (List.map_subset entry (htyped type)) hm'.symm.subset)
  constructor
  case resources => exact hmapped h.resources h'.resources
  case dataSources => exact hmapped h.dataSources h'.dataSources
  case inputs => exact hmapped h.inputs h'.inputs
  case outputs => exact hmapped h.outputs h'.outputs
  case modules => exact hmapped h.modules h'.modules
  case locals =>
      intro e he
      obtain ⟨b, hb, hin⟩ := List.mem_flatMap.mp (h.locals.mem_iff.mp he)
      exact h'.locals.mem_iff.mpr (List.mem_flatMap.mpr ⟨b, htyped "locals" hb, hin⟩)

namespace EntriesWithin

variable {c c' : Configuration}

theorem map_values_subset {κ ν μ : Type} [Ord κ] {m m' : KeyMap κ ν}
    (h : m.entries ⊆ m'.entries) (f : ν → μ) : m.values.map f ⊆ m'.values.map f :=
  List.map_subset f (List.map_subset Prod.snd h)

theorem sources_subset (h : c.EntriesWithin c') : c.sources ⊆ c'.sources := by
  unfold sources
  refine append_subset_append (append_subset_append (append_subset_append
    (append_subset_append ?_ ?_) ?_) ?_) ?_
  · exact map_values_subset h.resources _
  · exact map_values_subset h.dataSources _
  · exact map_values_subset h.outputs _
  · exact map_values_subset h.locals _
  · exact map_values_subset h.modules _

theorem targets_subset (h : c.EntriesWithin c') : c.targets ⊆ c'.targets := by
  unfold targets
  refine append_subset_append (append_subset_append (append_subset_append
    (append_subset_append ?_ ?_) ?_) ?_) ?_
  · exact map_values_subset h.resources _
  · exact map_values_subset h.dataSources _
  · exact map_values_subset h.inputs _
  · exact map_values_subset h.locals _
  · exact map_values_subset h.modules _

end EntriesWithin

/-! ### Dependencies among what the blocks define -/

theorem Accounts.knownEntries_subset {blocks blocks' : List Block} {c c' : Configuration}
    (h : Accounts blocks c) (h' : Accounts blocks' c') (hwithin : c.EntriesWithin c') :
    c.knownEntries.toList ⊆ c'.knownEntries.toList := by
  intro t ht
  rw [h.wellKeyed.mem_knownEntries_iff] at ht
  exact h'.wellKeyed.mem_knownEntries_iff.mpr (hwithin.targets_subset ht)

/-- Whatever has dependencies is the name of an entry whose text is searched. -/
theorem exists_source_of_get? {c : Configuration} {r : EntryRef} {ts : KeySet EntryRef}
    (h : c.dependencies.get? r = some ts) : ∃ x ∈ c.sources, x.ref = r := by
  rw [dependencies_eq] at h
  obtain ⟨x, hx, heq⟩ := List.mem_map.mp (KeyMap.mem_of_get?_ofList h)
  exact ⟨x, hx, (Prod.mk.inj heq).1⟩

/-- What an entry refers to among some entries, it refers to among more; and it refers to no
  other of those that were there. -/
theorem mem_references_restrict {text : String} {source t : EntryRef}
    {known known' : KeySet EntryRef} (hsub : known.toList ⊆ known'.toList) :
    t ∈ (references text source known).toList ↔
      t ∈ (references text source known').toList ∧ t ∈ known.toList := by
  simp only [mem_references_iff]
  constructor
  · rintro ⟨hin, hne, hknown⟩
    exact ⟨⟨hin, hne, hsub hknown⟩, hknown⟩
  · rintro ⟨⟨hin, hne, -⟩, hknown⟩
    exact ⟨hin, hne, hknown⟩

/-- Among what one configuration defines, the dependencies of another are the same. The targets
  of an entry are those that it has there, as far as they are defined here; no dependency is
  missing there, and one that is there alone starts or ends at an entry that is there alone. -/
structure RestrictsTo (c' c : Configuration) : Prop where
  targets : ∀ x ∈ c.sources, ∃ ts ts', c.dependencies.get? x.ref = some ts ∧
    c'.dependencies.get? x.ref = some ts' ∧ ∀ t, t ∈ ts.toList ↔ t ∈ ts'.toList ∧ t ∈ c.targets
  kept : ∀ r t, c.DependsOn r t → c'.DependsOn r t
  brought : ∀ r t, c'.DependsOn r t → ¬ c.DependsOn r t →
    r ∉ c.sources.map SourceEntry.ref ∨ t ∉ c.targets

/-- More blocks change no dependency among what some of them define, when no two entries are
  referred to in the same way: an entry has the same text in both, so the dependencies of the fewer
  blocks are those of the more, restricted to the entries that are there. -/
theorem ofBlocks_restrictsTo {blocks blocks' : List Block} {c c' : Configuration}
    (hc : ofBlocks blocks = .ok c) (hc' : ofBlocks blocks' = .ok c') (hsub : blocks ⊆ blocks')
    (hrefs : (c'.sources.map SourceEntry.ref).Nodup) : c'.RestrictsTo c := by
  have haccounts := Accounts.of_ofBlocks hc
  have hwithin := haccounts.entriesWithin (Accounts.of_ofBlocks hc') hsub
  -- Both runs search the same text of an entry; they differ in what is known to them.
  have htargets : ∀ x ∈ c.sources, ∃ ts ts', c.dependencies.get? x.ref = some ts ∧
      c'.dependencies.get? x.ref = some ts' ∧
      ∀ t, t ∈ ts.toList ↔ t ∈ ts'.toList ∧ t ∈ c.targets := by
    intro x hx
    have hunique : ∀ y ∈ c'.sources, y.ref = x.ref → y = x :=
      fun y hy href => List.inj_on_of_nodup_map hrefs hy (hwithin.sources_subset hx) href
    refine ⟨_, _, get?_dependencies hx fun y hy => hunique y (hwithin.sources_subset hy),
      get?_dependencies (hwithin.sources_subset hx) hunique, fun t => ?_⟩
    rw [← haccounts.wellKeyed.mem_knownEntries_iff]
    exact mem_references_restrict (haccounts.knownEntries_subset (Accounts.of_ofBlocks hc') hwithin)
  refine ⟨htargets, ?_, ?_⟩
  · rintro r t ⟨ts, hget, ht⟩
    obtain ⟨x, hx, rfl⟩ := exists_source_of_get? hget
    obtain ⟨ts₁, ts', hget₁, hget', hiff⟩ := htargets x hx
    rw [hget] at hget₁
    cases hget₁
    exact ⟨ts', hget', ((hiff t).mp ht).1⟩
  · rintro r t ⟨ts', hget', ht⟩ hnew
    by_contra hold
    rw [not_or, Classical.not_not, Classical.not_not] at hold
    obtain ⟨hsource, htarget⟩ := hold
    obtain ⟨x, hx, rfl⟩ := List.mem_map.mp hsource
    obtain ⟨ts, ts₁, hget, hget₁, hiff⟩ := htargets x hx
    rw [hget'] at hget₁
    cases hget₁
    exact hnew ⟨ts, hget, (hiff t).mpr ⟨ht, htarget⟩⟩

/-- An output that refers to a network and to a local value, which is not there. -/
def networkBlocks : List Block :=
  [⟨"resource", ["aws_vpc", "main"], .empty, [], ⟨⟨"main.tf"⟩, 1⟩⟩,
    ⟨"output", ["id"],
      .ofList [("value", .expression "join(local.sign, aws_vpc.main.tags)")], [],
      ⟨⟨"main.tf"⟩, 4⟩⟩]

/-- The local value, and a resource named like it. -/
def signBlocks : List Block :=
  [⟨"locals", [], .ofList [("sign", .string "-")], [], ⟨⟨"locals.tf"⟩, 1⟩⟩,
    ⟨"resource", ["local", "sign"], .empty, [], ⟨⟨"locals.tf"⟩, 5⟩⟩]

theorem ofBlocks_restrictsTo_networkBlocks :
    ∃ c c', ofBlocks networkBlocks = .ok c ∧ ofBlocks (signBlocks ++ networkBlocks) = .ok c' ∧
      networkBlocks ⊆ signBlocks ++ networkBlocks ∧ (c'.sources.map SourceEntry.ref).Nodup ∧
      c'.RestrictsTo c := by
  have hsub : networkBlocks ⊆ signBlocks ++ networkBlocks := List.subset_append_right _ _
  refine ⟨_, _, rfl, rfl, hsub, ?_, ofBlocks_restrictsTo rfl rfl hsub ?_⟩
  all_goals decide +kernel

end Configuration

end Terralens
