import Terralens.Proofs.Documents

/-!
# Splitting blocks over documents

It does not matter how blocks are split over documents. Blocks neither read nor change what is
assigned outside of them (`addBlock_withAssignments`), so a run of documents leads to what all
their blocks lead to in one run, be it an error or a configuration, and puts the assignments
beside it (`toExcept_addDocuments`). Of the values given to a variable the last one counts
(`get?_withValues_eq_some_iff`).
-/

namespace Terralens

/-! ### The last value given -/

/-- A value is the last one that assignments give to a name. -/
def GivenLast (given : List Assignment) (name : String) (v : VariableValue) : Prop :=
  ∃ before a after, given = before ++ a :: after ∧ a.name = name ∧ v = ⟨a.value, a.location⟩ ∧
    ∀ b ∈ after, b.name ≠ name

theorem givenLast_append_singleton_iff {given : List Assignment} {a : Assignment} {name : String}
    {v : VariableValue} :
    GivenLast (given ++ [a]) name v ↔
      (a.name = name ∧ v = ⟨a.value, a.location⟩) ∨ (a.name ≠ name ∧ GivenLast given name v) := by
  constructor
  · rintro ⟨before, b, after, hsplit, hname, hv, hafter⟩
    rcases List.eq_nil_or_concat after with rfl | ⟨more, last, rfl⟩
    · obtain ⟨-, hb⟩ := List.append_inj' hsplit rfl
      cases hb
      exact .inl ⟨hname, hv⟩
    · rw [List.concat_eq_append, ← List.cons_append, ← List.append_assoc] at hsplit
      obtain ⟨hgiven, hlast⟩ := List.append_inj' hsplit rfl
      cases hlast
      refine .inr ⟨hafter a (by simp), before, b, more, hgiven, hname, hv, ?_⟩
      intro c hc
      exact hafter c (by simp [hc])
  · rintro (⟨hname, hv⟩ | ⟨hne, before, b, after, rfl, hname, hv, hafter⟩)
    · exact ⟨given, a, [], rfl, hname, hv, by simp⟩
    · refine ⟨before, b, after ++ [a], by simp, hname, hv, ?_⟩
      intro c hc
      rcases List.mem_append.mp hc with hc | hc
      · exact hafter c hc
      · rw [List.mem_singleton.mp hc]
        exact hne

namespace Configuration

theorem withValues_append (values : KeyMap String VariableValue) (given more : List Assignment) :
    withValues values (given ++ more) = withValues (withValues values given) more :=
  List.foldl_append

/-- A variable ends with the last value given to it, and without one when none is given. -/
theorem get?_withValues_eq_some_iff {given : List Assignment} {name : String}
    {v : VariableValue} :
    (withValues .empty given).get? name = some v ↔ GivenLast given name v := by
  induction given using List.reverseRecOn with
  | nil =>
      constructor
      · intro h
        cases h
      · rintro ⟨before, a, after, hsplit, -⟩
        simp at hsplit
  | append_singleton given a ih =>
      have hlast : withValues .empty (given ++ [a]) =
          (withValues .empty given).insert a.name ⟨a.value, a.location⟩ :=
        withValues_append .empty given [a]
      rw [hlast, givenLast_append_singleton_iff]
      by_cases hname : a.name = name
      · subst hname
        rw [KeyMap.get?_insert_self]
        simp [eq_comm]
      · rw [KeyMap.get?_insert_of_ne _ (Ne.symm hname), ih]
        simp [hname]

/-! ### Blocks and assignments -/

def withAssignments (c : Configuration) (values : KeyMap String VariableValue)
    (stray : List Assignment) : Configuration :=
  { c with variableValues := values, strayAttributes := stray }

end Configuration

def Extraction.withAssignments (x : Extraction) (values : KeyMap String VariableValue)
    (stray : List Assignment) : Extraction :=
  ⟨x.configuration.withAssignments values stray, x.error?⟩

namespace Configuration

variable (values : KeyMap String VariableValue) (stray : List Assignment)

theorem ofExcept_withAssignments {c : Configuration} {x y : Except Error Configuration}
    (h : y = x.map fun c' => c'.withAssignments values stray) :
    Extraction.ofExcept (c.withAssignments values stray) y =
      (Extraction.ofExcept c x).withAssignments values stray := by
  subst h
  cases x with
  | ok c' => rfl
  | error e => rfl

theorem addLocals_withAssignments (location : Location) (entries : List (String × Value))
    (c : Configuration) :
    addLocals location entries (c.withAssignments values stray) =
      (addLocals location entries c).withAssignments values stray := by
  induction entries generalizing c with
  | nil => rfl
  | cons e rest ih =>
      obtain ⟨name, v⟩ := e
      have hlocals : (c.withAssignments values stray).locals = c.locals := rfl
      rw [addLocals, addLocals, hlocals]
      cases insertUnique .local id LocalEntry.location c.locals name
          ⟨name, v.rawText, location⟩ with
      | ok m => exact ih { c with locals := m }
      | error e => rfl

/-- A block neither reads nor changes what is assigned outside of blocks. -/
theorem addBlock_withAssignments (c : Configuration) (b : Block) :
    (c.withAssignments values stray).addBlock b =
      (c.addBlock b).withAssignments values stray := by
  have hput : ∀ {α : Type} (x : Except Error α) (put : α → Configuration),
      (do let a ← x; pure ((put a).withAssignments values stray) : Except Error Configuration) =
        (do let a ← x; pure (put a) : Except Error Configuration).map
          fun c' => c'.withAssignments values stray := by
    intro α x put
    cases x with
    | ok a => rfl
    | error e => rfl
  have hprovider : (c.withAssignments values stray).addProvider b =
      (c.addProvider b).map fun c' => c'.withAssignments values stray := by
    unfold addProvider
    cases ProviderEntry.ofBlock b with
    | error e => rfl
    | ok entry =>
        have hproviders : (c.withAssignments values stray).providers = c.providers := rfl
        simp only [bind, Except.bind, hproviders]
        split <;> rfl
  unfold addBlock
  split
  · exact ofExcept_withAssignments values stray (hput _ fun m => { c with resources := m })
  · exact ofExcept_withAssignments values stray (hput _ fun m => { c with dataSources := m })
  · exact ofExcept_withAssignments values stray (hput _ fun m => { c with inputs := m })
  · exact ofExcept_withAssignments values stray (hput _ fun m => { c with outputs := m })
  · exact addLocals_withAssignments values stray b.location b.attributes.entries c
  · exact ofExcept_withAssignments values stray hprovider
  · exact ofExcept_withAssignments values stray (hput _ fun m => { c with modules := m })
  · rfl
  · rfl

theorem addBlocks_withAssignments (c : Configuration) (bs : List Block) :
    (c.withAssignments values stray).addBlocks bs =
      (c.addBlocks bs).withAssignments values stray := by
  induction bs generalizing c with
  | nil => rfl
  | cons b rest ih =>
      have herror : ((c.addBlock b).withAssignments values stray).error? =
          (c.addBlock b).error? := rfl
      have hrest : ((c.addBlock b).withAssignments values stray).configuration.addBlocks rest =
          ((c.addBlock b).configuration.addBlocks rest).withAssignments values stray :=
        ih (c.addBlock b).configuration
      rw [addBlocks, addBlocks, addBlock_withAssignments, herror, hrest]
      split <;> rfl

/-! ### Runs of documents and runs of blocks -/

theorem toExcept_withAssignments (x : Extraction) :
    (x.withAssignments values stray).toExcept =
      x.toExcept.map fun c => c.withAssignments values stray := by
  unfold Extraction.toExcept
  have herror : (x.withAssignments values stray).error? = x.error? := rfl
  rw [herror]
  cases x.error? with
  | none => rfl
  | some e => rfl

/-- The second part of a run goes on with what the first leads to. -/
theorem toExcept_addBlocks_append (c : Configuration) (bs more : List Block) :
    (c.addBlocks (bs ++ more)).toExcept =
      (c.addBlocks bs).toExcept >>= fun c' => (c'.addBlocks more).toExcept := by
  induction bs generalizing c with
  | nil => rfl
  | cons b rest ih =>
      rw [List.cons_append, addBlocks, addBlocks]
      cases h : (c.addBlock b).error? with
      | none => simpa using ih (c.addBlock b).configuration
      | some e => simp [Extraction.toExcept, h, bind, Except.bind]

theorem toExcept_addDocuments_cons (c : Configuration) (d : Document) (ds : List Document) :
    (c.addDocuments (d :: ds)).toExcept =
      (c.addDocument d).toExcept >>= fun c' => (c'.addDocuments ds).toExcept := by
  rw [addDocuments]
  cases h : (c.addDocument d).error? with
  | none => simp [Extraction.toExcept, h, bind, Except.bind]
  | some e => simp [Extraction.toExcept, h, bind, Except.bind]

/-- A configuration with what documents assign, beside what is assigned in another one. -/
def withAssigned (start : Configuration) (ds : List Document) (c : Configuration) :
    Configuration :=
  c.withAssignments (withValues start.variableValues (ds.flatMap (·.given)))
    (start.strayAttributes ++ ds.flatMap (·.stray))

theorem toExcept_addDocument (c : Configuration) (d : Document) :
    (c.addDocument d).toExcept = (c.addBlocks d.blocks).toExcept.map (c.withAssigned [d]) := by
  cases h : (c.addBlocks d.blocks).error? with
  | none =>
      have hok : (c.addDocument d).error? = none := addDocument_succeeds_iff.mpr h
      simp [Extraction.toExcept, h, hok, Except.map, configuration_addDocument hok, withAssigned,
        withAssignments]
  | some e => simp [addDocument, Extraction.toExcept, h, Except.map]

/-- A run of documents leads to what all their blocks lead to in one run, with the assignments
  of the documents beside it. -/
theorem toExcept_addDocuments (c : Configuration) (ds : List Document) :
    (c.addDocuments ds).toExcept =
      (c.addBlocks (ds.flatMap (·.blocks))).toExcept.map (c.withAssigned ds) := by
  induction ds generalizing c with
  | nil => simp [addDocuments, addBlocks, Extraction.done, Extraction.toExcept, Except.map,
      withAssigned, withAssignments, withValues]
  | cons d rest ih =>
      rw [toExcept_addDocuments_cons, toExcept_addDocument, List.flatMap_cons,
        toExcept_addBlocks_append]
      cases (c.addBlocks d.blocks).toExcept with
      | error e => rfl
      | ok c' =>
          change ((c.withAssigned [d] c').addDocuments rest).toExcept =
            (c'.addBlocks (rest.flatMap (·.blocks))).toExcept.map (c.withAssigned (d :: rest))
          rw [ih]
          -- The blocks behind `d` are added as if its assignments were not there yet.
          have hblocks : (c.withAssigned [d] c').addBlocks (rest.flatMap (·.blocks)) =
              (c'.addBlocks (rest.flatMap (·.blocks))).withAssignments _ _ :=
            addBlocks_withAssignments _ _ c' _
          rw [hblocks, toExcept_withAssignments]
          cases (c'.addBlocks (rest.flatMap (·.blocks))).toExcept with
          | error e => rfl
          | ok c'' =>
              simp [Except.map, withAssigned, withAssignments, withValues_append]

/-- A configuration has the entries of another one, and the assignments of documents beside
  them: the last value given to each variable, and in their order those that belong to
  nothing. -/
structure AssignedOver (flat : Configuration) (ds : List Document) (c : Configuration) : Prop where
  entries : c = { flat with
    variableValues := c.variableValues
    strayAttributes := c.strayAttributes }
  values : ∀ name v,
    c.variableValues.get? name = some v ↔ GivenLast (ds.flatMap (·.given)) name v
  stray : c.strayAttributes = ds.flatMap (·.stray)

/-- Documents fail as all their blocks do in one run, with the same error, and define the same
  entries. Only the assignments are added: each variable is given the last of its values, and stray
  assignments follow one another as the documents do. -/
theorem ofDocuments_agrees (ds : List Document) :
    (∀ e, ofDocuments ds = .error e ↔ ofBlocks (ds.flatMap (·.blocks)) = .error e) ∧
      ∀ c, ofDocuments ds = .ok c →
        ∃ flat, ofBlocks (ds.flatMap (·.blocks)) = .ok flat ∧ flat.AssignedOver ds c := by
  have hrun : ofDocuments ds = (ofBlocks (ds.flatMap (·.blocks))).map (empty.withAssigned ds) :=
    toExcept_addDocuments empty ds
  cases hflat : ofBlocks (ds.flatMap (·.blocks)) with
  | error e =>
      rw [hrun, hflat]
      constructor
      · intro e'
        exact Iff.rfl
      · intro c h
        cases h
  | ok flat =>
      rw [hrun, hflat]
      constructor
      · intro e
        constructor
        · intro h
          cases h
        · intro h
          cases h
      · intro c h
        cases h
        refine ⟨flat, rfl, ?_⟩
        constructor
        case entries => rfl
        case values => exact fun name v => get?_withValues_eq_some_iff
        case stray => rfl

end Configuration

end Terralens
