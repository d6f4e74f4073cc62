import Terralens.Proofs.Extraction
import Mathlib.Logic.Relation

/-!
# Runs of additions

A configuration is built by adding blocks and documents one after the other, and goes on
after an addition that fails. Whatever an addition does, it does in steps, each of which adds
what one block defines or one assignment (`steps_add`); a failed `locals` block counts as the
block of those of its attributes that were added. What every step keeps therefore holds
of every configuration built (`built_invariant`).
-/

namespace Terralens

inductive Addition where
  | block (b : Block)
  | document (d : Document)

namespace Configuration

open Relation (ReflTransGen)

def add (c : Configuration) : Addition → Extraction
  | .block b => c.addBlock b
  | .document d => c.addDocument d

/-- What a configuration becomes by a run of additions, of which any may fail. -/
def after (c : Configuration) (additions : List Addition) : Configuration :=
  additions.foldl (fun c a => (c.add a).configuration) c

/-- The configuration built by a run of additions, of which any may fail. -/
def built (additions : List Addition) : Configuration := empty.after additions

theorem built_append (additions more : List Addition) :
    built (additions ++ more) = (built additions).after more := List.foldl_append

/-- The effect of one block or of one assignment. -/
inductive Step : Configuration → Configuration → Prop where
  | block {c c' : Configuration} {b : Block} (h : Added c b c') : Step c c'
  | assignment (c : Configuration) (kind : FileKind) (a : Assignment) :
      Step c (c.addAssignment kind a)

/-- Local values are added up to the first one that is defined already. -/
theorem exists_addLocals_succeeds (location : Location) (entries : List (String × Value))
    (c : Configuration) :
    ∃ kept, kept <+: entries ∧ (addLocals location kept c).error? = none ∧
      (addLocals location kept c).configuration = (addLocals location entries c).configuration := by
  induction entries generalizing c with
  | nil => exact ⟨[], List.prefix_rfl, rfl, rfl⟩
  | cons e rest ih =>
      obtain ⟨name, v⟩ := e
      cases hinsert : insertUnique .local id LocalEntry.location c.locals name
          ⟨name, v.rawText, location⟩ with
      | error e => exact ⟨[], List.nil_prefix, rfl, by simp [addLocals, hinsert, Extraction.done]⟩
      | ok entries =>
          obtain ⟨kept, hkept, hok, hconfiguration⟩ := ih { c with locals := entries }
          refine ⟨(name, v) :: kept, (List.prefix_cons_inj _).mpr hkept, ?_, ?_⟩
          · simpa [addLocals, hinsert] using hok
          · simpa [addLocals, hinsert] using hconfiguration

/-- A block of another type that cannot be added leaves the configuration as it was. -/
theorem configuration_addBlock_of_fails {c : Configuration} {b : Block}
    (htype : b.type ≠ "locals") (h : (c.addBlock b).error? ≠ none) :
    (c.addBlock b).configuration = c := by
  have hexcept : ∀ x : Except Error Configuration,
      (Extraction.ofExcept c x).error? ≠ none → (Extraction.ofExcept c x).configuration = c := by
    intro x hx
    cases x with
    | ok c' => exact absurd rfl hx
    | error e => rfl
  generalize hx : c.addBlock b = x at h ⊢
  unfold addBlock at hx
  split at hx <;> subst hx
  case h_5 hlocals => exact absurd hlocals htype
  case h_8 => exact absurd rfl h
  case h_9 => exact absurd rfl h
  all_goals exact hexcept _ h

theorem addBlock_eq_addLocals {c : Configuration} {b : Block} (htype : b.type = "locals") :
    c.addBlock b = addLocals b.location b.attributes.entries c := by
  simp [addBlock, htype]

theorem steps_addBlock (c : Configuration) (b : Block) :
    ReflTransGen Step c (c.addBlock b).configuration := by
  by_cases hok : (c.addBlock b).error? = none
  · exact .single (.block (added_of_addBlock hok))
  · by_cases htype : b.type = "locals"
    · -- The locals added before the failure are those of a block that holds them alone.
      obtain ⟨kept, hkept, hkeptOk, hconfiguration⟩ :=
        exists_addLocals_succeeds b.location b.attributes.entries c
      let keptBlock : Block :=
        { b with attributes := ⟨kept, b.attributes.ordered.sublist hkept.sublist⟩ }
      have hblock : c.addBlock keptBlock = addLocals b.location kept c :=
        addBlock_eq_addLocals htype
      rw [addBlock_eq_addLocals htype, ← hconfiguration, ← hblock]
      exact .single (.block (added_of_addBlock (hblock ▸ hkeptOk)))
    · rw [configuration_addBlock_of_fails htype hok]

theorem steps_addBlocks (c : Configuration) (bs : List Block) :
    ReflTransGen Step c (c.addBlocks bs).configuration := by
  induction bs generalizing c with
  | nil => exact .refl
  | cons b rest ih =>
      have hfirst := steps_addBlock c b
      simp only [addBlocks]
      split
      · exact hfirst
      · exact hfirst.trans (ih _)

theorem steps_addAssignments (kind : FileKind) (c : Configuration) (assignments : List Assignment) :
    ReflTransGen Step c (assignments.foldl (addAssignment kind) c) := by
  induction assignments generalizing c with
  | nil => exact .refl
  | cons a rest ih => exact .head (.assignment c kind a) (ih _)

/-- An addition, successful or not, is a sequence of steps. -/
theorem steps_add (c : Configuration) (a : Addition) :
    ReflTransGen Step c (c.add a).configuration := by
  cases a with
  | block b => exact steps_addBlock c b
  | document d =>
      have hblocks := steps_addBlocks c d.blocks
      change ReflTransGen Step c (c.addDocument d).configuration
      simp only [addDocument]
      split
      · exact hblocks
      · exact hblocks.trans (steps_addAssignments d.kind _ d.assignments)

theorem steps_after (c : Configuration) (additions : List Addition) :
    ReflTransGen Step c (c.after additions) := by
  induction additions generalizing c with
  | nil => exact .refl
  | cons a rest ih => exact (steps_add c a).trans (ih _)

theorem steps_built (additions : List Addition) : ReflTransGen Step empty (built additions) :=
  steps_after empty additions

/-- What holds at first and is kept by every step holds of every configuration built. -/
theorem built_invariant {P : Configuration → Prop} (hempty : P empty)
    (hstep : ∀ c c', P c → Step c c' → P c') (additions : List Addition) :
    P (built additions) := by
  have hsteps := steps_built additions
  generalize built additions = c at hsteps
  induction hsteps with
  | refl => exact hempty
  | tail _ hlast ih => exact hstep _ _ ih hlast

/-! ### Entries under their own keys -/

/-- Every entry is stored under its own key or name. -/
structure WellKeyed (c : Configuration) : Prop where
  resources : ∀ k e, (k, e) ∈ c.resources.entries → e.key = k
  dataSources : ∀ k e, (k, e) ∈ c.dataSources.entries → e.key = k
  inputs : ∀ k e, (k, e) ∈ c.inputs.entries → e.name = k
  outputs : ∀ k e, (k, e) ∈ c.outputs.entries → e.name = k
  locals : ∀ k e, (k, e) ∈ c.locals.entries → e.name = k
  modules : ∀ k e, (k, e) ∈ c.modules.entries → e.name = k

theorem wellKeyed_empty : WellKeyed empty := by
  constructor <;> simp [Configuration.empty]

theorem WellKeyed.added {c c' : Configuration} {b : Block} (h : WellKeyed c)
    (hadd : Added c b c') : WellKeyed c' := by
  have hinsert : ∀ {κ ν : Type} [Ord κ] [Std.TransOrd κ] {m : KeyMap κ ν} {key : ν → κ}
      {k : κ} {v : ν}, key v = k → (∀ k' e, (k', e) ∈ m.entries → key e = k') →
      ∀ k' e, (k', e) ∈ (m.insert k v).entries → key e = k' := by
    intro κ ν _ _ m key k v hkey hm k' e he
    rcases mem_of_mem_insertEntry he with heq | he
    · cases heq
      exact hkey
    · exact hm k' e he
  cases hadd with
  | resource => exact { h with resources := hinsert rfl h.resources }
  | dataSource => exact { h with dataSources := hinsert rfl h.dataSources }
  | input => exact { h with inputs := hinsert rfl h.inputs }
  | output => exact { h with outputs := hinsert rfl h.outputs }
  | module => exact { h with modules := hinsert rfl h.modules }
  | locals entries htype hnew hentries =>
      refine { h with locals := fun k e he => ?_ }
      rcases List.mem_append.mp (hentries.mem_iff.mp he) with he | he
      · exact h.locals k e he
      · obtain ⟨⟨name, v⟩, -, heq⟩ := List.mem_map.mp he
        cases heq
        rfl
  | provider => exact { h with }
  | settings => exact { h with }
  | unrecognized => exact { h with }

theorem wellKeyed_built (additions : List Addition) : WellKeyed (built additions) := by
  refine built_invariant wellKeyed_empty ?_ additions
  intro c c' h hstep
  cases hstep with
  | block hadd => exact h.added hadd
  | assignment kind a => cases kind <;> exact { h with }

end Configuration

end Terralens
