import Terralens.Proofs.Failures

/-!
# Why blocks define no configuration

Blocks that define no configuration fail at one of them: those before it define a configuration
together, and with it the error is the same whatever follows (`ofBlocks_rejects`). The error is
about this block (`Block.Rejected`). Either it lacks a label, or it defines an entry again that
exactly one of the blocks before it defines, and the error names the places of both. A block of
local values may define several entries again; the error is then about the least of their names.

Where an entry lies that a configuration holds is known from the account of its blocks
(`Accounts.exists_definer`); that no other block defines it, from the blocks defining apart.
-/

namespace Terralens

/-- What is wrong with a block that comes behind others: it lacks a label, or one of the others,
  and only one, defines an entry of it. -/
inductive Block.Rejected (before : List Block) (b : Block) : Error → Prop where
  | unlabelled (hlabels : ¬ b.Labelled) : Rejected before b b.missingLabel
  | duplicate (n : EntryName) (earlier : List Block) (first : Block) (later : List Block)
      (hlabels : b.Labelled) (hdefines : n ∈ b.defines)
      (hbefore : before = earlier ++ first :: later) (hfirst : n ∈ first.defines)
      (honly : ∀ a ∈ earlier ++ later, n ∉ a.defines)
      (hleast : ∀ m ∈ b.defines, m.text < n.text → ∀ a ∈ before, m ∉ a.defines) :
      Rejected before b (.duplicate n.kind n.text first.location b.location)

theorem Block.Rejected.incomplete_iff {before : List Block} {b : Block} {e : Error}
    (h : b.Rejected before e) : (∃ detail, e = .incomplete b.location detail) ↔ ¬ b.Labelled := by
  cases h with
  | unlabelled hlabels => exact ⟨fun _ => hlabels, fun _ => ⟨_, rfl⟩⟩
  | duplicate n earlier first later hlabels =>
      constructor
      · rintro ⟨detail, he⟩
        cases he
      · intro hunlabelled
        exact absurd hlabels hunlabelled

namespace Configuration

/-! ### Blocks and the entries they define -/

/-- What blocks define together is what one of them defines. -/
theorem defines_addBlocks_iff {bs : List Block} (hok : (empty.addBlocks bs).error? = none)
    (n : EntryName) : (empty.addBlocks bs).configuration.Defines n ↔ ∃ b ∈ bs, n ∈ b.defines := by
  let R : List Block → Configuration → Prop := fun blocks c =>
    ∀ n, c.Defines n ↔ ∃ b ∈ blocks, n ∈ b.defines
  have hempty : R [] empty := by
    intro n
    simp [not_defines_empty n]
  have hstep : ∀ blocks c b c', R blocks c → Added c b c' → R (blocks ++ [b]) c' := by
    intro blocks c b c' h hadd n
    rw [hadd.defines_iff, h]
    simp [or_and_right, exists_or]
  simpa using @addBlocks_invariant R hstep [] empty bs hempty hok n

/-- A map that has an entry for each block of a type has each entry from the block that
  defines it. -/
theorem exists_definer_of_entry {κ ν : Type} [Ord κ] [Std.LawfulEqOrd κ] {m : KeyMap κ ν}
    {type : String} {before : List Block} {entry : Block → κ × ν} {location : ν → Location} {k : κ}
    {l : Location} {n : EntryName} (hentries : m.entries.Perm ((ofType type before).map entry))
    (hlocation : ∀ b, location (entry b).2 = b.location)
    (hdefines : ∀ b, b.type = type → (entry b).1 = k → n ∈ b.defines)
    (h : ∃ v, m.get? k = some v ∧ location v = l) :
    ∃ b ∈ before, n ∈ b.defines ∧ b.location = l := by
  obtain ⟨v, hget, rfl⟩ := h
  rw [KeyMap.get?_eq_some_iff, hentries.mem_iff] at hget
  obtain ⟨b, hb, heq⟩ := List.mem_map.mp hget
  obtain ⟨hb, htype⟩ := List.mem_filter.mp hb
  have htype : b.type = type := by simpa using htype
  refine ⟨b, hb, hdefines b htype (by rw [heq]), ?_⟩
  rw [← hlocation, heq]

theorem Accounts.exists_definer {before : List Block} {c : Configuration} {n : EntryName}
    {l : Location} (h : Accounts before c) (hdefines : c.DefinesAt l n) :
    ∃ b ∈ before, n ∈ b.defines ∧ b.location = l := by
  cases n with
  | resource key =>
      refine exists_definer_of_entry h.resources (fun _ => rfl) ?_ hdefines
      rintro b htype rfl
      simp [Block.defines, htype]
  | dataSource key =>
      refine exists_definer_of_entry h.dataSources (fun _ => rfl) ?_ hdefines
      rintro b htype rfl
      simp [Block.defines, htype]
  | input name =>
      refine exists_definer_of_entry h.inputs (fun _ => rfl) ?_ hdefines
      rintro b htype rfl
      simp [Block.defines, htype]
  | output name =>
      refine exists_definer_of_entry h.outputs (fun _ => rfl) ?_ hdefines
      rintro b htype rfl
      simp [Block.defines, htype]
  | module name =>
      refine exists_definer_of_entry h.modules (fun _ => rfl) ?_ hdefines
      rintro b htype rfl
      simp [Block.defines, htype]
  | «local» name =>
      obtain ⟨e, hget, rfl⟩ := hdefines
      rw [KeyMap.get?_eq_some_iff, h.locals.mem_iff] at hget
      obtain ⟨b, hb, hentry⟩ := List.mem_flatMap.mp hget
      obtain ⟨hb, htype⟩ := List.mem_filter.mp hb
      obtain ⟨⟨name', v⟩, hattribute, heq⟩ := List.mem_map.mp hentry
      cases heq
      have htype : b.type = "locals" := by simpa using htype
      refine ⟨b, hb, ?_, rfl⟩
      simp only [Block.defines, htype]
      exact List.mem_map_of_mem (KeyMap.mem_keys_iff.mpr ⟨v, hattribute⟩)
  | provider name alternate =>
      obtain ⟨p, hp, ⟨rfl, rfl⟩, rfl⟩ := hdefines
      rw [h.providers] at hp
      obtain ⟨b, hb, rfl⟩ := List.mem_map.mp hp
      obtain ⟨hb, htype⟩ := List.mem_filter.mp hb
      have htype : b.type = "provider" := by simpa using htype
      exact ⟨b, hb, by simp [Block.defines, htype, Block.provider], rfl⟩

/-- Of blocks that define apart, one that defines an entry is the only one. -/
theorem only_definer {before : List Block} (hapart : before.Pairwise DefineApart) {first : Block}
    (hmem : first ∈ before) {n : EntryName} (hfirst : n ∈ first.defines) :
    ∃ earlier later, before = earlier ++ first :: later ∧
      ∀ a ∈ earlier ++ later, n ∉ a.defines := by
  obtain ⟨earlier, later, rfl⟩ := List.append_of_mem hmem
  refine ⟨earlier, later, rfl, ?_⟩
  obtain ⟨-, hrest, hacross⟩ := List.pairwise_append.mp hapart
  intro a ha hn
  rcases List.mem_append.mp ha with ha | ha
  · exact hacross a ha first (by simp) n hn hfirst
  · exact (List.pairwise_cons.mp hrest).1 a ha n hfirst hn

/-! ### The block that fails -/

theorem rejected_of_failed {before : List Block} (hok : (empty.addBlocks before).error? = none)
    {b : Block} {e : Error} {c' : Configuration}
    (h : Failed (empty.addBlocks before).configuration b e c') : b.Rejected before e := by
  have haccounts : Accounts before (empty.addBlocks before).configuration := by
    simpa using accounts_addBlocks accounts_empty hok
  have hapart := (addBlocks_succeeds_iff.mp hok).2.2
  -- The block that defines the entry already comes from `Accounts`, and blocks that define
  -- apart have no second one.
  cases h with
  | unlabelled hlabels => exact .unlabelled hlabels
  | taken n first htype hlabels hdefines hfirst =>
      obtain ⟨a, ha, hn, rfl⟩ := haccounts.exists_definer hfirst
      obtain ⟨earlier, later, hbefore, honly⟩ := only_definer hapart ha hn
      refine .duplicate n earlier a later hlabels (by simp [hdefines]) hbefore hn honly ?_
      intro m hm hless
      rw [hdefines, List.mem_singleton] at hm
      subst hm
      exact absurd hless (String.lt_irrefl _)
  | locals name first entries htype hname hfirst hnew =>
      obtain ⟨a, ha, hn, rfl⟩ := haccounts.exists_definer hfirst
      obtain ⟨earlier, later, hbefore, honly⟩ := only_definer hapart ha hn
      have hdefines : b.defines = b.attributes.keys.map .local := by simp [Block.defines, htype]
      have hlabels : b.Labelled := by simp [Block.Labelled, Block.labelsNeeded, htype]
      refine .duplicate (.local name) earlier a later hlabels ?_ hbefore hn honly ?_
      · rw [hdefines]
        exact List.mem_map_of_mem hname
      · intro m hm hless a' ha' hma'
        rw [hdefines] at hm
        obtain ⟨other, hother, rfl⟩ := List.mem_map.mp hm
        exact hnew other hother hless ((defines_addBlocks_iff hok _).mpr ⟨a', ha', hma'⟩)

theorem toExcept_eq_error_iff {x : Extraction} {e : Error} :
    x.toExcept = .error e ↔ x.error? = some e := by
  unfold Extraction.toExcept
  cases x.error? <;> simp

/-- Blocks that define no configuration fail at the first of them that cannot follow those before
  it; the error tells why, whatever follows. -/
theorem ofBlocks_rejects {bs : List Block} {e : Error} (h : ofBlocks bs = .error e) :
    ∃ before b after, bs = before ++ b :: after ∧
      (∀ p, p <+: before → ∃ c, ofBlocks p = .ok c) ∧
      (∀ others, ofBlocks (before ++ b :: others) = .error e) ∧
      ((∃ detail, e = .incomplete b.location detail) ↔ ¬ b.Labelled) ∧
      b.Rejected before e := by
  have hfails := toExcept_eq_error_iff.mp h
  obtain ⟨before, b, after, hsplit, hbefore, hstop⟩ := addBlocks_stops hfails
  rw [hstop] at hfails
  have hrejected := rejected_of_failed hbefore (failed_of_addBlock hfails)
  refine ⟨before, b, after, hsplit, ?_, ?_, hrejected.incomplete_iff, hrejected⟩
  · rintro p ⟨more, rfl⟩
    exact ⟨_, ofBlocks_eq_ok_iff.mpr ⟨(addBlocks_append_succeeds_iff.mp hbefore).1, rfl⟩⟩
  · intro others
    rw [ofBlocks, addBlocks_append_of_succeeds hbefore, addBlocks_cons_of_fails hfails]
    exact toExcept_eq_error_iff.mpr hfails

/-- Two blocks of local values with a variable between them; the second block of local values
  defines two names of the first one again. -/
def clashingBlocks : List Block :=
  [⟨"locals", [], .ofList [("b", .null), ("c", .null)], [], ⟨⟨"a.tf"⟩, 1⟩⟩,
    ⟨"variable", ["a"], .empty, [], ⟨⟨"a.tf"⟩, 5⟩⟩,
    ⟨"locals", [], .ofList [("c", .null), ("a", .null), ("b", .null)], [], ⟨⟨"b.tf"⟩, 2⟩⟩]

theorem ofBlocks_rejects_clashingBlocks :
    ofBlocks clashingBlocks = .error (.duplicate .local "b" ⟨⟨"a.tf"⟩, 1⟩ ⟨⟨"b.tf"⟩, 2⟩) ∧
      ∃ before b after, clashingBlocks = before ++ b :: after ∧
        (∀ p, p <+: before → ∃ c, ofBlocks p = .ok c) ∧
        (∀ others, ofBlocks (before ++ b :: others) =
          .error (.duplicate .local "b" ⟨⟨"a.tf"⟩, 1⟩ ⟨⟨"b.tf"⟩, 2⟩)) ∧
        ((∃ detail, Error.duplicate .local "b" ⟨⟨"a.tf"⟩, 1⟩ ⟨⟨"b.tf"⟩, 2⟩ =
          .incomplete b.location detail) ↔ ¬ b.Labelled) ∧
        b.Rejected before (.duplicate .local "b" ⟨⟨"a.tf"⟩, 1⟩ ⟨⟨"b.tf"⟩, 2⟩) :=
  ⟨by rfl, ofBlocks_rejects (by rfl)⟩

end Configuration

end Terralens
