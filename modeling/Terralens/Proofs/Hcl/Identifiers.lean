import Mathlib.Data.List.TakeWhile
import Terralens.Hcl.Position
import Terralens.Proofs.Hcl.Bodies

/-!
# Types of blocks

Whatever text a body is read from, the type of every block in it is an identifier: it is not empty
and does not start with white space (`parseBody_typed`). Both come from the tables of characters.
Every character that may start an identifier may go on with one too, so that it is read, and none of
them is white space.
-/

namespace Terralens

open Text Text.Property

/-! ### Characters of identifiers -/

/-- Every range that starts an identifier lies in one that goes on with it. The ranges are in order,
  so those within one of them can be taken off the front. -/
theorem exists_range_of_dropWhile {ranges within : List (Nat × Nat)}
    (h : within.foldl
      (fun left q => left.dropWhile fun r => decide (q.1 ≤ r.1) && decide (r.2 ≤ q.2)) ranges = []) :
    ∀ r ∈ ranges, ∃ q ∈ within, q.1 ≤ r.1 ∧ r.2 ≤ q.2 := by
  induction within generalizing ranges with
  | nil =>
      rw [List.foldl_nil] at h
      simp [h]
  | cons q rest ih =>
      intro r hr
      rw [List.foldl_cons] at h
      rw [← List.takeWhile_append_dropWhile
        (p := fun r : Nat × Nat => decide (q.1 ≤ r.1) && decide (r.2 ≤ q.2)) (l := ranges)] at hr
      rcases List.mem_append.mp hr with hr | hr
      · have hin := List.mem_takeWhile_imp hr
        exact ⟨q, List.mem_cons_self, by simpa using hin⟩
      · obtain ⟨q', hq', hin⟩ := ih h r hr
        exact ⟨q', List.mem_cons_of_mem q hq', hin⟩

theorem startRanges_within_continueRanges :
    ∀ r ∈ startRanges, ∃ q ∈ continueRanges, q.1 ≤ r.1 ∧ r.2 ≤ q.2 := by
  apply exists_range_of_dropWhile
  decide +kernel

theorem isIdentifierContinue_of_isIdentifierStart {c : Char} (h : isIdentifierStart c) :
    isIdentifierContinue c := by
  unfold isIdentifierStart at h
  unfold isIdentifierContinue
  split at h
  next hascii =>
      rw [if_pos hascii, isAsciiWord, Char.isAlphanum]
      rcases Bool.or_eq_true_iff.mp h with h | h <;> simp [h]
  next hascii =>
      rw [if_neg hascii]
      obtain ⟨r, hr, hin⟩ := List.any_eq_true.mp h
      obtain ⟨q, hq, hlow, hhigh⟩ := startRanges_within_continueRanges r hr
      simp only [Bool.and_eq_true, decide_eq_true_eq] at hin
      refine List.any_eq_true.mpr ⟨q, hq, ?_⟩
      simp only [Bool.and_eq_true, decide_eq_true_eq]
      omega

/-- The ranges leave out the white space outside ASCII. -/
theorem startRanges_apart : ∀ r ∈ startRanges,
    (r.2 < 0x85 ∨ 0x85 < r.1) ∧ (r.2 < 0xA0 ∨ 0xA0 < r.1) ∧ (r.2 < 0x1680 ∨ 0x1680 < r.1) ∧
      (r.2 < 0x2000 ∨ 0x205F < r.1) ∧ (r.2 < 0x3000 ∨ 0x3000 < r.1) := by
  decide +kernel

theorem isBlank_of_isIdentifierStart {c : Char} (h : isIdentifierStart c) : isBlank c = false := by
  unfold isIdentifierStart at h
  split at h
  next hascii =>
      have hchar : (!(c.isAlpha || c == '_') || !isBlank c) = true :=
        Hcl.forall_ascii (p := fun c => !(c.isAlpha || c == '_') || !isBlank c)
          (by decide +kernel) hascii
      simpa [h] using hchar
  next hascii =>
      obtain ⟨r, hr, hin⟩ := List.any_eq_true.mp h
      have hapart := startRanges_apart r hr
      simp only [Bool.and_eq_true, decide_eq_true_eq] at hin
      simp only [isBlank, Bool.or_eq_false_iff, Bool.and_eq_false_iff, decide_eq_false_iff_not,
        beq_eq_false_iff_ne]
      omega

def StartsSolid (s : List Char) : Prop := ∃ c ∈ s.head?, isBlank c = false

end Terralens

namespace Terralens.Hcl

open Text Text.Property

variable {α β : Type} {P : α → Prop} {Q : β → Prop}

/-! ### Values that readers give -/

/-- Every value that a reader gives has a property. -/
def Gives (p : Reader α) (P : α → Prop) : Prop :=
  ∀ s a source rest, p s = .read a source rest → P a

theorem gives_pure {a : α} (h : P a) : Gives (pure a) P := by
  intro s b source rest hread
  cases hread
  exact h

theorem Gives.bind {p : Reader α} {f : α → Reader β} (hp : Gives p P)
    (hf : ∀ a, P a → Gives (f a) Q) : Gives (p >>= f) Q := by
  intro s b source rest hread
  change Reader.bind p f s = _ at hread
  unfold Reader.bind at hread
  split at hread
  next a _ left hfirst =>
      split at hread
      next b' _ _ hsecond =>
          cases hread
          exact hf a (hp _ _ _ _ hfirst) _ _ _ _ hsecond
      all_goals cases hread
  all_goals cases hread

/-- What is read first does not matter when every continuation gives such values. -/
theorem gives_after {p : Reader α} {f : α → Reader β} (hf : ∀ a, Gives (f a) Q) :
    Gives (p >>= f) Q := by
  have hany : Gives p fun _ => True := fun _ _ _ _ _ => trivial
  exact hany.bind fun a _ => hf a

theorem Gives.orElse {p q : Reader α} (hp : Gives p P) (hq : Gives q P) :
    Gives (p.orElse q) P := by
  intro s a source rest hread
  unfold Reader.orElse at hread
  split at hread
  · exact hq _ _ _ _ hread
  · exact hp _ _ _ _ hread

theorem gives_of_never {p : Reader α} (h : ∀ s a source rest, p s ≠ .read a source rest) :
    Gives p P := fun s a source rest hread => absurd hread (h s a source rest)

theorem gives_optional {p : Reader α} (hp : Gives p P) :
    Gives (Reader.optional p) fun o => ∀ a ∈ o, P a := by
  intro s o source rest hread
  unfold Reader.optional at hread
  split at hread
  next a _ _ hfirst =>
      cases hread
      simpa using hp _ _ _ _ hfirst
  next =>
      cases hread
      simp
  next => cases hread

/-! ### Types of blocks -/

/-- The type of a block, and of every block inside it, starts with something other than white
  space. -/
inductive Structure.Typed : Structure → Prop
  | attribute (key : String) (e : Expression) : Typed (.attribute key e)
  | block {type : String} (labels : List String) {body : Body} (htype : StartsSolid type.toList)
      (hbody : ∀ part ∈ body, Typed part) : Typed (.block type labels body)

theorem reads_identifier_of_start {c : Char} (hc : isIdentifierStart c) (s : List Char) :
    Reads identifier (c :: s) (String.ofList ((c :: s).takeWhile isIdentifierContinue))
      ((c :: s).dropWhile isIdentifierContinue) := by
  have hspan : Reads (Reader.span isIdentifierContinue) (c :: s)
      ((c :: s).takeWhile isIdentifierContinue) ((c :: s).dropWhile isIdentifierContinue) :=
    ⟨_, rfl⟩
  refine (reads_peek c s).bind ?_
  simp only [hc, if_true]
  exact hspan.bind (reads_pure _ _)

theorem gives_identifier : Gives identifier fun name => StartsSolid name.toList := by
  intro s name source rest hread
  cases s with
  | nil => cases hread
  | cons c more =>
      cases hc : isIdentifierStart c with
      | false =>
          obtain ⟨why, hrefused⟩ := refuses_identifier hc more
          rw [hrefused] at hread
          cases hread
      | true =>
          obtain ⟨shown, hname⟩ := reads_identifier_of_start hc more
          rw [hname] at hread
          cases hread
          rw [String.toList_ofList, List.takeWhile_cons_of_pos
            (isIdentifierContinue_of_isIdentifierStart hc)]
          exact ⟨c, rfl, isBlank_of_isIdentifierStart hc⟩

theorem gives_lineAttribute : Gives lineAttribute Structure.Typed := by
  apply gives_after
  intro key
  refine gives_after fun _ => gives_after fun _ => gives_after fun _ => gives_after fun value => ?_
  exact gives_pure (.attribute key value)

theorem gives_attributeEnd (key : String) : Gives (attributeEnd key) Structure.Typed := by
  refine gives_after fun _ => gives_after fun _ => gives_after fun value => ?_
  exact gives_pure (.attribute key value)

def TypedBody (body : Body) : Prop := ∀ part ∈ body, part.Typed

theorem gives_blockBody {body : Reader Body} (hbody : Gives body TypedBody) :
    Gives (blockBody body) TypedBody := by
  refine gives_after fun _ => Gives.orElse ?_ ?_
  · refine gives_after fun _ => hbody.bind fun parts hparts => ?_
    exact gives_after fun _ => gives_pure hparts
  · refine gives_after fun _ => (gives_optional gives_lineAttribute).bind fun part hpart => ?_
    refine gives_after fun _ => gives_after fun _ => gives_pure ?_
    intro p hp
    exact hpart p (Option.mem_toList.mp hp)

theorem gives_structureWith {body : Reader Body} (hbody : Gives body TypedBody)
    (keys : List String) : Gives (structureWith body keys) Structure.Typed := by
  have hblock : ∀ {name : String}, StartsSolid name.toList → ∀ labels,
      Gives (do let parts ← blockBody body; pure (Structure.block name labels parts))
        Structure.Typed := by
    intro name hname labels
    exact (gives_blockBody hbody).bind fun parts hparts => gives_pure (.block labels hname hparts)
  refine gives_after fun start => gives_identifier.bind fun name hname => ?_
  refine gives_after fun _ => gives_after fun c => ?_
  split
  · split
    · exact gives_of_never (by simp [failRedefined])
    · exact gives_attributeEnd name
  · split
    · exact hblock hname []
    · split
      · refine gives_after fun labels => gives_after fun s => ?_
        split
        · exact hblock hname labels
        · exact gives_after fun _ => gives_of_never (by simp [Reader.refuse])
      · exact gives_of_never (by simp [Reader.expecting, Reader.cut, Reader.refuse])

theorem gives_structuresUpTo {body : Reader Body} (hbody : Gives body TypedBody) (fuel : Nat)
    (keys : List String) : Gives (structuresUpTo body fuel keys) TypedBody := by
  have hnone : Gives (pure []) TypedBody := gives_pure (by simp [TypedBody])
  induction fuel generalizing keys with
  | zero => exact hnone
  | succ fuel ih =>
      refine Gives.orElse ?_ hnone
      refine gives_after fun _ => (gives_structureWith hbody keys).bind fun part hpart => ?_
      refine gives_after fun _ => (ih _).bind fun more hmore => gives_pure ?_
      exact List.forall_mem_cons.mpr ⟨hpart, hmore⟩

theorem gives_bodyUpTo (fuel : Nat) : Gives (bodyUpTo fuel) TypedBody := by
  induction fuel with
  | zero => exact gives_of_never (by simp [bodyUpTo, Reader.refuse])
  | succ fuel ih =>
      intro s body source rest hread
      have hparts : Gives (do
          let parts ← structuresUpTo (bodyUpTo fuel) (s.length + 1) []
          ws
          pure parts) TypedBody :=
        (gives_structuresUpTo ih _ _).bind fun parts hparts =>
          gives_after fun _ => gives_pure hparts
      exact hparts s body source rest hread

/-- Whatever text a body is read from, all its blocks have types that start with no white space. -/
theorem parseBody_typed {text : List Char} {body : Body} (h : parseBody text = .ok body) :
    TypedBody body := by
  unfold parseBody at h
  split at h
  next body' hread =>
      cases h
      unfold readBody at hread
      split at hread
      next hbody =>
          cases hread
          exact gives_bodyUpTo _ _ _ _ _ hbody
      all_goals cases hread
  next => cases h

end Terralens.Hcl
