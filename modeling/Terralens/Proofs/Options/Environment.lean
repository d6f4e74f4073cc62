import Mathlib.Data.List.TakeWhile
import Terralens.Options.Environment
import Terralens.Proofs.Hcl.Expressions

/-!
# Variables in a text

A text is read once, from left to right, and every reference to a variable in it is replaced by
the value of the variable, or left as it is written (`ExpandsOnce`). `Refers` says what may stand
behind a dollar sign, and where it ends; the scan takes up exactly that (`variableAt_of_refers`,
`exists_refers_of_variableAt`), so a dollar sign comes with a whole reference
(`expandFrom_reference`) or alone (`expandFrom_dollar`). Values are not part of what is left to
read. Which variables a text names (`Names`) therefore does not depend on the environment, and a
text that names none with a value is not changed (`expandFrom_of_unset`).
-/

namespace Terralens

open Hcl (isAlpha_iff isDigit_iff stopsAt_cons stopsAt_dropWhile takeWhile_append_stop)

/-! ### References -/

/-- The characters that a name without braces may begin with. -/
def MayStart (c : Char) : Prop := ('A' ≤ c ∧ c ≤ 'Z') ∨ ('a' ≤ c ∧ c ≤ 'z') ∨ c = '_'

/-- The characters that a name without braces may go on with. -/
def MayContinue (c : Char) : Prop := MayStart c ∨ ('0' ≤ c ∧ c ≤ '9')

/-- A name that may be written without braces. -/
def IsVariableName (name : List Char) : Prop :=
  ∃ first more, name = first :: more ∧ MayStart first ∧ ∀ c ∈ more, MayContinue c

theorem startsVariable_iff {c : Char} : startsVariable c ↔ MayStart c := by
  rw [startsVariable, Bool.or_eq_true, isAlpha_iff, beq_iff_eq, or_assoc]
  exact Iff.rfl

theorem continuesVariable_iff {c : Char} : continuesVariable c ↔ MayContinue c := by
  have hdigit : c.isDigit ↔ '0' ≤ c ∧ c ≤ '9' := isDigit_iff
  rw [MayContinue, ← startsVariable_iff, ← hdigit]
  simp [continuesVariable, startsVariable, Char.isAlphanum, or_right_comm]

/-- What stands behind a dollar sign, before `rest`, is a reference to a variable: the name between
  braces, or a name that does not go on. -/
inductive Refers : (name written rest : List Char) → Prop where
  | braced {name : List Char} (hname : name ≠ []) (hclosed : '\x7d' ∉ name) (rest : List Char) :
      Refers name ('\x7b' :: (name ++ ['\x7d'])) rest
  | bare {name rest : List Char} (hname : IsVariableName name)
      (hrest : ∀ c ∈ rest.head?, ¬ MayContinue c) : Refers name name rest

/-- A text begins with what makes a dollar sign before it a reference. -/
def OpensReference (s : List Char) : Prop :=
  ∃ name written rest, s = written ++ rest ∧ Refers name written rest

/-- A text names a variable in one of its references, read from left to right. -/
inductive Names (name : List Char) : List Char → Prop where
  | here {pre written rest : List Char} (hpre : '$' ∉ pre) (h : Refers name written rest) :
      Names name (pre ++ '$' :: (written ++ rest))
  | behind {pre other written rest : List Char} (hpre : '$' ∉ pre)
      (h : Refers other written rest) (hrest : Names name rest) :
      Names name (pre ++ '$' :: (written ++ rest))
  | behindDollar {pre rest : List Char} (hpre : '$' ∉ pre) (h : ¬ OpensReference rest)
      (hrest : Names name rest) : Names name (pre ++ '$' :: rest)

theorem variableAt_of_refers {name written rest : List Char} (h : Refers name written rest) :
    variableAt (written ++ rest) = some (String.ofList name, written.length) := by
  cases h with
  | braced hname hclosed =>
      have htake : (name ++ '\x7d' :: rest).takeWhile (· != '\x7d') = name := by
        refine (takeWhile_append_stop ?_ (stopsAt_cons (by decide) rest)).1
        intro c hc
        simpa using ne_of_mem_of_not_mem hc hclosed
      simp [variableAt, htake, hname]
  | bare hname hrest =>
      obtain ⟨first, more, rfl, hfirst, hmore⟩ := hname
      have htake : (more ++ rest).takeWhile continuesVariable = more := by
        refine (takeWhile_append_stop ?_ ?_).1
        · intro c hc
          exact continuesVariable_iff.mpr (hmore c hc)
        · intro c hc
          rw [← Bool.not_eq_true, continuesVariable_iff]
          exact hrest c hc
      have hbrace : first ≠ '\x7b' := by
        rintro rfl
        exact absurd (startsVariable_iff.mpr hfirst) (by decide)
      simp [variableAt, startsVariable_iff.mpr hfirst, htake]

theorem exists_refers_of_variableAt {s : List Char} {name : String} {count : Nat}
    (h : variableAt s = some (name, count)) :
    ∃ written rest, s = written ++ rest ∧ count = written.length ∧
      Refers name.toList written rest := by
  unfold variableAt at h
  split at h
  next rest =>
      simp only [Option.ite_none_left_eq_some, Option.some.injEq, Prod.mk.injEq, Bool.or_eq_true,
        List.isEmpty_iff, decide_eq_true_eq, not_or, Nat.not_le] at h
      obtain ⟨⟨hname, hlength⟩, rfl, rfl⟩ := h
      -- The name does not take up the whole rest, so a brace that closes it comes next.
      have hsplit := List.takeWhile_append_dropWhile (p := (· != '\x7d')) (l := rest)
      have hstop := stopsAt_dropWhile (· != '\x7d') rest
      cases hclose : rest.dropWhile (· != '\x7d') with
      | nil =>
          rw [hclose, List.append_nil] at hsplit
          rw [hsplit] at hlength
          exact absurd hlength (Nat.lt_irrefl _)
      | cons c after =>
          rw [hclose] at hsplit hstop
          have hc : c = '\x7d' := by simpa using hstop c rfl
          subst hc
          refine ⟨'\x7b' :: (rest.takeWhile (· != '\x7d') ++ ['\x7d']), after, ?_, by simp, ?_⟩
          · rw [List.cons_append, List.append_assoc, List.singleton_append, hsplit]
          · rw [String.toList_ofList]
            refine Refers.braced hname ?_ after
            intro hmem
            simpa using List.mem_takeWhile_imp hmem
  next c rest hbrace =>
      simp only [Option.ite_none_right_eq_some, Option.some.injEq, Prod.mk.injEq] at h
      obtain ⟨hstart, rfl, rfl⟩ := h
      refine ⟨_, rest.dropWhile continuesVariable, ?_, rfl, ?_⟩
      · rw [List.cons_append, List.takeWhile_append_dropWhile]
      · rw [String.toList_ofList]
        apply Refers.bare
        · refine ⟨c, _, rfl, startsVariable_iff.mp hstart, ?_⟩
          intro d hd
          exact continuesVariable_iff.mp (List.mem_takeWhile_imp hd)
        · intro d hd hcontinue
          have hstop := stopsAt_dropWhile continuesVariable rest d hd
          rw [continuesVariable_iff.mpr hcontinue] at hstop
          cases hstop
  next => cases h

theorem variableAt_eq_none {s : List Char} (h : ¬ OpensReference s) : variableAt s = none := by
  rw [Option.eq_none_iff_forall_ne_some]
  rintro ⟨name, count⟩ hat
  obtain ⟨written, rest, hs, -, hrefers⟩ := exists_refers_of_variableAt hat
  exact h ⟨_, written, rest, hs, hrefers⟩

/-! ### The scan -/

variable (value : String → Option String)

theorem expandFrom_skip (written rest : List Char) :
    expandFrom value written.length (written ++ rest) = expandFrom value 0 rest := by
  induction written with
  | nil => rfl
  | cons c more ih => exact ih

theorem expandFrom_plain {pre : List Char} (hpre : '$' ∉ pre) (rest : List Char) :
    expandFrom value 0 (pre ++ rest) = pre ++ expandFrom value 0 rest := by
  induction pre with
  | nil => rfl
  | cons c more ih =>
      rw [List.mem_cons, not_or] at hpre
      have hc : (c == '$') = false := by simpa using Ne.symm hpre.1
      rw [List.cons_append, expandFrom, hc, if_neg Bool.false_ne_true, ih hpre.2]
      rfl

/-- A reference is replaced by the value as a whole, and what is behind it is read next. -/
theorem expandFrom_reference {name written rest : List Char} (h : Refers name written rest) :
    expandFrom value 0 ('$' :: (written ++ rest)) =
      ((value (String.ofList name)).map String.toList).getD ('$' :: written) ++
        expandFrom value 0 rest := by
  rw [expandFrom, beq_self_eq_true, if_pos rfl, variableAt_of_refers h]
  simp only [List.take_left, expandFrom_skip]

/-- A dollar sign alone stands for itself. -/
theorem expandFrom_dollar {rest : List Char} (h : ¬ OpensReference rest) :
    expandFrom value 0 ('$' :: rest) = '$' :: expandFrom value 0 rest := by
  rw [expandFrom, beq_self_eq_true, if_pos rfl, variableAt_eq_none h]

/-- A text that names no variable with a value is not changed. -/
theorem expandFrom_of_unset {s : List Char}
    (hunset : ∀ name, Names name s → value (String.ofList name) = none) :
    expandFrom value 0 s = s := by
  -- What is left to read behind a dollar sign is shorter, and names no other variables.
  induction hn : s.length using Nat.strongRecOn generalizing s with
  | ind n ih =>
      subst hn
      by_cases hdollar : '$' ∈ s
      · obtain ⟨pre, rest, rfl, hpre⟩ := List.eq_append_cons_of_mem hdollar
        rw [expandFrom_plain value hpre]
        by_cases hopens : OpensReference rest
        · obtain ⟨name, written, rest, rfl, hrefers⟩ := hopens
          have hrest : expandFrom value 0 rest = rest := by
            refine ih rest.length ?_ ?_ rfl
            · simp only [List.length_append, List.length_cons]
              omega
            · intro other hother
              exact hunset other (.behind hpre hrefers hother)
          rw [expandFrom_reference value hrefers, hunset name (.here hpre hrefers), hrest]
          rfl
        · have hrest : expandFrom value 0 rest = rest := by
            refine ih rest.length ?_ ?_ rfl
            · simp only [List.length_append, List.length_cons]
              omega
            · intro other hother
              exact hunset other (.behindDollar hpre hopens hother)
          rw [expandFrom_dollar value hopens, hrest]
      · have hplain := expandFrom_plain value hdollar []
        rw [List.append_nil] at hplain
        rw [hplain, expandFrom, List.append_nil]

/-! ### Texts -/

def bracedReference (name : String) : String := "$\x7b" ++ name ++ "\x7d"

def bareReference (name : String) : String := "$" ++ name

/-- References are replaced from left to right: each by the value of its variable, which is not
  read again, or by itself. -/
structure ExpandsOnce (value : String → Option String) : Prop where
  braced : ∀ pre name rest : String, '$' ∉ pre.toList → name ≠ "" → '\x7d' ∉ name.toList →
    expandVariables value (pre ++ bracedReference name ++ rest) =
      pre ++ (value name).getD (bracedReference name) ++ expandVariables value rest
  bare : ∀ pre name rest : String, '$' ∉ pre.toList → IsVariableName name.toList →
    (∀ c ∈ rest.toList.head?, ¬ MayContinue c) →
    expandVariables value (pre ++ bareReference name ++ rest) =
      pre ++ (value name).getD (bareReference name) ++ expandVariables value rest
  dollar : ∀ pre rest : String, '$' ∉ pre.toList → ¬ OpensReference rest.toList →
    expandVariables value (pre ++ "$" ++ rest) = pre ++ "$" ++ expandVariables value rest
  unset : ∀ text : String, (∀ name, Names name.toList text.toList → value name = none) →
    expandVariables value text = text

@[simp] theorem toList_expandVariables (text : String) :
    (expandVariables value text).toList = expandFrom value 0 text.toList :=
  String.toList_ofList

theorem expandVariables_reference {pre name reference rest : String} (hpre : '$' ∉ pre.toList)
    (written : List Char) (hreference : reference.toList = '$' :: written)
    (h : Refers name.toList written rest.toList) :
    expandVariables value (pre ++ reference ++ rest) =
      pre ++ (value name).getD reference ++ expandVariables value rest := by
  apply String.toList_inj.mp
  simp only [toList_expandVariables, String.toList_append, hreference, List.append_assoc,
    List.cons_append, expandFrom_plain value hpre, expandFrom_reference value h,
    String.ofList_toList]
  cases value name with
  | none => simp [hreference]
  | some text => simp

/-- Variables are expanded in one pass, whatever values they have. A reference is replaced as a
  whole and the scan goes on behind it, so a dollar sign in a value is left as it stands, and so is
  a text in which no variable has a value. -/
theorem expandVariables_expandsOnce : ExpandsOnce value := by
  constructor
  case braced =>
      intro pre name rest hpre hname hclosed
      apply expandVariables_reference value hpre ('\x7b' :: (name.toList ++ ['\x7d']))
      · simp [bracedReference]
      · apply Refers.braced _ hclosed
        simpa using hname
  case bare =>
      intro pre name rest hpre hname hrest
      apply expandVariables_reference value hpre name.toList
      · simp [bareReference]
      · exact .bare hname hrest
  case dollar =>
      intro pre rest hpre hrest
      apply String.toList_inj.mp
      simp [expandFrom_plain value hpre, expandFrom_dollar value hrest]
  case unset =>
      intro text hunset
      apply String.toList_inj.mp
      rw [toList_expandVariables]
      apply expandFrom_of_unset
      intro name hname
      apply hunset
      rwa [String.toList_ofList]

example : expandVariables (fun name => if name = "A" then some "<$A>" else none)
    "$$A-$AB-$\x7bA\x7dB-$1-$\x7bA" = "$<$A>-$AB-<$A>B-$1-$\x7bA" := by
  decide +kernel

end Terralens
