import Mathlib.Data.List.Basic

/-!
# Writings that can be read back

A way of writing delimits what it writes when a text that starts with a writing tells what was
written, as far as a view shows it, and where the writing ends (`Delimits`). Writings one behind
the other delimit together (`Delimits.append`), and so do lines of them, since every line begins
with a character that nothing behind the lines begins with (`Delimits.flatMap`). Writings of
which none begins another are delimited by that alone (`delimits_of_isPrefixOf`).
-/

namespace Terralens

variable {α β γ δ : Type}

/-- A text that starts with a writing tells what was written, as far as the view shows it, and
  what stands behind the writing. -/
def Delimits (write : α → List Char) (view : α → β) : Prop :=
  ∀ a b s t, write a ++ s = write b ++ t → view a = view b ∧ s = t

namespace Delimits

variable {write : α → List Char} {view : α → β}

theorem fixed (s : List Char) : Delimits (fun _ : α => s) fun _ => () :=
  fun _ _ _ _ h => ⟨rfl, List.append_cancel_left h⟩

theorem comp (h : Delimits write view) (f : γ → α) :
    Delimits (fun c => write (f c)) fun c => view (f c) :=
  fun a b => h (f a) (f b)

/-- A coarser view is shown too. -/
theorem imp {view' : α → γ} (h : Delimits write view)
    (hview : ∀ a b, view a = view b → view' a = view' b) : Delimits write view' := by
  intro a b s t heq
  obtain ⟨hab, hst⟩ := h a b s t heq
  exact ⟨hview a b hab, hst⟩

theorem append {write' : α → List Char} {view' : α → γ} (h : Delimits write view)
    (h' : Delimits write' view') :
    Delimits (fun a => write a ++ write' a) fun a => (view a, view' a) := by
  intro a b s t heq
  rw [List.append_assoc, List.append_assoc] at heq
  obtain ⟨hfirst, hrest⟩ := h a b _ _ heq
  obtain ⟨hsecond, hst⟩ := h' a b s t hrest
  exact ⟨Prod.ext hfirst hsecond, hst⟩

theorem after (h : Delimits write view) (s : List Char) :
    Delimits (fun a => s ++ write a) view :=
  ((fixed s).append h).imp fun _ _ heq => (Prod.mk.inj heq).2

theorem before (h : Delimits write view) (s : List Char) :
    Delimits (fun a => write a ++ s) view :=
  (h.append (fixed s)).imp fun _ _ heq => (Prod.mk.inj heq).1

/-- A list of writings is read back where the text ends the list: what stands behind it starts with
  no further writing. -/
theorem flatMap (h : Delimits write view) {ends : List Char → Prop}
    (hends : ∀ a s, ¬ ends (write a ++ s)) {l l' : List α} {s t : List Char} (hs : ends s)
    (ht : ends t) (heq : l.flatMap write ++ s = l'.flatMap write ++ t) :
    l.map view = l'.map view ∧ s = t := by
  induction l generalizing l' with
  | nil =>
      cases l' with
      | nil => exact ⟨rfl, heq⟩
      | cons b rest =>
          rw [List.flatMap_nil, List.nil_append, List.flatMap_cons, List.append_assoc] at heq
          exact absurd (heq ▸ hs) (hends b _)
  | cons a rest ih =>
      cases l' with
      | nil =>
          rw [List.flatMap_nil, List.nil_append, List.flatMap_cons, List.append_assoc] at heq
          exact absurd (heq ▸ ht) (hends a _)
      | cons b rest' =>
          rw [List.flatMap_cons, List.flatMap_cons, List.append_assoc, List.append_assoc] at heq
          obtain ⟨hab, hrest⟩ := h a b _ _ heq
          obtain ⟨hmap, hst⟩ := ih hrest
          exact ⟨by rw [List.map_cons, List.map_cons, hab, hmap], hst⟩

end Delimits

/-- Lists that look the same are written the same when what is written depends on the view alone. -/
theorem flatMap_eq_of_map_eq {write : α → List Char} {view : α → β}
    (hview : ∀ a b, view a = view b → write a = write b) {l l' : List α}
    (h : l.map view = l'.map view) : l.flatMap write = l'.flatMap write := by
  induction l generalizing l' with
  | nil =>
      rw [List.map_nil, eq_comm, List.map_eq_nil_iff] at h
      rw [h]
  | cons a rest ih =>
      cases l' with
      | nil => cases h
      | cons b rest' =>
          obtain ⟨hab, hrest⟩ := List.cons.inj h
          rw [List.flatMap_cons, List.flatMap_cons, hview a b hab, ih hrest]

/-- Writings of which none begins that of another are told apart by what a text starts with. -/
theorem delimits_of_isPrefixOf {write : α → List Char}
    (h : ∀ a b, (write a).isPrefixOf (write b) → a = b) : Delimits write id := by
  intro a b s t heq
  have hfirst : write a <+: write b ++ t := ⟨s, heq⟩
  have hab : a = b := by
    rcases List.prefix_or_prefix_of_prefix hfirst (List.prefix_append _ _) with hle | hle
    · exact h a b (List.isPrefixOf_iff_prefix.mpr hle)
    · exact (h b a (List.isPrefixOf_iff_prefix.mpr hle)).symm
  subst hab
  exact ⟨rfl, List.append_cancel_left heq⟩

end Terralens
