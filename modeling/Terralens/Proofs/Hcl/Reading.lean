import Terralens.Hcl.Trivia
import Terralens.Proofs.Parts

/-!
# What readers read

`Reads p s a rest` says that a reader takes the value `a` from the front of the text `s` and
leaves `rest`; `Refuses p s` that it is refused there, so that another one may be tried. The
text a reader shows does not matter here. There is one rule for each way of combining
readers, and one for each reader of single characters, words, runs of characters and blanks.
-/

namespace Terralens.Hcl

variable {α β : Type}

/-- A reader takes a value from the front of a text and leaves the rest. -/
def Reads (p : Reader α) (s : List Char) (a : α) (rest : List Char) : Prop :=
  ∃ source, p s = .read a source rest

def Refuses (p : Reader α) (s : List Char) : Prop := ∃ why, p s = .refused why

/-! ### Combined readers -/

theorem reads_pure (a : α) (s : List Char) : Reads (pure a) s a s := ⟨[], rfl⟩

theorem refuses_refuse (s : List Char) : Refuses (Reader.refuse : Reader α) s := ⟨_, rfl⟩

theorem Reads.bind {p : Reader α} {f : α → Reader β} {s t u : List Char} {a : α} {b : β}
    (hp : Reads p s a t) (hf : Reads (f a) t b u) : Reads (p >>= f) s b u := by
  obtain ⟨source, hp⟩ := hp
  obtain ⟨more, hf⟩ := hf
  refine ⟨source ++ more, ?_⟩
  change Reader.bind p f s = _
  simp only [Reader.bind, hp, hf]

theorem Reads.bind_refuses {p : Reader α} {f : α → Reader β} {s t : List Char} {a : α}
    (hp : Reads p s a t) (hf : Refuses (f a) t) : Refuses (p >>= f) s := by
  obtain ⟨source, hp⟩ := hp
  obtain ⟨why, hf⟩ := hf
  refine ⟨why, ?_⟩
  change Reader.bind p f s = _
  simp only [Reader.bind, hp, hf]

theorem Refuses.bind {p : Reader α} {s : List Char} (hp : Refuses p s) (f : α → Reader β) :
    Refuses (p >>= f) s := by
  obtain ⟨why, hp⟩ := hp
  refine ⟨why, ?_⟩
  change Reader.bind p f s = _
  simp only [Reader.bind, hp]

theorem Reads.orElse {p : Reader α} {s t : List Char} {a : α} (hp : Reads p s a t)
    (q : Reader α) : Reads (p.orElse q) s a t := by
  obtain ⟨source, hp⟩ := hp
  exact ⟨source, by simp only [Reader.orElse, hp]⟩

theorem Refuses.orElse_reads {p q : Reader α} {s t : List Char} {a : α} (hp : Refuses p s)
    (hq : Reads q s a t) : Reads (p.orElse q) s a t := by
  obtain ⟨why, hp⟩ := hp
  obtain ⟨source, hq⟩ := hq
  exact ⟨source, by simp only [Reader.orElse, hp, hq]⟩

theorem Refuses.orElse_refuses {p q : Reader α} {s : List Char} (hp : Refuses p s)
    (hq : Refuses q s) : Refuses (p.orElse q) s := by
  obtain ⟨why, hp⟩ := hp
  obtain ⟨why', hq⟩ := hq
  exact ⟨why', by simp only [Reader.orElse, hp, hq]⟩

theorem Refuses.optional {p : Reader α} {s : List Char} (hp : Refuses p s) :
    Reads (Reader.optional p) s none s := by
  obtain ⟨why, hp⟩ := hp
  exact ⟨[], by simp only [Reader.optional, hp]⟩

theorem Reads.cut {p : Reader α} {s t : List Char} {a : α} (hp : Reads p s a t) :
    Reads p.cut s a t := by
  obtain ⟨source, hp⟩ := hp
  exact ⟨source, by simp only [Reader.cut, hp]⟩

theorem Reads.expecting {p : Reader α} {s t : List Char} {a : α} (hp : Reads p s a t)
    (label : Option String) (expected : List String) :
    Reads (p.expecting label expected) s a t := by
  obtain ⟨source, hp⟩ := hp
  exact ⟨source, by simp only [Reader.expecting, hp]⟩

theorem Reads.shown {p : Reader α} {s t : List Char} {a : α} (hp : Reads p s a t)
    (display : α → List Char) : Reads (p.shown display) s a t := by
  obtain ⟨source, hp⟩ := hp
  exact ⟨display a, by simp only [Reader.shown, hp]⟩

theorem Refuses.shown {p : Reader α} {s : List Char} (hp : Refuses p s)
    (display : α → List Char) : Refuses (p.shown display) s := by
  obtain ⟨why, hp⟩ := hp
  exact ⟨why, by simp only [Reader.shown, hp]⟩

/-! ### Repeated readers -/

/-- A reader that takes every part of a text, wherever something follows with which a part or
  the rest may begin, and is refused at the rest, takes the parts one by one. -/
theorem reads_manyUpTo {γ : Type} {p : Reader α} {part : γ → List Char} {value : γ → α}
    {Follows : List Char → Prop} {rest : List Char} (hrest : Follows rest) (hend : Refuses p rest)
    {parts : List γ} (hparts : ∀ x ∈ parts, ∀ s, Follows (part x ++ s))
    (hread : ∀ x ∈ parts, ∀ s, Follows s → Reads p (part x ++ s) (value x) s)
    {fuel : Nat} (hfuel : parts.length < fuel) :
    Reads (Reader.manyUpTo p fuel) (parts.flatMap part ++ rest) (parts.map value) rest := by
  induction parts generalizing fuel with
  | nil =>
      obtain ⟨fuel, rfl⟩ := Nat.exists_eq_add_of_lt hfuel
      exact (hend.bind _).orElse_reads (reads_pure _ _)
  | cons x more ih =>
      cases fuel with
      | zero => cases hfuel
      | succ fuel =>
          have hfollows : Follows (more.flatMap part ++ rest) := by
            cases more with
            | nil => exact hrest
            | cons y _ =>
                simpa using hparts y (by simp) _
          have hmore := ih (fun y hy => hparts y (List.mem_cons_of_mem x hy))
            (fun y hy => hread y (List.mem_cons_of_mem x hy)) (Nat.lt_of_succ_lt_succ hfuel)
          have hfirst := hread x (by simp) _ hfollows
          simp only [List.flatMap_cons, List.append_assoc]
          exact (hfirst.bind (hmore.bind (reads_pure (value x :: more.map value) rest))).orElse _

theorem reads_many {γ : Type} {p : Reader α} {part : γ → List Char} {value : γ → α}
    {Follows : List Char → Prop} {rest : List Char} (hrest : Follows rest) (hend : Refuses p rest)
    {parts : List γ} (hparts : ∀ x ∈ parts, ∀ s, Follows (part x ++ s))
    (hnonempty : ∀ x ∈ parts, part x ≠ [])
    (hread : ∀ x ∈ parts, ∀ s, Follows s → Reads p (part x ++ s) (value x) s) :
    Reads (Reader.many p) (parts.flatMap part ++ rest) (parts.map value) rest := by
  have hlength := length_le_length_flatMap hnonempty
  refine reads_manyUpTo hrest hend hparts hread ?_
  simp only [List.length_append]
  omega

/-! ### Single characters, words and runs -/

/-- A run of characters of a class ends where a text begins. -/
def StopsAt (p : Char → Bool) (s : List Char) : Prop := ∀ c ∈ s.head?, p c = false

theorem stopsAt_nil (p : Char → Bool) : StopsAt p [] := by simp [StopsAt]

theorem stopsAt_cons {p : Char → Bool} {c : Char} (h : p c = false) (s : List Char) :
    StopsAt p (c :: s) := by
  simpa [StopsAt] using h

theorem stopsAt_dropWhile (p : Char → Bool) (s : List Char) : StopsAt p (s.dropWhile p) := by
  intro c hc
  have hfirst := List.head?_dropWhile_not p s
  rw [hc] at hfirst
  exact hfirst

theorem reads_peek (c : Char) (s : List Char) : Reads Reader.peek (c :: s) c (c :: s) :=
  ⟨[], rfl⟩

theorem reads_ahead (s : List Char) : Reads Reader.ahead s s s := ⟨[], rfl⟩

theorem reads_any (c : Char) (s : List Char) : Reads Reader.any (c :: s) c s := ⟨[c], rfl⟩

theorem reads_char (c : Char) (s : List Char) : Reads (Reader.char c) (c :: s) () s :=
  ⟨[c], by simp [Reader.char]⟩

theorem reads_requireChar (c : Char) (s : List Char) : Reads (requireChar c) (c :: s) () s :=
  (reads_char c s).cut.expecting _ _

theorem refuses_char {c : Char} {s : List Char} (h : c ∉ s.head?) : Refuses (Reader.char c) s := by
  cases s with
  | nil => exact ⟨_, rfl⟩
  | cons d rest =>
      have hne : d ≠ c := by simpa using h
      exact ⟨_, by simp only [Reader.char, if_neg hne]; rfl⟩

theorem refuses_word {c : Char} {w s : List Char} (h : c ∉ s.head?) :
    Refuses (Reader.word (c :: w)) s := by
  have hstrip : Reader.stripWord (c :: w) s = none := by
    cases s with
    | nil => rfl
    | cons d rest =>
        have hne : c ≠ d := by simpa [eq_comm] using h
        simp only [Reader.stripWord, if_neg hne]
  exact ⟨_, by simp only [Reader.word, hstrip]; rfl⟩

theorem takeWhile_append_stop {p : Char → Bool} {s rest : List Char} (hs : ∀ c ∈ s, p c)
    (hrest : StopsAt p rest) :
    (s ++ rest).takeWhile p = s ∧ (s ++ rest).dropWhile p = rest := by
  have hstop : rest.takeWhile p = [] ∧ rest.dropWhile p = rest := by
    cases rest with
    | nil => simp
    | cons c _ => simp [hrest c rfl]
  rw [List.takeWhile_append_of_pos hs, List.dropWhile_append_of_pos hs]
  simp [hstop]

theorem reads_span {p : Char → Bool} {s rest : List Char} (hs : ∀ c ∈ s, p c)
    (hrest : StopsAt p rest) : Reads (Reader.span p) (s ++ rest) s rest := by
  obtain ⟨htake, hdrop⟩ := takeWhile_append_stop hs hrest
  exact ⟨s, by rw [Reader.span, htake, hdrop]⟩

theorem reads_span1 {p : Char → Bool} {s rest : List Char} (hne : s ≠ []) (hs : ∀ c ∈ s, p c)
    (hrest : StopsAt p rest) : Reads (Reader.span1 p) (s ++ rest) s rest := by
  cases s with
  | nil => exact absurd rfl hne
  | cons c more =>
      obtain ⟨source, hspan⟩ := reads_span hs hrest
      exact ⟨source, by simpa [Reader.span1, hs c (by simp)] using hspan⟩

/-! ### Blanks -/

def startsTrivia (c : Char) : Bool :=
  c == ' ' || c == '\t' || c == '\n' || c == '\r' || c == '#' || c == '/'

theorem skipTrivia_of_head {breaks : Bool} {fuel : Nat} {s : List Char}
    (h : StopsAt startsTrivia s) : skipTrivia breaks fuel s = s := by
  cases fuel with
  | zero => rfl
  | succ fuel =>
      cases s with
      | nil => rfl
      | cons c rest =>
          have hc : startsTrivia c = false := h c rfl
          simp only [startsTrivia, Bool.or_eq_false_iff] at hc
          simp [skipTrivia, hc]

theorem skipTrivia_blank {breaks : Bool} {s : List Char} (h : StopsAt startsTrivia s) :
    skipTrivia breaks (' ' :: s).length (' ' :: s) = s := by
  change skipTrivia breaks s.length s = s
  exact skipTrivia_of_head h

theorem skipTrivia_break (fuel : Nat) (s : List Char) :
    skipTrivia false fuel ('\n' :: s) = '\n' :: s := by
  cases fuel with
  | zero => rfl
  | succ fuel => rfl

theorem reads_trivia_of_head {breaks : Bool} {s : List Char}
    (h : StopsAt startsTrivia s) : Reads (trivia breaks) s () s :=
  ⟨_, by simp only [trivia, skipTrivia_of_head h]; rfl⟩

theorem reads_trivia_blank {breaks : Bool} {s : List Char}
    (h : StopsAt startsTrivia s) : Reads (trivia breaks) (' ' :: s) () s :=
  ⟨_, by simp only [trivia, skipTrivia_blank h]; rfl⟩

theorem reads_sp_break (s : List Char) : Reads sp ('\n' :: s) () ('\n' :: s) :=
  ⟨_, by simp only [sp, trivia, skipTrivia_break]; rfl⟩

theorem reads_lineEnd (s : List Char) : Reads lineEnd ('\n' :: s) () s :=
  (reads_char '\n' s).orElse _

theorem refuses_lineComment {s : List Char} (h : ∀ c ∈ s.head?, c ≠ '#' ∧ c ≠ '/') :
    Refuses lineComment s := by
  have hsign : ∀ d ∈ ['#', '/'], d ∉ s.head? := by
    intro d hd hmem
    obtain ⟨hhash, hslash⟩ := h d hmem
    simp_all
  exact ((refuses_char (hsign '#' (by simp))).orElse_refuses
    (refuses_word (hsign '/' (by simp)))).bind _

end Terralens.Hcl
