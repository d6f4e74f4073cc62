import Terralens.Hcl.Grammar
import Terralens.Proofs.Hcl.Literals
import Terralens.Proofs.Hcl.Reading
import Terralens.Text.Quoted

/-!
# Reading names, texts and numbers

Wherever an operand ends behind it (`EndsOperand`), a name, a quoted text in which nothing is
inserted, and the digits of a natural number are read as the expressions they stand for.
Behind an operand stands the comma or bracket of a list, the sign or brace of a map, or
the end of a line.
-/

namespace Terralens.Hcl

open Decimal

/-! ### Characters -/

theorem forall_ascii {p : Char → Bool} (h : ∀ n < 128, p (Char.ofNat n)) {c : Char}
    (hc : c.toNat < 128) : p c := by
  rw [← Char.ofNat_toNat c]
  exact h _ hc

theorem isAlpha_iff {c : Char} :
    c.isAlpha ↔ (65 ≤ c.toNat ∧ c.toNat ≤ 90) ∨ (97 ≤ c.toNat ∧ c.toNat ≤ 122) := by
  change ((decide ('A'.val ≤ c.val ∧ c.val ≤ 'Z'.val) ||
    (decide ('a'.val ≤ c.val) && decide (c.val ≤ 'z'.val))) = true) ↔ _
  simp only [Bool.or_eq_true, Bool.and_eq_true, decide_eq_true_eq, UInt32.le_iff_toNat_le]
  exact Iff.rfl

theorem isDigit_iff {c : Char} : c.isDigit ↔ 48 ≤ c.toNat ∧ c.toNat ≤ 57 := Char.isDigit_iff_toNat

theorem toNat_lt_of_isAlphanum {c : Char} (h : c.isAlphanum) : c.toNat < 128 := by
  simp only [Char.isAlphanum, Bool.or_eq_true, isAlpha_iff, isDigit_iff] at h
  omega

theorem toNat_lt_of_isNameChar {c : Char} (h : isNameChar c) : c.toNat < 128 := by
  simp only [isNameChar, Bool.or_eq_true, beq_iff_eq] at h
  rcases h with (h | rfl) | rfl
  · exact toNat_lt_of_isAlphanum h
  · decide
  · decide

theorem isNameChar_of_isAlpha {c : Char} (h : c.isAlpha) : isNameChar c := by
  simp [isNameChar, Char.isAlphanum, h]

theorem isIdentifierContinue_of_isNameChar {c : Char} (h : isNameChar c) :
    Text.Property.isIdentifierContinue c := by
  have hascii := toNat_lt_of_isNameChar h
  simp only [isNameChar] at h
  simp only [Text.Property.isIdentifierContinue, hascii, if_true, Text.Property.isAsciiWord]
  exact h

theorem isIdentifierStart_of_isAlpha {c : Char} (h : c.isAlpha) :
    Text.Property.isIdentifierStart c := by
  have hascii := toNat_lt_of_isNameChar (isNameChar_of_isAlpha h)
  simp [Text.Property.isIdentifierStart, hascii, h]

theorem isDigit_of_isAlpha {c : Char} (h : c.isAlpha) : c.isDigit = false := by
  rw [isAlpha_iff] at h
  rw [← Bool.not_eq_true, isDigit_iff]
  omega

theorem ne_of_class {p : Char → Bool} {c d : Char} (hc : p c) (hd : p d = false) : c ≠ d := by
  rintro rfl
  simp [hc] at hd

theorem not_startsTrivia_of_isAlphanum {c : Char} (h : c.isAlphanum) : startsTrivia c = false := by
  have hne := fun d => ne_of_class (d := d) h
  simp [startsTrivia, hne ' ' (by decide), hne '\t' (by decide), hne '\n' (by decide),
    hne '\r' (by decide), hne '#' (by decide), hne '/' (by decide)]

theorem not_startsTrivia_of_isAlpha {c : Char} (h : c.isAlpha) : startsTrivia c = false :=
  not_startsTrivia_of_isAlphanum (by simp [Char.isAlphanum, h])

theorem not_startsTrivia_of_isDigit {c : Char} (h : c.isDigit) : startsTrivia c = false :=
  not_startsTrivia_of_isAlphanum (by simp [Char.isAlphanum, h])

theorem exists_of_isName {name : String} (h : isName name) :
    ∃ c rest, name.toList = c :: rest ∧ c.isAlpha ∧ ∀ d ∈ c :: rest, isNameChar d := by
  unfold isName at h
  cases hname : name.toList with
  | nil => simp [hname] at h
  | cons c rest =>
      simp only [hname, Bool.and_eq_true, List.all_eq_true] at h
      refine ⟨c, rest, rfl, h.1, ?_⟩
      intro d hd
      rcases List.mem_cons.mp hd with rfl | hd
      · exact isNameChar_of_isAlpha h.1
      · exact h.2 d hd

theorem stopsAt_trivia_of_isName {name : String} (h : isName name) (s : List Char) :
    StopsAt startsTrivia (name.toList ++ s) := by
  obtain ⟨c, t, hname, hc, -⟩ := exists_of_isName h
  rw [hname]
  exact stopsAt_cons (not_startsTrivia_of_isAlpha hc) _

/-! ### The end of an operand -/

/-- Nothing that stands here continues the operand before it. -/
structure EndsOperand (mode : Mode) (rest : List Char) : Prop where
  sequel : sequelOf mode (skipTrivia mode.breaks rest.length rest) = .nothing
  call : startsCall (skipTrivia mode.breaks rest.length rest) = false
  boundary : ∀ c ∈ rest.head?, c ∈ [',', ']', ' ', '\n']

theorem endsOperand_of_mark {mode : Mode} {c d : Char} {rest s : List Char}
    (htrivia : skipTrivia mode.breaks (d :: rest).length (d :: rest) = c :: s)
    (hc : c ∈ [',', ']', '\x7d']) (hd : d ∈ [',', ']', ' ']) : EndsOperand mode (d :: rest) := by
  constructor
  · rw [htrivia]
    simp only [List.mem_cons, List.not_mem_nil, or_false] at hc
    rcases hc with rfl | rfl | rfl <;> cases s <;> rfl
  · rw [htrivia]
    simp only [List.mem_cons, List.not_mem_nil, or_false] at hc
    rcases hc with rfl | rfl | rfl <;> rfl
  · simp only [List.mem_cons, List.not_mem_nil, or_false] at hd
    rcases hd with rfl | rfl | rfl <;> simp

theorem endsOperand_comma (mode : Mode) (s : List Char) : EndsOperand mode (',' :: s) :=
  endsOperand_of_mark (skipTrivia_of_head (stopsAt_cons (by decide) s)) (by decide) (by decide)

theorem endsOperand_bracket (mode : Mode) (s : List Char) : EndsOperand mode (']' :: s) :=
  endsOperand_of_mark (skipTrivia_of_head (stopsAt_cons (by decide) s)) (by decide) (by decide)

theorem endsOperand_brace (mode : Mode) (s : List Char) :
    EndsOperand mode (' ' :: '\x7d' :: s) :=
  endsOperand_of_mark (skipTrivia_blank (stopsAt_cons (by decide) s)) (by decide) (by decide)

theorem endsOperand_sign (mode : Mode) (s : List Char) :
    EndsOperand mode (' ' :: '=' :: ' ' :: s) := by
  have htrivia : skipTrivia mode.breaks (' ' :: '=' :: ' ' :: s).length (' ' :: '=' :: ' ' :: s) =
      '=' :: ' ' :: s :=
    skipTrivia_blank (stopsAt_cons (by decide) _)
  constructor
  · rw [htrivia]
    rfl
  · rw [htrivia]
    rfl
  · simp

theorem endsOperand_break (s : List Char) : EndsOperand .line ('\n' :: s) := by
  constructor
  · cases s <;> rfl
  · rfl
  · simp

theorem EndsOperand.stops {mode : Mode} {rest : List Char} (h : EndsOperand mode rest)
    {p : Char → Bool} (hp : [',', ']', ' ', '\n'].all (!p ·)) : StopsAt p rest := by
  intro c hc
  simpa using List.all_eq_true.mp hp c (h.boundary c hc)

/-! ### Names -/

theorem reads_identifier {name : String} {rest : List Char} (h : isName name)
    (hrest : StopsAt Text.Property.isIdentifierContinue rest) :
    Reads identifier (name.toList ++ rest) name rest := by
  obtain ⟨c, more, hname, hc, hmore⟩ := exists_of_isName h
  have hspan := reads_span (fun d hd => isIdentifierContinue_of_isNameChar (hmore d hd)) hrest
  have hback : Reads (pure (String.ofList (c :: more))) rest name rest := by
    rw [← hname, String.ofList_toList]
    exact reads_pure name rest
  unfold identifier
  rw [hname]
  refine (reads_peek c (more ++ rest)).bind ?_
  simp only [isIdentifierStart_of_isAlpha hc, if_true]
  exact hspan.bind hback

theorem reads_named (nested : Nested) {mode : Mode} {name : String} {rest : List Char}
    (h : isName name) (hrest : EndsOperand mode rest) :
    Reads (named nested mode.breaks) (name.toList ++ rest) (ofName name) rest := by
  unfold named
  refine (reads_identifier h (hrest.stops (by decide))).bind ?_
  refine (reads_ahead rest).bind ?_
  simp only [hrest.call, Bool.false_eq_true, if_false]
  exact reads_pure _ _

theorem reads_plainOperand_name (nested : Nested) {mode : Mode} {name : String}
    {rest : List Char} (h : isName name) (hrest : EndsOperand mode rest) :
    Reads (plainOperand nested mode) (name.toList ++ rest) (ofName name) rest := by
  obtain ⟨c, more, hname, hc, -⟩ := exists_of_isName h
  have hnamed := reads_named (nested.within mode) h hrest
  unfold plainOperand
  rw [hname] at hnamed ⊢
  refine (reads_peek c (more ++ rest)).bind ?_
  have hne : ∀ d : Char, d.isAlpha = false → (c == d) = false := by
    intro d hd
    simpa using ne_of_class hc hd
  simpa [hne '"' (by decide), hne '[' (by decide), hne '\x7b' (by decide), hne '<' (by decide),
    hne '(' (by decide), isDigit_of_isAlpha hc, isIdentifierStart_of_isAlpha hc] using hnamed

/-! ### Texts between quotes -/

theorem markOf_plain {c : Char} (hdollar : c ≠ '$') (hpercent : c ≠ '%') (s : List Char) :
    markOf (c :: s) = .plain := by
  match s with
  | [] => rfl
  | [d] => simp [markOf, startsSequence, hdollar, hpercent]
  | d :: e :: rest =>
      have hdoubled : (c == d && startsSequence d e) = false := by
        by_cases heq : c = d
        · subst heq
          simp [startsSequence, hdollar, hpercent]
        · simp [heq]
      simp only [markOf, hdoubled]
      simp [startsSequence, hdollar, hpercent]

/-- A character of a text is written as an escape that stands for it, or as itself. -/
theorem quoteChar_cases {c : Char} (h : isTextChar c) :
    (∃ d, Text.quoteChar c = ['\\', d] ∧ ∀ s, Reads escapeSequence (d :: s) c s) ∨
      (Text.quoteChar c = [c] ∧ c ≠ '"' ∧ c ≠ '\\' ∧ c ≠ '$' ∧ c ≠ '%') := by
  -- The escaped characters one by one; all others of a text show as they are.
  by_cases hquote : c = '"'
  · subst hquote
    exact .inl ⟨'"', rfl, fun s => ⟨['"'], rfl⟩⟩
  by_cases hslash : c = '\\'
  · subst hslash
    exact .inl ⟨'\\', rfl, fun s => ⟨['\\'], rfl⟩⟩
  by_cases hbreak : c = '\n'
  · subst hbreak
    exact .inl ⟨'n', rfl, fun s => ⟨['n'], rfl⟩⟩
  by_cases hreturn : c = '\r'
  · subst hreturn
    exact .inl ⟨'r', rfl, fun s => ⟨['r'], rfl⟩⟩
  by_cases htab : c = '\t'
  · subst htab
    exact .inl ⟨'t', rfl, fun s => ⟨['t'], rfl⟩⟩
  right
  simp only [isTextChar, Bool.and_eq_true, Bool.or_eq_true, beq_iff_eq, bne_iff_ne,
    decide_eq_true_eq, hbreak, htab, hreturn, or_false] at h
  obtain ⟨⟨hrange, hdollar⟩, hpercent⟩ := h
  have hzero : c ≠ '\x00' := by
    rintro rfl
    exact absurd hrange.1 (by decide)
  have halone : Text.Property.standsAlone c := by
    have hascii : c.toNat < 128 := by omega
    simp [Text.Property.standsAlone, hascii, hrange]
  exact ⟨by simp [Text.quoteChar, hquote, hslash, hbreak, hreturn, htab, hzero, halone],
    hquote, hslash, hdollar, hpercent⟩

theorem reads_quotedCharsUpTo {s : List Char} (hs : ∀ c ∈ s, isTextChar c) (rest : List Char)
    {fuel : Nat} (hfuel : s.length < fuel) :
    Reads (quotedCharsUpTo fuel) (s.flatMap Text.quoteChar ++ '"' :: rest) s ('"' :: rest) := by
  induction s generalizing fuel with
  | nil =>
      obtain ⟨fuel, rfl⟩ := Nat.exists_eq_add_of_lt hfuel
      unfold quotedCharsUpTo
      refine (reads_ahead _).bind ?_
      simp only [List.flatMap_nil, List.nil_append, markOf_plain (c := '"') (by decide) (by decide)]
      exact (reads_peek _ _).bind (reads_pure _ _)
  | cons c more ih =>
      cases fuel with
      | zero => cases hfuel
      | succ fuel =>
          have hmore := ih (fun d hd => hs d (List.mem_cons_of_mem c hd))
            (Nat.lt_of_succ_lt_succ hfuel)
          have hcons := hmore.bind (f := fun more => pure (c :: more)) (reads_pure _ _)
          unfold quotedCharsUpTo
          refine (reads_ahead _).bind ?_
          rw [List.flatMap_cons, List.append_assoc]
          rcases quoteChar_cases (hs c (by simp)) with
            ⟨d, hquote, hescape⟩ | ⟨hself, hquote, hslash, hdollar, hpercent⟩
          · rw [hquote]
            simp only [List.cons_append, List.nil_append,
              markOf_plain (c := '\\') (by decide) (by decide)]
            refine (reads_peek _ _).bind ?_
            exact (reads_char _ _).bind ((hescape _).bind hcons)
          · rw [hself]
            simp only [List.cons_append, List.nil_append, markOf_plain hdollar hpercent]
            refine (reads_peek _ _).bind ?_
            simp only [beq_iff_eq, hquote, hslash, if_false]
            exact (reads_any _ _).bind hcons

theorem toList_quotedString (s : String) :
    (Text.quotedString s).toList = '"' :: s.toList.flatMap Text.quoteChar ++ ['"'] := by
  rw [Text.quotedString, String.toList_ofList, Text.quoted]

theorem quoteChar_ne_nil (c : Char) : Text.quoteChar c ≠ [] := by
  unfold Text.quoteChar
  split_ifs <;> simp

/-- A text without inserted parts is read between its quotes. -/
theorem reads_quotedText {s : String} (hs : ∀ c ∈ s.toList, isTextChar c) (rest : List Char) :
    Reads quotedText ((Text.quotedString s).toList ++ rest) s rest := by
  have hchars : Reads quotedChars (s.toList.flatMap Text.quoteChar ++ '"' :: rest) s.toList
      ('"' :: rest) := by
    refine reads_quotedCharsUpTo hs rest ?_
    have hlength := length_le_length_flatMap fun c (_ : c ∈ s.toList) => quoteChar_ne_nil c
    simp only [List.length_append]
    omega
  have hback : Reads (pure (String.ofList s.toList)) rest s rest := by
    rw [String.ofList_toList]
    exact reads_pure s rest
  rw [toList_quotedString]
  simp only [List.cons_append, List.append_assoc, List.nil_append]
  refine Reads.shown ?_ _
  exact (reads_char _ _).bind (hchars.bind ((reads_char _ _).bind hback))

/-! ### Numbers -/

theorem natOfDigits_digitsOf (n : Nat) : natOfDigits (digitsOf n) = n := by
  have hdigits : Nat.ofDigitChars 10 (Nat.toDigits 10 n) 0 = n := Nat.ofDigitChars_ten_toDigits
  rwa [Nat.ofDigitChars_eq_foldl] at hdigits

theorem isDigit_of_mem_digitsOf {n : Nat} {c : Char} (h : c ∈ digitsOf n) : c.isDigit :=
  Nat.isDigit_of_mem_toDigits (by decide) (by decide) h

theorem EndsOperand.not_mem_head? {mode : Mode} {rest : List Char} (h : EndsOperand mode rest)
    {c : Char} (hc : c ∉ [',', ']', ' ', '\n']) : c ∉ rest.head? :=
  fun hmem => hc (h.boundary c hmem)

theorem refuses_exponentPart {rest : List Char} (hlower : 'e' ∉ rest.head?)
    (hupper : 'E' ∉ rest.head?) : Refuses exponentPart rest :=
  ((refuses_char hlower).orElse_refuses (refuses_char hupper)).bind _

theorem refuses_realNumeral {ds rest : List Char} {mode : Mode}
    (hds : Reads digits (ds ++ rest) ds rest) (hrest : EndsOperand mode rest) :
    Refuses realNumeral (ds ++ rest) := by
  have hexponent : Refuses exponentPart rest :=
    refuses_exponentPart (hrest.not_mem_head? (by decide)) (hrest.not_mem_head? (by decide))
  have hfraction : Refuses fractionAndExponent rest :=
    ((refuses_char (hrest.not_mem_head? (by decide))).bind _).orElse_refuses (hexponent.bind _)
  exact hds.bind_refuses (hfraction.bind _)

theorem reads_numeral {n : Nat} (hn : n < 10 ^ 15) {mode : Mode} {rest : List Char}
    (hrest : EndsOperand mode rest) : Reads numeral (digitsOf n ++ rest) (.whole n) rest := by
  have hds : Reads digits (digitsOf n ++ rest) (digitsOf n) rest :=
    reads_span1 Nat.toDigits_ne_nil (fun c hc => isDigit_of_mem_digitsOf hc)
      (hrest.stops (by decide))
  have hlimit : (n : Int) < Number.limit := by
    simp only [Number.limit]
    omega
  refine (refuses_realNumeral hds hrest).orElse_reads ?_
  have hwhole : Reads wholeNumeral (digitsOf n ++ rest) n rest := by
    refine hds.bind ?_
    simp only [natOfDigits_digitsOf, hlimit, if_true]
    exact reads_pure _ _
  exact hwhole.bind (reads_pure _ _)

/-! ### Operands and expressions -/

theorem reads_plainOperand_number (nested : Nested) {n : Nat} (hn : n < 10 ^ 15) {mode : Mode}
    {rest : List Char} (hrest : EndsOperand mode rest) :
    Reads (plainOperand nested mode) (digitsOf n ++ rest) (.number (.whole n)) rest := by
  have hnumeral := reads_numeral hn hrest
  have hdigit := fun c => isDigit_of_mem_digitsOf (n := n) (c := c)
  cases hds : digitsOf n with
  | nil => exact absurd hds Nat.toDigits_ne_nil
  | cons c more =>
      rw [hds] at hnumeral hdigit
      have hc := hdigit c (by simp)
      have hne : ∀ d : Char, d.isDigit = false → (c == d) = false := by
        intro d hd
        simpa using ne_of_class hc hd
      unfold plainOperand
      refine (reads_peek c (more ++ rest)).bind ?_
      simp only [hne '"' (by decide), hne '[' (by decide), hne '\x7b' (by decide), hc,
        Bool.false_eq_true, if_false, if_true]
      exact hnumeral.bind (reads_pure _ _)

theorem reads_plainOperand_string (nested : Nested) (mode : Mode) {s : String}
    (hs : ∀ c ∈ s.toList, isTextChar c) (rest : List Char) :
    Reads (plainOperand nested mode) ((Text.quotedString s).toList ++ rest) (.string s) rest := by
  have hterm : Reads (quotedTerm nested) ((Text.quotedString s).toList ++ rest) (.string s) rest :=
    ((reads_quotedText hs rest).bind (reads_pure (Expression.string s) rest)).orElse _
  rw [toList_quotedString] at hterm ⊢
  unfold plainOperand
  exact (reads_peek '"' _).bind hterm

/-- An operand is a whole expression when nothing continues it. -/
theorem reads_expressionWith {nested : Nested} {mode : Mode} {c : Char} {s rest : List Char}
    {e : Expression} (hminus : c ≠ '-') (hbang : c ≠ '!')
    (hoperand : Reads (plainOperand nested mode) (c :: s) e rest)
    (hrest : EndsOperand mode rest) :
    Reads (expressionWith nested mode) (c :: s) e rest := by
  have happlied : Reads (operand nested mode) (c :: s) e rest := by
    change Reads (operandUpTo nested mode (s.length + 2) none) (c :: s) e rest
    unfold operandUpTo
    refine (reads_peek c s).bind ?_
    simpa [hminus, hbang, applied] using hoperand
  refine happlied.bind ((reads_ahead rest).bind ?_)
  unfold sequelUpTo
  refine (reads_ahead rest).bind ?_
  rw [hrest.sequel]
  exact reads_pure e rest

theorem reads_mapKey {nested : Nested} {key : String} (hkey : isMapKey key) (s : List Char) :
    Reads (expressionWith nested .line) (key.toList ++ ' ' :: '=' :: ' ' :: s) (.variable key)
      (' ' :: '=' :: ' ' :: s) := by
  have hend := endsOperand_sign .line s
  simp only [isMapKey, Bool.and_eq_true, Bool.not_eq_true'] at hkey
  obtain ⟨⟨hname, -⟩, hliteral⟩ := hkey
  have hvariable : ofName key = .variable key := by
    simp only [List.contains_cons, List.contains_nil, Bool.or_eq_false_iff] at hliteral
    simp [ofName, hliteral]
  have hoperand := reads_plainOperand_name nested hname hend
  rw [hvariable] at hoperand
  obtain ⟨c, more, htext, hc, -⟩ := exists_of_isName hname
  rw [htext] at hoperand ⊢
  exact reads_expressionWith (ne_of_class hc (by decide)) (ne_of_class hc (by decide)) hoperand hend

end Terralens.Hcl
