import Terralens.Proofs.Hcl.Expressions
import Terralens.Proofs.Parts
import Terralens.Proofs.Value
import Mathlib.Data.List.Nodup

/-!
# Literal values are read back

The text of a literal value is read as its expression wherever an operand ends behind it
(`Value.Literal.reads`). The proof follows the value. A list is read item by item and a map
entry by entry, each with one unit of fuel less, and no part of a text is longer than the
text.
-/

namespace Terralens

open Hcl Decimal

/-! ### How literal values begin -/

/-- How the text of a literal value begins: neither as a blank, nor as a mark between items or
  an operator, nor as a `for`. -/
structure BeginsLiteral (c : Char) (s : List Char) : Prop where
  trivia : startsTrivia c = false
  mark : c ∉ [',', ']', '-', '!']
  word : c = 'f' → 'a' ∈ s.head?

theorem Value.Literal.begins {v : Value} (h : v.Literal) :
    ∃ c s, v.text.toList = c :: s ∧ BeginsLiteral c s := by
  cases h with
  | null => exact ⟨'n', "ull".toList, rfl, by constructor <;> decide⟩
  | bool b =>
      cases b with
      | false => exact ⟨'f', "alse".toList, rfl, by constructor <;> decide⟩
      | true => exact ⟨'t', "rue".toList, rfl, by constructor <;> decide⟩
  | @number n hn =>
      have htext : (Value.number (Binary.ofInt n)).text.toList = digitsOf n :=
        toList_numberText_ofInt hn
      cases hdigits : digitsOf n with
      | nil => exact absurd hdigits Nat.toDigits_ne_nil
      | cons c s =>
          have hc : c.isDigit := isDigit_of_mem_digitsOf (n := n) (by simp [hdigits])
          have hne := fun d => ne_of_class (d := d) hc
          refine ⟨c, s, htext.trans hdigits, not_startsTrivia_of_isDigit hc, ?_, ?_⟩
          · simp [hne ',' (by decide), hne ']' (by decide), hne '-' (by decide),
              hne '!' (by decide)]
          · exact fun hf => absurd hf (hne 'f' (by decide))
  | @string s hs =>
      refine ⟨'"', s.toList.flatMap Text.quoteChar ++ ['"'], ?_, by constructor <;> simp [startsTrivia]⟩
      exact toList_quotedString s
  | list hitems => exact ⟨'[', _, toList_text_list _, by constructor <;> simp [startsTrivia]⟩
  | map hordered hkeys hvalues =>
      exact ⟨'\x7b', _, toList_text_map _, by constructor <;> simp [startsTrivia]⟩

theorem Value.Literal.stopsAt_trivia {v : Value} (h : v.Literal) (s : List Char) :
    StopsAt startsTrivia (v.text.toList ++ s) := by
  obtain ⟨c, t, htext, hbegins⟩ := h.begins
  rw [htext]
  exact stopsAt_cons hbegins.trivia _

/-! ### Lists -/

/-- What follows an item of a list: the comma before the next one, or the closing bracket. -/
def FollowsItem (s : List Char) : Prop := ∃ c t, s = c :: t ∧ (c = ',' ∨ c = ']')

theorem FollowsItem.endsOperand {s : List Char} (h : FollowsItem s) (mode : Mode) :
    EndsOperand mode s := by
  obtain ⟨c, t, rfl, rfl | rfl⟩ := h
  · exact endsOperand_comma mode t
  · exact endsOperand_bracket mode t

theorem FollowsItem.stopsAt_trivia {s : List Char} (h : FollowsItem s) :
    StopsAt startsTrivia s := by
  obtain ⟨c, t, rfl, rfl | rfl⟩ := h
  · exact stopsAt_cons (by decide) t
  · exact stopsAt_cons (by decide) t

/-- The reader of nested expressions reads a value wherever an operand ends behind it. -/
def ReadsValue (nested : Nested) (v : Value) : Prop :=
  ∀ mode s, EndsOperand mode s → Reads (nested mode) (v.text.toList ++ s) v.literal s

theorem ReadsValue.itemUnless {nested : Nested} {v : Value} (hread : ReadsValue nested v)
    (hv : v.Literal) {s rest : List Char} (hws : Reads ws s () (v.text.toList ++ rest))
    (hrest : FollowsItem rest) :
    Reads (itemUnless nested [',', ']']) s v.literal rest := by
  have hitem := hread .open rest (hrest.endsOperand .open)
  obtain ⟨c, t, htext, hbegins⟩ := hv.begins
  have hstop : [',', ']'].contains c = false := by
    have hmark := hbegins.mark
    simp_all
  rw [htext, List.cons_append] at hws hitem
  refine hws.bind (Reads.bind ?_ ((reads_trivia_of_head hrest.stopsAt_trivia).bind (reads_pure _ _)))
  refine (reads_peek c _).bind ?_
  rw [hstop]
  exact hitem

theorem refuses_itemUnless {nested : Nested} (s : List Char) :
    Refuses (itemUnless nested [',', ']']) (']' :: s) := by
  have hws : Reads ws (']' :: s) () (']' :: s) := reads_trivia_of_head (stopsAt_cons (by decide) s)
  refine hws.bind_refuses (Refuses.bind ?_ _)
  exact (reads_peek ']' s).bind_refuses (refuses_refuse _)

/-- The items of a list are read up to its closing bracket. -/
theorem reads_arrayItems {nested : Nested} {items : List Value} (hitems : ∀ v ∈ items, v.Literal)
    (hread : ∀ v ∈ items, ReadsValue nested v) (rest : List Char) :
    Reads (arrayItems nested)
      ([',', ' '].intercalate (items.map (·.text.toList)) ++ ']' :: rest)
      (.array (itemLiterals items)) rest := by
  have hseparated : Reads (Reader.separated (itemUnless nested [',', ']']) (Reader.char ','))
      ([',', ' '].intercalate (items.map (·.text.toList)) ++ ']' :: rest)
      (items.map Value.literal) (']' :: rest) := by
    cases items with
    | nil => exact ((refuses_itemUnless rest).bind _).orElse_reads (reads_pure _ _)
    | cons v more =>
        have hfollows : ∀ t, FollowsItem (more.flatMap (fun w => [',', ' '] ++ w.text.toList) ++
            ']' :: t) := by
          intro t
          cases more with
          | nil => exact ⟨']', t, rfl, .inr rfl⟩
          | cons w _ => exact ⟨',', _, rfl, .inl rfl⟩
        have hfirst := (hread v (by simp)).itemUnless (hitems v (by simp))
          (reads_trivia_of_head ((hitems v (by simp)).stopsAt_trivia _)) (hfollows rest)
        have hmore : Reads (Reader.many (do Reader.char ','; itemUnless nested [',', ']']))
            (more.flatMap (fun w => [',', ' '] ++ w.text.toList) ++ ']' :: rest)
            (more.map Value.literal) (']' :: rest) := by
          have hlast : FollowsItem (']' :: rest) := ⟨']', rest, rfl, .inr rfl⟩
          refine reads_many hlast ?_ ?_ ?_ ?_
          · exact (refuses_char (by simp)).bind _
          · exact fun w hw t => ⟨',', _, rfl, .inl rfl⟩
          · exact fun w hw => by simp
          · intro w hw t ht
            have hw := List.mem_cons_of_mem v hw
            refine (reads_char ',' _).bind ((hread w hw).itemUnless (hitems w hw) ?_ ht)
            exact reads_trivia_blank ((hitems w hw).stopsAt_trivia t)
        rw [List.map_cons, intercalate_cons_eq_flatMap, List.append_assoc, List.flatMap_map]
        exact (hfirst.bind (hmore.bind (reads_pure (v.literal :: more.map Value.literal) _))).orElse _
  rw [itemLiterals_eq_map]
  refine hseparated.bind ?_
  refine (refuses_char (by simp)).optional.bind ?_
  refine (reads_trivia_of_head (stopsAt_cons (by decide) rest)).bind ?_
  exact (reads_requireChar ']' rest).bind (reads_pure _ _)

theorem startsFor_of_stripWord {s t : List Char} (htrivia : skipTrivia true s.length s = t)
    (h : Reader.stripWord "for".toList t = none) : startsFor s = false := by
  rw [startsFor, htrivia, h]

/-- A list is no `for`, as no item begins like one. -/
theorem startsFor_items {items : List Value} (hitems : ∀ v ∈ items, v.Literal)
    (rest : List Char) :
    startsFor ([',', ' '].intercalate (items.map (·.text.toList)) ++ ']' :: rest) = false := by
  cases items with
  | nil =>
      have hstop : StopsAt startsTrivia (']' :: rest) := stopsAt_cons (by decide) rest
      exact startsFor_of_stripWord (skipTrivia_of_head hstop) (by simp [Reader.stripWord])
  | cons v more =>
      obtain ⟨c, t, htext, hbegins⟩ := (hitems v (by simp)).begins
      rw [List.map_cons, intercalate_cons_eq_flatMap, htext, List.append_assoc, List.cons_append]
      refine startsFor_of_stripWord (skipTrivia_of_head (stopsAt_cons hbegins.trivia _)) ?_
      by_cases hf : c = 'f'
      · have ha := hbegins.word hf
        cases t with
        | nil => cases ha
        | cons d t =>
            cases ha
            simp [Reader.stripWord]
      · simp [Reader.stripWord, Ne.symm hf]

theorem reads_array {nested : Nested} {items : List Value} (hitems : ∀ v ∈ items, v.Literal)
    (hread : ∀ v ∈ items, ReadsValue nested v) (rest : List Char) :
    Reads (array nested) ((Value.list items).text.toList ++ rest) (Value.list items).literal rest := by
  have hbody := reads_arrayItems hitems hread rest
  rw [toList_text_list, List.append_assoc, List.singleton_append, List.cons_append]
  refine (reads_char '[' _).bind ((reads_ahead _).bind ?_)
  rw [startsFor_items hitems rest]
  exact hbody

/-! ### Maps -/

theorem stripWord_append_blank {w s rest : List Char} (hw : ' ' ∉ w)
    (h : w.isPrefixOf s = false) : Reader.stripWord w (s ++ ' ' :: rest) = none := by
  induction w generalizing s with
  | nil => simp at h
  | cons c more ih =>
      simp only [List.mem_cons, not_or] at hw
      cases s with
      | nil => simp [Reader.stripWord, Ne.symm hw.1]
      | cons d tail =>
          by_cases heq : c = d
          · subst heq
            have htail : more.isPrefixOf tail = false := by simpa using h
            simpa [Reader.stripWord] using ih hw.2 htail
          · simp [Reader.stripWord, heq]

theorem isName_of_isMapKey {key : String} (h : isMapKey key) : isName key := by
  simp only [isMapKey, Bool.and_eq_true] at h
  exact h.1.1

/-- An entry begins with the first letter of its key, which is no blank. -/
theorem exists_of_entryChars {e : String × Value} (hkey : isMapKey e.1) (s : List Char) :
    ∃ c t, entryChars e ++ s = c :: t ∧ c ≠ '\x7d' ∧ startsTrivia c = false := by
  obtain ⟨c, t, hname, hc, -⟩ := exists_of_isName (isName_of_isMapKey hkey)
  exact ⟨c, t ++ [' ', '=', ' '] ++ e.2.text.toList ++ s, by simp [entryChars, hname],
    ne_of_class hc (by decide), not_startsTrivia_of_isAlpha hc⟩

/-- A map is no `for`, as no key begins like one. -/
theorem startsFor_entries {entries : List (String × Value)}
    (hkeys : ∀ e ∈ entries, isMapKey e.1) (rest : List Char) :
    startsFor (' ' :: [',', ' '].intercalate (entries.map entryChars) ++ ' ' :: '\x7d' :: rest) =
      false := by
  cases entries with
  | nil =>
      have htrivia : skipTrivia true (rest.length + 3) (' ' :: ' ' :: '\x7d' :: rest) =
        '\x7d' :: rest := rfl
      exact startsFor_of_stripWord htrivia (by simp [Reader.stripWord])
  | cons e more =>
      have hkey := hkeys e (by simp)
      rw [List.map_cons, intercalate_cons_eq_flatMap, List.cons_append]
      simp only [entryChars, List.append_assoc, List.cons_append]
      refine startsFor_of_stripWord
        (skipTrivia_blank (stopsAt_trivia_of_isName (isName_of_isMapKey hkey) _)) ?_
      simp only [isMapKey, Bool.and_eq_true, Bool.not_eq_true'] at hkey
      exact stripWord_append_blank (by decide) hkey.1.2

/-- The reader of nested expressions reads the key and the value of an entry. -/
structure ReadsEntry (nested : Nested) (e : String × Value) : Prop where
  isMapKey : isMapKey e.1
  literal : e.2.Literal
  key : ∀ s, Reads (nested .line) (e.1.toList ++ ' ' :: '=' :: ' ' :: s) (.variable e.1)
    (' ' :: '=' :: ' ' :: s)
  value : ReadsValue nested e.2

theorem ReadsEntry.objectItem {nested : Nested} {e : String × Value} (h : ReadsEntry nested e)
    {s t u : List Char} (hend : EndsOperand .line s) (hsp : Reads sp s () t)
    (hitem : Reads itemEnd t () u) :
    Reads (objectItem nested) (entryChars e ++ s) (.variable e.1, e.2.literal) u := by
  have hsign : Reads assignSign ('=' :: ' ' :: (e.2.text.toList ++ s)) ()
      (' ' :: (e.2.text.toList ++ s)) := (reads_any '=' _).bind (reads_pure _ _)
  simp only [entryChars, List.append_assoc, List.cons_append, List.nil_append]
  refine (h.key _).bind ?_
  refine (reads_trivia_blank (stopsAt_cons (by decide) _)).bind ?_
  refine hsign.bind ?_
  refine (reads_trivia_blank (h.literal.stopsAt_trivia s)).bind ?_
  exact (h.value .line s hend).bind (hsp.bind (hitem.bind (reads_pure _ _)))

theorem ReadsEntry.objectItem_comma {nested : Nested} {e : String × Value}
    (h : ReadsEntry nested e) (s : List Char) :
    Reads (Hcl.objectItem nested) (entryChars e ++ ',' :: s) (.variable e.1, e.2.literal) s :=
  h.objectItem (endsOperand_comma .line s) (reads_trivia_of_head (stopsAt_cons (by decide) s))
    ((reads_peek ',' s).bind (reads_char ',' s))

theorem ReadsEntry.objectItem_brace {nested : Nested} {e : String × Value}
    (h : ReadsEntry nested e) (s : List Char) :
    Reads (Hcl.objectItem nested) (entryChars e ++ ' ' :: '\x7d' :: s)
      (.variable e.1, e.2.literal) ('\x7d' :: s) :=
  h.objectItem (endsOperand_brace .line s) (reads_trivia_blank (stopsAt_cons (by decide) s))
    ((reads_peek '\x7d' s).bind (reads_pure () _))

theorem reads_objectItemsUpTo_brace {nested : Nested} {fuel : Nat} (hfuel : 0 < fuel)
    {s rest : List Char} (hws : Reads ws s () ('\x7d' :: rest)) :
    Reads (objectItemsUpTo nested fuel) s [] ('\x7d' :: rest) := by
  cases fuel with
  | zero => cases hfuel
  | succ fuel =>
      unfold objectItemsUpTo
      exact hws.bind ((reads_peek _ _).bind (reads_pure _ _))

theorem ReadsEntry.objectItemsUpTo {nested : Nested} {e : String × Value}
    (h : ReadsEntry nested e) {fuel : Nat} {s t rest : List Char}
    {more : List (Expression × Expression)}
    (hitem : Reads (Hcl.objectItem nested) (entryChars e ++ s) (.variable e.1, e.2.literal) t)
    (hmore : Reads (objectItemsUpTo nested fuel) t more rest) :
    Reads (Hcl.objectItemsUpTo nested (fuel + 1)) (' ' :: (entryChars e ++ s))
      ((.variable e.1, e.2.literal) :: more) rest := by
  obtain ⟨c, u, hchars, hc, htrivia⟩ := exists_of_entryChars h.isMapKey s
  rw [hchars] at hitem ⊢
  unfold Hcl.objectItemsUpTo
  refine (reads_trivia_blank (stopsAt_cons htrivia u)).bind ((reads_peek c u).bind ?_)
  simp only [beq_iff_eq, hc, if_false]
  exact hitem.bind (hmore.bind (reads_pure _ _))

/-- The entries of a map are read up to its closing brace. -/
theorem reads_objectItemsUpTo {nested : Nested} {entries : List (String × Value)}
    (hread : ∀ e ∈ entries, ReadsEntry nested e) (rest : List Char) {fuel : Nat}
    (hfuel : entries.length < fuel) :
    Reads (objectItemsUpTo nested fuel)
      (' ' :: [',', ' '].intercalate (entries.map entryChars) ++ ' ' :: '\x7d' :: rest)
      (entryLiterals entries) ('\x7d' :: rest) := by
  induction entries generalizing fuel with
  | nil =>
      have hws : Reads ws (' ' :: ' ' :: '\x7d' :: rest) () ('\x7d' :: rest) := ⟨_, rfl⟩
      exact reads_objectItemsUpTo_brace hfuel hws
  | cons e more ih =>
      have hentry := hread e (by simp)
      cases fuel with
      | zero => cases hfuel
      | succ fuel =>
          have hfuel := Nat.lt_of_succ_lt_succ hfuel
          cases more with
          | nil =>
              have hdone : Reads (objectItemsUpTo nested fuel) ('\x7d' :: rest) []
                  ('\x7d' :: rest) :=
                reads_objectItemsUpTo_brace (Nat.zero_lt_of_lt hfuel)
                  (reads_trivia_of_head (stopsAt_cons (by decide) rest))
              simpa [entryLiterals] using
                hentry.objectItemsUpTo (hentry.objectItem_brace rest) hdone
          | cons f more =>
              have hmore := ih (fun x hx => hread x (List.mem_cons_of_mem e hx)) hfuel
              rw [List.map_cons, List.map_cons, List.intercalate_cons_cons]
              simpa [entryLiterals] using
                hentry.objectItemsUpTo (hentry.objectItem_comma _) hmore

/-! ### Keys of a map are kept apart -/

theorem setItem_of_new {key value : Expression} {items : List (Expression × Expression)}
    (h : ∀ e ∈ items, e.1.text ≠ key.text) : setItem key value items = items ++ [(key, value)] := by
  induction items with
  | nil => rfl
  | cons e rest ih =>
      have hrest := ih fun f hf => h f (List.mem_cons_of_mem e hf)
      have hne : e.1.text ≠ key.text := h e (by simp)
      simp [setItem, hne, hrest]

theorem mergeItems_of_nodup {items : List (Expression × Expression)}
    (h : (items.map fun e => e.1.text).Nodup) : mergeItems items = items := by
  induction items using List.reverseRecOn with
  | nil => rfl
  | append_singleton items e ih =>
      rw [List.map_append, List.nodup_append] at h
      obtain ⟨hitems, -, hapart⟩ := h
      have hnew : ∀ f ∈ items, f.1.text ≠ e.1.text := by
        intro f hf
        exact hapart _ (List.mem_map_of_mem hf) _ (by simp)
      rw [mergeItems, List.foldl_append]
      change setItem e.1 e.2 (mergeItems items) = _
      rw [ih hitems, setItem_of_new hnew]

theorem mergeItems_entryLiterals {entries : List (String × Value)} (h : InKeyOrder entries) :
    mergeItems (entryLiterals entries) = entryLiterals entries := by
  refine mergeItems_of_nodup ?_
  have hkeys : (entryLiterals entries).map (fun e => e.1.text) =
      entries.map fun e => e.1.toList := by
    rw [entryLiterals_eq_map, List.map_map]
    rfl
  have hinjective : Function.Injective String.toList := fun a b hab => String.toList_inj.mp hab
  rw [hkeys]
  simpa [Function.comp_def] using List.Nodup.map hinjective h.nodup_keys

theorem reads_object {nested : Nested} {entries : List (String × Value)}
    (hordered : InKeyOrder entries) (hread : ∀ e ∈ entries, ReadsEntry nested e)
    (rest : List Char) :
    Reads (object nested) ((Value.map entries).text.toList ++ rest) (Value.map entries).literal
      rest := by
  have hfuel : entries.length < (' ' :: [',', ' '].intercalate (entries.map entryChars) ++
      ' ' :: '\x7d' :: rest).length + 1 := by
    have hglue := @length_le_length_intercalate _ [',', ' '] (by simp) (entries.map entryChars)
    simp only [List.length_map] at hglue
    simp only [List.length_append, List.length_cons]
    omega
  have hitems := reads_objectItemsUpTo hread rest hfuel
  have hfor := startsFor_entries (fun e he => (hread e he).isMapKey) rest
  rw [toList_text_map]
  simp only [List.cons_append, List.append_assoc, List.nil_append] at hitems hfor ⊢
  refine (reads_char '\x7b' _).bind ((reads_ahead _).bind ?_)
  rw [hfor]
  refine hitems.bind ((reads_requireChar '\x7d' rest).bind ?_)
  rw [mergeItems_entryLiterals hordered]
  exact reads_pure _ _

/-! ### All values -/

/-- Where no operator follows, none follows either when no conditional may. -/
theorem EndsOperand.within {mode outer : Mode} {s : List Char} (h : EndsOperand mode s) :
    EndsOperand { mode with conditional := mode.conditional && outer.conditional } s := by
  obtain ⟨hsequel, hcall, hboundary⟩ := h
  refine ⟨?_, hcall, hboundary⟩
  cases hconditional : mode.conditional && outer.conditional with
  | true =>
      rw [Bool.and_eq_true] at hconditional
      rw [← hconditional.1]
      exact hsequel
  | false =>
      -- Without a conditional its sign is not looked for, and all other sequels stay absent.
      revert hsequel
      dsimp only
      generalize skipTrivia mode.breaks s.length s = t
      intro hsequel
      match t with
      | [] => rfl
      | [_] => rfl
      | a :: b :: rest =>
          simp only [sequelOf] at hsequel ⊢
          split_ifs at hsequel ⊢ <;> first | rfl | assumption

theorem ReadsValue.within {nested : Nested} {v : Value} (h : ReadsValue nested v) (outer : Mode) :
    ReadsValue (nested.within outer) v :=
  fun _ s hs => h _ s (EndsOperand.within hs)

/-- A literal value whose text is read as an operand is read as an expression. -/
theorem Value.Literal.readsValue {v : Value} (h : v.Literal) {nested : Nested}
    (hoperand : ∀ mode s, EndsOperand mode s →
      Reads (plainOperand nested mode) (v.text.toList ++ s) v.literal s) :
    ReadsValue (expressionWith nested) v := by
  intro mode s hs
  have hread := hoperand mode s hs
  obtain ⟨c, t, htext, hbegins⟩ := h.begins
  have hc := hbegins.mark
  simp only [List.mem_cons, List.not_mem_nil, or_false, not_or] at hc
  rw [htext] at hread ⊢
  exact reads_expressionWith hc.2.2.1 hc.2.2.2 hread hs

theorem reads_plainOperand_list {nested : Nested} {items : List Value}
    (hitems : ∀ v ∈ items, v.Literal) (hread : ∀ v ∈ items, ReadsValue nested v) (mode : Mode)
    (rest : List Char) :
    Reads (plainOperand nested mode) ((Value.list items).text.toList ++ rest)
      (Value.list items).literal rest := by
  have harray := reads_array hitems (fun v hv => (hread v hv).within mode) rest
  rw [toList_text_list] at harray ⊢
  exact (reads_peek '[' _).bind harray

theorem reads_plainOperand_map {nested : Nested} {entries : List (String × Value)}
    (hordered : InKeyOrder entries) (hread : ∀ e ∈ entries, ReadsEntry nested e) (mode : Mode)
    (rest : List Char) :
    Reads (plainOperand nested mode) ((Value.map entries).text.toList ++ rest)
      (Value.map entries).literal rest := by
  have hobject := reads_object hordered hread rest
  rw [toList_text_map] at hobject ⊢
  exact (reads_peek '\x7b' _).bind hobject

/-- With more fuel than characters, the text of a literal value is read as its expression
  wherever an operand ends behind it. -/
theorem Value.Literal.reads {v : Value} (h : v.Literal) {fuel : Nat}
    (hfuel : v.text.toList.length ≤ fuel) : ReadsValue (expressionUpTo (fuel + 1)) v := by
  induction h generalizing fuel with
  | null =>
      refine Literal.null.readsValue fun mode s hs => ?_
      exact reads_plainOperand_name _ (by decide : isName "null") hs
  | bool b =>
      refine (Literal.bool b).readsValue fun mode s hs => ?_
      cases b with
      | false => exact reads_plainOperand_name _ (by decide : isName "false") hs
      | true => exact reads_plainOperand_name _ (by decide : isName "true") hs
  | @number n hn =>
      have hfit : n < 2 ^ 53 := by omega
      refine (Literal.number hn).readsValue fun mode s hs => ?_
      have hoperand := reads_plainOperand_number (expressionUpTo fuel) hn hs
      rw [← toList_numberText_ofInt hn] at hoperand
      simpa only [Value.text, Value.literal, magnitude_ofInt hfit] using hoperand
  | @string text htext =>
      refine (Literal.string htext).readsValue fun mode s _ => ?_
      exact reads_plainOperand_string _ mode htext s
  | @list items hitems ih =>
      -- The brackets alone leave an item fewer characters than its list, so the fuel suffices.
      refine (Literal.list hitems).readsValue fun mode s _ => ?_
      refine reads_plainOperand_list hitems ?_ mode s
      intro v hv
      have hpart : v.text.toList.length ≤
          ([',', ' '].intercalate (items.map (·.text.toList))).length :=
        length_le_intercalate (List.mem_map_of_mem hv)
      rw [toList_text_list] at hfuel
      simp only [List.length_append, List.length_cons] at hfuel
      obtain ⟨less, rfl⟩ : ∃ less, fuel = less + 1 := ⟨fuel - 1, by omega⟩
      exact ih v hv (by omega)
  | @map entries hordered hkeys hvalues ih =>
      refine (Literal.map hordered hkeys hvalues).readsValue fun mode s _ => ?_
      refine reads_plainOperand_map hordered ?_ mode s
      intro e he
      have hpart : (entryChars e).length ≤
          ([',', ' '].intercalate (entries.map entryChars)).length :=
        length_le_intercalate (List.mem_map_of_mem he)
      rw [toList_text_map] at hfuel
      simp only [entryChars, List.length_append, List.length_cons] at hfuel hpart
      obtain ⟨less, rfl⟩ : ∃ less, fuel = less + 1 := ⟨fuel - 1, by omega⟩
      exact ⟨hkeys e he, hvalues e he, reads_mapKey (hkeys e he), ih e he (by omega)⟩

end Terralens
