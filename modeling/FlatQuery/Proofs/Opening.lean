import FlatQuery.Proofs.Division

/-!
# FlatQuery.Proofs.Opening

Which quotes open a value, and what the open values hide.

* `Filter.stateAfter_eq_inside_iff` — a value is open behind a quote that opens one, up to the next
  such quote;
* `Filter.opens_iff` — a quote opens a value where reading is outside quoted values and the symbol
  of a comparison, or a lone `!`, stands in front;
* `Filter.hidden_iff_open` — a connective that stands in a filter joins nothing just when a value is
  open in front of it;
* `Filter.split_replaced` — what stands between the quotes of a value makes no difference to the
  rest of a filter.
-/

namespace FlatQuery

namespace Filter

/-! ## where reading stands -/

theorem run_concat (state : ReadingState) (u : Text) (c : Char) :
    run state (u ++ [c]) = next (run state u) c := run_append state u [c]

/-- Up to its closing quote reading stays in a value. -/
theorem run_inside {quote : Char} {inner : Text} (h : quote ∉ inner) :
    run (.inside quote) inner = .inside quote := by
  induction inner with
  | nil => rfl
  | cons c inner ih =>
      rw [List.mem_cons, not_or] at h
      rw [run, List.foldl_cons, next, if_neg (Ne.symm h.1)]
      exact ih h.2

/-- Outside quoted values, the character that is kept is the last one that is no blank. -/
theorem run_eq_outside {u : Text} {last : Option Char}
    (h : run (.outside none) u = .outside last) : last = (Text.trimEnd u).getLast? := by
  -- told from the end: one more character either is kept or is a blank that comes off
  induction u using List.reverseRecOn generalizing last with
  | nil =>
      cases h
      rfl
  | append_singleton u c ih =>
      have hkeep : isBlank c = false → (Text.trimEnd (u ++ [c])).getLast? = some c := by
        intro hc
        rw [Text.trimEnd_of_getLast? (by simpa using hc), List.getLast?_concat]
      have hproper := proper_run (proper_outside none) u
      rw [run_concat] at h
      cases hr : run (.outside none) u with
      | inside quote =>
          rw [hr] at h hproper
          rw [next] at h
          split at h
          · next hc =>
              cases h
              rw [hkeep (isBlank_of_isQuote (hc ▸ hproper))]
          · cases h
      | outside l =>
          rw [hr, next] at h
          split at h
          · cases h
          · cases h
            split
            · next hc =>
                have hg : Text.isBlankText [c] = true := by simp [Text.isBlankText, hc]
                rw [ih hr, Text.trimEnd_append_blank hg]
            · next hc => rw [hkeep (by simpa using hc)]

/-- A value is open where a quote opened one and none has closed it. -/
theorem exists_of_run_eq_inside {u : Text} {quote : Char}
    (h : run (.outside none) u = .inside quote) :
    ∃ a inner last, u = a ++ quote :: inner ∧ quote ∉ inner ∧ isQuote quote = true ∧
      run (.outside none) a = .outside (some last) ∧ Comparison.isSymbolChar last = true := by
  -- told from the end: the last character opens the value, or the value was open before it
  induction u using List.reverseRecOn with
  | nil => cases h
  | append_singleton u c ih =>
      rw [run_concat] at h
      cases hr : run (.outside none) u with
      | inside opened =>
          rw [hr, next] at h
          split at h
          · cases h
          · next hc =>
              cases h
              obtain ⟨a, inner, last, rfl, hi, hq, ha, hl⟩ := ih hr
              refine ⟨a, inner ++ [c], last, by simp, ?_, hq, ha, hl⟩
              rw [List.mem_append, not_or, List.mem_singleton]
              exact ⟨hi, Ne.symm hc⟩
      | outside l =>
          rw [hr, next] at h
          split at h
          · next hc =>
              cases h
              rw [Bool.and_eq_true, Option.any_eq_true] at hc
              obtain ⟨hq, last, rfl, hl⟩ := hc
              exact ⟨u, [], last, rfl, List.not_mem_nil, hq, hr, hl⟩
          · cases h

/-! ## open values -/

/-- A filter can be cut in its last piece where no name runs across. -/
theorem Splits.exists_cut {before : Option Char} {us : List Text} {ms : List (Connective × Text)}
    {t u v : Text} (h : Splits before us ms t) (hu : us.getLast? = some (u ++ v))
    (hv : v.head?.any isWordChar = false) :
    ∃ front us', t = front ++ v ∧ Splits before us' ms front ∧ us'.getLast? = some u := by
  induction h with
  | @one before w hw =>
      obtain rfl : w = u ++ v := by simpa using hu
      exact ⟨u, [u], rfl, .one ((whole_append (.inr hv)).1 hw).1, rfl⟩
  | @more before last w m t op us ms hw hr hm hrest ih =>
      rw [getLast?_cons_of_splits hrest] at hu
      obtain ⟨front, us', rfl, hs, hl⟩ := ih hu
      rw [List.head?_append] at hm
      refine ⟨w ++ (m ++ front), w :: us', by simp, .more hw hr hm.of_or_after hs, ?_⟩
      rw [getLast?_cons_of_splits hs, hl]

/-- Behind the last joining word stands the last piece. -/
theorem Splits.exists_last {before : Option Char} {us : List Text}
    {ms : List (Connective × Text)} {t : Text} (h : Splits before us ms t) :
    ∃ a p, us.getLast? = some p ∧ t = a ++ p ∧ ∀ c ∈ a.getLast?, isWordChar c = true := by
  induction h with
  | @one before u _ => exact ⟨[], u, rfl, rfl, by simp⟩
  | @more before last u m t op us ms _ _ hm hrest ih =>
      obtain ⟨a, p, hp, rfl, ha⟩ := ih
      refine ⟨u ++ (m ++ a), p, by rw [getLast?_cons_of_splits hrest, hp], by simp, ?_⟩
      rw [List.getLast?_append, List.getLast?_append]
      cases hl : a.getLast? with
      | some c => simpa [hl] using ha
      | none =>
          have hword := hm.1.getLast?
          rw [List.getLast?_eq_some_getLast hm.1.ne_nil] at hword ⊢
          simpa using hword

/-- Behind a text that runs into no name, reading goes on from where it stands. -/
theorem stateAfter_append {t v : Text} (hv : v.head?.any isWordChar = false)
    (hw : Whole (stateAfter t) t.getLast? v) : stateAfter (t ++ v) = run (stateAfter t) v := by
  obtain ⟨us, ms, hs⟩ := exists_splits none t
  obtain ⟨ps, p, hp, happend⟩ := exists_pieces_append (tokens t)
  have hstate : stateAfter t = run (.outside none) p := by
    rw [stateAfter, stateBehind, ← tokens, hp, List.getLast?_concat, Option.getD_some]
  have hend : tokensFrom 0 (stateAfter t) t.getLast? v = v.map Token.character ++ [] := by
    have hend := tokensFrom_whole (v := []) hw (.inr rfl)
    rwa [List.append_nil] at hend
  have htokens : tokens (t ++ v) = tokens t ++ (v.map Token.character ++ []) := by
    rw [tokens, tokensFrom_append hs hv, ← stateBehind_of_splits hs, ← stateAfter, Option.or_none,
      hend]
    rfl
  have hpieces := happend _ _ _ (pieces_characters v [] [] [] rfl)
  rw [← htokens, List.append_nil] at hpieces
  rw [stateAfter, stateBehind, ← tokens, hpieces, List.getLast?_concat, Option.getD_some,
    run_append, hstate]

/-- A value is open behind a quote that opens one, up to the next such quote. -/
theorem stateAfter_eq_inside_iff {t : Text} {quote : Char} : stateAfter t = .inside quote ↔
    ∃ front inner, t = front ++ quote :: inner ∧ Opens front quote ∧ quote ∉ inner := by
  constructor
  · intro h
    obtain ⟨us, ms, hs⟩ := exists_splits none t
    obtain ⟨-, p, hp, -⟩ := hs.exists_last
    rw [stateAfter, stateBehind_of_splits hs, hp, Option.getD_some] at h
    obtain ⟨a, inner, last, rfl, hi, hq, ha, hl⟩ := exists_of_run_eq_inside h
    have hword : (quote :: inner).head?.any isWordChar = false := isWordChar_of_isQuote hq
    obtain ⟨front, us', rfl, hs', hlast⟩ := hs.exists_cut hp hword
    refine ⟨front, inner, rfl, ⟨hq, last, ?_, hl⟩, hi⟩
    rw [stateAfter, stateBehind_of_splits hs', hlast, Option.getD_some, ha]
  · rintro ⟨front, inner, rfl, ⟨hq, last, hstate, hl⟩, hi⟩
    have hword : ∀ v : Text, (quote :: v).head?.any isWordChar = false :=
      fun _ => isWordChar_of_isQuote hq
    have hnext : next (.outside (some last)) quote = .inside quote := by simp [next, hq, hl]
    have hinner : Whole (.inside quote) (some quote) inner :=
      ((whole_append (.inr (hword []))).1 (whole_inside hi (some quote)).1).1
    have hwhole : Whole (stateAfter front) front.getLast? (quote :: inner) := by
      rw [hstate, Whole, hnext]
      exact ⟨fun _ _ => jointLength?_eq_none (.inr (isWordChar_of_isQuote hq)), hinner⟩
    rw [stateAfter_append (hword inner) hwhole, hstate, run, List.foldl_cons, hnext]
    exact run_inside hi

/-! ## which quotes open a value -/

/-- The symbol of a comparison ends the text, blanks aside. -/
def EndsInSymbol (t : Text) : Prop := ∃ op : Comparison, op.symbol <:+ Text.trimEnd t

/-- A lone `!` ends the text, blanks aside.  No symbol ends so. -/
def EndsInBang (t : Text) : Prop := ['!'] <:+ Text.trimEnd t

instance : DecidablePred EndsInSymbol := fun t =>
  decidable_of_iff (∃ op ∈ Comparison.all, op.symbol <:+ Text.trimEnd t)
    ⟨fun ⟨op, _, h⟩ => ⟨op, h⟩, fun ⟨op, h⟩ => ⟨op, op.mem_all, h⟩⟩

theorem isWordChar_of_isSymbolChar {c : Char} (h : Comparison.isSymbolChar c = true) :
    isWordChar c = false := by
  simp only [Comparison.isSymbolChar, Bool.or_eq_true, beq_iff_eq] at h
  rcases h with ((rfl | rfl) | rfl) | rfl <;> decide

/-- A text ends with a character of symbols when it ends with a symbol or with a lone `!`. -/
theorem exists_getLast?_iff {t : Text} :
    (∃ c, (Text.trimEnd t).getLast? = some c ∧ Comparison.isSymbolChar c = true) ↔
      EndsInSymbol t ∨ EndsInBang t := by
  constructor
  · rintro ⟨c, hc, hs⟩
    obtain ⟨w, hw⟩ := List.getLast?_eq_some_iff.1 hc
    cases hsign : Comparison.isSign c with
    | true =>
        obtain ⟨op, hop⟩ := Comparison.exists_of_isSign hsign
        exact .inl ⟨op, w, by rw [hop, hw]⟩
    | false =>
        obtain rfl : c = '!' := by
          simp_all [Comparison.isSymbolChar, Comparison.isSign]
        exact .inr ⟨w, hw.symm⟩
  · rintro (⟨op, w, hw⟩ | ⟨w, hw⟩)
    · obtain ⟨s, c, hop, -⟩ := op.exists_symbol_eq
      refine ⟨c, ?_, op.isSymbolChar_of_mem c (by simp [hop])⟩
      rw [← hw, hop, ← List.append_assoc, List.getLast?_concat]
    · exact ⟨'!', by rw [← hw, List.getLast?_concat], rfl⟩

/-- Reading is outside quoted values at the end of the text. -/
def Unquoted (t : Text) : Prop := ∃ last, stateAfter t = .outside last

/-- Outside quoted values, what is kept is a character of symbols just when the text ends with it,
blanks aside. -/
theorem last_eq_some_iff {t : Text} {last : Option Char} (h : stateAfter t = .outside last)
    {c : Char} (hc : Comparison.isSymbolChar c = true) :
    last = some c ↔ (Text.trimEnd t).getLast? = some c := by
  obtain ⟨us, ms, hs⟩ := exists_splits none t
  obtain ⟨a, p, hp, rfl, ha⟩ := hs.exists_last
  rw [stateAfter, stateBehind_of_splits hs, hp, Option.getD_some] at h
  have hblank : a.getLast?.any isBlank = false := by
    cases hl : a.getLast? with
    | none => rfl
    | some d => exact isBlank_of_isWordChar (ha d hl)
  rw [run_eq_outside h, Text.trimEnd_append_of_getLast? hblank, List.getLast?_append]
  cases hl : (Text.trimEnd p).getLast? with
  | some d => rfl
  | none =>
      refine iff_of_false (Option.some_ne_none c).symm fun he => ?_
      have hword := ha c he
      rw [isWordChar_of_isSymbolChar hc] at hword
      cases hword

/-- A quote opens a value where reading is outside quoted values and the symbol of a comparison, or
a lone `!`, stands in front. -/
theorem opens_iff {front : Text} {quote : Char} : Opens front quote ↔
    isQuote quote = true ∧ Unquoted front ∧ (EndsInSymbol front ∨ EndsInBang front) := by
  rw [← exists_getLast?_iff]
  constructor
  · rintro ⟨hq, c, hstate, hc⟩
    exact ⟨hq, ⟨_, hstate⟩, c, (last_eq_some_iff hstate hc).1 rfl, hc⟩
  · rintro ⟨hq, ⟨last, hstate⟩, c, hl, hc⟩
    obtain rfl := (last_eq_some_iff hstate hc).2 hl
    exact ⟨hq, c, hstate, hc⟩

/-! ## what is hidden -/

/-- A value that is open at the end of the text: a quote opened it behind `front`, and it goes on as
`inner` without another such quote. -/
structure OpenValue (t front : Text) (quote : Char) (inner : Text) : Prop where
  text : t = front ++ quote :: inner
  isQuote : isQuote quote = true
  unquoted : Unquoted front
  behind : EndsInSymbol front ∨ EndsInBang front
  unclosed : quote ∉ inner

/-- A value is open where reading is inside one. -/
theorem exists_openValue_iff {t : Text} {quote : Char} :
    (∃ front inner, OpenValue t front quote inner) ↔ stateAfter t = .inside quote := by
  rw [stateAfter_eq_inside_iff]
  constructor
  · rintro ⟨front, inner, ht, hq, hu, hb, hi⟩
    exact ⟨front, inner, ht, opens_iff.2 ⟨hq, hu, hb⟩, hi⟩
  · rintro ⟨front, inner, ht, ho, hi⟩
    obtain ⟨hq, hu, hb⟩ := opens_iff.1 ho
    exact ⟨front, inner, ht, hq, hu, hb, hi⟩

/-- Reading is outside quoted values where no value is open. -/
theorem unquoted_iff {t : Text} :
    Unquoted t ↔ ¬ ∃ front quote inner, OpenValue t front quote inner := by
  have hopen : (∃ front quote inner, OpenValue t front quote inner) ↔
      ∃ quote, stateAfter t = .inside quote := by
    rw [exists_comm]
    exact exists_congr fun quote => exists_openValue_iff
  rw [hopen, Unquoted]
  cases stateAfter t <;> simp

/-- A quote that opens no value is a character like others: reading is outside behind it. -/
theorem unquoted_concat {front : Text} {quote : Char} (h : Unquoted front)
    (ho : ¬ Opens front quote) : Unquoted (front ++ [quote]) := by
  rw [unquoted_iff] at h ⊢
  rintro ⟨front', quote', inner, htext, hq, hu, hb, hi⟩
  rcases List.eq_nil_or_concat inner with rfl | ⟨inner, c, rfl⟩
  · obtain ⟨rfl, hquote⟩ := List.append_inj' htext rfl
    cases hquote
    exact ho (opens_iff.2 ⟨hq, hu, hb⟩)
  · rw [List.concat_eq_append, ← List.cons_append, ← List.append_assoc] at htext
    obtain ⟨rfl, -⟩ := List.append_inj' htext rfl
    rw [List.concat_eq_append, List.mem_append, not_or] at hi
    exact h ⟨front', quote', inner, rfl, hq, hu, hb, hi.1⟩

/-- A connective that stands in a filter joins nothing just when a value is open in front of it.  A
value is opened by a quote that stands outside other values, right behind the symbol of a comparison
or a lone `!`, blanks aside; any other quote is a character like others. -/
theorem hidden_iff_open (t : Text) :
    (∃ d : Division t, split t = (d.pieces.map Text.trim, d.words.map Text.toLower) ∧
      ∀ (op : Connective) (s : Span), op.keyword.StandsAt t s →
        (s ∉ d.spans ↔ ∃ front quote inner, OpenValue (t.take s.start) front quote inner)) ∧
    (∀ u, Unquoted u ↔ ¬ ∃ front quote inner, OpenValue u front quote inner) ∧
    ∀ front quote, isQuote quote = true → Unquoted front → ¬ EndsInSymbol front →
      ¬ EndsInBang front → Unquoted (front ++ [quote]) := by
  refine ⟨?_, fun u => unquoted_iff, fun front quote hq hu hs hb => unquoted_concat hu ?_⟩
  · obtain ⟨us, ms, h⟩ := exists_splits none t
    obtain ⟨hpieces, hjoints⟩ := pieces_of_splits h
    refine ⟨divisionOfSplits h, ?_, fun op s hop => ?_⟩
    · rw [split, tokens, hpieces, hjoints]
      rfl
    · have hspans := mem_spans_iff h (s := s)
      rw [and_iff_right ⟨op, hop⟩] at hspans
      rw [hspans, ← not_iff_not, not_not]
      exact unquoted_iff
  · intro ho
    rcases (opens_iff.1 ho).2.2 with h | h
    · exact hs h
    · exact hb h

/-- A quote behind a lone `!` opens a value, and hides a connective that no quote behind a symbol
comes before. -/
theorem exists_hidden_behind_bang :
    Keyword.and.StandsAt "note = wow! 'x and b = 1".toList ⟨15, 18⟩ ∧
    split "note = wow! 'x and b = 1".toList = (["note = wow! 'x and b = 1".toList], []) ∧
    ∀ front quote inner, "note = wow! 'x and b = 1".toList.take 15 = front ++ quote :: inner →
      isQuote quote = true → ¬ EndsInSymbol front := by
  refine ⟨Keyword.endAt?_eq_some_iff.1 (by decide), by decide, fun front quote inner h hq => ?_⟩
  have hplace : ∀ n < 15, ("note = wow! 'x and b = 1".toList.take 15)[n]?.any isQuote = true →
      ¬ EndsInSymbol (("note = wow! 'x and b = 1".toList.take 15).take n) := by decide
  have hlength := congrArg List.length h
  rw [List.length_append, List.length_cons] at hlength
  have hfront := hplace front.length (by
    simp only [List.length_take] at hlength
    omega)
  rw [h, List.take_left] at hfront
  exact hfront (by simpa using hq)

/-! ## what stands between the quotes -/

/-- With another text between its quotes a value is still a value in quotes. -/
theorem QuotedValue.replace {t front inner back : Text} {quote : Char}
    (h : QuotedValue t front quote inner back) {inner' : Text} (hi : quote ∉ inner') :
    QuotedValue (front ++ (quote :: (inner' ++ [quote]) ++ back)) front quote inner' back :=
  ⟨rfl, h.opens, hi⟩

/-- A filter with a value in quotes, and the same with any other text between the quotes that does
not close the value: both are split by the same words into as many conditions, and these are the
same but for the one with the value, where the texts between the quotes differ and nothing else. -/
theorem split_replaced {t front inner back : Text} {quote : Char}
    (h : QuotedValue t front quote inner back) : ∃ before lead tail after words,
      before.length = (split front).2.length ∧
      split t = (before ++ (lead ++ (quote :: (inner ++ [quote]) ++ tail)) :: after, words) ∧
      ∀ inner', quote ∉ inner' →
        split (front ++ (quote :: (inner' ++ [quote]) ++ back)) =
          (before ++ (lead ++ (quote :: (inner' ++ [quote]) ++ tail)) :: after, words) := by
  obtain ⟨before, lead, tail, after, words, hbefore, hsplit⟩ := split_quoted front back quote
  exact ⟨before, lead, tail, after, words, hbefore, hsplit t inner h,
    fun inner' hi => hsplit _ inner' (h.replace hi)⟩

/-- Such as a name, and in its place a joining word, a symbol and the other quote. -/
theorem split_replaced_by_joining_word : ∃ before lead tail after words,
    split "m = 1 or n = 'x' and k > 2".toList =
      (before ++ (lead ++ ("'x'".toList ++ tail)) :: after, words) ∧
    split "m = 1 or n = 'y or \"z >= ' and k > 2".toList =
      (before ++ (lead ++ ("'y or \"z >= '".toList ++ tail)) :: after, words) := by
  have h : QuotedValue "m = 1 or n = 'x' and k > 2".toList "m = 1 or n = ".toList '\''
      "x".toList " and k > 2".toList := ⟨rfl, ⟨rfl, '=', by decide, rfl⟩, by decide⟩
  obtain ⟨before, lead, tail, after, words, -, hsplit, hreplaced⟩ := split_replaced h
  exact ⟨before, lead, tail, after, words, hsplit, hreplaced "y or \"z >= ".toList (by decide)⟩

end Filter

end FlatQuery
