import FlatQuery.Proofs.Assembly
import FlatQuery.Proofs.Sides
import FlatQuery.Proofs.Tiling

/-!
# FlatQuery.Proofs.QuotedValues

Values in quotes, and the keywords of clauses in them.

Splitting a filter, a quote behind a comparison hides the joining words up to the next such quote.
The clauses behind a filter are looked for before it is split, wherever their keywords stand.

* `Filter.QuotedValue` — a value in quotes, as splitting reads it;
* `Filter.tokens_quotedValue` — no joining word is read in one;
* `Filter.split_quoted` — what a filter is split into around one is told without the text between
  its quotes;
* `Condition.parse_quoted` — a comparison with one is read, unless a symbol that is looked for
  earlier stands in it;
* `Query.quoted_value_whole_iff` — a value in quotes is left whole when no keyword that ends a
  filter stands in it, and is cut at such a keyword.
-/

namespace FlatQuery

namespace Filter

/-! ## values in quotes -/

/-- The state of reading behind a text that follows `before`: every piece is read from the start, so
the last one tells it. -/
def stateBehind (before : Option Char) (t : Text) : ReadingState :=
  run (.outside none) ((pieces (tokensFrom 0 (.outside none) before t)).getLast?.getD [])

/-- The state of reading behind a text that is read from the start. -/
def stateAfter (t : Text) : ReadingState := stateBehind none t

/-- A quote that opens a value behind `front`: the last character there that is no blank is one of
those that symbols are made of, and stands in no other value. -/
structure Opens (front : Text) (quote : Char) : Prop where
  isQuote : isQuote quote = true
  state : ∃ last, stateAfter front = .outside (some last) ∧ Comparison.isSymbolChar last = true

/-- A value in quotes in a filter: it runs from a quote that opens it to the next such quote. -/
structure QuotedValue (t front : Text) (quote : Char) (inner back : Text) : Prop where
  text : t = front ++ (quote :: (inner ++ [quote]) ++ back)
  opens : Opens front quote
  closed : quote ∉ inner

/-- The state behind a filter that is put together from its pieces. -/
theorem stateBehind_of_splits {before : Option Char} {us : List Text}
    {ms : List (Connective × Text)} {t : Text} (h : Splits before us ms t) :
    stateBehind before t = run (.outside none) (us.getLast?.getD []) := by
  rw [stateBehind, (pieces_of_splits h).1]

/-- The last piece is that of the rest behind the first joining word. -/
theorem getLast?_cons_of_splits {before : Option Char} {us : List Text}
    {ms : List (Connective × Text)} {t : Text} (h : Splits before us ms t) (u : Text) :
    (u :: us).getLast? = us.getLast? := by
  have hl := length_of_splits h
  cases us with
  | nil => cases hl
  | cons a us => rfl

/-- Reading goes on in the state behind what has been read. -/
theorem tokensFrom_append {before : Option Char} {us : List Text} {ms : List (Connective × Text)}
    {t v : Text} (h : Splits before us ms t) (hv : v.head?.any isWordChar = false) :
    tokensFrom 0 (.outside none) before (t ++ v) = tokensFrom 0 (.outside none) before t ++
      tokensFrom 0 (run (.outside none) (us.getLast?.getD [])) (t.getLast?.or before) v := by
  -- every piece is read from the start, so only the last one tells the state behind `t`
  induction h with
  | @one before u hu =>
      have hn := tokensFrom_whole (v := []) hu (.inr rfl)
      rw [List.append_nil] at hn
      rw [tokensFrom_whole hu (.inr hv), hn, tokensFrom, List.append_nil]
      rfl
  | @more before last u m t op us ms hu hrun hm hrest ih =>
      have hb : ∀ t : Text, Text.Breaks u (m ++ t) := fun _ => .inl hm.of_or_before.2.1
      have hmv : op.keyword.Stands (u.getLast?.or before) m (t ++ v).head? := by
        rw [List.head?_append]
        exact hm.or_after (a := u) (.inr hv)
      have hlast := getLast?_cons_of_splits hrest u
      have hbefore : (u ++ (m ++ t)).getLast?.or before = t.getLast?.or m.getLast? := by
        rw [List.getLast?_append, List.getLast?_append, List.getLast?_eq_some_getLast hm.1.ne_nil]
        cases t.getLast? <;> rfl
      -- the same first piece and joining word come off on both sides
      rw [List.append_assoc, List.append_assoc, tokensFrom_whole hu (hb _), hrun,
        tokensFrom_joint hmv, ih, tokensFrom_whole hu (hb _), hrun, tokensFrom_joint hm, hlast,
        hbefore, List.append_assoc, List.cons_append]

/-- No joining word is read in a value in quotes. -/
theorem tokens_quotedValue {t front inner back : Text} {quote : Char}
    (h : QuotedValue t front quote inner back) :
    tokens t = tokens front ++ (quote :: (inner ++ [quote])).map Token.character ++
      tokensFrom 0 (.outside (some quote)) (some quote) back := by
  obtain ⟨rfl, ⟨hq, last, hstate, hlast⟩, hi⟩ := h
  obtain ⟨us, ms, hs⟩ := exists_splits none front
  obtain ⟨hw, hr⟩ := whole_quoted hq hi hlast (front.getLast?.or none)
  have hword := isWordChar_of_isQuote hq
  have hbreaks : Text.Breaks (quote :: (inner ++ [quote])) back := by
    left
    rw [← List.cons_append, List.getLast?_concat]
    exact hword
  rw [tokens, tokensFrom_append hs (by simpa using hword), ← stateBehind_of_splits hs, ← stateAfter,
    hstate, tokensFrom_whole hw hbreaks, hr, List.append_assoc, ← List.cons_append,
    List.getLast?_concat]
  rfl

/-- Trimming stops at the quotes of a value. -/
theorem trim_append_quoted {quote : Char} (hq : isQuote quote = true) (x inner y : Text) :
    Text.trim (x ++ (quote :: (inner ++ [quote]) ++ y)) =
      Text.trimStart x ++ (quote :: (inner ++ [quote]) ++ Text.trimEnd y) := by
  have hb := isBlank_of_isQuote hq
  rw [Text.trim, Text.trimStart_append_of_head? (by simpa using hb), ← List.append_assoc,
    Text.trimEnd_append_of_getLast?, List.append_assoc]
  rw [← List.cons_append, ← List.append_assoc, List.getLast?_concat]
  exact hb

/-- What a filter is split into around a value in quotes is told by what stands in front of the
value and behind it. -/
theorem split_quoted (front back : Text) (quote : Char) : ∃ before lead tail after words,
    before.length = (split front).2.length ∧
    ∀ t inner, QuotedValue t front quote inner back →
      split t = (before ++ (lead ++ (quote :: (inner ++ [quote]) ++ tail)) :: after, words) := by
  obtain ⟨ps, p, hfront, happend⟩ := exists_pieces_append (tokens front)
  obtain ⟨q, qs, hback⟩ : ∃ q qs,
      pieces (tokensFrom 0 (.outside (some quote)) (some quote) back) = q :: qs := by
    have hl := length_pieces (tokensFrom 0 (.outside (some quote)) (some quote) back)
    exact List.exists_cons_of_length_pos (by omega)
  refine ⟨ps.map Text.trim, Text.trimStart p, Text.trimEnd q, qs.map Text.trim,
    (joints (tokens front) ++ joints (tokensFrom 0 (.outside (some quote)) (some quote) back)).map
      Text.toLower, ?_, fun t inner h => ?_⟩
  · have hl := length_pieces (tokens front)
    rw [hfront, List.length_append, List.length_singleton] at hl
    simpa [split] using hl
  · have htokens := tokens_quotedValue h
    rw [List.append_assoc] at htokens
    have hpieces := happend _ _ _ (pieces_characters (quote :: (inner ++ [quote])) _ q qs hback)
    rw [split, htokens, hpieces, joints_append, joints_characters, List.map_append, List.map_cons,
      trim_append_quoted h.opens.isQuote]

/-- The pieces of a filter are parts of it. -/
theorem infix_of_mem_splits {before : Option Char} {us : List Text}
    {ms : List (Connective × Text)} {t u : Text} (h : Splits before us ms t) (hu : u ∈ us) :
    u <:+: t := by
  induction h with
  | one _ =>
      rw [List.mem_singleton.1 hu]
  | @more _ _ v m t _ us ms _ _ _ _ ih =>
      rcases List.mem_cons.1 hu with rfl | hu
      · exact (List.prefix_append u (m ++ t)).isInfix
      · exact (ih hu).trans ⟨v ++ m, [], by simp⟩

theorem infix_of_mem_split {t c : Text} (h : c ∈ (split t).1) : c <:+: t := by
  obtain ⟨us, ms, hs⟩ := exists_splits none t
  rw [split_of_splits hs] at h
  obtain ⟨u, hu, rfl⟩ := List.mem_map.1 h
  exact (Text.isInfix_trim u).trans (infix_of_mem_splits hs hu)

/-- One of the conditions of a filter holds the whole of a value in quotes. -/
theorem exists_mem_split {t front inner back : Text} {quote : Char}
    (h : QuotedValue t front quote inner back) :
    ∃ c ∈ (split t).1, quote :: (inner ++ [quote]) <:+: c := by
  obtain ⟨before, lead, tail, after, words, -, hsplit⟩ := split_quoted front back quote
  rw [hsplit t inner h]
  exact ⟨_, List.mem_append_right before List.mem_cons_self, List.infix_append' _ _ _⟩

/-- Blanks in front do not change the state. -/
theorem stateAfter_blank_append {g : Text} (hg : Text.isBlankText g = true) (t : Text) :
    stateAfter (g ++ t) = stateAfter t := by
  obtain ⟨us, ms, h⟩ := exists_splits none t
  have hproper := proper_outside none
  have hnil : Text.isBlankText [] = true := rfl
  rw [stateAfter, stateAfter, stateBehind_of_splits h]
  cases h with
  | one hu =>
      have hgu := (whole_pad hproper hg hnil).2 hu
      have hrun := run_pad hproper hg (u := t) hnil
      rw [List.append_nil] at hgu hrun
      rw [stateBehind_of_splits (.one hgu)]
      exact hrun
  | @more _ last u m t op us ms hu hrun hm hrest =>
      -- the blanks join the first piece, and the state behind the last one is left alone
      have hgu := (whole_pad hproper hg hnil).2 hu
      have hrung := run_pad hproper hg (u := u) hnil
      rw [List.append_nil] at hgu hrung
      have hmg : op.keyword.Stands ((g ++ u).getLast?.or none) m t.head? := by
        rw [List.getLast?_append, Option.or_none]
        exact hm.of_or_before.or_before (b := t) (.inl (isWordChar_getLast?_blanks hg))
      rw [← List.append_assoc, stateBehind_of_splits (.more hgu (hrung.trans hrun) hmg hrest),
        getLast?_cons_of_splits hrest, getLast?_cons_of_splits hrest]

/-- Blanks around a filter do not change its values in quotes. -/
theorem QuotedValue.trim {t front inner back : Text} {quote : Char}
    (h : QuotedValue t front quote inner back) :
    QuotedValue (Text.trim t) (Text.trimStart front) quote inner (Text.trimEnd back) := by
  obtain ⟨rfl, ⟨hq, hstate⟩, hi⟩ := h
  have hblank : Text.isBlankText (front.takeWhile isBlank) = true := List.all_takeWhile
  refine ⟨trim_append_quoted hq front inner back, ⟨hq, ?_⟩, hi⟩
  rwa [← stateAfter_blank_append hblank, Text.takeWhile_append_trimStart]

end Filter

/-! ## reading a value in quotes -/

namespace Condition

/-- A value that is read is part of the condition. -/
theorem value_infix_of_parse {raw : Text} {c : Condition} (h : Condition.parse {} raw = .ok c) :
    c.value <:+: raw := by
  obtain ⟨before, after, hd, -, -, -, -, -, hv⟩ := parse_eq_ok_iff.1 h
  have ht := Text.eq_of_cut (Comparison.divide?_eq_some_iff.1 hd).1
  rw [hv, normalize_default]
  refine (Text.isInfix_trim after).trans (List.IsInfix.trans ?_ (Text.isInfix_trim raw))
  rw [ht]
  exact (List.suffix_append _ after).isInfix

section Quoted

variable {c : Condition} {u inner : Text} {quote : Char} (hu : c.Written u)
  (hp : Operand c.property) (hq : isQuote quote = true) (hv : c.value = quote :: (inner ++ [quote]))
include hu hp hq hv

/-- A comparison with a value in quotes is trimmed. -/
theorem trimmed_of_quoted : Text.Trimmed u := by
  obtain @⟨g, g', -, -⟩ := hu
  exact (complete_of_quoted hq hv hp.trimmed hp.ne_nil).trimmed g g'

/-- It is one condition. -/
theorem split_of_quoted (hi : quote ∉ inner) : Filter.split u = ([u], []) := by
  have htrim : Text.trim u = u := trimmed_of_quoted hu hp hq hv
  have hc := complete_of_quoted hq hv hp.trimmed hp.ne_nil
  obtain @⟨g, g', hg, hg'⟩ := hu
  have hproper := Filter.proper_outside none
  obtain ⟨last, hlast⟩ : ∃ last, Filter.run (.outside none) c.property = .outside last :=
    Filter.exists_run_of_forall rfl hp.no_symbol
  obtain ⟨x, hx, hsymbol⟩ := Filter.exists_run_symbol c.comparison last
  have hwhole : Filter.Whole (.outside none) none
      (c.property ++ g ++ (c.comparison.symbol ++ (g' ++ c.value))) := by
    rw [Filter.whole_comparison hproper, hc.trim_property hg, hc.trim_value hg', hv, hlast, hx]
    exact ⟨Filter.whole_of_absent hp.joint_absent _, (Filter.whole_quoted hq hi hsymbol none).1⟩
  rw [Filter.split_of_splits (.one hwhole), List.map_singleton, htrim]
  rfl

/-- It is read as what it says, but refused when a symbol that is looked for before its own stands
between the quotes. -/
theorem parse_quoted : Condition.parse {} u =
    if ∃ op ∈ c.comparison.earlier, op.symbol <:+: inner then
      .error (.malformedCondition u .secondComparison)
    else .ok c := by
  have hc := complete_of_quoted hq hv hp.trimmed hp.ne_nil
  rw [parse_of_quoted hq hv hc hp.no_symbol hu {}, normalize_default]

end Quoted

end Condition

/-! ## keywords in values -/

namespace Keyword

/-- What a search finds stands in the text. -/
theorem stands_of_find? {k : Keyword} {t : Text} {n : Nat} {s : Span}
    (h : k.word.find? t n = some s) :
    ∃ a m b, t = a ++ (m ++ b) ∧ s.start = a.length ∧ k.Stands a.getLast? m b.head? := by
  have hn : n ≤ t.length := by
    by_contra hn
    rw [Word.find?, List.drop_eq_nil_of_le (by omega)] at h
    cases h
  have hlength : (t.take n).length = n := by rw [List.length_take, Nat.min_eq_left hn]
  rw [← List.take_append_drop n t] at h ⊢
  generalize t.take n = u at *
  subst hlength
  obtain ⟨a, m, b, hv, rfl, hs, -⟩ := exists_of_find? h
  refine ⟨u ++ a, m, b, by rw [hv, List.append_assoc], by simp, ?_⟩
  rwa [List.getLast?_append]

/-- A keyword that starts behind one quote and not behind the next stands between them. -/
theorem not_absent_of_stands {k : Keyword} {u inner back a m b : Text} {quote : Char}
    (hq : isMark quote = true) (h : a ++ (m ++ b) = u ++ (quote :: (inner ++ [quote]) ++ back))
    (hs : k.Stands a.getLast? m b.head?) (hu : u.length < a.length)
    (ha : a.length ≤ u.length + inner.length + 1) : ¬ k.Absent inner := by
  have hquote : isWordChar quote = false := by
    rw [isMark, Bool.and_eq_true] at hq
    simpa using hq.1
  have hsplit : (u ++ [quote]) ++ (inner ++ (quote :: back)) = a ++ (m ++ b) := by simp [h]
  obtain ⟨a', rfl, hrest⟩ := exists_of_append_eq hsplit (by
    rw [List.length_append, List.length_singleton]
    omega)
  have hlength : a'.length ≤ inner.length := by
    simp only [List.length_append, List.length_singleton] at ha
    omega
  obtain ⟨d, rfl, hd⟩ := exists_of_append_eq hrest.symm hlength
  have hbefore : k.Stands a'.getLast? m b.head? := by
    rw [List.getLast?_append] at hs
    exact hs.of_or_before
  -- the keyword ends between the quotes, since no spelling has a quote in it
  rcases List.append_eq_append_iff.1 hd with ⟨e, rfl, rfl⟩ | ⟨e, rfl, he⟩
  · intro habsent
    refine habsent a' m e (by simp) ?_
    rw [List.head?_append] at hbefore
    exact hbefore.of_or_after
  · cases e with
    | nil =>
        intro habsent
        refine habsent a' d [] (by simp) ?_
        rw [List.append_nil] at hbefore
        exact ⟨hbefore.1, hbefore.2.1, rfl⟩
    | cons c e =>
        rw [List.cons_append, List.cons.injEq] at he
        have hmark := hs.1.isMark_eq_false (c := quote) (by simp [he.1])
        rw [hq] at hmark
        cases hmark

/-- What stands between quotes stands in the text. -/
theorem exists_endAt?_of_not_absent {k : Keyword} {inner : Text} {quote : Char} (u back : Text)
    (hq : isWordChar quote = false) (h : ¬ k.Absent inner) :
    ∃ i, u.length < i ∧ i ≤ u.length + inner.length ∧
      (k.word.endAt? (u ++ (quote :: (inner ++ [quote]) ++ back)) i).isSome = true := by
  simp only [Absent, not_forall, not_not] at h
  obtain ⟨a, m, b, rfl, hs⟩ := h
  have hstands : k.Stands (u ++ [quote] ++ a).getLast? m (b ++ (quote :: back)).head? := by
    have hquote : (some quote).any isWordChar = false := hq
    rw [List.getLast?_append, List.getLast?_concat, List.head?_append]
    exact (hs.or_before (b := b) (.inl hquote)).or_after (a := a) (.inr hquote)
  have htext : u ++ (quote :: (a ++ m ++ b ++ [quote]) ++ back) =
      (u ++ [quote] ++ a) ++ (m ++ (b ++ (quote :: back))) := by simp
  refine ⟨(u ++ [quote] ++ a).length, by simp, ?_, ?_⟩
  · have hm := List.length_pos_iff.2 hs.1.ne_nil
    simp only [List.length_append, List.length_singleton]
    omega
  · rw [htext, Word.endAt?_append, matchLength?_eq_some_iff.2 ⟨m, _, rfl, rfl, hstands⟩]
    rfl

/-- A keyword that stands nowhere in a text does not stand between quotes in it. -/
theorem Absent.of_quoted {k : Keyword} {t inner : Text} {quote : Char} (h : k.Absent t)
    (hq : isWordChar quote = false) (hi : quote :: (inner ++ [quote]) <:+: t) :
    k.Absent inner := by
  obtain ⟨x, y, rfl⟩ := hi
  have ht : x ++ (quote :: (inner ++ [quote])) ++ y = (x ++ [quote]) ++ inner ++ (quote :: y) := by
    simp
  rw [ht] at h
  refine h.mid (.inl ?_) (.inr hq)
  rw [List.getLast?_concat]
  exact hq

end Keyword

namespace Layout

variable {l : Layout} {w : Span}

/-- The keywords behind `where` are those that end a filter. -/
theorem words_of_filterWord (hw : l.filterWord = some w) :
    l.words = [(.select, l.selectWord), (.source, l.fromWord)] ++ (.filter, w) ::
      Keyword.filter.barred.filterMap fun k => (l.word? k).map (k, ·) := by
  simp [words, optionalWords, Keyword.optionalClauses, Keyword.barred, word?, hw]

/-- A filter ends at the end of the text or at the first keyword that ends it. -/
theorem bodyStop_of_filterWord {t : Text} (ho : Ordered t l.words) (hw : l.filterWord = some w) :
    w.stop ≤ l.bodyStop t w ∧ l.bodyStop t w ≤ t.length ∧
      (∀ k ∈ Keyword.filter.barred, ∀ s, l.word? k = some s → l.bodyStop t w ≤ s.start) ∧
      (l.bodyStop t w = t.length ∨
        ∃ k ∈ Keyword.filter.barred, ∃ s, l.word? k = some s ∧ s.start = l.bodyStop t w) := by
  have hwords := words_of_filterWord hw
  have hstop := bodyStop_of_words ho hwords (by decide)
  rw [hwords] at ho
  obtain ⟨-, hn, hrest⟩ := ho.of_append
  rw [hstop]
  refine ⟨hn, hrest.nextStart_le, fun k hk s hs => ?_, ?_⟩
  · have hmem := mem_rest_of_barred hwords hk hs
    exact hrest.le_of_mem (word_mem_tilesFrom_iff.2 hmem)
  · cases hr : Keyword.filter.barred.filterMap fun k => (l.word? k).map (k, ·) with
    | nil => exact .inl rfl
    | cons a rest =>
        right
        have hmem : a ∈ Keyword.filter.barred.filterMap fun k => (l.word? k).map (k, ·) := by
          rw [hr]
          exact List.mem_cons_self
        obtain ⟨k, hk, ha⟩ := List.mem_filterMap.1 hmem
        obtain ⟨s, hs, rfl⟩ := Option.map_eq_some_iff.1 ha
        exact ⟨k, hk, s, hs, rfl⟩

end Layout

/-! ## the values of a query -/

namespace Filter

/-- The place of a value in quotes in a text of which the filter starts at `start`. -/
def valueSpan (start : Nat) (front inner : Text) : Span :=
  ⟨start + front.length, start + front.length + inner.length + 2⟩

@[simp] theorem start_valueSpan (start : Nat) (front inner : Text) :
    (valueSpan start front inner).start = start + front.length := rfl

@[simp] theorem stop_valueSpan (start : Nat) (front inner : Text) :
    (valueSpan start front inner).stop = start + front.length + inner.length + 2 := rfl

/-- The text around a value in quotes. -/
theorem QuotedValue.exists_text {t front inner back : Text} {start : Nat} {quote : Char}
    (hv : QuotedValue (t.drop start) front quote inner back) (hs : start ≤ t.length) :
    ∃ u, t = u ++ (quote :: (inner ++ [quote]) ++ back) ∧ u.length = start + front.length := by
  refine ⟨t.take start ++ front, ?_, ?_⟩
  · rw [List.append_assoc, ← hv.text, List.take_append_drop]
  · rw [List.length_append, List.length_take, Nat.min_eq_left hs]

/-- The filter is one comparison with the value, blanks around it aside: `u`, which is how `c` is
written. -/
structure Compared (front quoted rest : Text) (c : Condition) (u : Text) : Prop where
  written : c.Written u
  property : Operand c.property
  value : c.value = quoted
  text : ∃ g, Text.isBlankText g = true ∧ front ++ quoted = g ++ u
  rest : Text.isBlankText rest = true

section Located

variable {t front inner back : Text} {l : Layout} {w : Span} {quote : Char}
  (h : Layout.locate t = .ok l) (hw : l.filterWord = some w)
  (hv : QuotedValue (t.drop w.stop) front quote inner back)
  (ho : w.stop + front.length < l.bodyStop t w)
include h hw hv ho

/-- A keyword that ends the filter starts in a value in quotes only where it stands in it. -/
theorem not_absent_of_holds {k : Keyword} (hk : k ∈ Keyword.filter.barred) {s : Span}
    (hs : l.word? k = some s) (hin : (valueSpan w.stop front inner).Holds s.start) :
    ¬ k.Absent inner := by
  obtain ⟨p, hp, rfl, rfl⟩ := Pieces.exists_of_locate h
  obtain ⟨hstop, hle, hkeyword, -⟩ := Layout.bodyStop_of_filterWord hp.ordered_words hw
  obtain ⟨u, htext, hu⟩ := hv.exists_text (Nat.le_trans hstop hle)
  obtain ⟨n, -, hfind⟩ := hp.find?_barred hk hw
  obtain ⟨a, m, b, ht, hstart, hstands⟩ := Keyword.stands_of_find? (hfind.trans hs)
  have hbody := hkeyword k hk s hs
  have hlt := hin.2
  rw [stop_valueSpan] at hlt
  have hmark := isMark_of_isQuote hv.opens.isQuote
  exact Keyword.not_absent_of_stands hmark (ht.symm.trans htext) hstands (by omega) (by omega)

/-- A keyword that stands in a value in quotes is found in it. -/
theorem exists_holds_of_not_absent {k : Keyword} (hk : k ∈ Keyword.filter.barred)
    (hi : ¬ k.Absent inner) :
    ∃ s, l.word? k = some s ∧ (valueSpan w.stop front inner).Holds s.start := by
  obtain ⟨p, hp, rfl, rfl⟩ := Pieces.exists_of_locate h
  obtain ⟨hstop, hle, hkeyword, -⟩ := Layout.bodyStop_of_filterWord hp.ordered_words hw
  obtain ⟨u, htext, hu⟩ := hv.exists_text (Nat.le_trans hstop hle)
  obtain ⟨n, hn, hfind⟩ := hp.find?_barred hk hw
  obtain ⟨i, hui, hil, hend⟩ := Keyword.exists_endAt?_of_not_absent u back
    (isWordChar_of_isQuote hv.opens.isQuote) hi
  rw [← htext] at hend
  have hni : n ≤ i := by omega
  obtain ⟨s, hs, hsi⟩ := Keyword.find?_le hni hend
  have hword := hfind.symm.trans hs
  have hbody := hkeyword k hk s hword
  refine ⟨s, hword, ?_⟩
  constructor <;> simp <;> omega

/-- A filter goes on behind a value in quotes in which no such keyword stands. -/
theorem valueSpan_stop_le (hi : ∀ k ∈ Keyword.filter.barred, k.Absent inner) :
    (valueSpan w.stop front inner).stop ≤ l.bodyStop t w := by
  have hin : ∀ k ∈ Keyword.filter.barred, ∀ s, l.word? k = some s →
      (valueSpan w.stop front inner).Holds s.start → False := fun k hk s hs hin =>
    not_absent_of_holds h hw hv ho hk hs hin (hi k hk)
  obtain ⟨p, hp, rfl, rfl⟩ := Pieces.exists_of_locate h
  obtain ⟨hstop, hle, -, hend⟩ := Layout.bodyStop_of_filterWord hp.ordered_words hw
  obtain ⟨u, htext, hu⟩ := hv.exists_text (Nat.le_trans hstop hle)
  have hlength := congrArg List.length htext
  simp only [List.length_append, List.length_cons, List.length_nil] at hlength
  rcases hend with hend | ⟨k, hk, s, hs, hend⟩
  · rw [hend, stop_valueSpan]
    omega
  · by_contra hlt
    refine hin k hk s hs ⟨?_, by omega⟩
    simp
    omega

/-- Then the segment of the filter holds the value as well. -/
theorem conditionSegment?_of_absent (hi : ∀ k ∈ Keyword.filter.barred, k.Absent inner) :
    l.conditionSegment? t = some (Text.trim (front ++ (quote :: (inner ++ [quote]) ++
      t.slice (valueSpan w.stop front inner).stop (l.bodyStop t w)))) := by
  have hle := valueSpan_stop_le h hw hv ho hi
  -- the body is the text behind `where` up to its end, which lies behind the value
  have hback : t.drop (valueSpan w.stop front inner).stop = back := by
    have hstop : (valueSpan w.stop front inner).stop =
        w.stop + (front ++ (quote :: (inner ++ [quote]))).length := by
      simp
      omega
    rw [hstop, ← List.drop_drop, hv.text, ← List.append_assoc, List.drop_left]
  have hslice : t.slice w.stop (l.bodyStop t w) = front ++ (quote :: (inner ++ [quote]) ++
      t.slice (valueSpan w.stop front inner).stop (l.bodyStop t w)) := by
    rw [Text.slice, Text.slice, List.drop_take, List.drop_take, hback, hv.text,
      ← List.append_assoc, List.take_append, List.take_of_length_le, List.append_assoc]
    · congr 3
      simp
      omega
    · simp at hle ⊢
      omega
  rw [Layout.conditionSegment?, hw, Option.map_some, Layout.body, hslice]

/-- A value in quotes is whole in a condition when no such keyword stands in it, and only then. -/
theorem exists_condition_iff :
    (∃ c ∈ Clauses.conditions t, quote :: (inner ++ [quote]) <:+: c) ↔
      ∀ k ∈ Keyword.filter.barred, k.Absent inner := by
  constructor
  · rintro ⟨c, hc, hin⟩ k hk
    obtain ⟨p, hp, rfl, rfl⟩ := Pieces.exists_of_locate h
    cases hsegment : p.layout.conditionSegment? p.text with
    | none => simp [Clauses.conditions, Clauses.conditionSegment?_of_locate h, hsegment] at hc
    | some u =>
        have hmem : c ∈ (split u).1 := by
          simpa [Clauses.conditions, Clauses.conditionSegment?_of_locate h, hsegment] using hc
        have habsent := hp.barred_absent hk (k := .filter) hsegment
        exact habsent.of_quoted (isWordChar_of_isQuote hv.opens.isQuote)
          (hin.trans (infix_of_mem_split hmem))
  · intro hi
    have hsegment := conditionSegment?_of_absent h hw hv ho hi
    obtain ⟨c, hc, hin⟩ := exists_mem_split (QuotedValue.trim ⟨rfl, hv.opens, hv.closed⟩)
    refine ⟨c, ?_, hin⟩
    rw [Clauses.conditions, Clauses.conditionSegment?_of_locate h, hsegment]
    exact hc

section Compared

variable {c : Condition} {u : Text}
  (hc : Compared front (quote :: (inner ++ [quote]))
    (t.slice (valueSpan w.stop front inner).stop (l.bodyStop t w)) c u)
include hc

/-- Where the filter is one comparison with the value, it is split into this comparison when no such
keyword stands in the value, and only then. -/
theorem conditions_eq_iff :
    Clauses.conditions t = [u] ↔ ∀ k ∈ Keyword.filter.barred, k.Absent inner := by
  obtain ⟨hu, hp, hvalue, ⟨g, hg, hfront⟩, hrest⟩ := hc
  have hquote := hv.opens.isQuote
  constructor
  · intro hconditions
    refine (exists_condition_iff h hw hv ho).1 ⟨u, hconditions ▸ List.mem_cons_self, ?_⟩
    rw [← hvalue]
    cases hu
    exact ⟨_, [], by simp [← List.append_assoc]; rfl⟩
  · intro hi
    have hsegment := conditionSegment?_of_absent h hw hv ho hi
    have htrim : Text.trim u = u := Condition.trimmed_of_quoted hu hp hquote hvalue
    rw [← List.append_assoc, hfront, Text.trim_pad hg hrest, htrim] at hsegment
    rw [Clauses.conditions, Clauses.conditionSegment?_of_locate h, hsegment]
    exact congrArg Prod.fst (Condition.split_of_quoted hu hp hquote hvalue hv.closed)

/-- A query that is read has this comparison as its only condition in the same case. -/
theorem queryConditions_eq_iff {q : Query} (hq : Query.parse {} t = .ok q) :
    q.conditions = [c] ↔ ∀ k ∈ Keyword.filter.barred, k.Absent inner := by
  have hread := (Query.assembled_of_parse h hq).conditions
  constructor
  · intro hconditions
    rw [hconditions] at hread
    obtain ⟨raw, _, hraw, -, htexts⟩ := List.forall₂_cons_right_iff.1 hread
    refine (exists_condition_iff h hw hv ho).1 ⟨raw, htexts ▸ List.mem_cons_self, ?_⟩
    rw [← hc.value]
    exact Condition.value_infix_of_parse hraw
  · intro hi
    rw [(conditions_eq_iff h hw hv ho hc).2 hi] at hread
    obtain ⟨d, ds, hd, hnil, hconditions⟩ := List.forall₂_cons_left_iff.1 hread
    rw [Condition.parse_quoted hc.written hc.property hv.opens.isQuote hc.value] at hd
    split at hd
    · cases hd
    cases hd
    cases hnil
    exact hconditions

end Compared

end Located

end Filter

namespace Query

/-- A keyword that ends a filter starts in a value in quotes of it just when it stands in the value.
When none does, a condition holds the whole value; otherwise none does.  A filter that is one
comparison with the value is then split into that comparison, and read as what it says unless a
symbol that is looked for before its own stands between the quotes. -/
theorem quoted_value_whole_iff {t front inner back : Text} {l : Layout} {w : Span} {quote : Char}
    (h : Layout.locate t = .ok l) (hw : l.filterWord = some w)
    (hv : Filter.QuotedValue (t.drop w.stop) front quote inner back)
    (ho : w.stop + front.length < l.bodyStop t w) :
    (∀ k ∈ Keyword.filter.barred, k.Absent inner ↔
      ∀ s, l.word? k = some s → ¬ (Filter.valueSpan w.stop front inner).Holds s.start) ∧
    ((∃ c ∈ Clauses.conditions t, quote :: (inner ++ [quote]) <:+: c) ↔
      ∀ k ∈ Keyword.filter.barred, k.Absent inner) ∧
    ∀ c u, Filter.Compared front (quote :: (inner ++ [quote]))
        (t.slice (Filter.valueSpan w.stop front inner).stop (l.bodyStop t w)) c u →
      (Clauses.conditions t = [u] ↔ ∀ k ∈ Keyword.filter.barred, k.Absent inner) ∧
      Condition.parse {} u =
        (if ∃ op ∈ c.comparison.earlier, op.symbol <:+: inner then
          .error (.malformedCondition u .secondComparison)
        else .ok c) ∧
      ∀ q, parse {} t = .ok q →
        (q.conditions = [c] ↔ ∀ k ∈ Keyword.filter.barred, k.Absent inner) := by
  refine ⟨fun k hk => ?_, Filter.exists_condition_iff h hw hv ho, fun c u hc =>
    ⟨Filter.conditions_eq_iff h hw hv ho hc,
      Condition.parse_quoted hc.written hc.property hv.opens.isQuote hc.value,
      fun q hq => Filter.queryConditions_eq_iff h hw hv ho hc hq⟩⟩
  constructor
  · intro ha s hs hin
    exact Filter.not_absent_of_holds h hw hv ho hk hs hin ha
  · intro hn
    by_contra ha
    obtain ⟨s, hs, hin⟩ := Filter.exists_holds_of_not_absent h hw hv ho hk ha
    exact hn s hs hin

/-- Such as a value with a joining word in it. -/
theorem whole_value_with_and : ∃ l w,
    Layout.locate "select a from t where n = 'x and y'".toList = .ok l ∧
    l.filterWord = some w ∧
    Filter.QuotedValue ("select a from t where n = 'x and y'".toList.drop w.stop)
      " n = ".toList '\'' "x and y".toList [] ∧
    Clauses.conditions "select a from t where n = 'x and y'".toList = ["n = 'x and y'".toList] ∧
    Condition.parse {} "n = 'x and y'".toList = .ok ⟨"n".toList, .eq, "'x and y'".toList⟩ ∧
    ∀ q, parse {} "select a from t where n = 'x and y'".toList = .ok q →
      q.conditions = [⟨"n".toList, .eq, "'x and y'".toList⟩] := by
  have hl : Layout.locate "select a from t where n = 'x and y'".toList =
      .ok ⟨⟨0, 6⟩, ⟨9, 13⟩, ⟨14, 15⟩, some ⟨16, 21⟩, none, none⟩ := by decide +kernel
  have hv : Filter.QuotedValue ("select a from t where n = 'x and y'".toList.drop 21)
      " n = ".toList '\'' "x and y".toList [] :=
    ⟨rfl, ⟨rfl, '=', rfl, rfl⟩, by decide⟩
  have habsent : ∀ k ∈ Keyword.filter.barred, k.Absent "x and y".toList := by decide
  have hspace : Text.isBlankText [' '] = true := rfl
  obtain ⟨-, -, hread⟩ := quoted_value_whole_iff hl rfl hv (by decide)
  obtain ⟨hconditions, hparse, hquery⟩ := hread ⟨"n".toList, .eq, "'x and y'".toList⟩
    "n = 'x and y'".toList
    ⟨.intro hspace hspace, by decide, rfl, ⟨[' '], hspace, rfl⟩, by decide⟩
  exact ⟨_, _, hl, rfl, hv, hconditions.2 habsent, hparse.trans (if_neg (by decide)),
    fun q hq => (hquery q hq).2 habsent⟩

/-- A keyword in a value in quotes cuts the value, and what stands behind it is read as a clause. -/
theorem cut_value_with_group_by : ∃ l w s,
    Layout.locate "select a from t where n = 'x group by y'".toList = .ok l ∧
    l.filterWord = some w ∧ l.word? .groupBy = some s ∧
    Filter.QuotedValue ("select a from t where n = 'x group by y'".toList.drop w.stop)
      " n = ".toList '\'' "x group by y".toList [] ∧
    (Filter.valueSpan w.stop " n = ".toList "x group by y".toList).Holds s.start ∧
    parse {} "select a from t where n = 'x group by y'".toList = .ok
      ⟨"select a from t where n = 'x group by y'".toList, "t".toList, ["a".toList], [],
        [⟨"n".toList, .eq, "'x".toList⟩], [], ["y'".toList], []⟩ := by
  refine ⟨⟨⟨0, 6⟩, ⟨9, 13⟩, ⟨14, 15⟩, some ⟨16, 21⟩, some ⟨29, 37⟩, none⟩, ⟨16, 21⟩, ⟨29, 37⟩,
    by decide +kernel, rfl, rfl, ⟨rfl, ⟨rfl, '=', rfl, rfl⟩, by decide⟩, ⟨by decide, by decide⟩, ?_⟩
  decide +kernel

end Query

end FlatQuery
