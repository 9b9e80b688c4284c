import FlatQuery.Proofs.Grammar

/-!
# FlatQuery.Proofs.Sides

Names and values that stand beside a comparison, and values in quotes among them.

* `Condition.exists_parse_iff` — the conditions that are read: a value with signs starts with a
  value in quotes, behind which more may stand when it ends with such a quote as well;
* `Condition.parse_quoted_value` — a comparison with a value in quotes is read, unless a symbol that
  is looked for earlier stands between the quotes.
-/

namespace FlatQuery

namespace Comparison

theorem notMem_symbol_of_isQuote {quote : Char} (hq : isQuote quote = true) (op : Comparison) :
    quote ∉ op.symbol := by
  intro hm
  have hs := op.isSymbolChar_of_mem quote hm
  rw [Filter.isSymbolChar_of_isQuote hq] at hs
  cases hs

theorem ge_mem_earlier : ∀ op ∈ all, op ≠ ge → ge ∈ op.earlier := by decide

/-- A symbol stands in a value in quotes only between the quotes. -/
theorem infix_quoted_iff {inner : Text} {quote : Char} (hq : isQuote quote = true)
    (op : Comparison) : op.symbol <:+: quote :: (inner ++ [quote]) ↔ op.symbol <:+: inner := by
  have hquote := notMem_symbol_of_isQuote hq op
  constructor
  · intro h
    rcases infix_append_cons (u := []) hquote h with h | h
    · exact absurd (List.infix_nil.1 h) op.symbol_ne_nil
    · rcases infix_append_cons hquote h with h | h
      · exact h
      · exact absurd (List.infix_nil.1 h) op.symbol_ne_nil
  · exact fun h => h.trans ⟨[quote], [quote], by simp⟩

/-- A value in quotes may stand behind a comparison when no symbol that is looked for earlier stands
between the quotes. -/
theorem admits_quoted_iff {inner : Text} {quote : Char} (hq : isQuote quote = true)
    (op : Comparison) : op.Admits (quote :: (inner ++ [quote])) ↔
      ¬ ∃ op' ∈ op.earlier, op'.symbol <:+: inner := by
  simp only [not_exists, not_and]
  constructor
  · intro h op' hop hi
    have hin := (op'.infix_quoted_iff hq).2 hi
    exact h.elim (fun h => not_infix_of_occursIn h op' hin) fun h => h.2 op' hop hin
  · intro h
    refine .inr ⟨by rw [unquote?_eq_some_iff.2 ⟨quote, hq, rfl⟩]; rfl, fun op' hop hi => ?_⟩
    exact h op' hop ((op'.infix_quoted_iff hq).1 hi)

end Comparison

namespace Condition

theorem written_render (c : Condition) : c.Written c.render := by
  have hspace : Text.isBlankText [' '] = true := rfl
  have hw := Written.intro (c := c) hspace hspace
  simpa [render] using hw

/-! ## values in quotes -/

section Quoted

variable {c : Condition} {u inner : Text} {quote : Char} (hq : isQuote quote = true)
  (hv : c.value = quote :: (inner ++ [quote]))
include hq hv

/-- A comparison of a name with a value in quotes is complete. -/
theorem complete_of_quoted (hp : Text.Trimmed c.property) (hpn : c.property ≠ []) :
    c.Complete := by
  refine ⟨hp, hpn, ?_, by simp [hv]⟩
  rw [hv]
  exact Filter.trimmed_value hq inner

variable (hc : c.Complete) (hs : ∀ x ∈ c.property, Comparison.isSymbolChar x = false)
include hs

/-- Its comparison is foremost. -/
theorem foremost_of_quoted {g g' : Text} (hg : Text.isBlankText g = true)
    (hg' : Text.isBlankText g' = true) :
    Comparison.Foremost (c.property ++ g) c.comparison (g' ++ c.value) := by
  refine Comparison.foremost_padded c.comparison hs hg hg' ?_
  rw [hv]
  exact Comparison.isSign_of_isSymbolChar (Filter.isSymbolChar_of_isQuote hq)

include hc

/-- It is read as what it says, but refused when a symbol that is looked for before its own stands
between the quotes. -/
theorem parse_of_quoted (hu : c.Written u) (options : Options) : parse options u =
    if ∃ op ∈ c.comparison.earlier, op.symbol <:+: inner then
      .error (.malformedCondition u .secondComparison)
    else .ok { c with value := options.normalize c.value } := by
  obtain @⟨g, g', hg, hg'⟩ := hu
  have hf := foremost_of_quoted hq hv hs hg hg'
  split
  · next h =>
      obtain ⟨op, hop, hi⟩ := h
      exact hc.parse_of_earlier options hf hop (hv ▸ (op.infix_quoted_iff hq).2 hi)
  · next h =>
      refine hc.parse_of_admits hg hg' options hf ?_
      rw [hv]
      exact (c.comparison.admits_quoted_iff hq).2 h

end Quoted

/-- A comparison of a name with a value in quotes is read as what it says, whatever stands between
the quotes, unless that holds a symbol that is looked for before its own; then it is refused as a
second comparison.  So only behind `>=`, which is looked for first, every text may stand between the
quotes. -/
theorem parse_quoted_value {name : Text} {quote : Char} (op : Comparison)
    (hn : Text.Trimmed name) (hne : name ≠ [])
    (hs : ∀ x ∈ name, Comparison.isSymbolChar x = false) (hq : isQuote quote = true) :
    (∀ (options : Options) (inner u : Text),
      Written ⟨name, op, quote :: (inner ++ [quote])⟩ u →
      parse options u =
        if ∃ op' ∈ op.earlier, op'.symbol <:+: inner then
          .error (.malformedCondition u .secondComparison)
        else .ok ⟨name, op, options.normalize (quote :: (inner ++ [quote]))⟩) ∧
    ((∀ inner, quote ∉ inner → parse {} (render ⟨name, op, quote :: (inner ++ [quote])⟩) =
      .ok ⟨name, op, quote :: (inner ++ [quote])⟩) ↔ op = .ge) := by
  have hc : ∀ inner, Complete ⟨name, op, quote :: (inner ++ [quote])⟩ := fun inner =>
    complete_of_quoted hq rfl hn hne
  refine ⟨fun options inner u hu => parse_of_quoted hq rfl (hc inner) hs hu options,
    fun h => ?_, ?_⟩
  · by_contra hop
    have hge : Comparison.ge ∈ op.earlier := Comparison.ge_mem_earlier op op.mem_all hop
    have hquote : quote ∉ Comparison.ge.symbol := Comparison.notMem_symbol_of_isQuote hq _
    have herror := parse_of_quoted hq rfl (hc Comparison.ge.symbol) hs (written_render _) {}
    rw [if_pos ⟨_, hge, List.infix_rfl⟩, h _ hquote] at herror
    cases herror
  · rintro rfl inner -
    rw [parse_of_quoted hq rfl (hc inner) hs (written_render _) {},
      if_neg (by rintro ⟨_, hm, -⟩; cases hm), normalize_default]

/-- Such as one with a joining word and a symbol between the quotes. -/
theorem parse_quoted_joining_word_and_symbol :
    parse {} "note='a or b = c'".toList = .ok ⟨"note".toList, .eq, "'a or b = c'".toList⟩ ∧
      parse ⟨true⟩ "cost >= \"x <= y\"".toList = .ok ⟨"cost".toList, .ge, "x <= y".toList⟩ := by
  have hnote : Text.Trimmed "note".toList := by decide
  have hcost : Text.Trimmed "cost".toList := by decide
  have hnoteSymbol : ∀ x ∈ "note".toList, Comparison.isSymbolChar x = false :=
    forall_mem_of_all (by decide)
  have hcostSymbol : ∀ x ∈ "cost".toList, Comparison.isSymbolChar x = false :=
    forall_mem_of_all (by decide)
  have hsingle : isQuote '\'' = true := rfl
  have hdouble : isQuote '"' = true := rfl
  have hnil : Text.isBlankText [] = true := rfl
  have hspace : Text.isBlankText [' '] = true := rfl
  have hn := (parse_quoted_value .eq hnote (by decide) hnoteSymbol hsingle).1
  have hc := (parse_quoted_value .ge hcost (by decide) hcostSymbol hdouble).1
  exact ⟨(hn {} "a or b = c".toList _ (.intro hnil hnil)).trans (if_neg (by decide)),
    (hc ⟨true⟩ "x <= y".toList _ (.intro hspace hspace)).trans (if_neg (by decide))⟩

/-- A symbol between the quotes that is looked for earlier hides the comparison. -/
theorem parse_quoted_refused :
    Text.Trimmed "a".toList ∧ "a".toList ≠ [] ∧
      (∀ x ∈ "a".toList, Comparison.isSymbolChar x = false) ∧
      isQuote '\'' = true ∧ '\'' ∉ "x >= y".toList ∧
      render ⟨"a".toList, .eq, '\'' :: ("x >= y".toList ++ ['\''])⟩ = "a = 'x >= y'".toList ∧
      parse {} "a = 'x >= y'".toList =
        .error (.malformedCondition "a = 'x >= y'".toList .secondComparison) :=
  ⟨by decide, by decide, forall_mem_of_all (by decide), rfl, by decide, by decide, by decide⟩

/-! ## the conditions that are read -/

/-- A value that starts with a value in quotes: `first` runs up to the next quote of its kind, and
`rest`, if anything follows, ends with such a quote as well. -/
structure StartsQuoted (value : Text) (quote : Char) (first rest : Text) : Prop where
  isQuote : isQuote quote = true
  text : value = quote :: (first ++ quote :: rest)
  closed : quote ∉ first
  ends : rest = [] ∨ rest.getLast? = some quote

/-- A value with the same quote at both ends starts with a value in quotes. -/
theorem isSome_unquote?_iff {value : Text} : (unquote? value).isSome = true ↔
    ∃ quote first rest, StartsQuoted value quote first rest := by
  rw [Option.isSome_iff_exists]
  simp only [unquote?_eq_some_iff]
  constructor
  · rintro ⟨inner, quote, hq, rfl⟩
    have hm : quote ∈ inner ++ [quote] := by simp
    obtain ⟨first, rest, hi, hf⟩ := List.eq_append_cons_of_mem hm
    refine ⟨quote, first, rest, hq, by rw [hi], hf, ?_⟩
    have hl := congrArg List.getLast? hi
    rw [List.getLast?_concat, List.getLast?_append, List.getLast?_cons] at hl
    cases hr : rest.getLast? with
    | none => exact .inl (List.getLast?_eq_none_iff.1 hr)
    | some c => exact .inr (by simpa [hr] using hl.symm)
  · rintro ⟨quote, first, rest, hq, rfl, -, hends⟩
    rcases List.eq_nil_or_concat rest with rfl | ⟨r, c, rfl⟩
    · exact ⟨first, quote, hq, rfl⟩
    · obtain rfl : c = quote := by simpa using hends
      exact ⟨first ++ c :: r, c, hq, by simp⟩

/-- The conditions that are read: name and value are trimmed and not empty, and the name holds no
sign.  A value with signs starts with a value in quotes.  Behind that more may stand, signs as well,
when it ends with such a quote again; no symbol that is looked for before the comparison stands in
it. -/
theorem exists_parse_iff {c : Condition} : (∃ raw, parse {} raw = .ok c) ↔
    c.Complete ∧ (∀ x ∈ c.property, Comparison.isSign x = false) ∧
      ((∀ x ∈ c.value, Comparison.isSign x = false) ∨
        ∃ quote first rest, StartsQuoted c.value quote first rest ∧
          ∀ op ∈ c.comparison.earlier, ¬ op.symbol <:+: c.value) := by
  have hquoted : (unquote? c.value).isSome = true ∧
      (∀ op ∈ c.comparison.earlier, ¬ op.symbol <:+: c.value) ↔
      ∃ quote first rest, StartsQuoted c.value quote first rest ∧
        ∀ op ∈ c.comparison.earlier, ¬ op.symbol <:+: c.value := by
    simp only [isSome_unquote?_iff, exists_and_right]
  rw [← Comparison.occursIn_eq_false_iff, ← Comparison.occursIn_eq_false_iff, ← hquoted]
  constructor
  · rintro ⟨raw, h⟩
    have hc := readable_of_parse h
    exact ⟨hc.toComplete, hc.property_free, hc.admitted⟩
  · intro ⟨hc, hp, ha⟩
    have hread : c.Readable := ⟨hc, hp, ha⟩
    exact ⟨c.render, hread.parse_render⟩

/-- More may stand behind a value in quotes, such as a second comparison. -/
theorem exists_second_comparison : ∃ value,
    parse {} "a = 'x' = 'y'".toList = .ok ⟨"a".toList, .eq, value⟩ ∧
      (∃ x ∈ value, Comparison.isSign x = true) ∧
      ¬ ∃ quote inner, isQuote quote = true ∧ quote ∉ inner ∧
        value = quote :: (inner ++ [quote]) := by
  refine ⟨"'x' = 'y'".toList, by decide, ⟨'=', by decide⟩, ?_⟩
  rintro ⟨quote, inner, -, hn, hvalue⟩
  obtain ⟨rfl, hvalue⟩ := List.cons.inj hvalue
  have hinner : inner = "x' = 'y".toList := (List.append_left_inj _).1 hvalue.symm
  rw [hinner] at hn
  exact hn (by decide)

end Condition

end FlatQuery
