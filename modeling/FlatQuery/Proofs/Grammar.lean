import FlatQuery.Proofs.Draft
import FlatQuery.Proofs.Foremost
import FlatQuery.Proofs.Joined
import FlatQuery.Proofs.Selection

/-!
# FlatQuery.Proofs.Grammar

The texts of the query language, and how they are read.

A sentence (`Sentence`) is written by a draft (`Draft.Writes`): its lists with commas between the
parts, its conditions with blanks around their symbols, its keywords in any case.  `Sentence.Valid`
keeps out the parts that would be read otherwise.

* `Condition.parse_of_written` — a written condition is read;
* `Filter.joined_of_written` — written conditions are joined where they are written so;
* `Sentence.parse_eq_query` — a written sentence is read as what it says.
-/

namespace FlatQuery

/-! ## sentences -/

/-- A text that can stand beside a comparison without quotes. -/
structure Operand (t : Text) : Prop where
  trimmed : Text.Trimmed t
  ne_nil : t ≠ []
  no_symbol : ∀ c ∈ t, Comparison.isSymbolChar c = false
  joint_absent : ∀ k ∈ Keyword.connectives, k.Absent t
  groupBy_absent : Keyword.groupBy.Absent t
  orderBy_absent : Keyword.orderBy.Absent t

instance : DecidablePred Operand := fun t =>
  decidable_of_iff (Text.Trimmed t ∧ t ≠ [] ∧ t.all (!Comparison.isSymbolChar ·) = true ∧
      (∀ k ∈ Keyword.connectives, k.Absent t) ∧ Keyword.groupBy.Absent t ∧ Keyword.orderBy.Absent t)
    ⟨fun ⟨ht, hn, hs, hj, hg, ho⟩ => ⟨ht, hn, by simpa using hs, hj, hg, ho⟩,
      fun ⟨ht, hn, hs, hj, hg, ho⟩ => ⟨ht, hn, by simpa using hs, hj, hg, ho⟩⟩

/-- A text that can stand behind a comparison.  Words that join conditions may stand in quotes. -/
inductive Operand.Value : Text → Prop where
  | bare {t : Text} : Operand t → t.head?.any isQuote = false → Value t
  | quoted {quote : Char} {inner : Text} : isQuote quote = true → quote ∉ inner →
      (∀ c ∈ inner, Comparison.isSign c = false) → Keyword.groupBy.Absent inner →
      Keyword.orderBy.Absent inner → Value (quote :: (inner ++ [quote]))

/-- A condition that can be written. -/
structure Condition.Valid (c : Condition) : Prop where
  property : Operand c.property
  value : Operand.Value c.value

/-- What a query says, apart from its text. -/
structure Sentence where
  source : Text
  entries : List Entry
  conditions : List Condition
  connectives : List Connective
  groupBy : List Text
  orderBy : List Text

/-- A sentence that can be written.  `where` and `group by` matter in later lists only when the
sentence has no such clause. -/
structure Sentence.Valid (s : Sentence) : Prop where
  source_ne_nil : s.source ≠ []
  source_run : ∀ c ∈ s.source, isBlank c = false
  source_free : ∀ m rest, s.source = m ++ rest → ¬ Keyword.filter.Stands none m rest.head?
  entries : ∀ e ∈ s.entries, e.Tidy ∧ Keyword.source.Absent e.text
  conditions : ∀ c ∈ s.conditions, c.Valid
  connectives : s.connectives.length = s.conditions.length - 1
  groupBy : ∀ f ∈ s.groupBy, Text.TidyEntry f ∧ Keyword.orderBy.Absent f ∧
    (s.conditions = [] → Keyword.filter.Absent f)
  orderBy : ∀ f ∈ s.orderBy, Text.TidyEntry f ∧ (s.groupBy = [] → Keyword.groupBy.Absent f) ∧
    (s.conditions = [] → Keyword.filter.Absent f)

/-- The query with the text `t` that says what the sentence does. -/
def Sentence.query (s : Sentence) (t : Text) : Query where
  text := t
  source := s.source
  fields := s.entries.filterMap Entry.field?
  aggregates := s.entries.filterMap Entry.aggregate?
  conditions := s.conditions
  connectives := s.connectives
  groupBy := s.groupBy
  orderBy := s.orderBy

/-! ## writing -/

/-- A condition is written with or without blanks around its symbol. -/
inductive Condition.Written (c : Condition) : Text → Prop where
  | intro {g g' : Text} : Text.isBlankText g = true → Text.isBlankText g' = true →
      Written c (c.property ++ g ++ (c.comparison.symbol ++ (g' ++ c.value)))

/-- Conditions are written one after the other, with the connectives and blanks between them. -/
inductive Filter.Written : List Condition → List Connective → Text → Prop where
  | one {c : Condition} {u : Text} : c.Written u → Written [c] [] u
  | more {c : Condition} {op : Connective} {cs : List Condition} {ops : List Connective}
      {u g m g' t : Text} : c.Written u → g ≠ [] → Text.isBlankText g = true →
      op.keyword.Spelled m → g' ≠ [] → Text.isBlankText g' = true → Written cs ops t →
      Written (c :: cs) (op :: ops) (u ++ g ++ (m ++ (g' ++ t)))

/-- An optional clause is written when it has parts. -/
def DraftClause.Writes (k : Keyword) (parts : List α) (body : Text → Prop) :
    Option DraftClause → Prop
  | none => parts = []
  | some c => c.Valid k ∧ body c.body

/-- The draft writes the sentence, with blanks wherever they may stand. -/
structure Draft.Writes (d : Draft) (s : Sentence) : Prop where
  lead_blank : Text.isBlankText d.lead = true
  select_spelled : Keyword.select.Spelled d.selectWord
  selectPad_ne_nil : d.selectPad ≠ []
  selectPad_blank : Text.isBlankText d.selectPad = true
  selected : Text.Listed (s.entries.map Entry.text) d.selected
  fromGap_ne_nil : d.fromGap ≠ []
  fromGap_blank : Text.isBlankText d.fromGap = true
  from_spelled : Keyword.source.Spelled d.fromWord
  fromPad_ne_nil : d.fromPad ≠ []
  fromPad_blank : Text.isBlankText d.fromPad = true
  source_eq : d.source = s.source
  filter : DraftClause.Writes .filter s.conditions (Filter.Written s.conditions s.connectives)
    d.filter
  groupBy : DraftClause.Writes .groupBy s.groupBy (Text.Listed s.groupBy) d.groupBy
  orderBy : DraftClause.Writes .orderBy s.orderBy (Text.Listed s.orderBy) d.orderBy
  trail_blank : Text.isBlankText d.trail = true

/-- The texts of a sentence. -/
def Sentence.Written (s : Sentence) (t : Text) : Prop := ∃ d : Draft, d.text = t ∧ d.Writes s

/-! ## sides of a comparison -/

namespace Filter

/-- No joining word is read where none stands. -/
theorem whole_of_absent {t : Text} (h : ∀ k ∈ Keyword.connectives, k.Absent t)
    (state : ReadingState) : Whole state none t := by
  rcases whole_or_divided state none t with hw | ⟨op, last, u, m, v, rfl, -, -, hs⟩
  · exact hw
  · rw [Option.or_none] at hs
    exact absurd hs (h op.keyword (keyword_mem_connectives op) u m v (by simp))

/-- No quote opens a value behind text without characters of symbols. -/
theorem exists_run_of_forall {last : Option Char} {u : Text}
    (hl : last.any Comparison.isSymbolChar = false)
    (hu : ∀ c ∈ u, Comparison.isSymbolChar c = false) :
    ∃ last', run (.outside last) u = .outside last' := by
  induction u generalizing last with
  | nil => exact ⟨last, rfl⟩
  | cons c u ih =>
      simp only [List.mem_cons, forall_eq_or_imp] at hu
      have hn : next (.outside last) c = .outside (if isBlank c then last else some c) := by
        simp [next, hl]
      rw [run, List.foldl_cons, hn]
      refine ih ?_ hu.2
      by_cases hc : isBlank c = true
      · simp [hc, hl]
      · simp [hc, hu.1]

/-- Behind a symbol, its last character is the last one that is no blank. -/
theorem exists_run_symbol (op : Comparison) (last : Option Char) :
    ∃ c, run (.outside last) op.symbol = .outside (some c) ∧ Comparison.isSymbolChar c = true := by
  cases op <;> exact ⟨_, rfl, by decide⟩

/-- A value in quotes hides what is in it. -/
theorem whole_inside {quote : Char} {inner : Text} (h : quote ∉ inner) (before : Option Char) :
    Whole (.inside quote) before (inner ++ [quote]) ∧
      run (.inside quote) (inner ++ [quote]) = .outside (some quote) := by
  induction inner generalizing before with
  | nil => simp [Whole, run, next]
  | cons c inner ih =>
      rw [List.mem_cons, not_or] at h
      have hn : next (.inside quote) c = .inside quote := by
        simp [next, Ne.symm h.1]
      obtain ⟨hw, hr⟩ := ih h.2 (some c)
      rw [List.cons_append, Whole, run, List.foldl_cons, hn]
      exact ⟨⟨by simp, hw⟩, hr⟩

/-- A value in quotes is whole behind a symbol. -/
theorem whole_quoted {quote last : Char} {inner : Text} (hq : isQuote quote = true)
    (hi : quote ∉ inner) (hl : Comparison.isSymbolChar last = true) (before : Option Char) :
    Whole (.outside (some last)) before (quote :: (inner ++ [quote])) ∧
      run (.outside (some last)) (quote :: (inner ++ [quote])) = .outside (some quote) := by
  have hn : next (.outside (some last)) quote = .inside quote := by
    simp [next, hq, hl]
  obtain ⟨hw, hr⟩ := whole_inside hi (some quote)
  rw [Whole, run, List.foldl_cons, hn]
  exact ⟨⟨fun _ _ => jointLength?_eq_none (.inr (isWordChar_of_isQuote hq)), hw⟩, hr⟩

theorem trimmed_value {quote : Char} (hq : isQuote quote = true) (inner : Text) :
    Text.Trimmed (quote :: (inner ++ [quote])) := by
  rw [Text.trimmed_iff, ← List.cons_append, List.getLast?_concat]
  simp [isBlank_of_isQuote hq]

/-- A quote severs what stands before it from what stands behind. -/
theorem isMark_of_isQuote {c : Char} (h : isQuote c = true) : Keyword.isMark c = true := by
  simp [Keyword.isMark, isBlank_of_isQuote h, isWordChar_of_isQuote h]

end Filter

namespace Operand

variable {t : Text}

theorem head (h : Operand t) : t.head?.any isBlank = false := (Text.trimmed_iff.1 h.trimmed).1

/-- No quote opens a value in a bare value. -/
theorem exists_run_bare (h : Operand t) (hq : t.head?.any isQuote = false) (last : Option Char) :
    ∃ last', Filter.run (.outside last) t = .outside last' := by
  obtain ⟨c, u, rfl⟩ := List.exists_cons_of_ne_nil h.ne_nil
  have hb : isBlank c = false := h.head
  have hc : isQuote c = false := hq
  have hn : Filter.next (.outside last) c = .outside (some c) := by
    simp [Filter.next, hb, hc]
  rw [Filter.run, List.foldl_cons, hn]
  have hs := h.no_symbol
  simp only [List.mem_cons, forall_eq_or_imp] at hs
  exact Filter.exists_run_of_forall (by simp [hs.1]) hs.2

namespace Value

theorem trimmed (h : Value t) : Text.Trimmed t := by
  cases h with
  | bare h _ => exact h.trimmed
  | quoted hq => exact Filter.trimmed_value hq _

theorem ne_nil (h : Value t) : t ≠ [] := by
  cases h with
  | bare h _ => exact h.ne_nil
  | quoted _ => simp

theorem isSign (h : Value t) : ∀ c ∈ t, Comparison.isSign c = false := by
  cases h with
  | bare h _ => exact fun c hc => Comparison.isSign_of_isSymbolChar (h.no_symbol c hc)
  | @quoted quote inner hq _ hs =>
      intro c hc
      have hc : c = quote ∨ c ∈ inner := by simpa [or_comm] using hc
      rcases hc with rfl | hc
      · exact Comparison.isSign_of_isSymbolChar (Filter.isSymbolChar_of_isQuote hq)
      · exact hs c hc

/-- A value is whole behind a symbol, and no quote is open behind it. -/
theorem whole (h : Value t) {c : Char} (hc : Comparison.isSymbolChar c = true) :
    Filter.Whole (.outside (some c)) none t ∧
      ∃ last, Filter.run (.outside (some c)) t = .outside last := by
  cases h with
  | bare h hq =>
      exact ⟨Filter.whole_of_absent h.joint_absent _, h.exists_run_bare hq _⟩
  | quoted hq hi =>
      obtain ⟨hw, hr⟩ := Filter.whole_quoted hq hi hc none
      exact ⟨hw, _, hr⟩

/-- A clause that does not start in the text in quotes does not start in the value. -/
theorem absent_quoted {k : Keyword} {quote : Char} {inner : Text} (hq : isQuote quote = true)
    (h : k.Absent inner) : k.Absent (quote :: (inner ++ [quote])) := by
  have hm : Keyword.isMark quote = true := Filter.isMark_of_isQuote hq
  have hquote : k.Absent [quote] := Keyword.absent_singleton k (Filter.isWordChar_of_isQuote hq)
  have hend : k.Absent (inner ++ [quote]) :=
    Keyword.absent_append h hquote (Keyword.severed_of_head? (c := quote) rfl hm)
  exact Keyword.absent_append (u := [quote]) hquote hend
    (Keyword.severed_of_getLast? (c := quote) rfl hm)

/-- No other clause starts in a value. -/
theorem absent (h : Value t) : Keyword.groupBy.Absent t ∧ Keyword.orderBy.Absent t := by
  cases h with
  | bare h _ => exact ⟨h.groupBy_absent, h.orderBy_absent⟩
  | quoted hq _ _ hg ho => exact ⟨absent_quoted hq hg, absent_quoted hq ho⟩

end Value

end Operand

/-! ## conditions -/

namespace Condition

variable {c : Condition} {u : Text}

theorem Valid.complete (hc : c.Valid) : c.Complete :=
  ⟨hc.property.trimmed, hc.property.ne_nil, hc.value.trimmed, hc.value.ne_nil⟩

/-- A written condition is read. -/
theorem parse_of_written (h : c.Written u) (hc : c.Valid) : Condition.parse {} u = .ok c := by
  obtain @⟨g, g', hg, hg'⟩ := h
  have hvalue := hc.value.isSign
  have hhead : c.value.head?.any Comparison.isSign = false := by
    obtain ⟨x, v, hv⟩ := List.exists_cons_of_ne_nil hc.value.ne_nil
    rw [hv]
    exact hvalue x (by simp [hv])
  have hf := Comparison.foremost_padded c.comparison hc.property.no_symbol hg hg' hhead
  have hp := hc.complete.parse_of_admits hg hg' {} hf
    (.inl (Comparison.occursIn_eq_false_iff.2 hvalue))
  rwa [normalize_default] at hp

/-- A written condition is whole, and no quote is open behind it. -/
theorem whole_of_written (h : c.Written u) (hc : c.Valid) :
    Filter.Whole (.outside none) none u ∧
      ∃ last, Filter.run (.outside none) u = .outside last := by
  obtain @⟨g, g', hg, hg'⟩ := h
  have hproper := Filter.proper_outside none
  obtain ⟨last, hl⟩ : ∃ last, Filter.run (.outside none) c.property = .outside last :=
    Filter.exists_run_of_forall rfl hc.property.no_symbol
  obtain ⟨x, hx, hs⟩ := Filter.exists_run_symbol c.comparison last
  obtain ⟨hw, hr⟩ := hc.value.whole hs
  rw [Filter.whole_comparison hproper, Filter.run_comparison hproper,
    hc.complete.trim_property hg, hc.complete.trim_value hg', hl, hx]
  exact ⟨⟨Filter.whole_of_absent hc.property.joint_absent _, hw⟩, hr⟩

/-- No clause starts in a written condition. -/
theorem absent_of_written (h : c.Written u) (hc : c.Valid) :
    Keyword.groupBy.Absent u ∧ Keyword.orderBy.Absent u := by
  obtain @⟨g, g', hg, hg'⟩ := h
  have hcut : ∀ k : Keyword, k.Absent c.property → k.Absent c.value →
      k.Absent (c.property ++ g ++ (c.comparison.symbol ++ (g' ++ c.value))) := by
    intro k hp hv
    have hpad : k.Absent (g' ++ c.value ++ []) := hv.pad hg' rfl
    exact Filter.absent_comparison_iff.2 ⟨hp.pad (g := []) rfl hg, by simpa using hpad⟩
  exact ⟨hcut _ hc.property.groupBy_absent hc.value.absent.1,
    hcut _ hc.property.orderBy_absent hc.value.absent.2⟩

end Condition

namespace Filter

variable {conditions : List Condition} {connectives : List Connective} {t : Text}

/-- Written conditions are joined where they are written so. -/
theorem joined_of_written (h : Written conditions connectives t)
    (hc : ∀ c ∈ conditions, c.Valid) :
    ∃ us, Joined us connectives t ∧ List.Forall₂ (fun u c => c.Written u) us conditions := by
  induction h with
  | @one c u hu =>
      have hw := Condition.whole_of_written hu (hc c (by simp))
      exact ⟨[u], .one hw.1, .cons hu .nil⟩
  | @more c op cs ops u g m g' t hu hgn hg hm hgn' hg' _ ih =>
      obtain ⟨hw, last, hr⟩ := Condition.whole_of_written hu (hc c (by simp))
      obtain ⟨us, hus, hcs⟩ := ih fun d hd => hc d (by simp [hd])
      exact ⟨u :: us, .more hw hr hgn hg hm hgn' hg' hus, .cons hu hcs⟩

/-- A written filter is read as its conditions and connectives. -/
theorem parse_of_written (h : Written conditions connectives t)
    (hc : ∀ c ∈ conditions, c.Valid) :
    Filter.parse {} (Text.trim t) = .ok (conditions, connectives) := by
  obtain ⟨us, hus, hw⟩ := joined_of_written h hc
  refine parse_trim (parse_of_joined hus ?_)
  clear hus h
  induction hw with
  | nil => exact .nil
  | @cons u c us cs hu _ ih =>
      exact .cons (Condition.parse_of_written hu (hc c (by simp)))
        (ih fun d hd => hc d (by simp [hd]))

/-- No other clause starts in a written filter. -/
theorem absent_of_written (h : Written conditions connectives t)
    (hc : ∀ c ∈ conditions, c.Valid) :
    Keyword.groupBy.Absent t ∧ Keyword.orderBy.Absent t := by
  obtain ⟨us, hus, hw⟩ := joined_of_written h hc
  have hpieces : ∀ u ∈ us, Keyword.groupBy.Absent u ∧ Keyword.orderBy.Absent u :=
    forall_of_forall₂ hw.flip fun c hm u hu => Condition.absent_of_written hu (hc c hm)
  exact ⟨absent_of_joined hus (by decide) fun u hu => (hpieces u hu).1,
    absent_of_joined hus (by decide) fun u hu => (hpieces u hu).2⟩

end Filter

/-! ## sentences -/

namespace DraftClause

variable {k : Keyword} {parts : List α} {body : Text → Prop} {clause : Option DraftClause}

/-- A written clause stands between blanks. -/
theorem Writes.valid (h : Writes k parts body clause) : ∀ c ∈ clause, c.Valid k := by
  intro c hc
  cases hc
  exact h.1

theorem Writes.eq_nil (h : Writes k parts body clause) (hc : clause = none) : parts = [] := by
  subst hc
  exact h

/-- A keyword does not stand in the body of a clause that does not let it. -/
theorem Writes.absent {k' : Keyword} (h : Writes k parts body clause)
    (hb : ∀ t, body t → k'.Absent t) : k'.Absent (body? clause) := by
  cases clause with
  | none => exact Keyword.absent_of_isBlankText k' rfl
  | some c => exact hb _ h.2

/-- A list of fields is read from its clause. -/
theorem Writes.parseFields {place : FieldPlace} {fields : List Text}
    (h : Writes k fields (Text.Listed fields) clause) (hf : ∀ f ∈ fields, Text.TidyEntry f) :
    Query.parseFields place (clause.map (Text.trim ·.body)) = .ok fields := by
  cases clause with
  | none =>
      rw [show fields = [] from h]
      rfl
  | some c => exact Query.parseFields_of_listed h.2 hf

end DraftClause

namespace Sentence

variable {s : Sentence} {d : Draft}

theorem Valid.draft (hs : s.Valid) (hd : d.Writes s) : d.Valid where
  lead_blank := hd.lead_blank
  select_spelled := hd.select_spelled
  selectPad_ne_nil := hd.selectPad_ne_nil
  selectPad_blank := hd.selectPad_blank
  from_absent := by
    refine Keyword.absent_of_listed hd.selected fun t ht => ?_
    obtain ⟨e, he, rfl⟩ := List.mem_map.1 ht
    exact (hs.entries e he).2
  fromGap_ne_nil := hd.fromGap_ne_nil
  fromGap_blank := hd.fromGap_blank
  from_spelled := hd.from_spelled
  fromPad_ne_nil := hd.fromPad_ne_nil
  fromPad_blank := hd.fromPad_blank
  source_ne_nil := by
    rw [hd.source_eq]
    exact hs.source_ne_nil
  source_run := by
    have hr := hs.source_run
    simpa [hd.source_eq] using hr
  source_free := by
    rw [hd.source_eq]
    exact Keyword.matchLength?_eq_none_iff.2 hs.source_free
  filter_valid := hd.filter.valid
  groupBy_valid := hd.groupBy.valid
  orderBy_valid := hd.orderBy.valid
  filter_absent := by
    intro hf
    have hn := hd.filter.eq_nil hf
    exact ⟨hd.groupBy.absent fun t ht => Keyword.absent_of_listed ht fun f hm =>
        (hs.groupBy f hm).2.2 hn,
      hd.orderBy.absent fun t ht => Keyword.absent_of_listed ht fun f hm =>
        (hs.orderBy f hm).2.2 hn⟩
  groupBy_absent hg := hd.orderBy.absent fun t ht => Keyword.absent_of_listed ht fun f hm =>
    (hs.orderBy f hm).2.1 (hd.groupBy.eq_nil hg)
  groupBy_absent_filter := hd.filter.absent fun t ht =>
    (Filter.absent_of_written ht hs.conditions).1
  orderBy_absent_filter := hd.filter.absent fun t ht =>
    (Filter.absent_of_written ht hs.conditions).2
  orderBy_absent_groupBy := hd.groupBy.absent fun t ht => Keyword.absent_of_listed ht fun f hm =>
    (hs.groupBy f hm).2.1
  trail_blank := hd.trail_blank

theorem Valid.parseFilter (hs : s.Valid) (hd : d.Writes s) :
    Query.parseFilter {} (d.filter.map (Text.trim ·.body)) =
      .ok (s.conditions, s.connectives) := by
  have hf := hd.filter
  cases hc : d.filter with
  | none =>
      have hn : s.conditions = [] := hf.eq_nil hc
      have ho : s.connectives = [] := by
        have hl := hs.connectives
        simpa [hn] using hl
      rw [hn, ho]
      rfl
  | some c =>
      rw [hc] at hf
      exact Filter.parse_of_written hf.2 hs.conditions

/-- The draft holds what the sentence says. -/
theorem Valid.reads (hs : s.Valid) (hd : d.Writes s) : d.Reads {} (s.query d.text) where
  text_eq := rfl
  source_eq := hd.source_eq.symm
  selected := Query.parseSelected_of_listed hd.selected fun e he => (hs.entries e he).1
  filter := hs.parseFilter hd
  groupBy := hd.groupBy.parseFields fun f hf => (hs.groupBy f hf).1
  orderBy := hd.orderBy.parseFields fun f hf => (hs.orderBy f hf).1

/-- A written sentence is read as what it says. -/
theorem parse_eq_query {t : Text} (hs : s.Valid) (ht : s.Written t) :
    Query.parse {} t = .ok (s.query t) := by
  obtain ⟨d, rfl, hd⟩ := ht
  exact (Draft.parse_eq_ok_iff (hs.draft hd)).2 (hs.reads hd)

/-- Such as one with a joining word in quotes and a quote that opens nothing. -/
theorem parse_joining_word_in_quotes : Query.parse {}
    "SELECT day , sum(cost) FROM t WHERE a>='x or y'  oR b = O'Brien Group\tby day".toList = .ok
      { text := "SELECT day , sum(cost) FROM t WHERE a>='x or y'  oR b = O'Brien Group\tby day".toList
        source := ['t']
        fields := ["day".toList]
        aggregates := [⟨"cost".toList, .sum⟩]
        conditions := [⟨['a'], .ge, "'x or y'".toList⟩, ⟨['b'], .eq, "O'Brien".toList⟩]
        connectives := [.or]
        groupBy := ["day".toList]
        orderBy := [] } := by
  have hday : Text.TidyEntry "day".toList := ⟨by decide, by decide, by decide⟩
  have hsum : Aggregate.Tidy ⟨"cost".toList, .sum⟩ :=
    ⟨⟨by decide, by decide, by decide⟩, forall_mem_of_all (by decide)⟩
  have hquoted : Operand.Value ('\'' :: ("x or y".toList ++ ['\''])) :=
    .quoted rfl (by decide) (forall_mem_of_all (by decide)) (by decide) (by decide)
  have hfirst : Condition.Valid ⟨['a'], .ge, "'x or y'".toList⟩ := ⟨by decide +kernel, hquoted⟩
  have hsecond : Condition.Valid ⟨['b'], .eq, "O'Brien".toList⟩ :=
    ⟨by decide +kernel, .bare (by decide +kernel) rfl⟩
  refine parse_eq_query (s := ⟨['t'], [.field "day".toList, .call ⟨"cost".toList, .sum⟩],
      [⟨['a'], .ge, "'x or y'".toList⟩, ⟨['b'], .eq, "O'Brien".toList⟩], [.or], ["day".toList], []⟩)
    ⟨by simp, forall_mem_of_all (by decide), Keyword.matchLength?_eq_none_iff.1 (by decide),
      ?_, ?_, rfl, ?_, by simp⟩
    ⟨⟨[], "SELECT".toList, [' '], "day , sum(cost)".toList, [' '], "FROM".toList, [' '], ['t'],
      some ⟨[' '], "WHERE".toList, [' '], "a>='x or y'  oR b = O'Brien".toList⟩,
      some ⟨[' '], "Group\tby".toList, [' '], "day".toList⟩, none, []⟩, rfl,
      ⟨rfl, by decide, by simp, rfl, ?_, by simp, rfl, by decide, by simp, rfl, rfl,
        ⟨⟨by simp, rfl, by decide, by simp, rfl⟩, ?_⟩,
        ⟨⟨by simp, rfl, by decide, by simp, rfl⟩, ?_⟩, rfl, rfl⟩⟩
  · simp only [List.forall_mem_cons]
    exact ⟨⟨⟨hday, by decide⟩, by decide⟩, ⟨hsum, by decide⟩, by simp⟩
  · simp only [List.forall_mem_cons]
    exact ⟨hfirst, hsecond, by simp⟩
  · simp only [List.forall_mem_cons]
    exact ⟨⟨hday, by decide, by simp⟩, by simp⟩
  · have hlast : Text.Listed ["sum(cost)".toList] ([' '] ++ "sum(cost)".toList ++ []) :=
      .one rfl rfl
    have hlist : Text.Listed ["day".toList, "sum(cost)".toList]
        ([] ++ "day".toList ++ [' '] ++ ',' :: " sum(cost)".toList) := .more rfl rfl hlast
    exact hlist
  · have hu : Condition.Written ⟨['a'], .ge, "'x or y'".toList⟩
        (['a'] ++ [] ++ (">=".toList ++ ([] ++ "'x or y'".toList))) := .intro rfl rfl
    have hv : Condition.Written ⟨['b'], .eq, "O'Brien".toList⟩
        (['b'] ++ [' '] ++ (['='] ++ ([' '] ++ "O'Brien".toList))) := .intro rfl rfl
    exact .more (g := "  ".toList) (m := "oR".toList) hu (by simp) rfl (by decide)
      (List.cons_ne_nil ' ' []) rfl (.one hv)
  · exact .one (g := []) (p := "day".toList) rfl (rfl : Text.isBlankText [] = true)

end Sentence

end FlatQuery
