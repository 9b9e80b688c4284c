import FlatQuery.Proofs.Survey

/-!
# FlatQuery.Proofs.BaseQuery

The base of a query, its text before the optional clauses, is a query.

The base of pieces (`Pieces.base`) is what they are without the clauses and without blanks in front.
No keyword that has been found is found elsewhere in it: what is cut off stands behind the source.

* `Pieces.Valid.base` — the base of valid pieces is valid;
* `Pieces.baseQuery_text` — its text is the base of the text;
* `Query.base_is_query` — a base has the layout and the select list of its query, and no clause.
-/

namespace FlatQuery

namespace Pieces

variable {p : Pieces}

/-- The pieces without the optional clauses, and without blanks at either end. -/
def base (p : Pieces) : Pieces :=
  { p with
    lead := Text.trimStart p.lead
    rest := []
    filter := none
    groupBy := none
    orderBy := none }

@[simp] theorem tail_base (p : Pieces) : p.base.tail = [] := rfl

@[simp] theorem base_base (p : Pieces) : p.base.base = p.base := by
  have hlead : Text.trimStart (Text.trimStart p.lead) = Text.trimStart p.lead :=
    Text.trimStart_of_head? (head?_dropWhile p.lead)
  simp only [base, hlead]

/-- The base of a query is its text up to the source, without blanks in front. -/
theorem text_base (h : p.Valid) : p.base.text = Text.trimStart p.head := by
  have hhead : (p.selectWord ++ (p.selected ++ p.fromWord ++ p.gap ++ p.source)).head?.any isBlank
      = false := by
    obtain ⟨c, rest, hc, hw, -⟩ := h.select_stands.1.head
    simp [hc, isBlank_of_isWordChar hw]
  have htext : p.head =
      p.lead ++ (p.selectWord ++ (p.selected ++ p.fromWord ++ p.gap ++ p.source)) := by
    simp [head, beforeSource, beforeFrom]
  rw [htext, Text.trimStart_append_of_head? hhead, text_eq, tail_base]
  simp [base]

/-- The first optional clause starts where the blanks behind the source end. -/
theorem min?_optionalStarts (p : Pieces) :
    p.layout.optionalStarts.min?.getD p.text.length = (p.head ++ p.rest).length := by
  cases hf : p.filter <;> cases hg : p.groupBy <;> cases ho : p.orderBy <;>
    simp [Layout.optionalStarts, hf, hg, ho]

/-- The base of a text is the text of its base. -/
theorem baseQuery_text (h : p.Valid) : p.layout.baseQuery p.text = p.base.text := by
  have htake : p.text.slice 0 (p.head ++ p.rest).length = p.head ++ p.rest := by
    have ht : p.text = (p.head ++ p.rest) ++
        (clauseText p.filter ++ (clauseText p.groupBy ++ clauseText p.orderBy)) := by
      rw [text, tail_eq_filter, List.append_assoc]
    rw [ht, Text.slice, List.take_left, List.drop_zero]
  have hlast : (Text.trimStart p.head).getLast?.any isBlank = false := by
    have hs : p.base.text = p.base.beforeSource ++ p.source := by
      rw [text, tail_base, List.append_nil]
      rfl
    rw [← text_base h, hs, List.getLast?_append_of_ne_nil _ h.source_ne_nil]
    exact (Text.trimmed_iff.1 h.trimmed_source).2
  have hpad : Text.trim (p.head ++ p.rest) = Text.trim p.head :=
    Text.trim_pad (g := []) rfl h.rest_blank p.head
  rw [Layout.baseQuery, min?_optionalStarts, htake, hpad, Text.trim,
    Text.trimEnd_of_getLast? hlast, text_base h]

theorem Valid.base (h : p.Valid) : p.base.Valid where
  select_absent := by
    have ha := h.select_absent
    rw [← Text.takeWhile_append_trimStart p.lead] at ha
    exact ha.right (.inl (isWordChar_getLast?_blanks List.all_takeWhile))
  select_stands := by
    have hs := h.select_stands
    rw [← Text.takeWhile_append_trimStart p.lead, List.getLast?_append] at hs
    exact hs.of_or_before
  from_absent := h.from_absent
  from_stands := h.from_stands
  gap_blank := h.gap_blank
  source_ne_nil := h.source_ne_nil
  source_run := h.source_run
  source_free := h.source_free
  rest_blank := rfl
  tail_head := rfl
  filter_first := Keyword.absent_of_isBlankText .filter rfl
  groupBy_first := Keyword.absent_of_isBlankText .groupBy rfl
  orderBy_first := Keyword.absent_of_isBlankText .orderBy rfl

/-- What the base holds is what the pieces hold before the clauses. -/
theorem Reads.base {options : Options} {q : Query} (h : p.Reads options q) :
    p.base.Reads options { q with
      text := p.base.text, conditions := [], connectives := [], groupBy := [], orderBy := [] } where
  text_eq := rfl
  source_eq := h.source_eq
  selected := h.selected
  filter := rfl
  groupBy := rfl
  orderBy := rfl

end Pieces

namespace Query

/-- A query with a layout is surveyed up to its first optional clause.  Its base is the text up to
the source, without blanks in front; the base is a query with the same source and the same select
list and with no clause, and it is its own base.  When the query is read, so is the base, and only
the clauses are gone. -/
theorem base_is_query {t : Text} {l : Layout} (h : Layout.locate t = .ok l) :
    (∀ c : Cursor, c.text = t →
      c.survey = (.ok l, { c with position := l.optionalStarts.min?.getD t.length })) ∧
    Clauses.baseQuery? t = some (l.baseQuery t) ∧
    l.baseQuery t = Text.trimStart (t.slice 0 l.source.stop) ∧
    (∃ l', Layout.locate (l.baseQuery t) = .ok l' ∧
      l'.sourceName (l.baseQuery t) = l.sourceName t ∧
      l'.selectedSegment (l.baseQuery t) = l.selectedSegment t ∧
      l'.filterWord = none ∧ l'.groupByWord = none ∧ l'.orderByWord = none ∧
      l'.baseQuery (l.baseQuery t) = l.baseQuery t) ∧
    ∀ options q, parse options t = .ok q →
      q.baseQuery = l.baseQuery t ∧
      parse options (l.baseQuery t) = .ok { q with
        text := l.baseQuery t, conditions := [], connectives := [], groupBy := [], orderBy := [] } := by
  obtain ⟨p, hp, rfl, rfl⟩ := Pieces.exists_of_locate h
  have hbase := Pieces.baseQuery_text hp
  have hclause : Clauses.baseQuery? p.text = some (p.layout.baseQuery p.text) := by
    rw [Clauses.baseQuery?, Clauses.fromLayout?, h]
  refine ⟨?_, hclause, ?_, ⟨p.base.layout, ?_, ?_, ?_, rfl, rfl, rfl, ?_⟩, ?_⟩
  · intro c hc
    rw [Cursor.survey, hc, Pieces.survey_text hp, Pieces.min?_optionalStarts]
    rfl
  · rw [hbase, Pieces.text_base hp, Pieces.source_stop, Text.slice, List.drop_zero, Pieces.text,
      List.take_left]
  · rw [hbase, Pieces.locate_text hp.base]
  · rw [hbase, Pieces.sourceName_text, Pieces.sourceName_text]
    rfl
  · rw [hbase, Pieces.selectedSegment_text, Pieces.selectedSegment_text]
    rfl
  · rw [hbase, Pieces.baseQuery_text hp.base, Pieces.base_base]
  · intro options q hq
    have hr := (Pieces.parse_text_eq_ok_iff hp).1 hq
    constructor
    · rw [baseQuery, hr.text_eq, hclause]
      rfl
    · rw [hbase]
      exact (Pieces.parse_text_eq_ok_iff hp.base).2 hr.base

/-- Such as one with text in front of `select` and a source that could start a clause. -/
theorem base_of_source_named_group : ∃ l,
    Layout.locate " \tnow Select a, max(b)\tfrom group  where group > 1 Order By a ".toList = .ok l ∧
    l.optionalStarts.min? = some 35 ∧
    l.baseQuery " \tnow Select a, max(b)\tfrom group  where group > 1 Order By a ".toList =
      "now Select a, max(b)\tfrom group".toList ∧
    (∃ l', Layout.locate "now Select a, max(b)\tfrom group".toList = .ok l' ∧
      l'.sourceName "now Select a, max(b)\tfrom group".toList = "group".toList ∧
      l'.selectedSegment "now Select a, max(b)\tfrom group".toList = "a, max(b)".toList) ∧
    ∀ options q,
      parse options " \tnow Select a, max(b)\tfrom group  where group > 1 Order By a ".toList = .ok q →
      parse options "now Select a, max(b)\tfrom group".toList = .ok { q with
        text := "now Select a, max(b)\tfrom group".toList
        conditions := [], connectives := [], groupBy := [], orderBy := [] } := by
  have h : Layout.locate " \tnow Select a, max(b)\tfrom group  where group > 1 Order By a ".toList =
      .ok ⟨⟨6, 12⟩, ⟨23, 27⟩, ⟨28, 33⟩, some ⟨35, 40⟩, none, some ⟨51, 59⟩⟩ := by decide +kernel
  obtain ⟨-, -, hbase, ⟨l', hl', hsource, hselected, -⟩, hparse⟩ := base_is_query h
  exact ⟨_, h, rfl, hbase, ⟨l', hl', hsource, hselected⟩,
    fun options q hq => (hparse options q hq).2⟩

end Query

end FlatQuery
