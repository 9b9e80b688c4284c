import FlatQuery.Proofs.Survey

/-!
# FlatQuery.Proofs.Draft

A query text written clause by clause, with blanks between its parts.

* `Draft.valid_pieces` — the keywords of a draft are the ones that the searches find, when no part
  holds a keyword that is looked for behind it;
* `Draft.parse_eq_ok_iff` — a draft is read part by part.
-/

namespace FlatQuery

/-- An optional clause as it is written: blanks, its keyword, blanks and its body. -/
structure DraftClause where
  gap : Text
  word : Text
  pad : Text
  body : Text

/-- A query as it is written. -/
structure Draft where
  lead : Text
  selectWord : Text
  selectPad : Text
  selected : Text
  fromGap : Text
  fromWord : Text
  fromPad : Text
  source : Text
  filter : Option DraftClause
  groupBy : Option DraftClause
  orderBy : Option DraftClause
  trail : Text

namespace DraftClause

def text? : Option DraftClause → Text
  | none => []
  | some c => c.gap ++ c.word ++ c.pad ++ c.body

/-- The blanks in front of a clause, or what comes instead of the clause. -/
def gap? (clause : Option DraftClause) (after : Text) : Text :=
  match clause with
  | none => after
  | some c => c.gap

/-- The body of a clause, which is empty when there is none. -/
def body? (clause : Option DraftClause) : Text := (clause.map body).getD []

/-- The clause as a piece; the blanks behind it belong to it. -/
def piece (c : DraftClause) (after : Text) : ClausePiece := ⟨c.word, c.pad ++ c.body ++ after⟩

/-- The keyword is spelled, and blanks stand around it. -/
structure Valid (k : Keyword) (c : DraftClause) : Prop where
  gap_ne_nil : c.gap ≠ []
  gap_blank : Text.isBlankText c.gap = true
  spelled : k.Spelled c.word
  pad_ne_nil : c.pad ≠ []
  pad_blank : Text.isBlankText c.pad = true

end DraftClause

namespace Draft

open DraftClause

def text (d : Draft) : Text :=
  d.lead ++ d.selectWord ++ d.selectPad ++ d.selected ++ d.fromGap ++ d.fromWord ++ d.fromPad
    ++ d.source ++ text? d.filter ++ text? d.groupBy ++ text? d.orderBy ++ d.trail

def pieces (d : Draft) : Pieces where
  lead := d.lead
  selectWord := d.selectWord
  selected := d.selectPad ++ d.selected ++ d.fromGap
  fromWord := d.fromWord
  gap := d.fromPad
  source := d.source
  rest := gap? d.filter (gap? d.groupBy (gap? d.orderBy d.trail))
  filter := d.filter.map (·.piece (gap? d.groupBy (gap? d.orderBy d.trail)))
  groupBy := d.groupBy.map (·.piece (gap? d.orderBy d.trail))
  orderBy := d.orderBy.map (·.piece d.trail)

@[simp] theorem text_pieces (d : Draft) : d.pieces.text = d.text := by
  simp only [Pieces.text_eq, Pieces.tail_eq_filter, pieces, text]
  cases d.filter <;> cases d.groupBy <;> cases d.orderBy <;> simp [text?, gap?, piece]

/-- Blanks stand between the parts, the source is one word, and no part holds a keyword that is
looked for behind it: not the next keywords, nor those of absent clauses. -/
structure Valid (d : Draft) : Prop where
  lead_blank : Text.isBlankText d.lead = true
  select_spelled : Keyword.select.Spelled d.selectWord
  selectPad_ne_nil : d.selectPad ≠ []
  selectPad_blank : Text.isBlankText d.selectPad = true
  from_absent : Keyword.source.Absent d.selected
  fromGap_ne_nil : d.fromGap ≠ []
  fromGap_blank : Text.isBlankText d.fromGap = true
  from_spelled : Keyword.source.Spelled d.fromWord
  fromPad_ne_nil : d.fromPad ≠ []
  fromPad_blank : Text.isBlankText d.fromPad = true
  source_ne_nil : d.source ≠ []
  source_run : d.source.all (!isBlank ·) = true
  source_free : Keyword.filter.word.matchLength? none d.source = none
  filter_valid : ∀ c ∈ d.filter, c.Valid .filter
  groupBy_valid : ∀ c ∈ d.groupBy, c.Valid .groupBy
  orderBy_valid : ∀ c ∈ d.orderBy, c.Valid .orderBy
  filter_absent : d.filter = none →
    Keyword.filter.Absent (body? d.groupBy) ∧ Keyword.filter.Absent (body? d.orderBy)
  groupBy_absent : d.groupBy = none → Keyword.groupBy.Absent (body? d.orderBy)
  groupBy_absent_filter : Keyword.groupBy.Absent (body? d.filter)
  orderBy_absent_filter : Keyword.orderBy.Absent (body? d.filter)
  orderBy_absent_groupBy : Keyword.orderBy.Absent (body? d.groupBy)
  trail_blank : Text.isBlankText d.trail = true

/-! ## no keyword is found too early -/

/-- Blanks come before a clause, or after the query. -/
theorem isBlankText_gap? {k : Keyword} {clause : Option DraftClause} {after : Text}
    (hc : ∀ c ∈ clause, c.Valid k) (ha : Text.isBlankText after = true) :
    Text.isBlankText (gap? clause after) = true := by
  cases clause with
  | none => exact ha
  | some c => exact (hc c rfl).gap_blank

/-- A clause stands behind blanks. -/
theorem stands_piece {k : Keyword} {c : DraftClause} {u after v : Text} (hc : c.Valid k)
    (hu : u.getLast?.any isWordChar = false) :
    k.Stands u.getLast? (c.piece after).word ((c.piece after).body ++ v).head? := by
  refine ⟨hc.spelled, hu, ?_⟩
  rw [piece, List.append_assoc, List.append_assoc]
  exact isWordChar_head?_of_blank hc.pad_ne_nil hc.pad_blank

/-- A keyword that does not stand before a clause nor in its body does not stand in both. -/
theorem absent_clause {k k' : Keyword} (hk : k ≠ k') {clause : Option DraftClause} {u after : Text}
    (hu : k.Absent u) (hb : k.Absent (body? clause)) (hc : ∀ c ∈ clause, c.Valid k')
    (ha : Text.isBlankText after = true)
    (hl : clause.isSome = true → u.getLast?.any isWordChar = false) :
    k.Absent (u ++ clauseText (clause.map (·.piece after))) := by
  cases clause with
  | none =>
      rw [Option.map_none, clauseText, List.append_nil]
      exact hu
  | some c =>
      have hs : k'.Stands u.getLast? (c.piece after).word ((c.piece after).body ++ []).head? :=
        stands_piece (hc c rfl) (hl rfl)
      rw [List.append_nil] at hs
      rw [Option.map_some, clauseText, ← List.append_assoc]
      exact hu.append_stands (Keyword.Absent.pad hb (hc c rfl).pad_blank ha) hs hk

/-- Blanks come behind a clause that another follows. -/
theorem gap?_ne_nil {k : Keyword} {clause : Option DraftClause} {after : Text}
    (hc : ∀ c ∈ clause, c.Valid k) (ha : clause = none → after ≠ []) : gap? clause after ≠ [] := by
  cases clause with
  | none => exact ha rfl
  | some c => exact (hc c rfl).gap_ne_nil

/-- No name runs out of a clause that blanks follow. -/
theorem getLast?_clause {clause : Option DraftClause} {u after : Text}
    (hu : u.getLast?.any isWordChar = false) (hn : after ≠ [])
    (ha : Text.isBlankText after = true) :
    (u ++ clauseText (clause.map (·.piece after))).getLast?.any isWordChar = false := by
  cases clause with
  | none =>
      rw [Option.map_none, clauseText, List.append_nil]
      exact hu
  | some c =>
      rw [Option.map_some, clauseText, piece, ← List.append_assoc, ← List.append_assoc]
      exact isWordChar_getLast?_of_blank hn ha

namespace Valid

variable {d : Draft}

theorem orderBy_gap_blank (h : d.Valid) : Text.isBlankText (gap? d.orderBy d.trail) = true :=
  isBlankText_gap? h.orderBy_valid h.trail_blank

theorem groupBy_gap_blank (h : d.Valid) :
    Text.isBlankText (gap? d.groupBy (gap? d.orderBy d.trail)) = true :=
  isBlankText_gap? h.groupBy_valid h.orderBy_gap_blank

theorem rest_blank (h : d.Valid) : Text.isBlankText d.pieces.rest = true :=
  isBlankText_gap? h.filter_valid h.groupBy_gap_blank

theorem getLast?_rest (h : d.Valid) : d.pieces.rest.getLast?.any isWordChar = false :=
  isWordChar_getLast?_blanks h.rest_blank

theorem getLast?_beforeGroupBy (h : d.Valid) (hn : gap? d.groupBy (gap? d.orderBy d.trail) ≠ []) :
    d.pieces.beforeGroupBy.getLast?.any isWordChar = false :=
  getLast?_clause h.getLast?_rest hn h.groupBy_gap_blank

theorem getLast?_beforeOrderBy (h : d.Valid) (hn : gap? d.orderBy d.trail ≠ []) :
    d.pieces.beforeOrderBy.getLast?.any isWordChar = false :=
  getLast?_clause (h.getLast?_beforeGroupBy (gap?_ne_nil h.groupBy_valid fun _ => hn)) hn
    h.orderBy_gap_blank

/-- A clause that is there has blanks in front. -/
theorem gap_ne_nil_of_isSome {k : Keyword} {clause : Option DraftClause} {after : Text}
    (hc : ∀ c ∈ clause, c.Valid k) (hs : clause.isSome = true) : gap? clause after ≠ [] :=
  gap?_ne_nil hc fun hn => by
    rw [hn] at hs
    cases hs

theorem filter_first (h : d.Valid) : Pieces.First .filter d.pieces.rest d.pieces.filter
    (clauseText d.pieces.groupBy ++ clauseText d.pieces.orderBy) := by
  have hr := Keyword.absent_of_isBlankText .filter h.rest_blank
  cases hf : d.filter with
  | some c =>
      have hp : d.pieces.filter = some (c.piece (gap? d.groupBy (gap? d.orderBy d.trail))) := by
        simp [pieces, hf]
      rw [hp]
      exact ⟨hr, stands_piece (h.filter_valid c hf) h.getLast?_rest⟩
  | none =>
      have hp : d.pieces.filter = none := by simp [pieces, hf]
      obtain ⟨hg, ho⟩ := h.filter_absent hf
      have hrest : d.pieces.beforeGroupBy = d.pieces.rest := by
        rw [Pieces.beforeGroupBy, hp, clauseText, List.append_nil]
      have hbg : Keyword.filter.Absent d.pieces.beforeOrderBy := by
        rw [Pieces.beforeOrderBy, hrest]
        exact absent_clause (by decide) hr hg h.groupBy_valid h.orderBy_gap_blank
          fun _ => h.getLast?_rest
      have hbo : Keyword.filter.Absent d.pieces.tail :=
        absent_clause (by decide) hbg ho h.orderBy_valid h.trail_blank
          fun hs => h.getLast?_beforeOrderBy (gap_ne_nil_of_isSome h.orderBy_valid hs)
      rw [hp]
      rw [Pieces.tail, Pieces.beforeOrderBy, hrest, List.append_assoc] at hbo
      exact hbo

theorem groupBy_first (h : d.Valid) : Pieces.First .groupBy d.pieces.beforeGroupBy
    d.pieces.groupBy (clauseText d.pieces.orderBy) := by
  have hb : Keyword.groupBy.Absent d.pieces.beforeGroupBy :=
    absent_clause (by decide) (Keyword.absent_of_isBlankText .groupBy h.rest_blank)
      h.groupBy_absent_filter h.filter_valid h.groupBy_gap_blank fun _ => h.getLast?_rest
  cases hg : d.groupBy with
  | some c =>
      have hp : d.pieces.groupBy = some (c.piece (gap? d.orderBy d.trail)) := by
        simp [pieces, hg]
      rw [hp]
      exact ⟨hb, stands_piece (h.groupBy_valid c hg) (h.getLast?_beforeGroupBy
        (gap_ne_nil_of_isSome h.groupBy_valid (by rw [hg]; rfl)))⟩
  | none =>
      have hp : d.pieces.groupBy = none := by simp [pieces, hg]
      have hbefore : d.pieces.beforeOrderBy = d.pieces.beforeGroupBy := by
        rw [Pieces.beforeOrderBy, hp, clauseText, List.append_nil]
      rw [hp]
      refine absent_clause (by decide) hb (h.groupBy_absent hg) h.orderBy_valid h.trail_blank
        fun hs => ?_
      rw [← hbefore]
      exact h.getLast?_beforeOrderBy (gap_ne_nil_of_isSome h.orderBy_valid hs)

theorem orderBy_first (h : d.Valid) :
    Pieces.First .orderBy d.pieces.beforeOrderBy d.pieces.orderBy [] := by
  have hbf : Keyword.orderBy.Absent d.pieces.beforeGroupBy :=
    absent_clause (by decide) (Keyword.absent_of_isBlankText .orderBy h.rest_blank)
      h.orderBy_absent_filter h.filter_valid h.groupBy_gap_blank fun _ => h.getLast?_rest
  have hb : Keyword.orderBy.Absent d.pieces.beforeOrderBy :=
    absent_clause (by decide) hbf h.orderBy_absent_groupBy h.groupBy_valid h.orderBy_gap_blank
      fun hs => h.getLast?_beforeGroupBy (gap_ne_nil_of_isSome h.groupBy_valid hs)
  cases ho : d.orderBy with
  | some c =>
      have hp : d.pieces.orderBy = some (c.piece d.trail) := by simp [pieces, ho]
      rw [hp]
      exact ⟨hb, stands_piece (h.orderBy_valid c ho) (h.getLast?_beforeOrderBy
        (gap_ne_nil_of_isSome h.orderBy_valid (by rw [ho]; rfl)))⟩
  | none =>
      have hp : d.pieces.orderBy = none := by simp [pieces, ho]
      rw [hp, Pieces.First, List.append_nil]
      exact hb

/-- A blank follows the source, or nothing does. -/
theorem tail_head (h : d.Valid) : d.pieces.tail.head?.all isBlank = true := by
  have hr := h.rest_blank
  cases hrest : d.pieces.rest with
  | cons c rest =>
      rw [hrest, Text.isBlankText, List.all_cons, Bool.and_eq_true] at hr
      rw [Pieces.tail_eq_filter, hrest]
      exact hr.1
  | nil =>
      have hnone : d.filter = none ∧ d.groupBy = none ∧ d.orderBy = none := by
        refine ⟨?_, ?_, ?_⟩
        · by_contra hf
          exact gap_ne_nil_of_isSome h.filter_valid (Option.isSome_iff_ne_none.2 hf) hrest
        · by_contra hg
          exact gap?_ne_nil h.filter_valid
            (fun _ => gap_ne_nil_of_isSome h.groupBy_valid (Option.isSome_iff_ne_none.2 hg)) hrest
        · by_contra ho
          exact gap?_ne_nil h.filter_valid (fun _ => gap?_ne_nil h.groupBy_valid fun _ =>
            gap_ne_nil_of_isSome h.orderBy_valid (Option.isSome_iff_ne_none.2 ho)) hrest
      obtain ⟨hf, hg, ho⟩ := hnone
      rw [Pieces.tail_eq_filter, hrest]
      simp [pieces, hf, hg, ho]

theorem valid_pieces (h : d.Valid) : d.pieces.Valid where
  select_absent := Keyword.absent_of_isBlankText .select h.lead_blank
  select_stands := by
    refine ⟨h.select_spelled, isWordChar_getLast?_blanks h.lead_blank, ?_⟩
    rw [pieces, List.append_assoc, List.append_assoc]
    exact isWordChar_head?_of_blank h.selectPad_ne_nil h.selectPad_blank
  from_absent := h.from_absent.pad h.selectPad_blank h.fromGap_blank
  from_stands :=
    ⟨h.from_spelled, isWordChar_getLast?_of_blank h.fromGap_ne_nil h.fromGap_blank,
      isWordChar_head?_of_blank h.fromPad_ne_nil h.fromPad_blank⟩
  gap_blank := h.fromPad_blank
  source_ne_nil := h.source_ne_nil
  source_run := h.source_run
  source_free := h.source_free
  rest_blank := h.rest_blank
  tail_head := h.tail_head
  filter_first := h.filter_first
  groupBy_first := h.groupBy_first
  orderBy_first := h.orderBy_first

end Valid

/-! ## reading a draft -/

/-- `q` is what the parts of the draft hold. -/
structure Reads (options : Options) (d : Draft) (q : Query) : Prop where
  text_eq : q.text = d.text
  source_eq : q.source = d.source
  selected : Query.parseSelected (Pieces.selectedTokens d.selected) = .ok (q.fields, q.aggregates)
  filter : Query.parseFilter options (d.filter.map (Text.trim ·.body)) =
    .ok (q.conditions, q.connectives)
  groupBy : Query.parseFields .groupBy (d.groupBy.map (Text.trim ·.body)) = .ok q.groupBy
  orderBy : Query.parseFields .orderBy (d.orderBy.map (Text.trim ·.body)) = .ok q.orderBy

/-- Blanks around a body come off. -/
theorem map_trim_piece {k : Keyword} {clause : Option DraftClause} {after : Text}
    (hc : ∀ c ∈ clause, c.Valid k) (ha : Text.isBlankText after = true) :
    (clause.map (·.piece after)).map (Text.trim ·.body) = clause.map (Text.trim ·.body) := by
  cases clause with
  | none => rfl
  | some c =>
      rw [Option.map_some, Option.map_some, Option.map_some, piece,
        Text.trim_pad (hc c rfl).pad_blank ha]

/-- A draft is read part by part. -/
theorem parse_eq_ok_iff {options : Options} {d : Draft} {q : Query} (h : d.Valid) :
    Query.parse options d.text = .ok q ↔ d.Reads options q := by
  have hs : Pieces.selectedTokens d.pieces.selected = Pieces.selectedTokens d.selected := by
    rw [Pieces.selectedTokens, Pieces.selectedTokens, pieces,
      Text.trim_pad h.selectPad_blank h.fromGap_blank]
  rw [← text_pieces, Pieces.parse_text_eq_ok_iff h.valid_pieces]
  constructor
  · intro hr
    have hsel := hr.selected
    have hf := hr.filter
    have hg := hr.groupBy
    have ho := hr.orderBy
    rw [hs] at hsel
    rw [pieces, map_trim_piece h.filter_valid h.groupBy_gap_blank] at hf
    rw [pieces, map_trim_piece h.groupBy_valid h.orderBy_gap_blank] at hg
    rw [pieces, map_trim_piece h.orderBy_valid h.trail_blank] at ho
    exact ⟨hr.text_eq.trans d.text_pieces, hr.source_eq, hsel, hf, hg, ho⟩
  · intro hr
    refine ⟨hr.text_eq.trans d.text_pieces.symm, hr.source_eq, ?_, ?_, ?_, ?_⟩
    · rw [hs]
      exact hr.selected
    · rw [pieces, map_trim_piece h.filter_valid h.groupBy_gap_blank]
      exact hr.filter
    · rw [pieces, map_trim_piece h.groupBy_valid h.orderBy_gap_blank]
      exact hr.groupBy
    · rw [pieces, map_trim_piece h.orderBy_valid h.trail_blank]
      exact hr.orderBy

end Draft

end FlatQuery
