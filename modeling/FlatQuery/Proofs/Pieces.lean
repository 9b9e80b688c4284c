import FlatQuery.Proofs.Neighbours
import FlatQuery.Proofs.Outcome
import FlatQuery.Query.Parse

/-!
# FlatQuery.Proofs.Pieces

A query text put together from its pieces.

`Pieces` holds the texts that a query is made of, keywords as they are spelled included, and
`Pieces.Valid` says that every keyword stands where a search comes upon it first.

* `Layout.misplaced?_eq_none_iff` — neighbours are compared, and so all clauses are;
* `Pieces.locate_text` — the layout of a valid text is the one that its pieces have in it;
* `Pieces.parse_text_eq_ok_iff` — the query is read from the pieces.
-/

namespace FlatQuery

namespace Text

/-! ## positions in joined texts -/

/-- The part of a text that follows `u`. -/
@[simp] theorem slice_append_mid (u m b : Text) :
    (u ++ (m ++ b)).slice u.length (u.length + m.length) = m := by
  rw [slice, List.take_length_add_append, List.drop_left, List.take_left]

/-- Blanks are skipped up to what is no blank. -/
theorem skipBlanks_append {u g v : Text} (hg : isBlankText g = true)
    (hv : v.head?.any isBlank = false) :
    (u ++ (g ++ v)).skipBlanks u.length = (u ++ g).length := by
  rw [skipBlanks, List.drop_left, takeWhile_append_all hg hv, List.length_append]

/-- What is no blank is skipped up to a blank or the end. -/
theorem skipRun_append {u r v : Text} (hr : r.all (!isBlank ·) = true)
    (hv : v.head?.all isBlank = true) : (u ++ (r ++ v)).skipRun u.length = (u ++ r).length := by
  have hv' : v.head?.any (!isBlank ·) = false := by
    cases h : v.head? with
    | none => rfl
    | some c => simpa [h] using hv
  rw [skipRun, List.drop_left, takeWhile_append_all hr hv', List.length_append]

end Text

/-! ## the order of clauses -/

namespace Layout

variable {a b : Keyword × Span} {words : List (Keyword × Span)}

/-- Each of some keywords starts no later than those behind it. -/
def InOrder (words : List (Keyword × Span)) : Prop :=
  words.Pairwise fun a b => a.2.start ≤ b.2.start

/-- The first of some keywords starts no later than the others when it does not start later than the
next, which is in order with those behind it. -/
theorem inOrder_cons_cons :
    InOrder (a :: b :: words) ↔ a.2.start ≤ b.2.start ∧ InOrder (b :: words) := by
  rw [InOrder, InOrder, List.pairwise_cons (a := a)]
  constructor
  · rintro ⟨ha, h⟩
    exact ⟨ha b List.mem_cons_self, h⟩
  · rintro ⟨hab, h⟩
    refine ⟨fun c hc => ?_, h⟩
    rcases List.mem_cons.1 hc with rfl | hc
    · exact hab
    · exact Nat.le_trans hab ((List.pairwise_cons.1 h).1 c hc)

/-- No clause is misplaced when all are in order. -/
theorem misplaced?_eq_none_iff : misplaced? words = none ↔ InOrder words := by
  fun_induction misplaced? words with
  | case1 k s k' s' rest hlt => simp [inOrder_cons_cons, Nat.not_le.2 hlt]
  | case2 k s k' s' rest hle ih => simp [ih, inOrder_cons_cons, Nat.not_lt.1 hle]
  | case3 words hw =>
      rcases words with _ | ⟨a, _ | ⟨b, rest⟩⟩
      · simp [InOrder]
      · simp [InOrder]
      · exact absurd rfl (hw a.1 a.2 b.1 b.2 rest)

end Layout

/-! ## pieces of a query -/

/-- An optional clause: its keyword and what comes after it. -/
structure ClausePiece where
  word : Text
  body : Text

/-- The texts that a query is made of. -/
structure Pieces where
  lead : Text
  selectWord : Text
  selected : Text
  fromWord : Text
  gap : Text
  source : Text
  rest : Text
  filter : Option ClausePiece
  groupBy : Option ClausePiece
  orderBy : Option ClausePiece

def clauseText : Option ClausePiece → Text
  | none => []
  | some c => c.word ++ c.body

@[simp] theorem clauseText_none : clauseText none = [] := rfl

@[simp] theorem clauseText_some (c : ClausePiece) : clauseText (some c) = c.word ++ c.body := rfl

/-- The place of a word that comes after `before`. -/
def Span.after (before word : Text) : Span := ⟨before.length, before.length + word.length⟩

@[simp] theorem Span.start_after (before word : Text) :
    (Span.after before word).start = before.length := rfl

@[simp] theorem Span.stop_after (before word : Text) :
    (Span.after before word).stop = before.length + word.length := rfl

namespace Pieces

def beforeFrom (p : Pieces) : Text := p.lead ++ p.selectWord ++ p.selected

def beforeSource (p : Pieces) : Text := p.beforeFrom ++ p.fromWord ++ p.gap

/-- The text up to the end of the source. -/
def head (p : Pieces) : Text := p.beforeSource ++ p.source

def beforeGroupBy (p : Pieces) : Text := p.rest ++ clauseText p.filter

def beforeOrderBy (p : Pieces) : Text := p.beforeGroupBy ++ clauseText p.groupBy

/-- The text after the source. -/
def tail (p : Pieces) : Text := p.beforeOrderBy ++ clauseText p.orderBy

def text (p : Pieces) : Text := p.head ++ p.tail

/-- Where the pieces stand in the text. -/
def layout (p : Pieces) : Layout where
  selectWord := .after p.lead p.selectWord
  fromWord := .after p.beforeFrom p.fromWord
  source := .after p.beforeSource p.source
  filterWord := p.filter.map fun c => .after (p.head ++ p.rest) c.word
  groupByWord := p.groupBy.map fun c => .after (p.head ++ p.beforeGroupBy) c.word
  orderByWord := p.orderBy.map fun c => .after (p.head ++ p.beforeOrderBy) c.word

/-! ### texts, lengths and places

Texts that are joined and positions in them are compared piece by piece: the lengths below come down
to those of the pieces, and the places of the layout to the texts that come before them. -/

section

variable (p : Pieces)

theorem text_eq : p.text = p.lead ++ (p.selectWord ++ (p.selected ++ (p.fromWord ++ (p.gap ++
    (p.source ++ p.tail))))) := by
  simp [text, head, beforeSource, beforeFrom]

/-- The text after the source, up to a clause, with it and after it. -/
theorem tail_eq_filter : p.tail =
    p.rest ++ (clauseText p.filter ++ (clauseText p.groupBy ++ clauseText p.orderBy)) := by
  simp [tail, beforeOrderBy, beforeGroupBy]

theorem tail_eq_groupBy :
    p.tail = p.beforeGroupBy ++ (clauseText p.groupBy ++ clauseText p.orderBy) := by
  simp [tail, beforeOrderBy]

theorem tail_eq_orderBy : p.tail = p.beforeOrderBy ++ (clauseText p.orderBy ++ []) := by
  simp [tail]

@[simp] theorem length_beforeFrom :
    p.beforeFrom.length = p.lead.length + p.selectWord.length + p.selected.length := by
  simp only [beforeFrom, List.length_append]

@[simp] theorem length_beforeSource :
    p.beforeSource.length = p.beforeFrom.length + p.fromWord.length + p.gap.length := by
  simp only [beforeSource, List.length_append]

@[simp] theorem length_head : p.head.length = p.beforeSource.length + p.source.length := by
  simp only [head, List.length_append]

@[simp] theorem length_beforeGroupBy :
    p.beforeGroupBy.length = p.rest.length + (clauseText p.filter).length := by
  simp only [beforeGroupBy, List.length_append]

@[simp] theorem length_beforeOrderBy :
    p.beforeOrderBy.length = p.beforeGroupBy.length + (clauseText p.groupBy).length := by
  simp only [beforeOrderBy, List.length_append]

@[simp] theorem length_tail :
    p.tail.length = p.beforeOrderBy.length + (clauseText p.orderBy).length := by
  simp only [tail, List.length_append]

@[simp] theorem length_text : p.text.length = p.head.length + p.tail.length := by
  simp only [text, List.length_append]

@[simp] theorem layout_selectWord : p.layout.selectWord = .after p.lead p.selectWord := rfl

@[simp] theorem layout_fromWord : p.layout.fromWord = .after p.beforeFrom p.fromWord := rfl

@[simp] theorem layout_source : p.layout.source = .after p.beforeSource p.source := rfl

@[simp] theorem layout_filterWord :
    p.layout.filterWord = p.filter.map fun c => .after (p.head ++ p.rest) c.word := rfl

@[simp] theorem layout_groupByWord :
    p.layout.groupByWord = p.groupBy.map fun c => .after (p.head ++ p.beforeGroupBy) c.word := rfl

@[simp] theorem layout_orderByWord :
    p.layout.orderByWord = p.orderBy.map fun c => .after (p.head ++ p.beforeOrderBy) c.word := rfl

theorem source_stop : p.layout.source.stop = p.head.length := by simp

end

/-- A clause is the first place in `before`, the clause and `after` where its keyword stands; the
keyword of an absent clause stands nowhere. -/
def First (k : Keyword) (before : Text) (clause : Option ClausePiece) (after : Text) : Prop :=
  match clause with
  | none => k.Absent (before ++ after)
  | some c => k.Absent before ∧ k.Stands before.getLast? c.word (c.body ++ after).head?

/-- Every keyword stands where a search comes upon it first, and the source stands alone. -/
structure Valid (p : Pieces) : Prop where
  select_absent : Keyword.select.Absent p.lead
  select_stands : Keyword.select.Stands p.lead.getLast? p.selectWord
    (p.selected ++ p.fromWord).head?
  from_absent : Keyword.source.Absent p.selected
  from_stands : Keyword.source.Stands p.selected.getLast? p.fromWord (p.gap ++ p.source).head?
  gap_blank : Text.isBlankText p.gap = true
  source_ne_nil : p.source ≠ []
  source_run : p.source.all (!isBlank ·) = true
  source_free : Keyword.filter.word.matchLength? none p.source = none
  rest_blank : Text.isBlankText p.rest = true
  tail_head : p.tail.head?.all isBlank = true
  filter_first : First .filter p.rest p.filter (clauseText p.groupBy ++ clauseText p.orderBy)
  groupBy_first : First .groupBy p.beforeGroupBy p.groupBy (clauseText p.orderBy)
  orderBy_first : First .orderBy p.beforeOrderBy p.orderBy []

/-! ## finding the clauses -/

variable {p : Pieces}

/-- Something comes before a keyword in a text that starts with a blank. -/
theorem ne_nil_of_stands {k : Keyword} {before m b : Text} {x y : Option Char}
    (h : k.Stands x m y) (hh : (before ++ (m ++ b)).head?.all isBlank = true) : before ≠ [] := by
  intro hb
  obtain ⟨c, rest, rfl, hw, -⟩ := h.1.head
  rw [hb] at hh
  have hc : isBlank c = true := by simpa using hh
  rw [isBlank_of_isWordChar hw] at hc
  cases hc

/-- A search behind the source finds a clause, or that there is none. -/
theorem First.find? {k : Keyword} {u before after : Text} {clause : Option ClausePiece}
    (h : First k before clause after)
    (hh : (before ++ (clauseText clause ++ after)).head?.all isBlank = true) :
    k.word.find? (u ++ (before ++ (clauseText clause ++ after))) u.length =
      clause.map fun c => Span.after (u ++ before) c.word := by
  cases clause with
  | none => exact Keyword.find?_eq_none h
  | some c =>
      obtain ⟨ha, hs⟩ := h
      rw [clauseText, List.append_assoc] at hh
      have hb : before ≠ [] := ne_nil_of_stands hs hh
      have hl : before.getLast?.or u.getLast? = before.getLast? := by
        rw [List.getLast?_eq_some_getLast hb, Option.some_or]
      rw [clauseText, List.append_assoc, Keyword.find?_of_absent ha (Keyword.severed_of_stands hs)
        (by rw [hl]; exact hs), Option.map_some, Span.after, List.length_append]

namespace Valid

/-- No blank stands in the source. -/
theorem trimmed_source (h : p.Valid) : Text.Trimmed p.source := by
  have hrun : ∀ c ∈ p.source, isBlank c = false := by simpa using h.source_run
  refine Text.trimmed_iff.2 ⟨?_, ?_⟩
  · cases hc : p.source.head? with
    | none => rfl
    | some c => exact hrun c (List.mem_of_head? hc)
  · cases hc : p.source.getLast? with
    | none => rfl
    | some c => exact hrun c (List.mem_of_getLast? hc)

theorem find?_filter (h : p.Valid) :
    Keyword.filter.word.find? p.text p.head.length = p.layout.filterWord := by
  have hf := h.filter_first.find? (u := p.head) (by rw [← tail_eq_filter]; exact h.tail_head)
  rw [← tail_eq_filter] at hf
  exact hf

theorem find?_groupBy (h : p.Valid) :
    Keyword.groupBy.word.find? p.text p.head.length = p.layout.groupByWord := by
  have hf := h.groupBy_first.find? (u := p.head) (by rw [← tail_eq_groupBy]; exact h.tail_head)
  rw [← tail_eq_groupBy] at hf
  exact hf

theorem find?_orderBy (h : p.Valid) :
    Keyword.orderBy.word.find? p.text p.head.length = p.layout.orderByWord := by
  have hf := h.orderBy_first.find? (u := p.head) (by rw [← tail_eq_orderBy]; exact h.tail_head)
  rw [← tail_eq_orderBy] at hf
  exact hf

/-- The first clause after the source stands where its blanks end. -/
theorem tail_rest (h : p.Valid) : p.tail = p.rest ∨
    ∃ k ∈ Keyword.optionalClauses, ∃ m b, p.tail = p.rest ++ (m ++ b) ∧
      k.Stands p.rest.getLast? m b.head? := by
  have hf := h.filter_first
  have hg := h.groupBy_first
  have ho := h.orderBy_first
  rw [tail_eq_filter]
  cases hF : p.filter with
  | some c =>
      rw [hF] at hf
      exact .inr ⟨.filter, by decide, c.word, _, by rw [clauseText, List.append_assoc], hf.2⟩
  | none =>
      rw [beforeGroupBy, hF, clauseText, List.append_nil] at hg
      cases hG : p.groupBy with
      | some c =>
          rw [hG] at hg
          exact .inr ⟨.groupBy, by decide, c.word, _, by simp, hg.2⟩
      | none =>
          rw [beforeOrderBy, beforeGroupBy, hF, hG] at ho
          simp only [clauseText, List.append_nil] at ho
          cases hO : p.orderBy with
          | some c =>
              rw [hO] at ho
              exact .inr ⟨.orderBy, by decide, c.word, c.body ++ [], by simp, ho.2⟩
          | none => exact .inl (by simp)

/-- No spelling runs on from the source. -/
theorem severed_source (h : p.Valid) (k : Keyword) : k.Severed p.source p.tail := by
  rcases h.tail_rest with ht | ⟨k', -, m, b, ht, hm⟩
  · rw [ht]
    exact Keyword.severed_blank_right h.rest_blank
  · have hh := h.tail_head
    rw [ht] at hh ⊢
    refine Keyword.severed_gap_spelled (.inr ?_) h.rest_blank hm.1
    obtain ⟨d, rest, hr⟩ := List.exists_cons_of_ne_nil (ne_nil_of_stands hm hh)
    have hd : isBlank d = true := List.all_eq_true.1 h.rest_blank d (by rw [hr]; simp)
    rw [hr]
    exact isWordChar_of_isBlank hd

/-- The optional clause of one word. -/
theorem eq_filter_of_secondWord :
    ∀ k ∈ Keyword.optionalClauses, k.secondWord = [] → k = .filter := by decide

/-- No optional clause starts at the source. -/
theorem matchLength?_source (h : p.Valid) {k : Keyword} (hk : k ∈ Keyword.optionalClauses)
    (before : Option Char) : k.word.matchLength? before (p.source ++ p.tail) = none := by
  rw [Keyword.matchLength?_eq_none_iff]
  intro m rest hm hs
  have hin : ∀ bs, p.source = m ++ bs → rest = bs ++ p.tail → False := by
    intro bs hbs hr
    have hw : k.secondWord = [] := by
      by_contra hw
      obtain ⟨c, hc, hb⟩ := hs.1.exists_blank hw
      have hn := List.all_eq_true.1 h.source_run c (by rw [hbs]; simp [hc])
      rw [hb] at hn
      cases hn
    obtain rfl := eq_filter_of_secondWord k hk hw
    refine Keyword.matchLength?_eq_none_iff.1 h.source_free m bs hbs ⟨hs.1, rfl, ?_⟩
    rw [hr, List.head?_append] at hs
    exact hs.of_or_after.2.2
  rw [List.append_eq_append_iff] at hm
  rcases hm with ⟨as, hms, ht⟩ | ⟨bs, hbs, hr⟩
  · by_cases ha : as = []
    · subst ha
      exact hin [] (by rw [hms, List.append_nil, List.append_nil]) ht.symm
    · rw [hms] at hs
      exact h.severed_source k p.source as h.source_ne_nil ha List.suffix_rfl
        (by rw [ht]; exact List.prefix_append as rest) hs.1
  · exact hin bs hbs hr

theorem startsClause_source (h : p.Valid) :
    Layout.startsClause p.text p.beforeSource.length = false := by
  rw [Layout.startsClause, List.any_eq_false]
  intro k hk
  rw [text, head, List.append_assoc, Word.endAt?_append, h.matchLength?_source hk]
  simp

/-- The blanks after the source end where a clause starts or the text ends. -/
theorem skipBlanks_head (h : p.Valid) :
    p.text.skipBlanks p.head.length = (p.head ++ p.rest).length := by
  rcases h.tail_rest with ht | ⟨k, -, m, b, ht, hm⟩
  · rw [text, ht, ← List.append_nil p.rest, Text.skipBlanks_append h.rest_blank rfl,
      List.append_nil]
  · have hv : (m ++ b).head?.any isBlank = false := by
      obtain ⟨c, rest, rfl, hw, -⟩ := hm.1.head
      simp [isBlank_of_isWordChar hw]
    rw [text, ht, Text.skipBlanks_append h.rest_blank hv]

/-- There the text ends, or an optional clause starts. -/
theorem startsClause_rest (h : p.Valid) : ((p.head ++ p.rest).length < p.text.length &&
    !Layout.startsClause p.text (p.head ++ p.rest).length) = false := by
  rcases h.tail_rest with ht | ⟨k, hk, m, b, ht, hm⟩
  · rw [text, ht]
    simp
  · have hh := h.tail_head
    rw [ht] at hh
    have hl : (p.head ++ p.rest).getLast? = p.rest.getLast? := by
      rw [List.getLast?_append, List.getLast?_eq_some_getLast (ne_nil_of_stands hm hh),
        Option.some_or]
    have hs : Layout.startsClause p.text (p.head ++ p.rest).length = true := by
      rw [Layout.startsClause, List.any_eq_true]
      refine ⟨k, hk, ?_⟩
      rw [text, ht, ← List.append_assoc, Word.endAt?_append,
        Keyword.matchLength?_eq_some_iff.2 ⟨m, b, rfl, rfl, by rwa [hl]⟩]
      rfl
    rw [hs, Bool.not_true, Bool.and_false]

/-- The optional clauses stand in their order. -/
theorem withClauses_eq (h : p.Valid) : Layout.withClauses p.text p.layout.selectWord
    p.layout.fromWord p.layout.source = .ok p.layout := by
  have hm : Layout.misplaced? ([(Keyword.filter, p.layout.filterWord),
      (.groupBy, p.layout.groupByWord), (.orderBy, p.layout.orderByWord)].filterMap
        fun c => c.2.map (c.1, ·)) = none := by
    rw [Layout.misplaced?_eq_none_iff, Layout.InOrder, List.pairwise_filterMap]
    simp [Nat.add_assoc]
  simp only [List.filterMap_cons, List.filterMap_nil] at hm
  rw [Layout.withClauses, source_stop, Keyword.optionalClauses]
  simp only [List.filterMap_cons, List.filterMap_nil, h.find?_filter, h.find?_groupBy,
    h.find?_orderBy, hm]

end Valid

theorem Valid.find?_select (h : p.Valid) :
    Keyword.select.word.find? p.text 0 = some p.layout.selectWord := by
  have ht : p.text = [] ++ (p.lead ++ (p.selectWord ++
      ((p.selected ++ p.fromWord) ++ (p.gap ++ p.source ++ p.tail)))) := by
    simp [text_eq]
  have hs := h.select_stands
  have hn : p.selected ++ p.fromWord ≠ [] := by simp [h.from_stands.1.ne_nil]
  rw [ht]
  refine (Keyword.find?_of_absent (u := []) h.select_absent
    (Keyword.severed_of_stands hs) ?_).trans ?_
  · rwa [List.head?_append_of_ne_nil _ hn, List.getLast?_nil, Option.or_none]
  · simp [Span.after]

theorem Valid.find?_from (h : p.Valid) :
    Keyword.source.word.find? p.text p.layout.selectWord.stop = some p.layout.fromWord := by
  have ht : p.text = (p.lead ++ p.selectWord) ++ (p.selected ++ (p.fromWord ++
      ((p.gap ++ p.source) ++ p.tail))) := by
    simp [text_eq]
  have hs := h.from_stands
  have hn : p.gap ++ p.source ≠ [] := by simp [h.source_ne_nil]
  have hsel : p.selected ≠ [] := by
    intro hsel
    obtain ⟨c, rest, hc, hw, -⟩ := hs.1.head
    have ha := h.select_stands.2.2
    rw [hsel, hc] at ha
    simp [hw] at ha
  have hstop : p.layout.selectWord.stop = (p.lead ++ p.selectWord).length := by simp
  rw [hstop, ht, Keyword.find?_of_absent h.from_absent (Keyword.severed_of_stands hs)]
  · simp [Span.after, Nat.add_assoc]
  · rwa [List.head?_append_of_ne_nil _ hn, List.getLast?_eq_some_getLast hsel, Option.some_or,
      ← List.getLast?_eq_some_getLast]

/-- A survey of a valid text finds its pieces, and reads up to the first optional clause. -/
theorem survey_text (h : p.Valid) :
    Layout.survey p.text = ⟨.ok p.layout, some (p.head ++ p.rest).length⟩ := by
  have hsource : p.layout.source = ⟨p.beforeSource.length, p.head.length⟩ := by
    simp [Span.after]
  have hstart : p.text.skipBlanks p.layout.fromWord.stop = p.beforeSource.length := by
    have ht : p.text = (p.beforeFrom ++ p.fromWord) ++ (p.gap ++ (p.source ++ p.tail)) := by
      simp [text_eq, beforeFrom]
    have hstop : p.layout.fromWord.stop = (p.beforeFrom ++ p.fromWord).length := by simp
    rw [ht, hstop, Text.skipBlanks_append h.gap_blank]
    · simp [Nat.add_assoc]
    · obtain ⟨c, rest, hc⟩ := List.exists_cons_of_ne_nil h.source_ne_nil
      have hr := h.source_run
      rw [hc] at hr
      simp at hr
      simp [hc, hr.1]
  have hstop : p.text.skipRun p.beforeSource.length = p.head.length := by
    rw [text, head, List.append_assoc, Text.skipRun_append h.source_run h.tail_head]
  rw [Layout.survey, h.find?_select]
  simp only [h.find?_from]
  have hfound : (p.text.length ≤ p.beforeSource.length ||
      Layout.startsClause p.text p.beforeSource.length) = false := by
    have hl := List.length_pos_iff.2 h.source_ne_nil
    rw [h.startsClause_source, Bool.or_false, decide_eq_false_iff_not]
    simp
    omega
  rw [Layout.surveySource]
  simp only [hstart, hstop, hfound, h.skipBlanks_head, h.startsClause_rest, ← hsource,
    h.withClauses_eq]
  rfl

/-- The layout of a valid text is that of its pieces. -/
theorem locate_text (h : p.Valid) : Layout.locate p.text = .ok p.layout := by
  rw [Layout.locate, survey_text h]

/-! ## segments -/

/-- A word is cut out where it stands. -/
theorem slice_after (u m b : Text) :
    (u ++ (m ++ b)).slice (Span.after u m).start (Span.after u m).stop = m :=
  Text.slice_append_mid u m b

/-- The body of a clause ends at the first keyword behind it. -/
theorem bodyStop_eq {l : Layout} {t : Text} {word : Span} (before after : List Nat)
    (hl : l.clauseStarts = before ++ after) (hb : ∀ n ∈ before, n ≤ word.start)
    (ha : ∀ n ∈ after, word.start < n) (hs : after.Pairwise (· ≤ ·)) :
    l.bodyStop t word = after.head?.getD t.length := by
  have hf : l.clauseStarts.filter (word.start < ·) = after := by
    rw [hl, List.filter_append, List.filter_eq_nil_iff.2, List.filter_eq_self.2, List.nil_append]
    · intro n hn
      simpa using ha n hn
    · intro n hn
      simpa using hb n hn
  rw [Layout.bodyStop, hf, List.min?_eq_head? (hs.imp fun h => Nat.min_eq_left h)]

theorem sourceName_text (p : Pieces) : p.layout.sourceName p.text = p.source := by
  rw [Layout.sourceName, text, head, List.append_assoc]
  exact slice_after _ _ _

theorem selectedSegment_text (p : Pieces) :
    p.layout.selectedSegment p.text = Text.trim p.selected := by
  have ht : p.text = (p.lead ++ p.selectWord) ++ (p.selected ++
      (p.fromWord ++ p.gap ++ p.source ++ p.tail)) := by
    simp [text_eq]
  have hs := Text.slice_append_mid (p.lead ++ p.selectWord) p.selected
    (p.fromWord ++ p.gap ++ p.source ++ p.tail)
  rw [← ht] at hs
  rw [Layout.selectedSegment, ← hs]
  simp [Nat.add_assoc]

/-- The text between a clause and the next. -/
theorem body_text {c : ClausePiece} {before : Text} (after : Text)
    (ht : p.text = p.head ++ (before ++ (c.word ++ c.body ++ after)))
    (hs : p.layout.bodyStop p.text (.after (p.head ++ before) c.word) =
      (p.head ++ before ++ c.word ++ c.body).length) :
    p.layout.body p.text (.after (p.head ++ before) c.word) = Text.trim c.body := by
  have hm := Text.slice_append_mid (p.head ++ before ++ c.word) c.body after
  rw [Layout.body, hs, ht]
  simp only [List.append_assoc, Span.after, List.length_append, Nat.add_assoc] at hm ⊢
  rw [hm]

theorem conditionSegment?_text (h : p.Valid) :
    p.layout.conditionSegment? p.text = p.filter.map (Text.trim ·.body) := by
  cases hc : p.filter with
  | none => simp [Layout.conditionSegment?, hc]
  | some c =>
      have hw := List.length_pos_iff.2 (hc ▸ h.filter_first).2.1.ne_nil
      have hl : p.layout.filterWord = some (.after (p.head ++ p.rest) c.word) := by
        simp [hc]
      rw [Layout.conditionSegment?, hl, Option.map_some, Option.map_some,
        body_text (clauseText p.groupBy ++ clauseText p.orderBy)]
      · simp [text, tail_eq_filter, hc]
      · rw [bodyStop_eq [p.beforeFrom.length, (p.head ++ p.rest).length]
          (([p.layout.groupByWord, p.layout.orderByWord].filterMap id).map Span.start)]
        · cases hg : p.groupBy <;> cases ho : p.orderBy <;> simp [hc, hg, ho]
        · cases hg : p.groupBy <;> cases ho : p.orderBy <;> simp [Layout.clauseStarts, hc, hg, ho]
        · simp
          omega
        · cases hg : p.groupBy <;> cases ho : p.orderBy <;> simp [hc, hg, ho] <;> omega
        · cases hg : p.groupBy <;> cases ho : p.orderBy <;> simp [hg, ho]

theorem groupBySegment?_text (h : p.Valid) :
    p.layout.groupBySegment? p.text = p.groupBy.map (Text.trim ·.body) := by
  cases hc : p.groupBy with
  | none => simp [Layout.groupBySegment?, hc]
  | some c =>
      have hw := List.length_pos_iff.2 (hc ▸ h.groupBy_first).2.1.ne_nil
      have hl : p.layout.groupByWord = some (.after (p.head ++ p.beforeGroupBy) c.word) := by
        simp [hc]
      rw [Layout.groupBySegment?, hl, Option.map_some, Option.map_some,
        body_text (clauseText p.orderBy)]
      · simp [text, tail_eq_groupBy, hc]
      · rw [bodyStop_eq (p.beforeFrom.length ::
            ([p.layout.filterWord, p.layout.groupByWord].filterMap id).map Span.start)
          (([p.layout.orderByWord].filterMap id).map Span.start)]
        · cases ho : p.orderBy <;> simp [hc, ho]
        · cases hf : p.filter <;> cases ho : p.orderBy <;> simp [Layout.clauseStarts, hc, hf, ho]
        · cases hf : p.filter <;> simp [hc, hf] <;> omega
        · cases ho : p.orderBy <;> simp [hc, ho]
          omega
        · cases p.layout.orderByWord <;> simp

theorem orderBySegment?_text (p : Pieces) :
    p.layout.orderBySegment? p.text = p.orderBy.map (Text.trim ·.body) := by
  cases hc : p.orderBy with
  | none => simp [Layout.orderBySegment?, hc]
  | some c =>
      have hl : p.layout.orderByWord = some (.after (p.head ++ p.beforeOrderBy) c.word) := by
        simp [hc]
      rw [Layout.orderBySegment?, hl, Option.map_some, Option.map_some, body_text []]
      · simp [text, tail, hc]
      · rw [bodyStop_eq p.layout.clauseStarts []]
        · simp [hc]
        · simp
        · cases hf : p.filter <;> cases hg : p.groupBy <;>
            simp [Layout.clauseStarts, hc, hf, hg] <;> omega
        · simp
        · simp

/-! ## reading the pieces -/

/-- The entries of a select list as they are read from its text. -/
def selectedTokens (t : Text) : List Text :=
  if Text.trim t = [] then [] else Text.entries (Text.trim t)

/-- `q` is what the pieces hold. -/
structure Reads (options : Options) (p : Pieces) (q : Query) : Prop where
  text_eq : q.text = p.text
  source_eq : q.source = p.source
  selected : Query.parseSelected (selectedTokens p.selected) = .ok (q.fields, q.aggregates)
  filter : Query.parseFilter options (p.filter.map (Text.trim ·.body)) =
    .ok (q.conditions, q.connectives)
  groupBy : Query.parseFields .groupBy (p.groupBy.map (Text.trim ·.body)) = .ok q.groupBy
  orderBy : Query.parseFields .orderBy (p.orderBy.map (Text.trim ·.body)) = .ok q.orderBy

/-- A query is read from its pieces. -/
theorem parse_text_eq_ok_iff {options : Options} {q : Query} (h : p.Valid) :
    Query.parse options p.text = .ok q ↔ p.Reads options q := by
  have hb : Text.isBlankText p.text = false := by
    obtain ⟨c, rest, hc⟩ := List.exists_cons_of_ne_nil h.source_ne_nil
    have hr := List.all_eq_true.1 h.source_run c (by rw [hc]; simp)
    rw [Text.isBlankText, List.all_eq_false]
    exact ⟨c, by simp [text, head, hc], by simpa using hr⟩
  rw [Query.parse, hb, locate_text h]
  change Query.ofLayout options p.text p.layout = .ok q ↔ _
  simp only [Query.ofLayout, Layout.selectedTokens, selectedSegment_text, conditionSegment?_text h,
    groupBySegment?_text h, orderBySegment?_text, sourceName_text,
    bind_eq_ok_iff, Prod.exists]
  constructor
  · intro hp
    obtain ⟨fields, aggregates, hs, conditions, connectives, hf, groupBy, hg, orderBy, ho, hq⟩ := hp
    cases hq
    exact ⟨rfl, rfl, hs, hf, hg, ho⟩
  · intro hr
    refine ⟨_, _, hr.selected, _, _, hr.filter, _, hr.groupBy, _, hr.orderBy, ?_⟩
    rw [← hr.text_eq, ← hr.source_eq]
    rfl

end Pieces

end FlatQuery
