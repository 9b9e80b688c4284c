import FlatQuery.Proofs.Canonical
import FlatQuery.Proofs.Grammar
import FlatQuery.Proofs.Tiling

/-!
# FlatQuery.Proofs.Repetition

Clause keywords that stand more than once behind the source.

Only the first place of a keyword counts.  A keyword that stands again stands in the body of its own
clause or of one behind it, and what is read there holds it as text.

* `Pieces.Valid.once_iff` — a keyword stands once when no body holds it;
* `Pieces.Reads.free_iff` — no body holds it when nothing that is read does;
* `Query.once_iff_free` — the two together, for a query that has been read.
-/

namespace FlatQuery

/-- The keyword stands at one place at most behind the source. -/
def Layout.Once (l : Layout) (t : Text) (k : Keyword) : Prop :=
  ∀ i j, l.source.stop ≤ i → l.source.stop ≤ j → (k.word.endAt? t i).isSome = true →
    (k.word.endAt? t j).isSome = true → i = j

/-- The keyword stands in no condition and in no field of `group by` and `order by`. -/
structure Query.Free (q : Query) (k : Keyword) : Prop where
  conditions : ∀ c ∈ q.conditions, k.Absent c.property ∧ k.Absent c.value
  groupBy : ∀ f ∈ q.groupBy, k.Absent f
  orderBy : ∀ f ∈ q.orderBy, k.Absent f

/-- The keyword stands in no body. -/
structure Pieces.Free (p : Pieces) (k : Keyword) : Prop where
  filter : k.Absent (body? p.filter)
  groupBy : k.Absent (body? p.groupBy)
  orderBy : k.Absent (body? p.orderBy)

/-! ## places -/

namespace Keyword

variable {k : Keyword}

/-- The places of a keyword behind a cut between names. -/
theorem isSome_endAt?_append_iff {w t : Text} (hb : Text.Breaks w t) {i : Nat}
    (hi : w.length ≤ i) : (k.word.endAt? (w ++ t) i).isSome = true ↔
      ∃ a m b, t = a ++ (m ++ b) ∧ i = (w ++ a).length ∧ k.Stands a.getLast? m b.head? := by
  rw [isSome_endAt?_iff]
  constructor
  · rintro ⟨x, m, b, ht, rfl, hs⟩
    obtain ⟨a, rfl, rfl⟩ := exists_of_append_eq ht hi
    rw [List.getLast?_append] at hs
    exact ⟨a, m, b, rfl, rfl, hs.of_or_before⟩
  · rintro ⟨a, m, b, rfl, rfl, hs⟩
    refine ⟨w ++ a, m, b, by simp, rfl, ?_⟩
    rw [← List.append_assoc] at hb
    rw [List.getLast?_append]
    exact hs.or_before hb

/-- A keyword that stands behind a text without it stands once when it does not stand again. -/
theorem once_iff_absent {w u m v : Text} (hb : Text.Breaks w (u ++ (m ++ v))) (hu : k.Absent u)
    (hm : k.Stands u.getLast? m v.head?) :
    (∀ i j, w.length ≤ i → w.length ≤ j → (k.word.endAt? (w ++ (u ++ (m ++ v))) i).isSome = true →
      (k.word.endAt? (w ++ (u ++ (m ++ v))) j).isSome = true → i = j) ↔ k.Absent v := by
  constructor
  · intro h a m' b hv hs
    have hfirst := (isSome_endAt?_append_iff hb (i := (w ++ u).length) (by simp)).2
      ⟨u, m, v, rfl, rfl, hm⟩
    have hbreaks : Text.Breaks (w ++ (u ++ m)) v := .inr hm.2.2
    have hagain := (isSome_endAt?_append_iff hbreaks (i := (w ++ (u ++ m) ++ a).length)
      (by simp)).2 ⟨a, m', b, by rw [hv, List.append_assoc], rfl, hs⟩
    rw [List.append_assoc, List.append_assoc u] at hagain
    have heq := h _ _ (by simp) (by simp) hfirst hagain
    have hpos := List.length_pos_iff.2 hm.1.ne_nil
    simp only [List.length_append] at heq
    omega
  · intro hv
    have hplace : ∀ i, w.length ≤ i →
        (k.word.endAt? (w ++ (u ++ (m ++ v))) i).isSome = true → i = (w ++ u).length := by
      intro i hi hs
      obtain ⟨a, m', b, ht, rfl, hs'⟩ := (isSome_endAt?_append_iff hb hi).1 hs
      rw [List.length_append, List.length_append, hu.length_eq_of_stands hv hm hs' ht]
    intro i j hi hj hsi hsj
    rw [hplace i hi hsi, hplace j hj hsj]

end Keyword

/-! ## bodies -/

namespace Pieces

/-- Another keyword stands in a clause and what comes before it when it stands in one of them. -/
theorem First.absent_clause_iff {k k' : Keyword} (hk : k ≠ k') {u v after : Text}
    {clause : Option ClausePiece} (h : First k' (u ++ v) clause after) :
    k.Absent (v ++ clauseText clause) ↔ k.Absent v ∧ k.Absent (body? clause) := by
  cases clause with
  | none =>
      rw [clauseText, List.append_nil]
      exact (and_iff_left (Keyword.absent_of_isBlankText k rfl)).symm
  | some c =>
      have hs := h.2
      rw [List.getLast?_append, List.head?_append] at hs
      have hs := hs.of_or_before.of_or_after
      exact Keyword.absent_join_iff hs hk

namespace Valid

variable {p : Pieces} {k : Keyword}

/-- What does not stand behind the source stands in no body. -/
theorem free_of_absent_tail (h : p.Valid) (ha : k.Absent p.tail) : p.Free k where
  filter := h.filter_first.absent_body (h.absent_beforeGroupBy (h.absent_beforeOrderBy ha))
  groupBy := h.groupBy_first.absent_body (h.absent_beforeOrderBy ha)
  orderBy := h.orderBy_first.absent_body ha

theorem breaks_head (h : p.Valid) : Text.Breaks p.head p.tail :=
  .inr (isWordChar_head?_of_all h.tail_head)

/-- What does not stand behind the source stands there once at most, and in no body. -/
theorem iff_of_absent_tail (h : p.Valid) (ha : k.Absent p.tail) :
    p.layout.Once p.text k ↔ p.Free k := by
  refine iff_of_true ?_ (h.free_of_absent_tail ha)
  intro i j hi _ hs _
  rw [source_stop] at hi
  obtain ⟨a, m, b, ht, -, hs⟩ := (Keyword.isSome_endAt?_append_iff h.breaks_head hi).1 hs
  exact absurd hs (ha a m b (by rw [ht, List.append_assoc]))

/-- A keyword that stands behind the source stands once when it does not stand again. -/
theorem once_iff_of_stands (h : p.Valid) {before word body : Text}
    (ht : p.tail = before ++ (word ++ body)) (ha : k.Absent before)
    (hs : k.Stands before.getLast? word body.head?) :
    p.layout.Once p.text k ↔ k.Absent body := by
  have hb := h.breaks_head
  rw [ht] at hb
  rw [Layout.Once, source_stop, text, ht]
  exact Keyword.once_iff_absent hb ha hs

/-- `where` stands once when it stands in no body. -/
theorem once_filter_iff (h : p.Valid) : p.layout.Once p.text .filter ↔ p.Free .filter := by
  cases hF : p.filter with
  | none => exact h.iff_of_absent_tail (h.filter_absent_tail hF)
  | some c =>
      have hf := h.filter_first
      have hg := h.groupBy_first
      have ho := h.orderBy_first
      rw [hF] at hf
      rw [beforeGroupBy, hF, clauseText, ← List.append_assoc] at hg
      rw [beforeOrderBy, beforeGroupBy, hF, clauseText, ← List.append_assoc,
        List.append_assoc (p.rest ++ c.word)] at ho
      rw [h.once_iff_of_stands (by rw [tail_eq_filter, hF, clauseText, List.append_assoc]) hf.1
        hf.2, ← List.append_assoc, ho.absent_clause_iff (by decide),
        hg.absent_clause_iff (by decide)]
      constructor
      · rintro ⟨⟨hb, hgb⟩, hob⟩
        exact ⟨by rwa [hF], hgb, hob⟩
      · intro hfree
        have hb := hfree.filter
        rw [hF] at hb
        exact ⟨⟨hb, hfree.groupBy⟩, hfree.orderBy⟩

/-- `group by` never stands in the body of `where`. -/
theorem once_groupBy_iff (h : p.Valid) : p.layout.Once p.text .groupBy ↔ p.Free .groupBy := by
  cases hG : p.groupBy with
  | none => exact h.iff_of_absent_tail (h.groupBy_absent_tail hG)
  | some c =>
      have hg := h.groupBy_first
      have ho := h.orderBy_first
      rw [hG] at hg
      rw [beforeOrderBy, hG, clauseText, ← List.append_assoc] at ho
      rw [h.once_iff_of_stands (by rw [tail_eq_groupBy, hG, clauseText, List.append_assoc]) hg.1
        hg.2, ho.absent_clause_iff (by decide)]
      constructor
      · rintro ⟨hb, hob⟩
        exact ⟨h.groupBy_absent_filter, by rwa [hG], hob⟩
      · intro hfree
        have hb := hfree.groupBy
        rw [hG] at hb
        exact ⟨hb, hfree.orderBy⟩

/-- `order by` never stands in the bodies before its own. -/
theorem once_orderBy_iff (h : p.Valid) : p.layout.Once p.text .orderBy ↔ p.Free .orderBy := by
  cases hO : p.orderBy with
  | none =>
      refine h.iff_of_absent_tail ?_
      rw [tail, hO, clauseText, List.append_nil]
      exact h.orderBy_absent_beforeOrderBy
  | some c =>
      have ho := h.orderBy_first
      rw [hO] at ho
      rw [h.once_iff_of_stands (by rw [tail_eq_orderBy, hO, clauseText, List.append_assoc]) ho.1
        ho.2, List.append_nil]
      constructor
      · intro hb
        exact ⟨h.orderBy_absent_filter, h.orderBy_absent_groupBy, by rwa [hO]⟩
      · intro hfree
        have hb := hfree.orderBy
        rwa [hO] at hb

/-- A search behind the source finds the keyword of a clause where the layout has it. -/
theorem find?_optional (h : p.Valid) (hk : k ∈ Keyword.optionalClauses) :
    k.word.find? p.text p.head.length = p.layout.word? k := by
  simp only [Keyword.mem_optionalClauses_iff] at hk
  rcases hk with rfl | rfl | rfl
  · exact h.find?_filter
  · exact h.find?_groupBy
  · exact h.find?_orderBy

/-- A keyword stands once behind the source when it stands in no body. -/
theorem once_iff (h : p.Valid) (hk : k ∈ Keyword.optionalClauses) :
    p.layout.Once p.text k ↔ p.Free k := by
  simp only [Keyword.mem_optionalClauses_iff] at hk
  rcases hk with rfl | rfl | rfl
  · exact h.once_filter_iff
  · exact h.once_groupBy_iff
  · exact h.once_orderBy_iff

end Valid

end Pieces

/-! ## what is read from the bodies -/

namespace Keyword

variable {k : Keyword}

/-- A keyword stands in a value when it stands in what is stored of it. -/
theorem absent_normalize_iff (options : Options) {value : Text} :
    k.Absent (options.normalize value) ↔ k.Absent value := by
  rw [Options.normalize]
  split
  · next inner hi =>
      obtain ⟨quote, hq, rfl⟩ := unquote?_eq_some_iff.1 hi
      split
      · have hw := Filter.isWordChar_of_isQuote hq
        exact ⟨Operand.Value.absent_quoted hq,
          fun h => Absent.mid (u := [quote]) (w := [quote]) h (.inl hw) (.inr hw)⟩
      · rfl
  · rfl

end Keyword

/-- The items of two lists that are related one by one have what corresponds. -/
theorem forall_iff_of_forall₂ {R : α → β → Prop} {P : α → Prop} {Q : β → Prop} {as : List α}
    {bs : List β} (h : List.Forall₂ R as bs) (hr : ∀ a b, R a b → (P a ↔ Q b)) :
    (∀ a ∈ as, P a) ↔ ∀ b ∈ bs, Q b := by
  induction h with
  | nil => simp
  | @cons a b as bs hab _ ih => rw [List.forall_mem_cons, List.forall_mem_cons, hr a b hab, ih]

/-- A keyword stands in a condition when it stands on one side of what is stored. -/
theorem Condition.absent_iff {k : Keyword} {options : Options} {raw : Text} {c : Condition}
    (h : parse options raw = .ok c) : k.Absent raw ↔ k.Absent c.property ∧ k.Absent c.value := by
  obtain ⟨before, after, hd, -, -, hp, -, -, hv⟩ := parse_eq_ok_iff.1 h
  have hraw := Text.eq_of_cut (Comparison.divide?_eq_some_iff.1 hd).1
  rw [List.append_assoc] at hraw
  rw [← Keyword.absent_trim_iff, hraw, Filter.absent_comparison_iff, hp, hv,
    Keyword.absent_normalize_iff, Keyword.absent_trim_iff, Keyword.absent_trim_iff]

namespace Query

variable {k : Keyword}

/-- A keyword that joins no conditions stands in the body of a filter when it stands in a
condition. -/
theorem absent_conditions_iff {options : Options} {clause : Option ClausePiece}
    {conditions : List Condition} {connectives : List Connective} (hk : k ∉ Keyword.connectives)
    (h : parseFilter options (clause.map (Text.trim ·.body)) = .ok (conditions, connectives)) :
    (∀ c ∈ conditions, k.Absent c.property ∧ k.Absent c.value) ↔
      k.Absent (Pieces.body? clause) := by
  rcases parseFilter_eq_ok h with ⟨hn, rfl, rfl⟩ | ⟨t, us, ms, ht, -, hs, hc, rfl⟩
  · rw [Option.map_eq_none_iff.1 hn]
    exact iff_of_true (by simp) (Keyword.absent_of_isBlankText k rfl)
  · obtain ⟨c, rfl, rfl⟩ := Option.map_eq_some_iff.1 ht
    rw [← forall_iff_of_forall₂ hc fun u c hu => Condition.absent_iff hu,
      ← Filter.absent_iff_of_splits hs hk]
    exact Keyword.absent_trim_iff

end Query

/-- A keyword stands in no body when it stands in nothing that is read from the bodies. -/
theorem Pieces.Reads.free_iff {options : Options} {p : Pieces} {q : Query} {k : Keyword}
    (h : p.Reads options q) (hk : k ∉ Keyword.connectives) : p.Free k ↔ q.Free k := by
  have hf := Query.absent_conditions_iff hk h.filter
  have hg := Query.absent_fields_iff (k := k) h.groupBy
  have ho := Query.absent_fields_iff (k := k) h.orderBy
  constructor
  · intro hfree
    exact ⟨hf.2 hfree.filter, hg.2 hfree.groupBy, ho.2 hfree.orderBy⟩
  · intro hfree
    exact ⟨hf.1 hfree.conditions, hg.1 hfree.groupBy, ho.1 hfree.orderBy⟩

namespace Query

/-! ## repeated clauses -/

/-- In a query that has been read the keyword of a clause counts where it first stands behind the
source.  It stands there once at most just when nothing that is read holds it.  What may hold it is
the clause itself and those behind it: in no condition stands `group by` or `order by`, and in no
field of `group by` stands `order by`. -/
theorem once_iff_free {options : Options} {t : Text} {q : Query} (h : parse options t = .ok q) :
    ∃ l, Layout.locate t = .ok l ∧
      (∀ k ∈ Keyword.optionalClauses, ∀ i, l.source.stop ≤ i → (k.word.endAt? t i).isSome = true →
        ∃ w, l.word? k = some w ∧ w.start ≤ i) ∧
      (∀ k ∈ Keyword.optionalClauses, l.Once t k ↔ q.Free k) ∧
      (∀ k ∈ Keyword.filter.barred, ∀ c ∈ q.conditions, k.Absent c.property ∧ k.Absent c.value) ∧
      ∀ k ∈ Keyword.groupBy.barred, ∀ f ∈ q.groupBy, k.Absent f := by
  obtain ⟨p, hp, rfl, hr⟩ := Pieces.parse_eq_ok_iff.1 h
  have hjoins : ∀ k ∈ Keyword.optionalClauses, k ∉ Keyword.connectives := by decide
  refine ⟨p.layout, Pieces.locate_text hp, fun k hk i hi hs => ?_, fun k hk => ?_, fun k hk => ?_,
    fun k hk => ?_⟩
  · obtain ⟨w, hw, hle⟩ := Keyword.find?_le hi hs
    rw [Pieces.source_stop, hp.find?_optional hk] at hw
    exact ⟨w, hw, hle⟩
  · exact (hp.once_iff hk).trans (hr.free_iff (hjoins k hk))
  · rcases Keyword.mem_barred_filter.1 hk with rfl | rfl
    · exact (absent_conditions_iff (by decide) hr.filter).2 hp.groupBy_absent_filter
    · exact (absent_conditions_iff (by decide) hr.filter).2 hp.orderBy_absent_filter
  · obtain rfl := Keyword.mem_barred_groupBy.1 hk
    exact (absent_fields_iff hr.groupBy).2 hp.orderBy_absent_groupBy

/-- Such as one in which `where` stands again in every clause, and `group by` does not. -/
theorem not_once_where_in_every_clause : ∃ q l,
    parse {} "select a from t where n = where group by b , where order by where c".toList = .ok q ∧
    Layout.locate "select a from t where n = where group by b , where order by where c".toList =
      .ok l ∧
    q.conditions = [⟨['n'], .eq, "where".toList⟩] ∧ q.groupBy = [['b'], "where".toList] ∧
    q.orderBy = ["where c".toList] ∧
    ¬ l.Once "select a from t where n = where group by b , where order by where c".toList .filter ∧
    l.Once "select a from t where n = where group by b , where order by where c".toList .groupBy := by
  have hq : parse {} "select a from t where n = where group by b , where order by where c".toList =
      .ok ⟨"select a from t where n = where group by b , where order by where c".toList, ['t'], [['a']],
        [], [⟨['n'], .eq, "where".toList⟩], [], [['b'], "where".toList], ["where c".toList]⟩ := by
    decide +kernel
  obtain ⟨l, hl, -, honce, -, -⟩ := once_iff_free hq
  refine ⟨_, l, hq, hl, rfl, rfl, rfl, fun h => ?_, (honce .groupBy (by decide)).2 ?_⟩
  · have habsent := ((honce .filter (by decide)).1 h).groupBy _
      (List.mem_cons_of_mem _ List.mem_cons_self)
    exact absurd habsent (by decide)
  · exact ⟨by decide, by decide, by decide⟩

/-- A query is accepted with a clause behind one that should follow it, when the clause stands in
its place as well. -/
theorem exists_repeated_clause : ∃ q l,
    parse {} "select a from t where b = 1 group by c where d".toList = .ok q ∧
    Layout.locate "select a from t where b = 1 group by c where d".toList = .ok l ∧
    l.source.stop ≤ 16 ∧
    (Keyword.filter.word.endAt? "select a from t where b = 1 group by c where d".toList 16).isSome ∧
    (Keyword.filter.word.endAt? "select a from t where b = 1 group by c where d".toList 39).isSome ∧
    q.groupBy = ["c where d".toList] ∧ ¬ Keyword.filter.Absent "c where d".toList ∧
    (∀ c ∈ "select a from t where b = 1 group by c where d".toList, isQuote c = false) := by
  have hq : parse {} "select a from t where b = 1 group by c where d".toList =
      .ok ⟨"select a from t where b = 1 group by c where d".toList, ['t'], [['a']],
        [], [⟨['b'], .eq, ['1']⟩], [], ["c where d".toList], []⟩ := by
    decide +kernel
  have hl : Layout.locate "select a from t where b = 1 group by c where d".toList =
      .ok ⟨⟨0, 6⟩, ⟨9, 13⟩, ⟨14, 15⟩, some ⟨16, 21⟩, some ⟨28, 36⟩, none⟩ := by decide +kernel
  have hbare : ("select a from t where b = 1 group by c where d".toList.all (!isQuote ·)) = true := by
    decide +kernel
  refine ⟨_, _, hq, hl, by decide, by decide +kernel, by decide +kernel, rfl, by decide,
    fun c hc => ?_⟩
  simpa using List.all_eq_true.1 hbare c hc

end Query

end FlatQuery
