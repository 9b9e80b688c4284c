import FlatQuery.Proofs.Aggregate
import FlatQuery.Proofs.Splitting
import FlatQuery.Proofs.Survey

/-!
# FlatQuery.Proofs.Tidy

What holds of every query that has been read.

`Query.Tidy` says that names are trimmed, not empty, and free of the characters that would end them,
and that the connectives join the conditions.  Each part of it is shown of the reader of that part.

* `Query.tidy_of_parse_eq_ok` — a query that has been read is tidy.
-/

namespace FlatQuery

/-- An entry of a list of fields: trimmed, not empty, and without commas. -/
structure Text.TidyEntry (t : Text) : Prop where
  trimmed : Trimmed t
  ne_nil : t ≠ []
  no_comma : ',' ∉ t

/-- A field of an aggregate is an entry without parentheses. -/
structure Aggregate.Tidy (a : Aggregate) : Prop where
  entry : Text.TidyEntry a.field
  no_parenthesis : ∀ c ∈ a.field, Call.isParenthesis c = false

/-- The name in a condition is trimmed, not empty, and without comparison signs. -/
structure Condition.Tidy (c : Condition) : Prop where
  trimmed : Text.Trimmed c.property
  ne_nil : c.property ≠ []
  no_sign : ∀ x ∈ c.property, x ≠ '<' ∧ x ≠ '>' ∧ x ≠ '='

/-- What every query that has been read is like. -/
structure Query.Tidy (q : Query) : Prop where
  source_ne_nil : q.source ≠ []
  source_run : ∀ c ∈ q.source, isBlank c = false
  selected : q.fields ≠ [] ∨ q.aggregates ≠ []
  fields : ∀ f ∈ q.fields, Text.TidyEntry f ∧ Aggregate.isCall f = false
  aggregates : ∀ a ∈ q.aggregates, a.Tidy
  conditions : ∀ c ∈ q.conditions, c.Tidy
  connectives : q.connectives.length = q.conditions.length - 1
  groupBy : ∀ f ∈ q.groupBy, Text.TidyEntry f
  orderBy : ∀ f ∈ q.orderBy, Text.TidyEntry f

/-! ## lists -/

/-- An entry that is not empty is tidy. -/
theorem Text.tidyEntry_of_mem_entries {e t : Text} (h : e ∈ entries t) (hn : e ≠ []) :
    TidyEntry e := by
  obtain ⟨ht, hc, -⟩ := exists_cut_of_mem_entries h
  exact ⟨ht, hn, hc⟩

theorem Pieces.mem_entries_of_mem_selectedTokens {e t : Text} (h : e ∈ selectedTokens t) :
    e ∈ Text.entries t := by
  rw [selectedTokens] at h
  split at h
  · cases h
  · rwa [Text.entries_trim] at h

theorem Query.tidy_of_parseFields {place : FieldPlace} {segment : Option Text}
    {fields : List Text} (h : parseFields place segment = .ok fields) :
    ∀ f ∈ fields, Text.TidyEntry f := by
  obtain ⟨he, hn⟩ := parseFields_eq_ok_iff.1 h
  intro f hf
  have hne := hn f hf
  rw [he] at hf
  cases segment with
  | none => cases hf
  | some t => exact Text.tidyEntry_of_mem_entries hf hne

/-! ## the select list -/

theorem Aggregate.tidy_of_parse {t : Text} {a : Aggregate} (ht : ',' ∉ t)
    (h : Aggregate.parse t = .ok (some a)) : a.Tidy := by
  obtain ⟨htr, hp, hn, x, y, rfl, -⟩ := exists_cut_of_parse h
  refine ⟨⟨htr, hn, fun hc => ht (by simp [hc])⟩, fun c hc => ?_⟩
  have hpc := List.all_eq_true.1 hp c hc
  rwa [Bool.not_eq_true'] at hpc

/-- What each item of a list gives has what the items give. -/
theorem forall_of_forall₂ {R : α → β → Prop} {P : β → Prop} {as : List α} {bs : List β}
    (h : List.Forall₂ R as bs) (hp : ∀ a ∈ as, ∀ b, R a b → P b) : ∀ b ∈ bs, P b := by
  induction h with
  | nil => simp
  | @cons a b as bs hab _ ih =>
      intro x hx
      rcases List.mem_cons.1 hx with rfl | hx
      · exact hp a List.mem_cons_self x hab
      · exact ih (fun c hc => hp c (List.mem_cons_of_mem _ hc)) x hx

/-- What is read from a select list is tidy, and is not nothing. -/
theorem Query.tidy_of_parseSelected {t : Text} {fields : List Text} {aggregates : List Aggregate}
    (h : parseSelected (Pieces.selectedTokens t) = .ok (fields, aggregates)) :
    (fields ≠ [] ∨ aggregates ≠ []) ∧
      (∀ f ∈ fields, Text.TidyEntry f ∧ Aggregate.isCall f = false) ∧
      ∀ a ∈ aggregates, a.Tidy := by
  obtain ⟨hn, he, hf, ha⟩ := parseSelected_eq_ok_iff.1 h
  have hentry : ∀ e ∈ Pieces.selectedTokens t, Text.TidyEntry e := fun e hm =>
    Text.tidyEntry_of_mem_entries (Pieces.mem_entries_of_mem_selectedTokens hm) (he e hm)
  refine ⟨?_, ?_, ?_⟩
  · obtain ⟨e, es, hes⟩ := List.exists_cons_of_ne_nil hn
    cases hc : Aggregate.isCall e with
    | false =>
        left
        rw [hf, hes, List.filter_cons_of_pos (by simp [hc])]
        simp
    | true =>
        right
        intro hnil
        rw [hnil, hes, List.filter_cons_of_pos hc] at ha
        cases ha
  · intro f hm
    rw [hf, List.mem_filter, Bool.not_eq_true'] at hm
    exact ⟨hentry f hm.1, hm.2⟩
  · refine forall_of_forall₂ ha fun e hm a hp => ?_
    exact Aggregate.tidy_of_parse (hentry e (List.mem_filter.1 hm).1).no_comma hp

/-! ## conditions -/

theorem Condition.tidy_of_parse {options : Options} {raw : Text} {c : Condition}
    (h : Condition.parse options raw = .ok c) : c.Tidy := by
  obtain ⟨before, after, -, hs, -, hp, hn, -, -⟩ := parse_eq_ok_iff.1 h
  refine ⟨?_, hn, fun x hx => ?_⟩
  · rw [hp]
    exact Text.trimmed_trim before
  · have hx := Comparison.occursIn_eq_false_iff.1 hs x hx
    simp only [Comparison.isSign, Bool.or_eq_false_iff, beq_eq_false_iff_ne] at hx
    exact ⟨hx.1.1, hx.1.2, hx.2⟩

/-- The conditions of a filter are tidy, and one connective fewer joins them. -/
theorem Query.tidy_of_parseFilter {options : Options} {segment : Option Text}
    {conditions : List Condition} {connectives : List Connective}
    (h : parseFilter options segment = .ok (conditions, connectives)) :
    (∀ c ∈ conditions, c.Tidy) ∧ connectives.length = conditions.length - 1 := by
  rcases parseFilter_eq_ok h with ⟨-, rfl, rfl⟩ | ⟨t, us, ms, -, -, hs, hc, rfl⟩
  · exact ⟨by simp, rfl⟩
  · refine ⟨forall_of_forall₂ hc fun u _ c => Condition.tidy_of_parse, ?_⟩
    rw [List.length_map, ← hc.length_eq, Filter.length_of_splits hs, Nat.add_sub_cancel]

/-! ## queries -/

/-- What is read from valid pieces is tidy. -/
theorem Pieces.tidy_of_reads {options : Options} {p : Pieces} {q : Query} (hp : p.Valid)
    (hr : p.Reads options q) : q.Tidy := by
  obtain ⟨hsel, hf, ha⟩ := Query.tidy_of_parseSelected hr.selected
  obtain ⟨hc, hl⟩ := Query.tidy_of_parseFilter hr.filter
  refine ⟨?_, ?_, hsel, hf, ha, hc, hl, Query.tidy_of_parseFields hr.groupBy,
    Query.tidy_of_parseFields hr.orderBy⟩
  · rw [hr.source_eq]
    exact hp.source_ne_nil
  · intro c hc
    rw [hr.source_eq] at hc
    have hb := List.all_eq_true.1 hp.source_run c hc
    rwa [Bool.not_eq_true'] at hb

namespace Query

/-- A query that has been read is tidy. -/
theorem tidy_of_parse_eq_ok {options : Options} {t : Text} {q : Query}
    (h : parse options t = .ok q) : q.Tidy := by
  obtain ⟨p, hp, -, hr⟩ := Pieces.parse_eq_ok_iff.1 h
  exact p.tidy_of_reads hp hr

/-- Such as one with a joining word in a value whose quotes are taken off. -/
theorem tidy_of_parse_unquoted_value : ∃ q, q.Tidy ∧ parse ⟨true⟩
    "SELECT day, sum( cost ) FROM sales WHERE note = 'a or b' and cost>=3 GROUP BY day".toList =
      .ok q := by
  obtain ⟨q, h⟩ := exists_ok_of_isSome (x := parse ⟨true⟩
    "SELECT day, sum( cost ) FROM sales WHERE note = 'a or b' and cost>=3 GROUP BY day".toList)
    (by decide +kernel)
  exact ⟨q, tidy_of_parse_eq_ok h, h⟩

end Query

end FlatQuery
