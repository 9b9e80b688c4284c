import FlatQuery.Proofs.Assembly
import FlatQuery.Proofs.Selection
import Mathlib.Data.List.Basic

/-!
# FlatQuery.Proofs.Filing

Every entry of a select list is filed once, with the fields or with the aggregates.

* `Text.CutAt` — a text cut at its separators, of which there is one less than pieces;
* `Entry.merge` — fields and aggregates put back where the entries of the list are;
* `Query.filed_of_parseSelected` — the entries of a list are filed as they are read;
* `Query.filed_of_parse` — so are those of a query.
-/

namespace FlatQuery

/-! ## pieces of a text -/

namespace Text

/-- The pieces are what stands between the separators of the text. -/
structure CutAt (separator : Char) (t : Text) (pieces : List Text) : Prop where
  ne_nil : pieces ≠ []
  free : ∀ p ∈ pieces, separator ∉ p
  join_eq : join [separator] pieces = t

/-- There is one piece more than separators. -/
theorem CutAt.length_eq {separator : Char} {t : Text} {pieces : List Text}
    (h : CutAt separator t pieces) : pieces.length = t.count separator + 1 := by
  obtain ⟨hn, hfree, rfl⟩ := h
  induction pieces with
  | nil => exact absurd rfl hn
  | cons p pieces ih =>
      have hp := List.count_eq_zero.2 (hfree p List.mem_cons_self)
      cases pieces with
      | nil => rw [join, List.intercalate_singleton, hp, List.length_singleton]
      | cons p' pieces =>
          have ih := ih (by simp) fun p hp => hfree p (List.mem_cons_of_mem _ hp)
          rw [join] at ih ⊢
          rw [List.length_cons, ih, List.intercalate_cons_cons, List.count_append,
            List.count_append, hp, List.count_singleton_self]
          omega

/-- A text is cut into the pieces that it is split into. -/
theorem cutAt_splitOn (separator : Char) (t : Text) :
    CutAt separator t (splitOn separator t) := by
  refine ⟨splitOn_ne_nil _ _, fun p hp => (exists_cut_of_mem_splitOn hp).1, ?_⟩
  induction t using separator_induction separator with
  | one u hu => rw [splitOn_of_notMem hu, join, List.intercalate_singleton]
  | more u v hu ih =>
      obtain ⟨p, pieces, hv⟩ := List.exists_cons_of_ne_nil (splitOn_ne_nil separator v)
      rw [join] at ih ⊢
      rw [splitOn_append_cons hu, hv, List.intercalate_cons_cons, ← hv, ih]
      simp

end Text

/-! ## filed entries -/

instance Aggregate.decidableParseNone : DecidablePred fun t => Aggregate.parse t = .ok none :=
  fun _ => decidable_of_iff _ parse_eq_ok_none_iff.symm

namespace Entry

/-- What an entry of a select list is read as. -/
inductive ReadFrom : Text → Entry → Prop where
  | field {t : Text} : Aggregate.parse t = .ok none → ReadFrom t (.field t)
  | call {t : Text} {a : Aggregate} : Aggregate.parse t = .ok (some a) → ReadFrom t (.call a)

/-- The fields and the aggregates in one list: the next aggregate where the text is a call, and the
next field where it is none; `none` when too few or too many are there. -/
def merge : List Text → List Text → List Aggregate → Option (List Entry)
  | [], [], [] => some []
  | [], _, _ => none
  | t :: texts, fields, aggregates =>
      if Aggregate.isCall t then
        match aggregates with
        | [] => none
        | a :: aggregates => (merge texts fields aggregates).map (call a :: ·)
      else
        match fields with
        | [] => none
        | f :: fields => (merge texts fields aggregates).map (field f :: ·)

/-- Plain texts and what the calls are read as are put back where they were. -/
theorem exists_merge_eq {texts : List Text} {aggregates : List Aggregate}
    (h : List.Forall₂ (fun t a => Aggregate.parse t = .ok (some a))
      (texts.filter Aggregate.isCall) aggregates) :
    ∃ entries, merge texts (texts.filter (!Aggregate.isCall ·)) aggregates = some entries ∧
      List.Forall₂ ReadFrom texts entries := by
  induction texts generalizing aggregates with
  | nil =>
      cases h
      exact ⟨[], rfl, .nil⟩
  | cons t texts ih =>
      cases hc : Aggregate.isCall t with
      | false =>
          rw [List.filter_cons_of_neg (by simp [hc])] at h
          obtain ⟨entries, hm, hr⟩ := ih h
          refine ⟨.field t :: entries, ?_, .cons (.field (Aggregate.parse_eq_ok_none_iff.2 hc)) hr⟩
          rw [List.filter_cons_of_pos (by simp [hc])]
          simp [merge, hc, hm]
      | true =>
          rw [List.filter_cons_of_pos hc] at h
          obtain ⟨a, aggregates, ha, hrest, rfl⟩ := List.forall₂_cons_left_iff.1 h
          obtain ⟨entries, hm, hr⟩ := ih hrest
          refine ⟨.call a :: entries, ?_, .cons (.call ha) hr⟩
          rw [List.filter_cons_of_neg (by simp [hc])]
          simp [merge, hc, hm]

example : merge ["day".toList, "MAX( cost )".toList, "note".toList] ["day".toList, "note".toList]
    [⟨"cost".toList, .max⟩] =
      some [.field "day".toList, .call ⟨"cost".toList, .max⟩, .field "note".toList] := by decide

end Entry

namespace Query

/-- The entries of a select list are filed: those that are read as no aggregate are the fields, and
the others are read as the aggregates, one by one.  Merged they are the entries again. -/
structure Filed (texts fields : List Text) (aggregates : List Aggregate) : Prop where
  fields_eq : fields = texts.filter fun t => Aggregate.parse t = .ok none
  read : List.Forall₂ (fun t a => Aggregate.parse t = .ok (some a))
    (texts.filter fun t => Aggregate.parse t ≠ .ok none) aggregates
  merged : ∃ entries, Entry.merge texts fields aggregates = some entries ∧
    List.Forall₂ Entry.ReadFrom texts entries

/-- Each entry is filed once. -/
theorem Filed.length_eq {texts fields : List Text} {aggregates : List Aggregate}
    (h : Filed texts fields aggregates) : fields.length + aggregates.length = texts.length := by
  rw [h.fields_eq, ← h.read.length_eq,
    texts.length_eq_length_filter_add fun t => Aggregate.parse t = .ok none]
  simp

/-- The entries of a list are filed as they are read. -/
theorem filed_of_parseSelected {texts fields : List Text} {aggregates : List Aggregate}
    (h : parseSelected texts = .ok (fields, aggregates)) : Filed texts fields aggregates := by
  obtain ⟨-, -, rfl, ha⟩ := parseSelected_eq_ok_iff.1 h
  refine ⟨?_, ?_, Entry.exists_merge_eq ha⟩
  · simp [Aggregate.parse_eq_ok_none_iff]
  · simpa [Aggregate.parse_eq_ok_none_iff] using ha

/-- A select list that is read is not blank, so all its entries are read. -/
theorem parseSelected_entries {t : Text} {fields : List Text} {aggregates : List Aggregate}
    (h : parseSelected (Pieces.selectedTokens t) = .ok (fields, aggregates)) :
    parseSelected (Text.entries (Text.trim t)) = .ok (fields, aggregates) := by
  rw [Pieces.selectedTokens] at h
  split at h
  · exact absurd rfl (parseSelected_eq_ok_iff.1 h).1
  · exact h

/-- In a query that is read the pieces between the commas of the select list, trimmed, are filed as
fields and aggregates: none is lost, and none is filed twice. -/
theorem filed_of_parse {options : Options} {t : Text} {q : Query}
    (h : parse options t = .ok q) : ∃ segment pieces,
      Clauses.selectedSegment? t = some segment ∧ segment.CutAt ',' pieces ∧
      q.fields.length + q.aggregates.length = segment.count ',' + 1 ∧
      Filed (pieces.map Text.trim) q.fields q.aggregates := by
  obtain ⟨p, hp, rfl, hr⟩ := Pieces.parse_eq_ok_iff.1 h
  have hsegment : Clauses.selectedSegment? p.text = some (Text.trim p.selected) := by
    rw [Clauses.selectedSegment?, Clauses.fromLayout?_of_locate (Pieces.locate_text hp),
      Pieces.selectedSegment_text]
  have hcut := Text.cutAt_splitOn ',' (Text.trim p.selected)
  have hfiled : Filed ((Text.splitOn ',' (Text.trim p.selected)).map Text.trim) _ _ :=
    filed_of_parseSelected (parseSelected_entries hr.selected)
  refine ⟨Text.trim p.selected, _, hsegment, hcut, ?_, hfiled⟩
  rw [hfiled.length_eq, List.length_map, hcut.length_eq]

/-- Such as one with calls between plain entries. -/
theorem filed_calls_between_fields : ∃ q, parse ⟨false⟩
    "select day, MAX( cost ) ,note,count(id) from sales".toList = .ok q ∧ ∃ segment pieces,
      Clauses.selectedSegment? "select day, MAX( cost ) ,note,count(id) from sales".toList =
        some segment ∧ segment.CutAt ',' pieces ∧
      q.fields.length + q.aggregates.length = segment.count ',' + 1 ∧
      Filed (pieces.map Text.trim) q.fields q.aggregates :=
  exists_ok_and (by decide +kernel) fun _ h => filed_of_parse h

end Query

end FlatQuery
