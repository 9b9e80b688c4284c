import FlatQuery.Proofs.Pieces

/-!
# FlatQuery.Proofs.Bodies

Which keywords the bodies of clauses are free of.

A search for a clause runs over the clauses before it, and over all of them when it finds nothing.
So `group by` does not stand in the body of `where`, nor `order by` in the bodies before it
(`Pieces.Valid.groupBy_absent_filter` and its like), and the keyword of an absent clause stands in
no body (`Pieces.Valid.filter_absent_groupBy` and its like).
-/

namespace FlatQuery

namespace Pieces

/-- The body of a clause, which is empty when there is none. -/
def body? (clause : Option ClausePiece) : Text := (clause.map ClausePiece.body).getD []

theorem First.breaks {k : Keyword} {before after : Text} {clause : Option ClausePiece}
    (h : First k before clause after) : Text.Breaks before (clauseText clause) := by
  cases clause with
  | none => exact .inr rfl
  | some c => exact .inl h.2.2.1

/-- What does not stand in a clause does not stand in its body. -/
theorem First.absent_body {k k' : Keyword} {before after : Text} {clause : Option ClausePiece}
    (h : First k' before clause after) (ha : k.Absent (before ++ clauseText clause)) :
    k.Absent (body? clause) := by
  cases clause with
  | none => exact Keyword.absent_of_isBlankText k rfl
  | some c =>
      rw [clauseText, ← List.append_assoc] at ha
      exact ha.right (.inr (any_head?_of_append h.2.2.2))

namespace Valid

variable {p : Pieces} {k : Keyword}

/-! ## from the clauses to those in front -/

/-- What stands in the clauses before `order by` stands in all of them. -/
theorem absent_beforeOrderBy (h : p.Valid) (ha : k.Absent p.tail) : k.Absent p.beforeOrderBy :=
  ha.left h.orderBy_first.breaks

theorem absent_beforeGroupBy (h : p.Valid) (ha : k.Absent p.beforeOrderBy) :
    k.Absent p.beforeGroupBy :=
  ha.left h.groupBy_first.breaks

/-- Nothing stands behind the source that is looked for there in vain. -/
theorem filter_absent_tail (h : p.Valid) (hf : p.filter = none) : Keyword.filter.Absent p.tail := by
  have hfirst := h.filter_first
  rw [hf] at hfirst
  rw [tail_eq_filter, hf]
  exact hfirst

theorem groupBy_absent_tail (h : p.Valid) (hg : p.groupBy = none) :
    Keyword.groupBy.Absent p.tail := by
  have hfirst := h.groupBy_first
  rw [hg] at hfirst
  rw [tail_eq_groupBy, hg]
  exact hfirst

/-- `group by` does not stand before the first place where it stands. -/
theorem groupBy_absent_beforeGroupBy (h : p.Valid) : Keyword.groupBy.Absent p.beforeGroupBy := by
  cases hg : p.groupBy with
  | none => exact h.absent_beforeGroupBy (h.absent_beforeOrderBy (h.groupBy_absent_tail hg))
  | some c =>
      have hfirst := h.groupBy_first
      rw [hg] at hfirst
      exact hfirst.1

theorem orderBy_absent_beforeOrderBy (h : p.Valid) : Keyword.orderBy.Absent p.beforeOrderBy := by
  have hfirst := h.orderBy_first
  cases ho : p.orderBy with
  | none =>
      rw [ho, First, List.append_nil] at hfirst
      exact hfirst
  | some c =>
      rw [ho] at hfirst
      exact hfirst.1

/-! ## bodies -/

/-- An absent `where` does not stand in the other bodies. -/
theorem filter_absent_groupBy (h : p.Valid) (hf : p.filter = none) :
    Keyword.filter.Absent (body? p.groupBy) :=
  h.groupBy_first.absent_body (h.absent_beforeOrderBy (h.filter_absent_tail hf))

theorem filter_absent_orderBy (h : p.Valid) (hf : p.filter = none) :
    Keyword.filter.Absent (body? p.orderBy) :=
  h.orderBy_first.absent_body (h.filter_absent_tail hf)

/-- `group by` does not stand in the body of `where`. -/
theorem groupBy_absent_filter (h : p.Valid) : Keyword.groupBy.Absent (body? p.filter) :=
  h.filter_first.absent_body h.groupBy_absent_beforeGroupBy

/-- An absent `group by` does not stand in the body of `order by`. -/
theorem groupBy_absent_orderBy (h : p.Valid) (hg : p.groupBy = none) :
    Keyword.groupBy.Absent (body? p.orderBy) :=
  h.orderBy_first.absent_body (h.groupBy_absent_tail hg)

theorem orderBy_absent_filter (h : p.Valid) : Keyword.orderBy.Absent (body? p.filter) :=
  h.filter_first.absent_body (h.absent_beforeGroupBy h.orderBy_absent_beforeOrderBy)

theorem orderBy_absent_groupBy (h : p.Valid) : Keyword.orderBy.Absent (body? p.groupBy) :=
  h.groupBy_first.absent_body h.orderBy_absent_beforeOrderBy

end Valid

end Pieces

end FlatQuery
