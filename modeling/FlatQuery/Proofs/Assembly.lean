import FlatQuery.Proofs.Aggregate
import FlatQuery.Proofs.Splitting

/-!
# FlatQuery.Proofs.Assembly

A query and its single clauses.

`Query.parse` lays a text out once and reads all clauses from the one layout.  The functions of
`Clauses` lay the text out anew for each clause and report no errors.  Both tell the same.

* `Clauses.problem?` — the first problem of the clauses, each of them read on its own;
* `Clauses.Assembled` — a query that is put together from the clauses;
* `Query.parse_assembled` — reading a query gives the one or the other.
-/

namespace FlatQuery

/-! ## a query from its clauses -/

namespace Clauses

/-- The text has no clause to give. -/
structure Bare (query : Text) : Prop where
  sourceName : sourceName? query = none
  selectedSegment : selectedSegment? query = none
  selectedTokens : selectedTokens query = []
  fields : fields query = []
  aggregateSegments : aggregateSegments query = []
  conditionSegment : conditionSegment? query = none
  conditions : conditions query = []
  connectives : connectives query = []
  groupBySegment : groupBySegment? query = none
  groupByFields : groupByFields query = []
  orderBySegment : orderBySegment? query = none
  orderByFields : orderByFields query = []
  baseQuery : baseQuery? query = none

/-- What may be wrong with the clauses, in the order in which they are read. -/
def problems (options : Options) (query : Text) : List (Option QueryError) := [
  if selectedTokens query = [] then some (.missingClause .select) else none,
  if [] ∈ selectedTokens query then some (.emptyField .selectList) else none,
  (aggregateSegments query).findSome? fun call => errorOf? (Aggregate.parse call),
  if conditionSegment? query = some [] then some (.malformedCondition [] .emptyFilter) else none,
  (conditions query).findSome? fun condition => errorOf? (Condition.parse options condition),
  if [] ∈ groupByFields query then some (.emptyField .groupBy) else none,
  if [] ∈ orderByFields query then some (.emptyField .orderBy) else none]

/-- The first problem of the clauses. -/
def problem? (options : Options) (query : Text) : Option QueryError :=
  (problems options query).findSome? id

/-- `q` is put together from the clauses, each part in the order of its clause. -/
structure Assembled (options : Options) (query : Text) (q : Query) : Prop where
  text : q.text = query
  source : sourceName? query = some q.source
  fields : q.fields = fields query
  aggregates : List.Forall₂ (fun call a => Aggregate.parse call = .ok (some a))
    (aggregateSegments query) q.aggregates
  conditions : List.Forall₂ (fun condition c => Condition.parse options condition = .ok c)
    (conditions query) q.conditions
  connectives : connectives query = q.connectives.map Connective.name
  groupBy : q.groupBy = groupByFields query
  orderBy : q.orderBy = orderByFields query

/-! ## clauses from a layout -/

/-- A text without a layout has no clauses. -/
theorem bare_of_locate {query : Text} {e : QueryError} (h : Layout.locate query = .error e) :
    Bare query := by
  have hnone : ∀ {α : Type} (read : Layout → Text → α), fromLayout? read query = none := by
    intro α read
    rw [fromLayout?, h]
  have htokens : selectedTokens query = [] := by rw [selectedTokens, hnone]; rfl
  have hcondition : conditionSegment? query = none := by rw [conditionSegment?, hnone]; rfl
  have hgroupBy : groupBySegment? query = none := by rw [groupBySegment?, hnone]; rfl
  have horderBy : orderBySegment? query = none := by rw [orderBySegment?, hnone]; rfl
  constructor <;>
    simp [sourceName?, selectedSegment?, fields, aggregateSegments, conditions, connectives,
      groupByFields, orderByFields, baseQuery?, hnone, htokens, hcondition, hgroupBy, horderBy]

section Located

variable {query : Text} {l : Layout} (h : Layout.locate query = .ok l)
include h

/-- A text with a layout gives its clauses. -/
theorem fromLayout?_of_locate {α : Type} (read : Layout → Text → α) :
    fromLayout? read query = some (read l query) := by
  rw [fromLayout?, h]

theorem selectedTokens_of_locate : selectedTokens query = l.selectedTokens query := by
  simp [selectedTokens, fromLayout?_of_locate h]

theorem conditionSegment?_of_locate : conditionSegment? query = l.conditionSegment? query := by
  simp [conditionSegment?, fromLayout?_of_locate h]

theorem groupBySegment?_of_locate : groupBySegment? query = l.groupBySegment? query := by
  simp [groupBySegment?, fromLayout?_of_locate h]

theorem orderBySegment?_of_locate : orderBySegment? query = l.orderBySegment? query := by
  simp [orderBySegment?, fromLayout?_of_locate h]

end Located

end Clauses

/-! ## the errors of the readers -/

theorem findSome?_id_cons (a : Option α) (as : List (Option α)) :
    (a :: as).findSome? id = a.or (as.findSome? id) := by
  cases a <;> rfl

theorem Query.errorOf?_parseSelected (tokens : List Text) :
    errorOf? (parseSelected tokens) = [
      if tokens = [] then some (.missingClause .select) else none,
      if [] ∈ tokens then some (.emptyField .selectList) else none,
      (tokens.filter Aggregate.isCall).findSome? fun call =>
        errorOf? (Aggregate.parse call)].findSome? id := by
  unfold parseSelected
  by_cases hn : tokens = []
  · simp [hn]
  by_cases he : [] ∈ tokens
  · have ha : tokens.any List.isEmpty = true := by simpa using he
    simp [hn, he, ha]
  · have ha : tokens.any List.isEmpty = false := by
      simp only [List.any_eq_false, List.isEmpty_iff]
      rintro _ ht rfl
      exact he ht
    simp [hn, he, ha, Aggregate.parseAll, errorOf?_mapM]

/-- The error of a filter.  The words that join its conditions have none. -/
theorem Query.errorOf?_parseFilter (options : Options) (segment : Option Text) :
    errorOf? (parseFilter options segment) = [
      if segment = some [] then some (.malformedCondition [] .emptyFilter) else none,
      ((segment.map fun t => (Filter.split t).1).getD []).findSome? fun condition =>
        errorOf? (Condition.parse options condition)].findSome? id := by
  cases segment with
  | none => simp [parseFilter]
  | some t =>
      obtain ⟨ops, hops⟩ := Filter.exists_connectives t
      by_cases ht : t = []
      · simp [parseFilter, Filter.parse, ht]
      · have hnames : ∀ conditions : List Condition, errorOf? ((Filter.split t).2.mapM
            Filter.readConnective >>= fun ops => pure (conditions, ops)) = none := by
          intro conditions
          rw [hops, Filter.mapM_readConnective_names]
          rfl
        rw [parseFilter, Filter.parse, if_neg ht, errorOf?_bind hnames, errorOf?_mapM]
        simp [ht]

theorem Query.errorOf?_parseFields (place : FieldPlace) (segment : Option Text) :
    errorOf? (parseFields place segment) =
      if [] ∈ (segment.map Text.entries).getD [] then some (.emptyField place) else none := by
  cases segment with
  | none => simp [parseFields]
  | some t =>
      by_cases he : [] ∈ Text.entries t
      · have ha : (Text.entries t).any List.isEmpty = true := by simpa using he
        simp [parseFields, he, ha]
      · have ha : (Text.entries t).any List.isEmpty = false := by
          simp only [List.any_eq_false, List.isEmpty_iff]
          rintro _ ht rfl
          exact he ht
        simp [parseFields, he, ha]

/-- The first problem of the clauses is the error of the query. -/
theorem Query.errorOf?_ofLayout (options : Options) {t : Text} {l : Layout}
    (h : Layout.locate t = .ok l) :
    errorOf? (ofLayout options t l) = Clauses.problem? options t := by
  have herror : errorOf? (ofLayout options t l) =
      (errorOf? (parseSelected (l.selectedTokens t))).or
        ((errorOf? (parseFilter options (l.conditionSegment? t))).or
          ((errorOf? (parseFields .groupBy (l.groupBySegment? t))).or
            ((errorOf? (parseFields .orderBy (l.orderBySegment? t))).or none))) :=
    errorOf?_bind fun _ => errorOf?_bind fun _ => errorOf?_bind fun _ => errorOf?_bind fun _ => rfl
  rw [herror, errorOf?_parseSelected, errorOf?_parseFilter, errorOf?_parseFields,
    errorOf?_parseFields]
  simp [Clauses.problem?, Clauses.problems, Clauses.aggregateSegments, Clauses.conditions,
    Clauses.groupByFields, Clauses.orderByFields, Clauses.selectedTokens_of_locate h,
    Clauses.conditionSegment?_of_locate h, Clauses.groupBySegment?_of_locate h,
    Clauses.orderBySegment?_of_locate h, findSome?_id_cons, Option.or_assoc]

/-- The words between the conditions of a filter that is read are those of its clause. -/
theorem Query.parseFilter_eq_ok_split {options : Options} {segment : Option Text}
    {conditions : List Condition} {connectives : List Connective}
    (h : parseFilter options segment = .ok (conditions, connectives)) :
    List.Forall₂ (fun u c => Condition.parse options u = .ok c)
        ((segment.map fun t => (Filter.split t).1).getD []) conditions ∧
      ((segment.map fun t => (Filter.split t).2).getD []) =
        connectives.map Connective.name := by
  obtain ⟨rfl, rfl, rfl⟩ | ⟨t, us, ms, rfl, -, hs, hc, rfl⟩ := parseFilter_eq_ok h
  · simp
  · have hsplit := Filter.split_of_splits hs
    constructor
    · simpa [hsplit, List.forall₂_map_left_iff] using hc
    · simp [hsplit]

/-- A query that is read is put together from its clauses. -/
theorem Query.assembled_of_ofLayout {options : Options} {t : Text} {l : Layout} {q : Query}
    (h : Layout.locate t = .ok l) (hq : ofLayout options t l = .ok q) :
    Clauses.Assembled options t q := by
  obtain ⟨⟨fields, aggregates⟩, hs, hq⟩ := bind_eq_ok_iff.1 hq
  obtain ⟨⟨conditions, connectives⟩, hf, hq⟩ := bind_eq_ok_iff.1 hq
  obtain ⟨groupBy, hg, hq⟩ := bind_eq_ok_iff.1 hq
  obtain ⟨orderBy, ho, hq⟩ := bind_eq_ok_iff.1 hq
  cases hq
  obtain ⟨-, -, hfields, haggregates⟩ := parseSelected_eq_ok_iff.1 hs
  obtain ⟨hconditions, hconnectives⟩ := parseFilter_eq_ok_split hf
  exact {
    text := rfl
    source := Clauses.fromLayout?_of_locate h _
    fields := by rw [Clauses.fields, Clauses.selectedTokens_of_locate h, hfields]
    aggregates := by
      rw [Clauses.aggregateSegments, Clauses.selectedTokens_of_locate h]
      exact haggregates
    conditions := by
      rw [Clauses.conditions, Clauses.conditionSegment?_of_locate h]
      exact hconditions
    connectives := by
      rw [Clauses.connectives, Clauses.conditionSegment?_of_locate h]
      exact hconnectives
    groupBy := by
      rw [Clauses.groupByFields, Clauses.groupBySegment?_of_locate h]
      exact (parseFields_eq_ok_iff.1 hg).1
    orderBy := by
      rw [Clauses.orderByFields, Clauses.orderBySegment?_of_locate h]
      exact (parseFields_eq_ok_iff.1 ho).1 }

/-- A query with a known layout is read from it. -/
theorem Query.parse_of_locate {options : Options} {t : Text} {l : Layout}
    (h : Layout.locate t = .ok l) (hb : Text.isBlankText t = false) :
    parse options t = ofLayout options t l := by
  rw [parse, if_neg (by simp [hb]), h, ok_bind]

theorem Query.assembled_of_parse {options : Options} {t : Text} {l : Layout} {q : Query}
    (h : Layout.locate t = .ok l) (hq : parse options t = .ok q) :
    Clauses.Assembled options t q := by
  cases hb : Text.isBlankText t with
  | true =>
      rw [parse, if_pos hb] at hq
      cases hq
  | false =>
      rw [parse_of_locate h hb] at hq
      exact assembled_of_ofLayout h hq

namespace Query

/-- Reading a query gives the first problem of its clauses, each read on its own, or the query that
is put together from them.  A text without a layout has no clauses. -/
theorem parse_assembled (options : Options) (t : Text) :
    if Text.isBlankText t then parse options t = .error .emptyQuery
    else match Layout.locate t with
      | .error e => parse options t = .error e ∧ Clauses.Bare t
      | .ok _ => match Clauses.problem? options t with
        | some e => parse options t = .error e
        | none => ∃ q, parse options t = .ok q ∧ Clauses.Assembled options t q := by
  by_cases hb : Text.isBlankText t = true
  · rw [if_pos hb, parse, if_pos hb]
  rw [if_neg hb]
  cases hl : Layout.locate t with
  | error e =>
      refine ⟨?_, Clauses.bare_of_locate hl⟩
      rw [parse, if_neg hb, hl]
      rfl
  | ok l =>
      have hparse : parse options t = ofLayout options t l :=
        parse_of_locate hl (by simpa using hb)
      have herror := errorOf?_ofLayout options hl
      dsimp only
      cases hp : Clauses.problem? options t with
      | some e =>
          rw [hp] at herror
          rw [hparse, errorOf?_eq_some_iff.1 herror]
      | none =>
          rw [hp] at herror
          obtain ⟨q, hq⟩ := errorOf?_eq_none_iff.1 herror
          exact ⟨q, hparse.trans hq, assembled_of_ofLayout hl hq⟩

end Query

end FlatQuery
