import FlatQuery.Clauses

/-!
# FlatQuery.Query.Basic

The structured form of a query, and the texts that it is shown as.

* `Query.render` writes the query in the query language;
* `Query.summary` shows its parts one by one;
* `Query.annotatedSummary` adds the text that the query was read from.
-/

namespace FlatQuery

/-- A query that has been read.  The connective at place `i` joins the conditions at `i` and
`i + 1`. -/
structure Query where
  /-- The text that it was read from. -/
  text : Text
  source : Text
  fields : List Text
  aggregates : List Aggregate
  conditions : List Condition
  connectives : List Connective
  groupBy : List Text
  orderBy : List Text
deriving DecidableEq

namespace Query

def hasFilter (q : Query) : Bool := !q.conditions.isEmpty

def hasAggregates (q : Query) : Bool := !q.aggregates.isEmpty

def hasGroupBy (q : Query) : Bool := !q.groupBy.isEmpty

def hasOrderBy (q : Query) : Bool := !q.orderBy.isEmpty

/-- The part of the query before its optional clauses, read again from its text. -/
def baseQuery (q : Query) : Text := (Clauses.baseQuery? q.text).getD []

/-! ## as text -/

/-- Parts of a list, with a comma and a space between neighbours. -/
def listed (parts : List Text) : Text := Text.join ", ".toList parts

/-- Conditions with the connectives between them. -/
def renderFilter : List Condition → List Connective → Text
  | [], _ => []
  | [c], _ => c.render
  | c :: more, [] => c.render ++ ' ' :: renderFilter more []
  | c :: more, op :: ops => c.render ++ [' '] ++ op.name ++ [' '] ++ renderFilter more ops

/-- A clause with its body, or nothing when the body has no parts. -/
def renderClause (k : Keyword) (parts : List Text) (body : Text) : Text :=
  if parts.isEmpty then [] else [' '] ++ k.name ++ [' '] ++ body

/-- The query written in the query language, fields before aggregates. -/
def render (q : Query) : Text :=
  Keyword.select.name ++ [' '] ++ listed (q.fields ++ q.aggregates.map Aggregate.render)
    ++ [' '] ++ Keyword.source.name ++ [' '] ++ q.source
    ++ renderClause .filter (q.conditions.map Condition.render)
        (renderFilter q.conditions q.connectives)
    ++ renderClause .groupBy q.groupBy (listed q.groupBy)
    ++ renderClause .orderBy q.orderBy (listed q.orderBy)

/-- One part of a summary: a name and a list between brackets. -/
def summaryList (name : String) (parts : List Text) : Text :=
  ", ".toList ++ name.toList ++ "=[".toList ++ listed parts ++ [']']

/-- The parts of the query one by one. -/
def summary (q : Query) : Text :=
  "ParsedQuery(source=".toList ++ q.source
    ++ summaryList "fields" q.fields
    ++ summaryList "aggregates" (q.aggregates.map Aggregate.render)
    ++ summaryList "conditions" (q.conditions.map Condition.render)
    ++ summaryList "operators" (q.connectives.map Connective.name)
    ++ summaryList "group_by" q.groupBy
    ++ summaryList "order_by" q.orderBy ++ [')']

/-- The summary together with the text that the query was read from. -/
def annotatedSummary (q : Query) : Text := q.summary ++ " <- '".toList ++ q.text ++ ['\'']

end Query

end FlatQuery
