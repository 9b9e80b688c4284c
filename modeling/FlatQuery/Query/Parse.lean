import FlatQuery.Query.Basic

/-!
# FlatQuery.Query.Parse

Reading a query.  `Query.parse` surveys the text once and reads each clause from its segment; the
first problem in the order source, select list, conditions, groups, order is the error.
-/

namespace FlatQuery

namespace Query

/-- The entries of a list of fields; none of them may be empty. -/
def parseFields (place : FieldPlace) : Option Text → Except QueryError (List Text)
  | none => .ok []
  | some segment =>
      if (Text.entries segment).any List.isEmpty then .error (.emptyField place)
      else .ok (Text.entries segment)

/-- The entries of the select list: the plain ones as fields, the calls as aggregates. -/
def parseSelected (tokens : List Text) : Except QueryError (List Text × List Aggregate) :=
  if tokens.isEmpty then .error (.missingClause .select)
  else if tokens.any List.isEmpty then .error (.emptyField .selectList)
  else do
    let aggregates ← Aggregate.parseAll (tokens.filter Aggregate.isCall)
    return (tokens.filter (!Aggregate.isCall ·), aggregates)

/-- The conditions of a filter and their connectives; no filter has neither. -/
def parseFilter (options : Options) :
    Option Text → Except QueryError (List Condition × List Connective)
  | none => .ok ([], [])
  | some segment => Filter.parse options segment

/-- The query with a known layout. -/
def ofLayout (options : Options) (t : Text) (layout : Layout) : Except QueryError Query := do
  let (fields, aggregates) ← parseSelected (layout.selectedTokens t)
  let (conditions, connectives) ← parseFilter options (layout.conditionSegment? t)
  let groupBy ← parseFields .groupBy (layout.groupBySegment? t)
  let orderBy ← parseFields .orderBy (layout.orderBySegment? t)
  return ⟨t, layout.sourceName t, fields, aggregates, conditions, connectives, groupBy, orderBy⟩

def parse (options : Options) (t : Text) : Except QueryError Query :=
  if Text.isBlankText t then .error .emptyQuery
  else do
    let layout ← Layout.locate t
    ofLayout options t layout

end Query

end FlatQuery
