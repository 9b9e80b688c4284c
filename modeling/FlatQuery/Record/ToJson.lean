import FlatQuery.Json.Basic
import FlatQuery.Query.Basic

/-!
# FlatQuery.Record.ToJson

Conditions, aggregates and queries as JSON objects, their fields in the order of the records.
-/

namespace FlatQuery

def Json.ofTexts (ts : List Text) : Json := .array (ts.map .string)

/-- A comparison as its symbol. -/
def Comparison.toJson (op : Comparison) : Json := .string op.symbol

def Connective.toJson (c : Connective) : Json := .string c.name

def AggregateKind.toJson (kind : AggregateKind) : Json := .string kind.name

/-- The fields of a condition. -/
def Condition.toJson (c : Condition) : Json :=
  .object [
    ("property_name".toList, .string c.property),
    ("operator".toList, c.comparison.toJson),
    ("property_value".toList, .string c.value)]

def Aggregate.toJson (a : Aggregate) : Json :=
  .object [("field".toList, .string a.field), ("function".toList, a.kind.toJson)]

/-- The members of a query's object. -/
def Query.toMembers (q : Query) : List (Text × Json) := [
  ("query_string".toList, .string q.text),
  ("source_name".toList, .string q.source),
  ("fields".toList, Json.ofTexts q.fields),
  ("aggregate_functions".toList, .array (q.aggregates.map Aggregate.toJson)),
  ("filter_conditions".toList, .array (q.conditions.map Condition.toJson)),
  ("logical_operators".toList, .array (q.connectives.map Connective.toJson)),
  ("group_by_fields".toList, Json.ofTexts q.groupBy),
  ("order_by_fields".toList, Json.ofTexts q.orderBy)]

def Query.toJson (q : Query) : Json := .object q.toMembers

end FlatQuery
