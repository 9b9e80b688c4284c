import FlatQuery.Aggregate
import FlatQuery.Filter
import FlatQuery.Layout

/-!
# FlatQuery.Clauses

Single clauses of a query, each read from the text of the query alone.  A clause of a text that has
no layout, or that lacks the clause, is absent: `none`, or an empty list.
-/

namespace FlatQuery

namespace Clauses

/-- What a layout tells of a query, if it has one. -/
def fromLayout? (read : Layout → Text → α) (query : Text) : Option α :=
  match Layout.locate query with
  | .ok layout => some (read layout query)
  | .error _ => none

def sourceName? (query : Text) : Option Text := fromLayout? Layout.sourceName query

/-- The trimmed text between `select` and `from`. -/
def selectedSegment? (query : Text) : Option Text := fromLayout? Layout.selectedSegment query

/-- The entries of the select list. -/
def selectedTokens (query : Text) : List Text := (fromLayout? Layout.selectedTokens query).getD []

/-- The entries of the select list that are no calls. -/
def fields (query : Text) : List Text := (selectedTokens query).filter (!Aggregate.isCall ·)

/-- The entries of the select list that are calls, whatever their names. -/
def aggregateSegments (query : Text) : List Text := (selectedTokens query).filter Aggregate.isCall

def conditionSegment? (query : Text) : Option Text :=
  (fromLayout? Layout.conditionSegment? query).join

/-- The conditions as they are written, trimmed. -/
def conditions (query : Text) : List Text :=
  ((conditionSegment? query).map fun segment => (Filter.split segment).1).getD []

/-- The words between the conditions, in lower case. -/
def connectives (query : Text) : List Text :=
  ((conditionSegment? query).map fun segment => (Filter.split segment).2).getD []

def groupBySegment? (query : Text) : Option Text :=
  (fromLayout? Layout.groupBySegment? query).join

def groupByFields (query : Text) : List Text :=
  ((groupBySegment? query).map Text.entries).getD []

def orderBySegment? (query : Text) : Option Text :=
  (fromLayout? Layout.orderBySegment? query).join

def orderByFields (query : Text) : List Text :=
  ((orderBySegment? query).map Text.entries).getD []

/-- The trimmed text before the first optional clause. -/
def baseQuery? (query : Text) : Option Text := fromLayout? Layout.baseQuery query

end Clauses

end FlatQuery
