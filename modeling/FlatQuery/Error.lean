import FlatQuery.Keyword

/-!
# FlatQuery.Error

Why a query cannot be read.  Each error is a cause; its wording is in `QueryError.message` alone.
-/

namespace FlatQuery

/-- What is wrong with a condition. -/
inductive ConditionFault where
  /-- Nothing stands where a condition belongs. -/
  | emptyCondition
  /-- No comparison in it. -/
  | noComparison
  /-- A second comparison outside quotes. -/
  | secondComparison
  /-- Nothing to the left of the comparison. -/
  | noName
  /-- Nothing to the right of the comparison. -/
  | noValue
  /-- A `where` with nothing after it. -/
  | emptyFilter
  /-- A stored name that is empty or has blanks around it. -/
  | untidyName
  /-- A stored value with blanks around it. -/
  | untidyValue
  /-- Not one connective fewer than conditions. -/
  | unjoined
deriving DecidableEq

def ConditionFault.message : ConditionFault → Text
  | emptyCondition => "empty condition".toList
  | noComparison => "no comparison operator".toList
  | secondComparison => "more than one comparison operator".toList
  | noName => "missing property name".toList
  | noValue => "missing property value".toList
  | emptyFilter => "where clause without conditions".toList
  | untidyName => "property name must be trimmed and non-empty".toList
  | untidyValue => "property value must be trimmed".toList
  | unjoined => "logical operators do not join the conditions".toList

/-- The places where a field name belongs. -/
inductive FieldPlace where
  | selectList
  | aggregate
  | groupBy
  | orderBy
deriving DecidableEq

def FieldPlace.name : FieldPlace → Text
  | selectList => Keyword.select.name
  | aggregate => "aggregate".toList
  | groupBy => Keyword.groupBy.name
  | orderBy => Keyword.orderBy.name

/-- Why a query cannot be read. -/
inductive QueryError where
  /-- The query is blank. -/
  | emptyQuery
  /-- A clause that every query has is absent or holds nothing. -/
  | missingClause (clause : Keyword)
  /-- A condition that is no comparison of a name with a value. -/
  | malformedCondition (condition : Text) (fault : ConditionFault)
  /-- A call of an aggregate that is not known. -/
  | unknownAggregate (name : Text)
  /-- A word between conditions that is no connective. -/
  | unknownConnective (word : Text)
  /-- A list with an entry left empty. -/
  | emptyField (place : FieldPlace)
  /-- Text after the source that starts no clause. -/
  | unexpectedText (text : Text)
  /-- A clause that stands after one that belongs behind it. -/
  | misplacedClause (clause : Keyword)
deriving DecidableEq

namespace QueryError

def message : QueryError → Text
  | emptyQuery => "query is empty".toList
  | missingClause clause => "missing required clause '".toList ++ clause.name ++ ['\'']
  | malformedCondition condition fault =>
      "malformed condition '".toList ++ condition ++ "': ".toList ++ fault.message
  | unknownAggregate name => "unknown aggregate function '".toList ++ name ++ ['\'']
  | unknownConnective word => "unknown logical operator '".toList ++ word ++ ['\'']
  | emptyField place => "empty field in '".toList ++ place.name ++ "' clause".toList
  | unexpectedText text => "unexpected text '".toList ++ text ++ "' after the source".toList
  | misplacedClause clause => "clause '".toList ++ clause.name ++ "' is out of order".toList

end QueryError

end FlatQuery
