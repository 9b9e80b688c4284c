import FlatQuery.Json.Basic
import FlatQuery.Query.Parse

/-!
# FlatQuery.Query.Event

What reading a query reports on its way: the layout once the clauses are found, and the size of the
query once all of it has been read.
-/

namespace FlatQuery

/-! ## the text of a layout -/

namespace Layout

def spanText (s : Span) : Text :=
  '(' :: Nat.toDigits 10 s.start ++ [',', ' '] ++ Nat.toDigits 10 s.stop ++ [')']

def optionalText : Option Span → Text
  | none => "None".toList
  | some s => "Some(".toList ++ spanText s ++ [')']

/-- The spans of a layout by name. -/
def describe (l : Layout) : Text :=
  "ClauseLayout \x7b select: ".toList ++ spanText l.selectWord
    ++ ", from: ".toList ++ spanText l.fromWord
    ++ ", source: ".toList ++ spanText l.source
    ++ ", where: ".toList ++ optionalText l.filterWord
    ++ ", group_by: ".toList ++ optionalText l.groupByWord
    ++ ", order_by: ".toList ++ optionalText l.orderByWord ++ " \x7d".toList

end Layout

/-! ## events -/

/-- A report on the reading of a query. -/
inductive Event where
  /-- The clauses have been found. -/
  | located (layout : Layout)
  /-- The whole query has been read. -/
  | parsed (source : Text) (fields aggregates conditions : Nat)
deriving DecidableEq

namespace Event

/-- How much detail an event belongs to. -/
def level : Event → Text
  | located _ => "TRACE".toList
  | parsed .. => "DEBUG".toList

/-- What an event says, and the values that go with it. -/
def fields : Event → List (Text × Json)
  | located layout => [
      ("message".toList, .ofString "located clauses"),
      ("layout".toList, .string layout.describe)]
  | parsed source fields aggregates conditions => [
      ("message".toList, .ofString "parsed query"),
      ("source".toList, .string source),
      ("fields".toList, .ofNat fields),
      ("aggregates".toList, .ofNat aggregates),
      ("conditions".toList, .ofNat conditions)]

end Event

/-- The events of reading a query, in order. -/
def Query.events (options : Options) (t : Text) : List Event :=
  match Layout.locate t with
  | .error _ => []
  | .ok layout =>
      .located layout :: match parse options t with
        | .error _ => []
        | .ok q =>
            [.parsed q.source q.fields.length q.aggregates.length q.conditions.length]

end FlatQuery
