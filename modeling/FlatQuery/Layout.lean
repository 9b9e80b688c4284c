import FlatQuery.Cursor
import FlatQuery.Error

/-!
# FlatQuery.Layout

Where the clauses of a query stand in its text.

A query is laid out as `select` … `from` *source*; behind the source the first `where`, `group by`
and `order by` that there are stand in this order.  `Layout.survey` finds the keywords and the
source or says what is missing; the segments of a layout are the texts between neighbouring
keywords.
-/

namespace FlatQuery

/-- The places of the keywords and of the source of one query. -/
structure Layout where
  selectWord : Span
  fromWord : Span
  /-- The word after `from`. -/
  source : Span
  filterWord : Option Span
  groupByWord : Option Span
  orderByWord : Option Span
deriving DecidableEq

namespace Layout

/-! ## finding the clauses -/

/-- What a survey of a query finds, and the position that it reads up to; `none` when it does not
come as far as the source. -/
structure Survey where
  outcome : Except QueryError Layout
  reached : Option Nat

/-- Whether an optional clause starts at a position. -/
def startsClause (t : Text) (position : Nat) : Bool :=
  Keyword.optionalClauses.any fun k => (k.word.endAt? t position).isSome

/-- The first clause of a list that stands after the one that follows it in the list. -/
def misplaced? : List (Keyword × Span) → Option Keyword
  | (k, span) :: (k', span') :: rest =>
      if span'.start < span.start then some k else misplaced? ((k', span') :: rest)
  | _ => none

/-- The layout with the optional clauses that are found after the source. -/
def withClauses (t : Text) (selectWord fromWord source : Span) : Except QueryError Layout :=
  let found := fun (k : Keyword) => k.word.find? t source.stop
  let present := Keyword.optionalClauses.filterMap fun k => (found k).map (k, ·)
  match misplaced? present with
  | some k => .error (.misplacedClause k)
  | none => .ok ⟨selectWord, fromWord, source, found .filter, found .groupBy, found .orderBy⟩

/-- Reads the source after `from`, and what follows it. -/
def surveySource (t : Text) (selectWord fromWord : Span) : Survey :=
  let start := t.skipBlanks fromWord.stop
  if t.length ≤ start || startsClause t start then
    ⟨.error (.missingClause .source), some start⟩
  else
    let source : Span := ⟨start, t.skipRun start⟩
    let next := t.skipBlanks source.stop
    if next < t.length && !startsClause t next then
      ⟨.error (.unexpectedText (t.slice next (t.skipRun next))), some (t.skipRun next)⟩
    else ⟨withClauses t selectWord fromWord source, some next⟩

/-- Finds `select`, the first `from` after it, the source and the optional clauses.  Only an
optional clause or the end of the text may follow the source. -/
def survey (t : Text) : Survey :=
  match Keyword.select.word.find? t 0 with
  | none => ⟨.error (.missingClause .select), none⟩
  | some selectWord =>
      match Keyword.source.word.find? t selectWord.stop with
      | none => ⟨.error (.missingClause .source), none⟩
      | some fromWord => surveySource t selectWord fromWord

/-- The layout of a query. -/
def locate (t : Text) : Except QueryError Layout := (survey t).outcome

/-! ## segments -/

/-- The starts of the clauses after `select`. -/
def clauseStarts (l : Layout) : List Nat :=
  ([some l.fromWord, l.filterWord, l.groupByWord, l.orderByWord].filterMap id).map Span.start

def optionalStarts (l : Layout) : List Nat :=
  ([l.filterWord, l.groupByWord, l.orderByWord].filterMap id).map Span.start

/-- Where the body of a clause ends: at the next keyword or at the end of the text. -/
def bodyStop (l : Layout) (t : Text) (word : Span) : Nat :=
  ((l.clauseStarts.filter (word.start < ·)).min?).getD t.length

/-- The trimmed text from the end of a keyword to the next keyword. -/
def body (l : Layout) (t : Text) (word : Span) : Text :=
  Text.trim (t.slice word.stop (l.bodyStop t word))

def sourceName (l : Layout) (t : Text) : Text := t.slice l.source.start l.source.stop

/-- The trimmed text between `select` and `from`. -/
def selectedSegment (l : Layout) (t : Text) : Text :=
  Text.trim (t.slice l.selectWord.stop l.fromWord.start)

/-- The entries of the select list; there are none in an empty list. -/
def selectedTokens (l : Layout) (t : Text) : List Text :=
  if l.selectedSegment t = [] then [] else Text.entries (l.selectedSegment t)

def conditionSegment? (l : Layout) (t : Text) : Option Text := l.filterWord.map (l.body t)

def groupBySegment? (l : Layout) (t : Text) : Option Text := l.groupByWord.map (l.body t)

def orderBySegment? (l : Layout) (t : Text) : Option Text := l.orderByWord.map (l.body t)

/-- The trimmed text before the first optional clause. -/
def baseQuery (l : Layout) (t : Text) : Text :=
  Text.trim (t.slice 0 (l.optionalStarts.min?.getD t.length))

end Layout

/-- Surveys the text of a cursor, which is left where the survey stops reading. -/
def Cursor.survey (c : Cursor) : Except QueryError Layout × Cursor :=
  let found := Layout.survey c.text
  (found.outcome, { c with position := found.reached.getD c.position })

end FlatQuery
