import FlatQuery.Error

/-!
# FlatQuery.Aggregate

Aggregates over a field, written as calls in the select list.

* `Call.ofText?` recognises a call, whatever its name;
* `Aggregate.parse` reads the calls of known aggregates.
-/

namespace FlatQuery

/-! ## calls -/

/-- A call: a name and the text between the parentheses. -/
structure Call where
  name : Text
  argument : Text
deriving DecidableEq

namespace Call

def isNameStart (c : Char) : Bool := c.isAlpha || c == '_'

def isNameChar (c : Char) : Bool := c.isAlphanum || c == '_'

def isParenthesis (c : Char) : Bool := c == '(' || c == ')'

/-- The trimmed text up to the closing parenthesis, which ends the text and is the only parenthesis
in it. -/
def argument? (t : Text) : Option Text :=
  if t.getLast? = some ')' && !t.dropLast.any isParenthesis then some (Text.trim t.dropLast)
  else none

/-- Reads `name(argument)`; blanks may stand around the call and its parentheses. -/
def ofText? (t : Text) : Option Call :=
  let token := Text.trim t
  let name := token.takeWhile isNameChar
  if name.head?.any isNameStart then
    match (token.dropWhile isNameChar).dropWhile isBlank with
    | '(' :: rest => (argument? rest).map fun argument => ⟨name, argument⟩
    | _ => none
  else none

end Call

/-! ## aggregates -/

/-- The known aggregates. -/
inductive AggregateKind where
  | min
  | max
  | sum
  | count
  | avg
deriving DecidableEq

namespace AggregateKind

def all : List AggregateKind := [min, max, sum, count, avg]

def name : AggregateKind → Text
  | min => "min".toList
  | max => "max".toList
  | sum => "sum".toList
  | count => "count".toList
  | avg => "avg".toList

/-- The aggregate of a name, in any ASCII case and blanks around it aside. -/
def ofText? (t : Text) : Option AggregateKind :=
  all.find? fun kind => kind.name == Text.toAsciiLower (Text.trim t)

/-- The aggregate of a name, or the error that there is none. -/
def parse (t : Text) : Except QueryError AggregateKind :=
  match ofText? t with
  | some kind => .ok kind
  | none => .error (.unknownAggregate t)

end AggregateKind

/-- An aggregate of one field. -/
structure Aggregate where
  field : Text
  kind : AggregateKind
deriving DecidableEq

namespace Aggregate

/-- Whether a select entry has the form of a call. -/
def isCall (token : Text) : Bool := (Call.ofText? token).isSome

/-- Reads an entry of the select list; `none` when it is no call. -/
def parse (token : Text) : Except QueryError (Option Aggregate) :=
  match Call.ofText? token with
  | none => .ok none
  | some call => do
      let kind ← AggregateKind.parse call.name
      if call.argument = [] then throw (.emptyField .aggregate)
      return some ⟨call.argument, kind⟩

def parseAll (tokens : List Text) : Except QueryError (List Aggregate) :=
  return (← tokens.mapM parse).filterMap id

def render (a : Aggregate) : Text := a.kind.name ++ ['('] ++ a.field ++ [')']

end Aggregate

end FlatQuery
