import FlatQuery.Keyword

/-!
# FlatQuery.Connective

The words that join the conditions of a filter.
-/

namespace FlatQuery

/-- How a condition is joined to the one before it. -/
inductive Connective where
  | and
  | or
deriving DecidableEq

namespace Connective

def all : List Connective := [and, or]

def keyword : Connective → Keyword
  | and => .and
  | or => .or

def name (c : Connective) : Text := c.keyword.name

/-- The connective written as a text, in any ASCII case and blanks around it aside. -/
def ofText? (t : Text) : Option Connective :=
  all.find? fun c => c.name == Text.toAsciiLower (Text.trim t)

end Connective

end FlatQuery
