import FlatQuery.Text.Basic

/-!
# FlatQuery.Comparison

The comparison operators of conditions and their symbols.
-/

namespace FlatQuery

/-- A comparison between a property and a value. -/
inductive Comparison where
  | ge
  | le
  | ne
  | eqEq
  | gt
  | lt
  | eq
deriving DecidableEq

namespace Comparison

/-- All comparisons, the longest symbols first, so that `>=` is never read as `>` before `=`. -/
def all : List Comparison := [ge, le, ne, eqEq, gt, lt, eq]

def symbol : Comparison → Text
  | ge => ['>', '=']
  | le => ['<', '=']
  | ne => ['!', '=']
  | eqEq => ['=', '=']
  | gt => ['>']
  | lt => ['<']
  | eq => ['=']

@[simp] theorem mem_all (op : Comparison) : op ∈ all := by cases op <;> decide

/-- The comparison written as a text, blanks around it aside. -/
def ofText? (t : Text) : Option Comparison := all.find? fun op => op.symbol == Text.trim t

/-- What an unknown symbol is answered with. -/
def unknownMessage (t : Text) : Text :=
  "Invalid comparison operator: '".toList ++ t ++ ['\'']

/-- The characters that symbols are made of. -/
def isSymbolChar (c : Char) : Bool := c == '>' || c == '<' || c == '=' || c == '!'

def occursIn (t : Text) : Bool := all.any fun op => Text.contains op.symbol t

/-- The first comparison, in the order of `all`, that occurs in the text, and what stands before and
after its first occurrence. -/
def divide? (t : Text) : Option (Text × Comparison × Text) :=
  all.findSome? fun op => (Text.cut op.symbol t).map fun (before, after) => (before, op, after)

end Comparison

end FlatQuery
