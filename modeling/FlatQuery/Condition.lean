import FlatQuery.Comparison
import FlatQuery.Error
import FlatQuery.Options

/-!
# FlatQuery.Condition

One comparison of a property with a value, read from text by `Condition.parse` and written by
`Condition.render`.  Values stay text: what they mean is up to whoever evaluates the condition.
-/

namespace FlatQuery

/-- A property compared with a value. -/
structure Condition where
  property : Text
  comparison : Comparison
  value : Text
deriving DecidableEq

namespace Condition

/-- Reads a condition.  It is divided at its comparison; a value in quotes may hold comparisons of
its own, a name or a bare value may not. -/
def parse (options : Options) (raw : Text) : Except QueryError Condition :=
  let condition := Text.trim raw
  if condition = [] then .error (.malformedCondition raw .emptyCondition)
  else match Comparison.divide? condition with
    | none => .error (.malformedCondition condition .noComparison)
    | some (before, comparison, after) =>
        let name := Text.trim before
        let value := Text.trim after
        if Comparison.occursIn name || (unquote? value).isNone && Comparison.occursIn value then
          .error (.malformedCondition condition .secondComparison)
        else if name = [] then .error (.malformedCondition condition .noName)
        else if value = [] then .error (.malformedCondition condition .noValue)
        else .ok ⟨name, comparison, options.normalize value⟩

/-- The condition as text, with one space on either side of the comparison. -/
def render (c : Condition) : Text := c.property ++ [' '] ++ c.comparison.symbol ++ [' '] ++ c.value

end Condition

end FlatQuery
