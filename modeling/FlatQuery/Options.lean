import FlatQuery.Text.Basic

/-!
# FlatQuery.Options

Quoted values, and the choice of what becomes of their quotes.

* `unquote?` finds the inner text of a value in quotes;
* `Options.normalize` writes a value as the options ask.
-/

namespace FlatQuery

/-- The single and the double quote. -/
def isQuote (c : Char) : Bool := c == '\'' || c == '"'

/-- The inner text of a value that starts and ends with the same quote. -/
def unquote? : Text → Option Text
  | [] => none
  | first :: rest =>
      match rest.getLast? with
      | none => none
      | some last => if first = last && isQuote first then some rest.dropLast else none

/-- How queries are read. -/
structure Options where
  /-- Whether a value in quotes is stored without them. -/
  stripQuotes : Bool := false
deriving DecidableEq

namespace Options

/-- A trimmed value as it is stored under these options. -/
def normalize (options : Options) (value : Text) : Text :=
  match unquote? value with
  | some inner => if options.stripQuotes then inner else value
  | none => value

end Options

end FlatQuery
