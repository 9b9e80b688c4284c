import FlatQuery.Json.Number

/-!
# FlatQuery.Json.Write

Compact JSON text: no blanks, members in the order of the list.
-/

namespace FlatQuery

namespace Json

/-- A hexadecimal digit, in lower case. -/
def hexDigit (n : Nat) : Char := if n < 10 then Char.ofNat (48 + n) else Char.ofNat (87 + n)

/-- A character between the quotes of a string. -/
def escape (c : Char) : Text :=
  if c = '"' || c = '\\' then ['\\', c]
  else if c = '\x08' then ['\\', 'b']
  else if c = '\t' then ['\\', 't']
  else if c = '\n' then ['\\', 'n']
  else if c = '\x0c' then ['\\', 'f']
  else if c = '\r' then ['\\', 'r']
  else if c.toNat < 32 then
    ['\\', 'u', '0', '0', hexDigit (c.toNat / 16), hexDigit (c.toNat % 16)]
  else [c]

/-- A string with its quotes. -/
def renderString (t : Text) : Text := '"' :: t.flatMap escape ++ ['"']

mutual

def render : Json → Text
  | null => "null".toList
  | bool true => "true".toList
  | bool false => "false".toList
  | number value => value.render
  | string value => renderString value
  | array items => '[' :: renderItems items ++ [']']
  | object fields => '\x7b' :: renderMembers fields ++ ['\x7d']

/-- The texts of values, with commas between them. -/
def renderItems : List Json → Text
  | [] => []
  | [item] => render item
  | item :: more => render item ++ ',' :: renderItems more

def renderMembers : List (Text × Json) → Text
  | [] => []
  | [(key, value)] => renderString key ++ ':' :: render value
  | (key, value) :: more => renderString key ++ ':' :: render value ++ ',' :: renderMembers more

end

end Json

end FlatQuery
