import FlatQuery.Text.Basic

/-!
# FlatQuery.Json.Basic

JSON values, and the ways in which a text may fail to hold one.  An object is a list of members; as
a map it is read through `Json.members`, which puts the keys in order and lets the last of several
members with one key stand.
-/

namespace FlatQuery

namespace Json

/-- A number: an integer, or a binary fraction. -/
inductive Number where
  | integer (value : Int)
  | float (value : Float)

end Json

inductive Json where
  | null
  | bool (value : Bool)
  | number (value : Json.Number)
  | string (value : Text)
  | array (items : List Json)
  | object (fields : List (Text × Json))

namespace Json

/-- Why a JSON text cannot be read. -/
inductive Fault where
  /-- The text is not JSON. -/
  | malformed
  /-- The text ends too early. -/
  | truncated
  /-- The text is JSON so far, but not of the kind that is asked for. -/
  | mismatched
deriving DecidableEq

def ofNat (n : Nat) : Json := .number (.integer n)

def ofString (s : String) : Json := .string s.toList

/-- Puts a member among others that are in the order of their keys; it takes the place of one with
the same key. -/
def insert (key : Text) (value : Json) : List (Text × Json) → List (Text × Json)
  | [] => [(key, value)]
  | (k, v) :: rest =>
      if key < k then (key, value) :: (k, v) :: rest
      else if key = k then (key, value) :: rest
      else (k, v) :: insert key value rest

/-- The members of an object as a map, in the order of their keys. -/
def members (fields : List (Text × Json)) : List (Text × Json) :=
  fields.foldl (fun sorted (key, value) => insert key value sorted) []

/-- The members without those of a key. -/
def erase (key : Text) (fields : List (Text × Json)) : List (Text × Json) :=
  fields.filter fun (k, _) => k ≠ key

/-- The members with those of `changes` in place; a change to null takes its key away. -/
def update (fields changes : List (Text × Json)) : List (Text × Json) :=
  changes.foldl
    (fun fields (key, value) => match value with
      | .null => erase key fields
      | value => erase key fields ++ [(key, value)])
    fields

end Json

end FlatQuery
