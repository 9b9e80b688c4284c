import FlatQuery.Json.Number
import FlatQuery.Record.Schema
import FlatQuery.Record.ToJson
import FlatQuery.Text.Quoted

/-!
# FlatQuery.Record.OfJson

Records read from JSON values.  A record is an object with its fields as members, visited in the
order of their keys, or an array of its fields in the order of the record.  The first problem met is
the error.
-/

namespace FlatQuery

/-! ## errors -/

/-- Why a JSON value is no record. -/
inductive DecodeError where
  /-- The value is of another kind than expected. -/
  | wrongKind (found : Json) (expected : Text)
  /-- A name that is not among those to choose from. -/
  | unknownName (name : Text) (names : List Text)
  /-- An object with no member or with several, where the key of its only member is the name. -/
  | notOneKey
  /-- A record that lacks a field. -/
  | missingField (key : Text)
  /-- An array with fewer items than the record has fields. -/
  | tooShort (length : Nat) (title : Text) (fields : Nat)
  /-- An array with more items than the record has fields. -/
  | tooLong (length : Nat)
  /-- A record that breaks a rule of its type. -/
  | broken (error : QueryError)

namespace DecodeError

def ticked (t : Text) : Text := '\x60' :: t ++ ['\x60']

/-- A value as messages name it. -/
def describe : Json → Text
  | .null => "null".toList
  | .bool value => "boolean ".toList ++ ticked (toString value).toList
  | .number (.integer value) => "integer ".toList ++ ticked (toString value).toList
  | .number (.float value) => "floating point ".toList ++ ticked (Json.Number.renderFloat value)
  | .string value => "string ".toList ++ Text.quoted value
  | .array _ => "sequence".toList
  | .object _ => "map".toList

/-- Names to choose from, as messages list them. -/
def listNames : List Text → Text
  | [] => "nothing".toList
  | [a] => ticked a
  | [a, b] => ticked a ++ " or ".toList ++ ticked b
  | names => "one of ".toList ++ Text.join ", ".toList (names.map ticked)

/-- The type of a record, as messages name it. -/
def titled (title : Text) : Text := "struct ".toList ++ title

def count (n : Nat) : Text := Nat.toDigits 10 n

def message : DecodeError → Text
  | wrongKind found expected =>
      "invalid type: ".toList ++ describe found ++ ", expected ".toList ++ expected
  | unknownName name names =>
      "unknown variant ".toList ++ ticked name ++ ", expected ".toList ++ listNames names
  | notOneKey => "invalid value: map, expected map with a single key".toList
  | missingField key => "missing field ".toList ++ ticked key
  | tooShort length title fields =>
      "invalid length ".toList ++ count length ++ ", expected ".toList ++ titled title
        ++ " with ".toList ++ count fields ++ " elements".toList
  | tooLong length =>
      "invalid length ".toList ++ count length ++ ", expected fewer elements in array".toList
  | broken error => error.message

end DecodeError

/-! ## readers -/

/-- A reader of JSON values. -/
def JsonReader (α : Type) : Type := Json → Except DecodeError α

namespace JsonReader

def map (f : α → β) (reader : JsonReader α) : JsonReader β := fun json => (reader json).map f

def text : JsonReader Text
  | .string value => .ok value
  | other => .error (.wrongKind other "a string".toList)

def list (reader : JsonReader α) : JsonReader (List α)
  | .array items => items.mapM reader
  | other => .error (.wrongKind other "a sequence".toList)

/-- The value of a name. -/
def named (choice : Choice α) (name : Text) : Except DecodeError α :=
  match choice.find? name with
  | some a => .ok a
  | none => .error (.unknownName name choice.names)

/-- Reads a name, which is a string or the only key of an object with the value null. -/
def choice (choice : Choice α) : JsonReader α
  | .string name => named choice name
  | .object fields =>
      match Json.members fields with
      | [(name, value)] => do
          let a ← named choice name
          match value with
          | .null => return a
          | other => throw (.wrongKind other "unit".toList)
      | _ => .error .notOneKey
  | other => .error (.wrongKind other "string or map".toList)

/-- Fills in one member; members with unknown keys are passed over. -/
def fillMember (slots : List (Slot JsonReader σ)) (record : σ) (member : Text × Json) :
    Except DecodeError σ :=
  match slots.find? fun slot => slot.key == member.1 with
  | some slot => (slot.fill member.2).map fun set => set record
  | none => .ok record

/-- Fills in the members of an object, and looks for fields that are missing. -/
def fillMembers (slots : List (Slot JsonReader σ)) (blank : σ) (members : List (Text × Json)) :
    Except DecodeError σ := do
  let record ← members.foldlM (fillMember slots) blank
  match slots.find? fun slot => !members.any fun member => member.1 == slot.key with
  | some slot => throw (.missingField slot.key)
  | none => return record

/-- Fills in the items of an array, one for each field. -/
def fillItems (title : Text) (fields length : Nat) :
    List (Slot JsonReader σ) → σ → List Json → Except DecodeError σ
  | [], record, [] => .ok record
  | [], _, _ :: _ => .error (.tooLong length)
  | _ :: _, _, [] => .error (.tooShort length title fields)
  | slot :: slots, record, item :: items => do
      let set ← slot.fill item
      fillItems title fields length slots (set record) items

/-- Reads a record from an object or an array. -/
def record (title : Text) (slots : List (Slot JsonReader σ)) (blank : σ)
    (check : σ → Except QueryError α) : JsonReader α := fun json => do
  let filled ← match json with
    | .object fields => fillMembers slots blank (Json.members fields)
    | .array items => fillItems title slots.length items.length slots blank items
    | other => .error (.wrongKind other (DecodeError.titled title))
  match check filled with
  | .ok value => return value
  | .error error => throw (.broken error)

instance : Reading JsonReader where
  map := map
  text := text
  list := list
  choice := choice
  record := record

end JsonReader

/-! ## the records -/

def Comparison.ofJson : JsonReader Comparison := Reading.choice choice

def Connective.ofJson : JsonReader Connective := Reading.choice choice

def AggregateKind.ofJson : JsonReader AggregateKind := Reading.choice choice

def Condition.ofJson : JsonReader Condition := schema

def Aggregate.ofJson : JsonReader Aggregate := schema

def Query.ofJson : JsonReader Query := schema

/-- The stored query with some members of its object replaced; a change to null takes a member
away. -/
def Query.patch (q : Query) (changes : List (Text × Json)) : Except DecodeError Query :=
  ofJson (.object (Json.update q.toMembers changes))

end FlatQuery
