import FlatQuery.Json.Read
import FlatQuery.Record.Schema

/-!
# FlatQuery.Record.OfText

Records read from JSON text, from left to right.  The first problem met is the fault: a value of the
wrong kind counts where it starts, a field given twice where its key comes again, and the rules of a
record at its closing bracket.
-/

namespace FlatQuery

open Json (Fault)

/-- A reader of JSON text, which gives back what follows the text it has read. -/
def TextReader (α : Type) : Type := Text → Except Fault (α × Text)

namespace TextReader

def map (f : α → β) (reader : TextReader α) : TextReader β := fun t =>
  (reader t).map fun (a, rest) => (f a, rest)

/-- The fault of a value of the wrong kind.  Words, strings and numbers are first read to their
ends. -/
def wrongKind : Text → Fault
  | [] => .truncated
  | c :: rest =>
      let after (word : Text) : Fault := match Json.dropWord word rest with
        | .ok _ => .mismatched
        | .error fault => fault
      if c = 'n' then after "ull".toList
      else if c = 't' then after "rue".toList
      else if c = 'f' then after "alse".toList
      else if c = '"' then match Json.readString rest with
        | .ok _ => .mismatched
        | .error fault => fault
      else if c = '-' || c.isDigit then match Json.readNumber (c :: rest) with
        | .ok _ => .mismatched
        | .error fault => fault
      else if c = '[' || c = '\x7b' then .mismatched
      else .malformed

def text : TextReader Text := fun t =>
  match Json.skipGap t with
  | '"' :: rest => Json.readString rest
  | other => .error (wrongKind other)

def unit : TextReader Unit := fun t =>
  match Json.skipGap t with
  | 'n' :: rest => return ((), ← Json.dropWord "ull".toList rest)
  | other => .error (wrongKind other)

/-- The items up to the end of an array, of which there are fewer than `fuel`. -/
def items (reader : TextReader α) : Nat → Bool → TextReader (List α)
  | 0, _, _ => .error .truncated
  | fuel + 1, first, t => do
      match ← Json.next ']' first t with
      | .closed rest => return ([], rest)
      | .entry rest =>
          let (item, rest) ← reader rest
          let (more, rest) ← items reader fuel false rest
          return (item :: more, rest)

def list (reader : TextReader α) : TextReader (List α) := fun t =>
  match Json.skipGap t with
  | '[' :: rest => items reader (rest.length + 1) true rest
  | other => .error (wrongKind other)

/-- The value of a name. -/
def named (choice : Choice α) (name : Text) : Except Fault α :=
  match choice.find? name with
  | some a => .ok a
  | none => .error .mismatched

/-- Reads a name, which is a string or the only key of an object with the value null.  The key is
read the way keys of records are (`Json.openKey`): anything in its place that is no string, such as
the number of `{1:null}`, is a fault of form and not of kind. -/
def choice (choice : Choice α) : TextReader α := fun t =>
  match Json.skipGap t with
  | [] => .error .truncated
  | c :: rest =>
      if c = '"' then do
        let (name, rest) ← Json.readString rest
        return (← named choice name, rest)
      else if c = '\x7b' then do
        match ← Json.next '\x7d' true rest with
        | .closed _ => throw .malformed
        | .entry rest =>
            let (name, rest) ← Json.readString (← Json.openKey rest)
            let a ← named choice name
            let ((), rest) ← unit (← Json.dropColon rest)
            match Json.skipGap rest with
            | [] => throw .truncated
            | d :: rest => if d = '\x7d' then return (a, rest) else throw .malformed
      else .error .malformed

/-- Fills in the items of an array, one for each field. -/
def fillItems : List (Slot TextReader σ) → Bool → σ → TextReader σ
  | [], _, record, t =>
      match Json.skipGap t with
      | [] => .error .truncated
      | c :: rest => if c = ']' then .ok (record, rest) else .error .malformed
  | slot :: slots, first, record, t => do
      match ← Json.next ']' first t with
      | .closed _ => throw .mismatched
      | .entry rest =>
          let (set, rest) ← slot.fill rest
          fillItems slots false (set record) rest

/-- Fills in the members of an object, of which there are fewer than `fuel`.  The keys in `seen`
have been filled in before. -/
def fillMembers (slots : List (Slot TextReader σ)) :
    Nat → Bool → List Text → σ → TextReader σ
  | 0, _, _, _, _ => .error .truncated
  | fuel + 1, first, seen, record, t => do
      match ← Json.next '\x7d' first t with
      | .closed rest =>
          if slots.all fun slot => seen.contains slot.key then return (record, rest)
          else throw .mismatched
      | .entry rest =>
          let (key, rest) ← Json.readString (← Json.openKey rest)
          match slots.find? fun slot => slot.key == key with
          | some slot =>
              if seen.contains key then throw .mismatched
              let (set, rest) ← slot.fill (← Json.dropColon rest)
              fillMembers slots fuel false (key :: seen) (set record) rest
          | none =>
              let rest ← Json.skipValue (← Json.dropColon rest)
              fillMembers slots fuel false seen record rest

/-- Reads a record from an object or an array. -/
def record (slots : List (Slot TextReader σ)) (blank : σ) (check : σ → Except QueryError α) :
    TextReader α := fun t => do
  let (filled, rest) ← match Json.skipGap t with
    | '[' :: rest => fillItems slots true blank rest
    | '\x7b' :: rest => fillMembers slots (rest.length + 1) true [] blank rest
    | other => .error (wrongKind other)
  match check filled with
  | .ok value => return (value, rest)
  | .error _ => throw .mismatched

instance : Reading TextReader where
  map := map
  text := text
  list := list
  choice := choice
  record _ := record

/-- Reads a text that holds one value and nothing more. -/
def whole (reader : TextReader α) (t : Text) : Except Fault α := do
  let (value, rest) ← reader t
  Json.finish rest value

end TextReader

/-! ## the records -/

def Comparison.ofText : Text → Except Fault Comparison :=
  TextReader.whole (Reading.choice choice)

def Connective.ofText : Text → Except Fault Connective :=
  TextReader.whole (Reading.choice choice)

def AggregateKind.ofText : Text → Except Fault AggregateKind :=
  TextReader.whole (Reading.choice choice)

def Condition.ofText : Text → Except Fault Condition := TextReader.whole schema

def Aggregate.ofText : Text → Except Fault Aggregate := TextReader.whole schema

def Query.ofText : Text → Except Fault Query := TextReader.whole schema

end FlatQuery
