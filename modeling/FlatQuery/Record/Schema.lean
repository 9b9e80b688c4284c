import FlatQuery.Json.Basic
import FlatQuery.Query.Basic

/-!
# FlatQuery.Record.Schema

The stored form of conditions, aggregates and queries: which fields a record has, in which order,
and what must hold of them.

A record is described once, for any kind of reader (`Reading`).  A reader fills the fields of a
blank record one by one, and the whole is then checked.

* `Condition.check`, `Aggregate.check`, `Query.check` — what must hold of a stored record;
* `Condition.schema`, `Aggregate.schema`, `Query.schema` — the fields of the records.
-/

namespace FlatQuery

/-! ## invariants -/

/-- The name is trimmed and not empty, and the value is trimmed. -/
def Condition.check (c : Condition) : Except QueryError Condition :=
  if Text.trim c.property = [] ∨ Text.trim c.property ≠ c.property then
    .error (.malformedCondition c.render .untidyName)
  else if Text.trim c.value ≠ c.value then .error (.malformedCondition c.render .untidyValue)
  else .ok c

/-- The field is trimmed and not empty. -/
def Aggregate.check (a : Aggregate) : Except QueryError Aggregate :=
  if Text.trim a.field = [] ∨ Text.trim a.field ≠ a.field then .error (.emptyField .aggregate)
  else .ok a

/-- Whether some entry of a list is blank. -/
def hasBlankEntry (fields : List Text) : Bool := fields.any fun field => Text.trim field = []

/-- The source is one word, something is selected, no entry of a list is blank, and there is one
connective fewer than conditions. -/
def Query.check (q : Query) : Except QueryError Query :=
  if Text.trim q.source = [] || q.source.any isBlank then .error (.missingClause .source)
  else if q.fields.isEmpty && q.aggregates.isEmpty then .error (.missingClause .select)
  else if hasBlankEntry q.fields then .error (.emptyField .selectList)
  else if hasBlankEntry q.groupBy then .error (.emptyField .groupBy)
  else if hasBlankEntry q.orderBy then .error (.emptyField .orderBy)
  else if q.connectives.length ≠ q.conditions.length - 1 then
    .error (.malformedCondition [] .unjoined)
  else .ok q

/-! ## readers -/

/-- A value that is stored as one of several names. -/
structure Choice (α : Type) where
  all : List α
  name : α → Text

namespace Choice

/-- The value of a name, which has to match exactly. -/
def find? (choice : Choice α) (t : Text) : Option α := choice.all.find? fun a => choice.name a == t

def names (choice : Choice α) : List Text := choice.all.map choice.name

end Choice

/-- A field of a record: its key, and a reader of what fills it in. -/
structure Slot (ρ : Type → Type) (σ : Type) where
  key : Text
  fill : ρ (σ → σ)

/-- The kinds of readers that records can be read with. -/
class Reading (ρ : Type → Type) where
  /-- Changes what is read. -/
  map : (α → β) → ρ α → ρ β
  /-- Reads a text. -/
  text : ρ Text
  /-- Reads a list. -/
  list : ρ α → ρ (List α)
  /-- Reads one of several names. -/
  choice : Choice α → ρ α
  /-- Reads a record: its title, its fields, the blank record and the final check. -/
  record : Text → List (Slot ρ σ) → σ → (σ → Except QueryError α) → ρ α

/-- A field that `set` puts into the record. -/
def Slot.of [Reading ρ] (key : String) (reader : ρ α) (set : α → σ → σ) : Slot ρ σ :=
  ⟨key.toList, Reading.map set reader⟩

/-! ## records -/

/-- Comparisons are stored as their symbols. -/
def Comparison.choice : Choice Comparison := ⟨all, symbol⟩

def Connective.choice : Choice Connective := ⟨all, name⟩

def AggregateKind.choice : Choice AggregateKind := ⟨all, name⟩

def Condition.schema [Reading ρ] : ρ Condition :=
  Reading.record "FilterConditionRecord".toList
    [.of "property_name" Reading.text fun t c => { c with property := t },
      .of "operator" (Reading.choice Comparison.choice) fun op c => { c with comparison := op },
      .of "property_value" Reading.text fun t c => { c with value := t }]
    ⟨[], .eq, []⟩ Condition.check

def Aggregate.schema [Reading ρ] : ρ Aggregate :=
  Reading.record "AggregateFunctionRecord".toList
    [.of "field" Reading.text fun t a => { a with field := t },
      .of "function" (Reading.choice AggregateKind.choice) fun kind a => { a with kind := kind }]
    ⟨[], .min⟩ Aggregate.check

def Query.schema [Reading ρ] : ρ Query :=
  Reading.record "ParsedQueryRecord".toList
    [.of "query_string" Reading.text fun t q => { q with text := t },
      .of "source_name" Reading.text fun t q => { q with source := t },
      .of "fields" (Reading.list Reading.text) fun ts q => { q with fields := ts },
      .of "aggregate_functions" (Reading.list Aggregate.schema)
        fun as q => { q with aggregates := as },
      .of "filter_conditions" (Reading.list Condition.schema)
        fun cs q => { q with conditions := cs },
      .of "logical_operators" (Reading.list (Reading.choice Connective.choice))
        fun ops q => { q with connectives := ops },
      .of "group_by_fields" (Reading.list Reading.text) fun ts q => { q with groupBy := ts },
      .of "order_by_fields" (Reading.list Reading.text) fun ts q => { q with orderBy := ts }]
    ⟨[], [], [], [], [], [], [], []⟩ Query.check

end FlatQuery
