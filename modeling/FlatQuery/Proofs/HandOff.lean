import FlatQuery.Proofs.Restoring
import FlatQuery.Proofs.Tidy

/-!
# FlatQuery.Proofs.HandOff

Queries that have been read are restored from their stored form.

* `Query.check_eq_ok_iff` — what the check of a stored query asks;
* `Query.check_of_tidy` — what is read from text passes the checks of stored records;
* `Query.restores_schema` — a query whose parts pass the checks is restored, by any lawful reader;
* `Query.restored_of_parse` — a query that has been read is restored from JSON and from JSON text.
-/

namespace FlatQuery

/-! ## checks -/

/-- A text fails the check of names when it is not trimmed or empty. -/
theorem Text.untidy_iff {t : Text} : (trim t = [] ∨ trim t ≠ t) ↔ ¬ (Trimmed t ∧ t ≠ []) := by
  unfold Trimmed
  grind

/-- What the check of a condition asks. -/
theorem Condition.check_eq_ok_iff {c : Condition} : c.check = .ok c ↔
    (Text.Trimmed c.property ∧ c.property ≠ []) ∧ Text.Trimmed c.value := by
  unfold Condition.check
  rw [ite_error_eq_ok_iff, ite_error_eq_ok_iff, Text.untidy_iff, not_not, not_not]
  exact and_congr_right fun _ => and_iff_left rfl

/-- The check changes no condition. -/
theorem Condition.eq_of_check {c d : Condition} (h : c.check = .ok d) : c = d := by
  unfold Condition.check at h
  rw [ite_error_eq_ok_iff, ite_error_eq_ok_iff] at h
  exact Except.ok.inj h.2.2

theorem Aggregate.check_eq_ok_iff {a : Aggregate} :
    a.check = .ok a ↔ Text.Trimmed a.field ∧ a.field ≠ [] := by
  unfold Aggregate.check
  rw [ite_error_eq_ok_iff, Text.untidy_iff, not_not]
  exact and_iff_left rfl

theorem Aggregate.eq_of_check {a b : Aggregate} (h : a.check = .ok b) : a = b := by
  unfold Aggregate.check at h
  rw [ite_error_eq_ok_iff] at h
  exact Except.ok.inj h.2

/-- No entry of a list is blank when each has a character that is no blank. -/
theorem hasBlankEntry_eq_false_iff {fields : List Text} :
    hasBlankEntry fields = false ↔ ∀ f ∈ fields, Text.isBlankText f = false := by
  simp [hasBlankEntry]

/-- A source is one word. -/
theorem blank_source_eq_false_iff {source : Text} :
    (decide (Text.trim source = []) || source.any isBlank) = false ↔
      source ≠ [] ∧ ∀ c ∈ source, isBlank c = false := by
  rw [Bool.or_eq_false_iff, decide_eq_false_iff_not, Text.trim_eq_nil_iff]
  constructor
  · rintro ⟨htrim, hany⟩
    refine ⟨?_, by simpa using hany⟩
    rintro rfl
    exact htrim rfl
  · rintro ⟨hne, hall⟩
    refine ⟨?_, by simpa using hall⟩
    obtain ⟨c, rest, rfl⟩ := List.exists_cons_of_ne_nil hne
    simp [Text.isBlankText, hall c List.mem_cons_self]

/-- What the check of a query asks of its own fields. -/
theorem Query.check_eq_ok_iff {q : Query} : q.check = .ok q ↔
    (q.source ≠ [] ∧ ∀ c ∈ q.source, isBlank c = false) ∧ (q.fields ≠ [] ∨ q.aggregates ≠ []) ∧
      (∀ f ∈ q.fields, Text.isBlankText f = false) ∧
      (∀ f ∈ q.groupBy, Text.isBlankText f = false) ∧
      (∀ f ∈ q.orderBy, Text.isBlankText f = false) ∧
      q.connectives.length = q.conditions.length - 1 := by
  have hselected : ¬ (q.fields.isEmpty && q.aggregates.isEmpty) = true ↔
      q.fields ≠ [] ∨ q.aggregates ≠ [] := by
    simp [or_iff_not_imp_left]
  unfold Query.check
  simp only [ite_error_eq_ok_iff, Bool.not_eq_true, blank_source_eq_false_iff,
    hasBlankEntry_eq_false_iff, not_not, and_true]
  rw [← Bool.not_eq_true, hselected]

theorem Query.eq_of_check {q r : Query} (h : q.check = .ok r) : q = r := by
  unfold Query.check at h
  simp only [ite_error_eq_ok_iff] at h
  exact Except.ok.inj h.2.2.2.2.2.2

/-- A tidy condition passes the check when its value is trimmed. -/
theorem Condition.check_of_tidy {c : Condition} (h : c.Tidy) (hv : Text.Trimmed c.value) :
    c.check = .ok c :=
  check_eq_ok_iff.2 ⟨⟨h.trimmed, h.ne_nil⟩, hv⟩

theorem Aggregate.check_of_tidy {a : Aggregate} (h : a.Tidy) : a.check = .ok a :=
  check_eq_ok_iff.2 ⟨h.entry.trimmed, h.entry.ne_nil⟩

theorem Text.TidyEntry.not_blank {t : Text} (h : t.TidyEntry) : isBlankText t = false := by
  by_contra hb
  have ht : trim t = t := h.trimmed
  rw [trim_eq_nil_iff.2 (by simpa using hb)] at ht
  exact h.ne_nil ht.symm

theorem Query.check_of_tidy {q : Query} (h : q.Tidy) : q.check = .ok q :=
  check_eq_ok_iff.2 ⟨⟨h.source_ne_nil, h.source_run⟩, h.selected,
    fun f hf => (h.fields f hf).1.not_blank, fun f hf => (h.groupBy f hf).not_blank,
    fun f hf => (h.orderBy f hf).not_blank, h.connectives⟩

/-! ## records -/

/-- A field that is filled in with a value of its reader. -/
def Filling.of {ρ : Type → Type} [Reading ρ] (key : String) (reader : ρ α) (set : α → σ → σ)
    (json : Json) (a : α) : Filling ρ σ :=
  ⟨.of key reader set, json, set a⟩

@[simp] theorem Filling.set_of {ρ : Type → Type} [Reading ρ] (key : String) (reader : ρ α)
    (set : α → σ → σ) (json : Json) (a : α) : (Filling.of key reader set json a).set = set a := rfl

section Records

open LawfulReading (Restores)

variable {ρ : Type → Type} [Reading ρ] [LawfulReading ρ]

/-- A field is filled in with what its reader reads. -/
theorem Filling.restores_of {key : String} {reader : ρ α} {set : α → σ → σ} {json : Json} {a : α}
    (h : Restores reader json a) :
    Restores (Filling.of key reader set json a).slot.fill json (set a) :=
  LawfulReading.restores_map set h

theorem restores_texts (ts : List Text) :
    Restores (Reading.list Reading.text : ρ (List Text)) (Json.ofTexts ts) ts := by
  refine LawfulReading.restores_list ?_
  rw [List.forall₂_map_left_iff, List.forall₂_same]
  exact fun t _ => LawfulReading.restores_text t

/-- A list is restored when its items are. -/
theorem restores_map_toJson {reader : ρ α} {toJson : α → Json} {as : List α}
    (h : ∀ a ∈ as, Restores reader (toJson a) a) :
    Restores (Reading.list reader) (.array (as.map toJson)) as := by
  refine LawfulReading.restores_list ?_
  rwa [List.forall₂_map_left_iff, List.forall₂_same]

theorem Comparison.restores_choice (op : Comparison) :
    Restores (Reading.choice choice : ρ Comparison) op.toJson op :=
  LawfulReading.restores_choice (by cases op <;> decide)

theorem Connective.restores_choice (op : Connective) :
    Restores (Reading.choice choice : ρ Connective) op.toJson op :=
  LawfulReading.restores_choice (by cases op <;> decide)

theorem AggregateKind.restores_choice (kind : AggregateKind) :
    Restores (Reading.choice choice : ρ AggregateKind) kind.toJson kind :=
  LawfulReading.restores_choice (by cases kind <;> decide)

/-- The fields of a stored condition. -/
def Condition.fillings (c : Condition) : List (Filling ρ Condition) :=
  [.of "property_name" Reading.text (fun t c => { c with property := t }) (.string c.property)
      c.property,
    .of "operator" (Reading.choice Comparison.choice) (fun op c => { c with comparison := op })
      c.comparison.toJson c.comparison,
    .of "property_value" Reading.text (fun t c => { c with value := t }) (.string c.value) c.value]

omit [LawfulReading ρ] in
theorem Condition.independent_fillings (c : Condition) :
    Filling.Independent (c.fillings : List (Filling ρ Condition)) := by
  constructor
  · show (["property_name", "operator", "property_value"].map String.toList).Nodup
    decide
  · simp [fillings]

/-- The fields of a stored condition are read. -/
theorem Condition.restores_fillings (c : Condition) :
    ∀ f ∈ (c.fillings : List (Filling ρ Condition)), Restores f.slot.fill f.value f.set := by
  simp only [fillings, List.forall_mem_cons]
  exact ⟨Filling.restores_of (LawfulReading.restores_text _),
    Filling.restores_of (Comparison.restores_choice _),
    Filling.restores_of (LawfulReading.restores_text _), by simp⟩

/-- A condition that passes the check is restored. -/
theorem Condition.restores_schema {c : Condition} (h : c.check = .ok c) :
    Restores (schema : ρ Condition) c.toJson c :=
  LawfulReading.restores_record "FilterConditionRecord".toList c.independent_fillings
    c.restores_fillings h

def Aggregate.fillings (a : Aggregate) : List (Filling ρ Aggregate) :=
  [.of "field" Reading.text (fun t a => { a with field := t }) (.string a.field) a.field,
    .of "function" (Reading.choice AggregateKind.choice) (fun kind a => { a with kind := kind })
      a.kind.toJson a.kind]

theorem Aggregate.restores_schema {a : Aggregate} (h : a.check = .ok a) :
    Restores (schema : ρ Aggregate) a.toJson a := by
  have hi : Filling.Independent (a.fillings : List (Filling ρ Aggregate)) := by
    constructor
    · show (["field", "function"].map String.toList).Nodup
      decide
    · simp [fillings]
  refine LawfulReading.restores_record "AggregateFunctionRecord".toList hi ?_ h
  simp only [fillings, List.forall_mem_cons]
  exact ⟨Filling.restores_of (LawfulReading.restores_text _),
    Filling.restores_of (AggregateKind.restores_choice _), by simp⟩

def Query.fillings (q : Query) : List (Filling ρ Query) :=
  [.of "query_string" Reading.text (fun t q => { q with text := t }) (.string q.text) q.text,
    .of "source_name" Reading.text (fun t q => { q with source := t }) (.string q.source) q.source,
    .of "fields" (Reading.list Reading.text) (fun ts q => { q with fields := ts })
      (Json.ofTexts q.fields) q.fields,
    .of "aggregate_functions" (Reading.list Aggregate.schema)
      (fun as q => { q with aggregates := as }) (.array (q.aggregates.map Aggregate.toJson))
      q.aggregates,
    .of "filter_conditions" (Reading.list Condition.schema)
      (fun cs q => { q with conditions := cs }) (.array (q.conditions.map Condition.toJson))
      q.conditions,
    .of "logical_operators" (Reading.list (Reading.choice Connective.choice))
      (fun ops q => { q with connectives := ops }) (.array (q.connectives.map Connective.toJson))
      q.connectives,
    .of "group_by_fields" (Reading.list Reading.text) (fun ts q => { q with groupBy := ts })
      (Json.ofTexts q.groupBy) q.groupBy,
    .of "order_by_fields" (Reading.list Reading.text) (fun ts q => { q with orderBy := ts })
      (Json.ofTexts q.orderBy) q.orderBy]

/-- The checks that a stored query has to pass, its parts included. -/
structure Query.Storable (q : Query) : Prop where
  aggregates : ∀ a ∈ q.aggregates, a.check = .ok a
  conditions : ∀ c ∈ q.conditions, c.check = .ok c
  whole : q.check = .ok q

/-- The conditions of a stored query. -/
def Query.conditionsFilling (q : Query) : Filling ρ Query :=
  .of "filter_conditions" (Reading.list Condition.schema) (fun cs q => { q with conditions := cs })
    (.array (q.conditions.map Condition.toJson)) q.conditions

omit [LawfulReading ρ] in
theorem Query.independent_fillings (q : Query) :
    Filling.Independent (q.fillings : List (Filling ρ Query)) := by
  constructor
  · show (["query_string", "source_name", "fields", "aggregate_functions", "filter_conditions",
      "logical_operators", "group_by_fields", "order_by_fields"].map String.toList).Nodup
    decide
  · simp [fillings]

/-- The fields of a stored query are read, other than its conditions. -/
theorem Query.restores_fillings {q : Query} (h : ∀ a ∈ q.aggregates, a.check = .ok a) :
    ∀ f ∈ (q.fillings : List (Filling ρ Query)),
      f = q.conditionsFilling ∨ Restores f.slot.fill f.value f.set := by
  simp only [fillings, List.forall_mem_cons]
  exact ⟨.inr (Filling.restores_of (LawfulReading.restores_text _)),
    .inr (Filling.restores_of (LawfulReading.restores_text _)),
    .inr (Filling.restores_of (restores_texts _)),
    .inr (Filling.restores_of (restores_map_toJson fun a ha =>
      Aggregate.restores_schema (h a ha))),
    .inl rfl,
    .inr (Filling.restores_of (restores_map_toJson fun op _ => Connective.restores_choice op)),
    .inr (Filling.restores_of (restores_texts _)), .inr (Filling.restores_of (restores_texts _)),
    by simp⟩

theorem Query.restores_schema {q : Query} (h : q.Storable) :
    Restores (schema : ρ Query) q.toJson q := by
  have hread : ∀ f ∈ (q.fillings : List (Filling ρ Query)), Restores f.slot.fill f.value f.set := by
    intro f hf
    rcases restores_fillings h.aggregates f hf with rfl | hr
    · exact Filling.restores_of (restores_map_toJson fun c hc =>
        Condition.restores_schema (h.conditions c hc))
    · exact hr
  have hcheck : check (Filling.apply (q.fillings : List (Filling ρ Query))
      ⟨[], [], [], [], [], [], [], []⟩) = .ok q := by
    simp only [Filling.apply, fillings, Filling.set_of, List.foldl_cons, List.foldl_nil]
    exact h.whole
  exact LawfulReading.restores_record "ParsedQueryRecord".toList q.independent_fillings hread hcheck

end Records

namespace Query

/-! ## queries that have been read -/

/-- A tidy query can be stored when its values are trimmed. -/
theorem Tidy.storable {q : Query} (h : q.Tidy)
    (hv : ∀ c ∈ q.conditions, Text.Trimmed c.value) : q.Storable where
  aggregates a ha := Aggregate.check_of_tidy (h.aggregates a ha)
  conditions c hc := Condition.check_of_tidy (h.conditions c hc) (hv c hc)
  whole := check_of_tidy h

/-- A query that can be stored is restored from its JSON value. -/
theorem Storable.ofJson_toJson {q : Query} (h : q.Storable) : ofJson q.toJson = .ok q :=
  restores_schema (ρ := JsonReader) h

/-- A query that can be stored is restored from its JSON text. -/
theorem Storable.ofText_render {q : Query} (h : q.Storable) : ofText q.toJson.render = .ok q := by
  have hr := (restores_schema (ρ := TextReader) h).2 []
  rw [List.append_nil] at hr
  rw [ofText, TextReader.whole, hr]
  rfl

/-- The values of a filter are trimmed when their quotes are kept. -/
theorem trimmed_of_parseFilter {segment : Option Text} {conditions : List Condition}
    {connectives : List Connective}
    (h : parseFilter {} segment = .ok (conditions, connectives)) :
    ∀ c ∈ conditions, Text.Trimmed c.value := by
  rcases parseFilter_eq_ok h with ⟨-, rfl, -⟩ | ⟨t, us, ms, -, -, -, hc, -⟩
  · simp
  · refine forall_of_forall₂ hc fun u _ c hu => ?_
    obtain ⟨before, after, -, -, -, -, -, -, hv⟩ := Condition.parse_eq_ok_iff.1 hu
    rw [hv, Condition.normalize_default]
    exact Text.trimmed_trim after

/-- A query that has been read is restored from its JSON value and from its JSON text. -/
theorem restored_of_parse {t : Text} {q : Query} (h : parse {} t = .ok q) :
    ofJson q.toJson = .ok q ∧ ofText q.toJson.render = .ok q := by
  obtain ⟨p, hp, -, hr⟩ := Pieces.parse_eq_ok_iff.1 h
  have hs := (p.tidy_of_reads hp hr).storable (trimmed_of_parseFilter hr.filter)
  exact ⟨hs.ofJson_toJson, hs.ofText_render⟩

/-- Such as one with quotes, a backslash, a tab and a letter outside ASCII in its values. -/
theorem restored_with_escapes : ∃ q, parse {}
    "select max(a), b from \"t\\u\" where n = 'x\t\"y\"' or é >= \u00e9 order by b".toList = .ok q ∧
      ofJson q.toJson = .ok q ∧ ofText q.toJson.render = .ok q := by
  obtain ⟨q, h⟩ := exists_ok_of_isSome (x := parse {}
    "select max(a), b from \"t\\u\" where n = 'x\t\"y\"' or é >= \u00e9 order by b".toList)
    (by decide +kernel)
  exact ⟨q, h, restored_of_parse h⟩

end Query

end FlatQuery
