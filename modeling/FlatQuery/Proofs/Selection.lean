import FlatQuery.Proofs.Tidy

/-!
# FlatQuery.Proofs.Selection

Select lists and lists of fields as they are written.

* `Query.parseSelected_texts` — a select list is read as its fields and its aggregates;
* `Pieces.selectedTokens_of_listed`, `Query.parseFields_of_listed` — tidy parts are read from the
  lists that they are written in.
-/

namespace FlatQuery

/-- An entry of a select list: a plain field, or an aggregate that is written as a call. -/
inductive Entry where
  | field (f : Text)
  | call (a : Aggregate)
deriving DecidableEq

/-! ## entries -/

namespace Aggregate

/-- The text of a tidy aggregate is an entry. -/
theorem Tidy.entry_render {a : Aggregate} (h : a.Tidy) : Text.TidyEntry a.render where
  trimmed := trimmed_render a
  ne_nil := by simp [render]
  no_comma := by
    have hname : ',' ∉ a.kind.name := by
      cases a.kind <;> decide
    simp [render, hname, h.entry.no_comma]

/-- The field of a tidy aggregate can stand between parentheses. -/
theorem Tidy.all_field {a : Aggregate} (h : a.Tidy) :
    a.field.all (!Call.isParenthesis ·) = true := by
  rw [List.all_eq_true]
  intro c hc
  rw [h.no_parenthesis c hc]
  rfl

theorem Tidy.isCall_render {a : Aggregate} (h : a.Tidy) : isCall a.render = true := by
  rw [isCall, ofText?_render h.entry.trimmed h.all_field]
  rfl

theorem Tidy.parse_render {a : Aggregate} (h : a.Tidy) : parse a.render = .ok (some a) :=
  Aggregate.parse_render h.entry.trimmed h.all_field h.entry.ne_nil

end Aggregate

namespace Entry

def text : Entry → Text
  | field f => f
  | call a => a.render

def field? : Entry → Option Text
  | field f => some f
  | call _ => none

def aggregate? : Entry → Option Aggregate
  | field _ => none
  | call a => some a

/-- A plain entry is tidy and does not look like a call; the field of a call is tidy. -/
def Tidy : Entry → Prop
  | field f => Text.TidyEntry f ∧ Aggregate.isCall f = false
  | call a => a.Tidy

/-- The text of a tidy entry is an entry of a list. -/
theorem Tidy.entry {e : Entry} (h : e.Tidy) : Text.TidyEntry e.text := by
  cases e with
  | field f => exact h.1
  | call a => exact Aggregate.Tidy.entry_render h

end Entry

/-! ## the parts of a written list -/

/-- Tidy parts are the entries of the list. -/
theorem Text.entries_trim_of_listed {parts : List Text} {t : Text} (h : Listed parts t)
    (hp : ∀ p ∈ parts, TidyEntry p) : entries (trim t) = parts := by
  rw [entries_trim]
  exact entries_of_listed h fun p hm => ⟨(hp p hm).trimmed, (hp p hm).no_comma⟩

/-- Tidy parts are the entries of the select list. -/
theorem Pieces.selectedTokens_of_listed {parts : List Text} {t : Text} (h : Text.Listed parts t)
    (hp : ∀ p ∈ parts, Text.TidyEntry p) : selectedTokens t = parts := by
  have he := Text.entries_trim_of_listed h hp
  have ht : Text.trim t ≠ [] := by
    intro ht
    rw [ht, show Text.entries [] = [[]] from rfl] at he
    exact (hp [] (by simp [← he])).ne_nil rfl
  rw [selectedTokens, if_neg ht, he]

namespace Query

/-- Tidy fields are read from the list. -/
theorem parseFields_of_listed {place : FieldPlace} {fields : List Text} {t : Text}
    (h : Text.Listed fields t) (hf : ∀ f ∈ fields, Text.TidyEntry f) :
    parseFields place (some (Text.trim t)) = .ok fields :=
  parseFields_eq_ok_iff.2 ⟨(Text.entries_trim_of_listed h hf).symm, fun f hm => (hf f hm).ne_nil⟩

/-- The calls among the entries are read as the aggregates. -/
theorem forall₂_parse_calls {entries : List Entry} (h : ∀ e ∈ entries, e.Tidy) :
    List.Forall₂ (fun t a => Aggregate.parse t = .ok (some a))
      ((entries.map Entry.text).filter Aggregate.isCall) (entries.filterMap Entry.aggregate?) := by
  induction entries with
  | nil => exact .nil
  | cons e entries ih =>
      have hrest := ih fun e he => h e (List.mem_cons_of_mem _ he)
      have he := h e List.mem_cons_self
      cases e with
      | field f =>
          rw [List.map_cons, Entry.text, List.filter_cons_of_neg (by simp [he.2])]
          exact hrest
      | call a =>
          have hc := Aggregate.Tidy.isCall_render he
          rw [List.map_cons, Entry.text, List.filter_cons_of_pos hc]
          exact .cons (Aggregate.Tidy.parse_render he) hrest

/-- The other entries are the fields. -/
theorem filter_texts {entries : List Entry} (h : ∀ e ∈ entries, e.Tidy) :
    (entries.map Entry.text).filter (!Aggregate.isCall ·) = entries.filterMap Entry.field? := by
  induction entries with
  | nil => rfl
  | cons e entries ih =>
      have hrest := ih fun e he => h e (List.mem_cons_of_mem _ he)
      have he := h e List.mem_cons_self
      cases e with
      | field f =>
          rw [List.map_cons, Entry.text, List.filter_cons_of_pos (by simp [he.2]), hrest]
          rfl
      | call a =>
          have hc := Aggregate.Tidy.isCall_render he
          rw [List.map_cons, Entry.text, List.filter_cons_of_neg (by simp [hc]), hrest]
          rfl

/-- A select list is read as its fields and its aggregates. -/
theorem parseSelected_texts {entries : List Entry} (hn : entries ≠ [])
    (h : ∀ e ∈ entries, e.Tidy) : parseSelected (entries.map Entry.text) =
      .ok (entries.filterMap Entry.field?, entries.filterMap Entry.aggregate?) := by
  refine parseSelected_eq_ok_iff.2 ⟨?_, ?_, (filter_texts h).symm, forall₂_parse_calls h⟩
  · rwa [Ne, List.map_eq_nil_iff]
  · intro t ht
    obtain ⟨e, he, rfl⟩ := List.mem_map.1 ht
    exact (h e he).entry.ne_nil

/-- A written select list is read as its fields and its aggregates. -/
theorem parseSelected_of_listed {entries : List Entry} {t : Text}
    (hl : Text.Listed (entries.map Entry.text) t) (h : ∀ e ∈ entries, e.Tidy) :
    parseSelected (Pieces.selectedTokens t) =
      .ok (entries.filterMap Entry.field?, entries.filterMap Entry.aggregate?) := by
  have hparts : ∀ p ∈ entries.map Entry.text, Text.TidyEntry p := by
    intro p hp
    obtain ⟨e, he, rfl⟩ := List.mem_map.1 hp
    exact (h e he).entry
  rw [Pieces.selectedTokens_of_listed hl hparts]
  refine parseSelected_texts ?_ h
  intro hn
  rw [hn] at hl
  cases hl

end Query

end FlatQuery
