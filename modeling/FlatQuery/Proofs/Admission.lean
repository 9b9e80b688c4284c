import FlatQuery.Proofs.HandOff

/-!
# FlatQuery.Proofs.Admission

Which queries are read from stored records.

`EnsuringReading` asks of a kind of reader that each way to build a reader hands on what its parts
ensure of the values they read.  So the records inside a query are checked wherever they stand.

* `Query.ensures_schema` — what is read as a query has passed all checks;
* `Query.storable_iff` — what the checks ask of a query;
* `Query.ofJson_toJson_iff` — a query is restored when it is admissible, and only then;
* `Query.admissible_of_read` — a query that is read, from JSON or from JSON text, is admissible and
  read again from what it is stored as.
-/

namespace FlatQuery

/-! ## what readers ensure -/

/-- Kinds of readers of which something can be said without knowing what they read from. -/
class EnsuringReading (ρ : Type → Type) [Reading ρ] where
  /-- What the reader reads has the property. -/
  Ensures {α : Type} : ρ α → (α → Prop) → Prop
  ensures_of_forall {α : Type} {reader : ρ α} {P : α → Prop} : (∀ a, P a) → Ensures reader P
  ensures_imp {α : Type} {reader : ρ α} {P Q : α → Prop} :
    Ensures reader P → (∀ a, P a → Q a) → Ensures reader Q
  ensures_map {α β : Type} {reader : ρ α} {P : β → Prop} (f : α → β) :
    Ensures reader (fun a => P (f a)) → Ensures (Reading.map f reader) P
  ensures_list {α : Type} {reader : ρ α} {P : α → Prop} :
    Ensures reader P → Ensures (Reading.list reader) fun as => ∀ a ∈ as, P a
  /-- A record has what its check gives to the records that keep an invariant: the blank record has
  it, and no field breaks it. -/
  ensures_record {α σ : Type} {slots : List (Slot ρ σ)} {blank : σ}
    {check : σ → Except QueryError α} (Inv : σ → Prop) {P : α → Prop} (title : Text) :
    Inv blank → (∀ slot ∈ slots, Ensures slot.fill fun set => ∀ s, Inv s → Inv (set s)) →
      (∀ s a, Inv s → check s = .ok a → P a) → Ensures (Reading.record title slots blank check) P

/-! ## readers of JSON values -/

namespace JsonReader

variable {σ : Type} {slots : List (Slot JsonReader σ)} {s s' : σ}

/-- A member of an object fills in the field of its key, or is passed over. -/
theorem fillMember_eq_ok {member : Text × Json} (h : fillMember slots s member = .ok s') :
    (∀ slot ∈ slots, slot.key ≠ member.1) ∧ s' = s ∨
      ∃ slot ∈ slots, slot.key = member.1 ∧ ∃ set, slot.fill member.2 = .ok set ∧ s' = set s := by
  unfold fillMember at h
  split at h
  next slot hf =>
      obtain ⟨set, hset, rfl⟩ := map_eq_ok_iff.1 h
      have hkey : slot.key = member.1 := by simpa using List.find?_some hf
      exact .inr ⟨slot, List.mem_of_find?_eq_some hf, hkey, set, hset, rfl⟩
  next hf =>
      cases h
      rw [List.find?_eq_none] at hf
      exact .inl ⟨fun slot hm => by simpa using hf slot hm, rfl⟩

/-- Members are filled in one by one, and no field is missing. -/
theorem fillMembers_eq_ok {members : List (Text × Json)}
    (h : fillMembers slots s members = .ok s') :
    members.foldlM (fillMember slots) s = .ok s' ∧
      ∀ slot ∈ slots, ∃ member ∈ members, member.1 = slot.key := by
  obtain ⟨filled, hf, h⟩ := bind_eq_ok_iff.1 h
  split at h
  next => cases h
  next hmissing =>
      cases h
      rw [List.find?_eq_none] at hmissing
      exact ⟨hf, fun slot hm => by simpa using hmissing slot hm⟩

/-- A record is filled in from an object or from an array, and has passed its check. -/
theorem record_eq_ok {title : Text} {check : σ → Except QueryError α} {json : Json} {a : α}
    (h : record title slots s check json = .ok a) :
    ∃ filled, check filled = .ok a ∧
      ((∃ fields, json = .object fields ∧
          fillMembers slots s (Json.members fields) = .ok filled) ∨
        ∃ items, json = .array items ∧
          fillItems title slots.length items.length slots s items = .ok filled) := by
  unfold record at h
  cases json with
  | object fields =>
      obtain ⟨filled, hf, h⟩ := bind_eq_ok_iff.1 h
      dsimp only at h
      split at h
      next value hc =>
          cases h
          exact ⟨filled, hc, .inl ⟨fields, rfl, hf⟩⟩
      next => cases h
  | array items =>
      obtain ⟨filled, hf, h⟩ := bind_eq_ok_iff.1 h
      dsimp only at h
      split at h
      next value hc =>
          cases h
          exact ⟨filled, hc, .inr ⟨items, rfl, hf⟩⟩
      next => cases h
  | _ => cases h

/-- A property of records that no field breaks. -/
def Kept (Inv : σ → Prop) (slots : List (Slot JsonReader σ)) : Prop :=
  ∀ slot ∈ slots, ∀ json set, slot.fill json = .ok set → ∀ s, Inv s → Inv (set s)

/-- It is not broken by the members of an object. -/
theorem Kept.fillMembers {Inv : σ → Prop} (h : Kept Inv slots) {members : List (Text × Json)}
    (hs : fillMembers slots s members = .ok s') (hi : Inv s) : Inv s' := by
  refine foldlM_invariant (fun s member s' hf hi => ?_) (fillMembers_eq_ok hs).1 hi
  obtain ⟨-, rfl⟩ | ⟨slot, hm, -, set, hset, rfl⟩ := fillMember_eq_ok hf
  · exact hi
  · exact h slot hm member.2 set hset s hi

/-- Nor by the items of an array. -/
theorem Kept.fillItems {Inv : σ → Prop} (h : Kept Inv slots) {title : Text} {fields length : Nat}
    {items : List Json} (hs : fillItems title fields length slots s items = .ok s') (hi : Inv s) :
    Inv s' := by
  fun_induction JsonReader.fillItems title fields length slots s items with
  | case1 s =>
      cases hs
      exact hi
  | case2 => cases hs
  | case3 => cases hs
  | case4 slot slots s item items ih =>
      obtain ⟨set, hset, hs⟩ := bind_eq_ok_iff.1 hs
      have hkept := List.forall_mem_cons.1 h
      exact ih set hkept.2 hs (hkept.1 item set hset s hi)

instance : EnsuringReading JsonReader where
  Ensures reader P := ∀ json a, reader json = .ok a → P a
  ensures_of_forall h _ a _ := h a
  ensures_imp h hpq json a ha := hpq a (h json a ha)
  ensures_map f h json b hb := by
    obtain ⟨a, ha, rfl⟩ := map_eq_ok_iff.1 hb
    exact h json a ha
  ensures_list h json as has := by
    cases json with
    | array items => exact forall_of_forall₂ (mapM_eq_ok_iff.1 has) fun json _ a => h json a
    | _ => cases has
  ensures_record Inv _ _ hb hs hc json a ha := by
    obtain ⟨filled, hcheck, ⟨fields, -, hf⟩ | ⟨items, -, hf⟩⟩ := record_eq_ok ha
    · exact hc filled a (Kept.fillMembers hs hf hb) hcheck
    · exact hc filled a (Kept.fillItems hs hf hb) hcheck

end JsonReader

/-! ## readers of JSON text -/

namespace TextReader

variable {σ : Type} {slots : List (Slot TextReader σ)} {s s' : σ} {t rest : Text}

/-- What each item of an array has. -/
theorem forall_items {reader : TextReader α} {P : α → Prop}
    (h : ∀ t a rest, reader t = .ok (a, rest) → P a) {fuel : Nat} {first : Bool} {as : List α}
    (hs : items reader fuel first t = .ok (as, rest)) : ∀ a ∈ as, P a := by
  induction fuel generalizing first t as with
  | zero => cases hs
  | succ fuel ih =>
      obtain ⟨next, -, hs⟩ := bind_eq_ok_iff.1 hs
      cases next with
      | closed =>
          cases hs
          simp
      | entry t =>
          obtain ⟨⟨a, t'⟩, ha, hs⟩ := bind_eq_ok_iff.1 hs
          obtain ⟨⟨more, t''⟩, hmore, hs⟩ := bind_eq_ok_iff.1 hs
          cases hs
          exact List.forall_mem_cons.2 ⟨h t a t' ha, ih hmore⟩

def Kept (Inv : σ → Prop) (slots : List (Slot TextReader σ)) : Prop :=
  ∀ slot ∈ slots, ∀ t set rest, slot.fill t = .ok (set, rest) → ∀ s, Inv s → Inv (set s)

theorem Kept.fillItems {Inv : σ → Prop} (h : Kept Inv slots) {first : Bool}
    (hs : fillItems slots first s t = .ok (s', rest)) (hi : Inv s) : Inv s' := by
  induction slots generalizing first s t with
  | nil =>
      unfold TextReader.fillItems at hs
      split at hs
      · cases hs
      · split at hs
        · cases hs
          exact hi
        · cases hs
  | cons slot slots ih =>
      obtain ⟨next, -, hs⟩ := bind_eq_ok_iff.1 hs
      cases next with
      | closed => cases hs
      | entry t =>
          obtain ⟨⟨set, t'⟩, hset, hs⟩ := bind_eq_ok_iff.1 hs
          have hkept := List.forall_mem_cons.1 h
          exact ih hkept.2 hs (hkept.1 t set t' hset s hi)

theorem Kept.fillMembers {Inv : σ → Prop} (h : Kept Inv slots) {fuel : Nat} {first : Bool}
    {seen : List Text} (hs : fillMembers slots fuel first seen s t = .ok (s', rest))
    (hi : Inv s) : Inv s' := by
  induction fuel generalizing first seen s t with
  | zero => cases hs
  | succ fuel ih =>
      obtain ⟨next, -, hs⟩ := bind_eq_ok_iff.1 hs
      cases next with
      | closed =>
          dsimp only at hs
          split at hs
          · cases hs
            exact hi
          · cases hs
      | entry t =>
          obtain ⟨t₁, -, hs⟩ := bind_eq_ok_iff.1 hs
          obtain ⟨⟨key, t₂⟩, -, hs⟩ := bind_eq_ok_iff.1 hs
          dsimp only at hs
          split at hs
          next slot hf =>
              split at hs
              next => cases hs
              next =>
                  obtain ⟨t₃, -, hs⟩ := bind_eq_ok_iff.1 hs
                  obtain ⟨⟨set, t₄⟩, hset, hs⟩ := bind_eq_ok_iff.1 hs
                  exact ih hs (h slot (List.mem_of_find?_eq_some hf) _ set _ hset s hi)
          -- a member of no field only moves the text on
          next =>
              obtain ⟨t₃, -, hs⟩ := bind_eq_ok_iff.1 hs
              obtain ⟨t₄, -, hs⟩ := bind_eq_ok_iff.1 hs
              exact ih hs hi

instance : EnsuringReading TextReader where
  Ensures reader P := ∀ t a rest, reader t = .ok (a, rest) → P a
  ensures_of_forall h _ a _ _ := h a
  ensures_imp h hpq t a rest ha := hpq a (h t a rest ha)
  ensures_map f h t b rest hb := by
    obtain ⟨⟨a, rest'⟩, ha, hb⟩ := map_eq_ok_iff.1 hb
    cases hb
    exact h t a rest ha
  ensures_list h t as rest has := by
    have has : list _ t = .ok (as, rest) := has
    unfold list at has
    split at has
    next => exact forall_items h has
    next => cases has
  ensures_record {_ _ slots blank check} Inv _ title hb hs hc t a rest ha := by
    have ha : record slots blank check t = .ok (a, rest) := ha
    unfold record at ha
    split at ha
    next =>
        obtain ⟨⟨filled, rest'⟩, hf, ha⟩ := bind_eq_ok_iff.1 ha
        dsimp only at ha
        split at ha
        next value hcheck =>
            cases ha
            exact hc filled a (Kept.fillItems hs hf hb) hcheck
        next => cases ha
    next =>
        obtain ⟨⟨filled, rest'⟩, hf, ha⟩ := bind_eq_ok_iff.1 ha
        dsimp only at ha
        split at ha
        next value hcheck =>
            cases ha
            exact hc filled a (Kept.fillMembers hs hf hb) hcheck
        next => cases ha
    next => cases ha

end TextReader

/-! ## records -/

section Records

open EnsuringReading (Ensures)

variable {ρ : Type → Type} [Reading ρ] [EnsuringReading ρ]

/-- What is read as a condition has passed the check. -/
theorem Condition.ensures_schema : Ensures (schema : ρ Condition) fun c => c.check = .ok c := by
  refine EnsuringReading.ensures_record (fun _ => True) _ trivial
    (fun slot _ => EnsuringReading.ensures_of_forall fun _ _ _ => trivial) fun s c _ h => ?_
  obtain rfl := eq_of_check h
  exact h

theorem Aggregate.ensures_schema : Ensures (schema : ρ Aggregate) fun a => a.check = .ok a := by
  refine EnsuringReading.ensures_record (fun _ => True) _ trivial
    (fun slot _ => EnsuringReading.ensures_of_forall fun _ _ _ => trivial) fun s a _ h => ?_
  obtain rfl := eq_of_check h
  exact h

/-- A field that is filled in with what its reader ensures. -/
theorem Slot.ensures_of {key : String} {reader : ρ α} {set : α → σ → σ} {P : α → Prop}
    {Q : (σ → σ) → Prop} (h : Ensures reader P) (hq : ∀ a, P a → Q (set a)) :
    Ensures (Slot.of key reader set).fill Q :=
  EnsuringReading.ensures_map set (EnsuringReading.ensures_imp h hq)

/-- A field that is filled in with anything. -/
theorem Slot.ensures_of_forall {key : String} {reader : ρ α} {set : α → σ → σ}
    {Q : (σ → σ) → Prop} (h : ∀ a, Q (set a)) : Ensures (Slot.of key reader set).fill Q :=
  ensures_of (EnsuringReading.ensures_of_forall fun _ => trivial) fun a _ => h a

/-- What is read as a query has passed all checks. -/
theorem Query.ensures_schema : Ensures (schema : ρ Query) Storable := by
  refine EnsuringReading.ensures_record
    (fun q => (∀ a ∈ q.aggregates, a.check = .ok a) ∧ ∀ c ∈ q.conditions, c.check = .ok c) _
    (by simp) ?_ fun s q hparts h => ?_
  -- only two of the fields hold records; the others do not touch what the invariant speaks of
  · simp only [List.forall_mem_cons]
    refine ⟨Slot.ensures_of_forall fun _ _ h => h, Slot.ensures_of_forall fun _ _ h => h,
      Slot.ensures_of_forall fun _ _ h => h, ?_, ?_, Slot.ensures_of_forall fun _ _ h => h,
      Slot.ensures_of_forall fun _ _ h => h, Slot.ensures_of_forall fun _ _ h => h, by simp⟩
    · exact Slot.ensures_of (EnsuringReading.ensures_list Aggregate.ensures_schema)
        fun as has s h => ⟨has, h.2⟩
    · exact Slot.ensures_of (EnsuringReading.ensures_list Condition.ensures_schema)
        fun cs hcs s h => ⟨h.1, hcs⟩
  · obtain rfl := eq_of_check h
    exact ⟨hparts.1, hparts.2, h⟩

end Records

namespace Query

/-! ## queries that are read -/

/-- What holds of a query that is read from a stored record. -/
structure Admissible (q : Query) : Prop where
  source_ne_nil : q.source ≠ []
  source_run : ∀ c ∈ q.source, isBlank c = false
  selected : q.fields ≠ [] ∨ q.aggregates ≠ []
  fields : ∀ f ∈ q.fields, Text.isBlankText f = false
  groupBy : ∀ f ∈ q.groupBy, Text.isBlankText f = false
  orderBy : ∀ f ∈ q.orderBy, Text.isBlankText f = false
  aggregates : ∀ a ∈ q.aggregates, Text.Trimmed a.field ∧ a.field ≠ []
  properties : ∀ c ∈ q.conditions, Text.Trimmed c.property ∧ c.property ≠ []
  values : ∀ c ∈ q.conditions, Text.Trimmed c.value
  connectives : q.connectives.length = q.conditions.length - 1

/-- What the checks ask of a query and of its parts. -/
theorem storable_iff {q : Query} : q.Storable ↔ q.Admissible := by
  constructor
  · intro h
    obtain ⟨⟨hne, hrun⟩, hselected, hfields, hgroup, horder, hlength⟩ := check_eq_ok_iff.1 h.whole
    have hc (c) (hm : c ∈ q.conditions) := Condition.check_eq_ok_iff.1 (h.conditions c hm)
    exact ⟨hne, hrun, hselected, hfields, hgroup, horder,
      fun a ha => Aggregate.check_eq_ok_iff.1 (h.aggregates a ha), fun c hm => (hc c hm).1,
      fun c hm => (hc c hm).2, hlength⟩
  · intro h
    exact ⟨fun a ha => Aggregate.check_eq_ok_iff.2 (h.aggregates a ha),
      fun c hm => Condition.check_eq_ok_iff.2 ⟨h.properties c hm, h.values c hm⟩,
      check_eq_ok_iff.2 ⟨⟨h.source_ne_nil, h.source_run⟩, h.selected, h.fields, h.groupBy,
        h.orderBy, h.connectives⟩⟩

/-- A query that is read from a JSON value has passed the checks. -/
theorem storable_of_ofJson {json : Json} {q : Query} (h : ofJson json = .ok q) : q.Storable :=
  ensures_schema (ρ := JsonReader) json q h

theorem storable_of_ofText {t : Text} {q : Query} (h : ofText t = .ok q) : q.Storable := by
  unfold ofText TextReader.whole at h
  obtain ⟨⟨r, rest⟩, hr, h⟩ := bind_eq_ok_iff.1 h
  obtain rfl : r = q := by
    unfold Json.finish at h
    dsimp only at h
    split at h
    next => exact Except.ok.inj h
    next => cases h
  exact ensures_schema (ρ := TextReader) t r rest hr

/-- A query is restored when it is admissible, and only then. -/
theorem ofJson_toJson_iff {q : Query} : ofJson q.toJson = .ok q ↔ q.Admissible := by
  rw [← storable_iff]
  exact ⟨storable_of_ofJson, Storable.ofJson_toJson⟩

/-- A query that is read, from a JSON value or from JSON text, is admissible.  What it is stored as
is read again, as value and as text, and gives the same query. -/
theorem admissible_of_read {q : Query}
    (h : (∃ json, ofJson json = .ok q) ∨ ∃ t, ofText t = .ok q) :
    q.Admissible ∧ ofJson q.toJson = .ok q ∧ ofText q.toJson.render = .ok q := by
  have hs : q.Storable := by
    rcases h with ⟨json, h⟩ | ⟨t, h⟩
    · exact storable_of_ofJson h
    · exact storable_of_ofText h
  exact ⟨storable_iff.1 hs, hs.ofJson_toJson, hs.ofText_render⟩

/-- Such as one from an object with its members in another order and one that is no field, and one
from the text of an array with blanks, a comparison as an object of one key and an escape. -/
theorem admissible_object_and_array :
    (∃ q, ofJson (.object [("source_name".toList, .string ['t']), ("limit".toList, .null),
          ("query_string".toList, .string []), ("order_by_fields".toList, .array []),
          ("group_by_fields".toList, .array []), ("fields".toList, Json.ofTexts [['a']]),
          ("filter_conditions".toList,
            .array [.array [.string ['b'], .object [(['<'], .null)], .string []]]),
          ("logical_operators".toList, .array []), ("aggregate_functions".toList, .array [])]) =
        .ok q ∧ q.Admissible ∧ ofJson q.toJson = .ok q ∧ ofText q.toJson.render = .ok q) ∧
    ∃ q, ofText "[\"\", \"t\", [\"a\"], [], [[\"b\", \x7b\"<\": null\x7d, \"\\u00e9\"]], [], [], []]".toList =
        .ok q ∧ q.Admissible ∧ ofJson q.toJson = .ok q ∧ ofText q.toJson.render = .ok q :=
  ⟨exists_ok_and (by decide +kernel) fun _ h => admissible_of_read (.inl ⟨_, h⟩),
    exists_ok_and (by decide +kernel) fun _ h => admissible_of_read (.inr ⟨_, h⟩)⟩

end Query

end FlatQuery
