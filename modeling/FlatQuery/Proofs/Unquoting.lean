import FlatQuery.Proofs.HandOff

/-!
# FlatQuery.Proofs.Unquoting

Queries whose values are stored without their quotes.

* `Query.parse_eq_normalize` — under any options a query is read as it is written, and then its
  values are stored as the options ask;
* `Query.parse_under_both` — so a query is the same one with its quotes and without;
* `Query.restored_unless_padded` — a query that is stored without quotes is restored, unless one of
  its quotes has a blank right behind or before it.
-/

namespace FlatQuery

/-! ## values under options -/

/-- The condition with its value stored as the options ask. -/
def Condition.normalize (options : Options) (c : Condition) : Condition :=
  { c with value := options.normalize c.value }

/-- The query with its values stored as the options ask. -/
def Query.normalize (options : Options) (q : Query) : Query :=
  { q with conditions := q.conditions.map (Condition.normalize options) }

/-- A condition is read as it is written, and then its value is changed. -/
theorem Condition.parse_eq_normalize (options : Options) (raw : Text) :
    parse options raw = (parse {} raw).map (normalize options) := by
  simp only [parse]
  split
  · rfl
  split
  · rfl
  split
  · rfl
  split
  · rfl
  split
  · rfl
  · rw [normalize_default]
    rfl

/-- So are the conditions of a filter. -/
theorem Query.parseFilter_eq_normalize (options : Options) (segment : Option Text) :
    parseFilter options segment = (parseFilter {} segment).map fun (conditions, connectives) =>
      (conditions.map (Condition.normalize options), connectives) := by
  cases segment with
  | none => rfl
  | some t =>
      simp only [parseFilter, Filter.parse]
      split
      · rfl
      have hconditions : (Filter.split t).1.mapM (Condition.parse options) =
          ((Filter.split t).1.mapM (Condition.parse {})).map
            (List.map (Condition.normalize options)) := by
        rw [← mapM_except_map]
        simp only [← Condition.parse_eq_normalize]
      rw [hconditions]
      cases (Filter.split t).1.mapM (Condition.parse {}) with
      | error e => rfl
      | ok conditions => cases (Filter.split t).2.mapM Filter.readConnective <;> rfl

/-- A query is read as it is written, and then its values are changed. -/
theorem Query.parse_eq_normalize (options : Options) (t : Text) :
    parse options t = (parse {} t).map (normalize options) := by
  simp only [parse]
  split
  · rfl
  cases Layout.locate t with
  | error e => rfl
  | ok l =>
      simp only [ok_bind, ofLayout, parseFilter_eq_normalize options]
      cases parseSelected (l.selectedTokens t) with
      | error e => rfl
      | ok selected =>
          cases parseFilter {} (l.conditionSegment? t) with
          | error e => rfl
          | ok filter =>
              cases parseFields .groupBy (l.groupBySegment? t) with
              | error e => rfl
              | ok groupBy => cases parseFields .orderBy (l.orderBySegment? t) <;> rfl

/-! ## values without their quotes -/

/-- What is stored of a value when quotes are taken off: what is between them, or the value itself
when it is not in quotes. -/
inductive Unquotes : Text → Text → Prop
  | quoted {quote : Char} (hq : isQuote quote = true) (inner : Text) :
      Unquotes (quote :: (inner ++ [quote])) inner
  | bare {value : Text} (h : ∀ quote inner, isQuote quote = true →
      value ≠ quote :: (inner ++ [quote])) : Unquotes value value

/-- One thing is stored of a value. -/
theorem unquotes_iff {written stored : Text} :
    Unquotes written stored ↔ stored = Options.normalize ⟨true⟩ written := by
  have hn : Options.normalize ⟨true⟩ written = (unquote? written).getD written := by
    rw [Options.normalize]
    cases unquote? written <;> rfl
  rw [hn]
  constructor
  · intro h
    cases h with
    | quoted hq inner => rw [unquote?_eq_some_iff.2 ⟨_, hq, rfl⟩, Option.getD_some]
    | bare h =>
        have hnone : unquote? written = none := by
          rw [Option.eq_none_iff_forall_ne_some]
          intro inner hi
          obtain ⟨quote, hq, hw⟩ := unquote?_eq_some_iff.1 hi
          exact h quote inner hq hw
        rw [hnone, Option.getD_none]
  · rintro rfl
    cases h : unquote? written with
    | none =>
        refine .bare fun quote inner hq hw => ?_
        rw [unquote?_eq_some_iff.2 ⟨quote, hq, hw⟩] at h
        cases h
    | some inner =>
        obtain ⟨quote, hq, rfl⟩ := unquote?_eq_some_iff.1 h
        exact .quoted hq inner

/-- A quote alone is no pair of them. -/
example : Unquotes "'".toList "'".toList := unquotes_iff.2 (by decide)

/-- The condition is the other one with the quotes of its value taken off. -/
structure Condition.Unquoted (written stored : Condition) : Prop where
  property : stored.property = written.property
  comparison : stored.comparison = written.comparison
  value : Unquotes written.value stored.value

/-- The query is the other one with the quotes of its values taken off, and nothing else changed. -/
structure Query.Unquoted (written stored : Query) : Prop where
  text : stored.text = written.text
  source : stored.source = written.source
  fields : stored.fields = written.fields
  aggregates : stored.aggregates = written.aggregates
  conditions : List.Forall₂ Condition.Unquoted written.conditions stored.conditions
  connectives : stored.connectives = written.connectives
  groupBy : stored.groupBy = written.groupBy
  orderBy : stored.orderBy = written.orderBy

/-- Quotes are taken off as the option asks. -/
theorem Condition.unquoted_normalize (c : Condition) : c.Unquoted (c.normalize ⟨true⟩) where
  property := rfl
  comparison := rfl
  value := unquotes_iff.2 rfl

/-- So they are in a query. -/
theorem Query.unquoted_normalize (q : Query) : q.Unquoted (q.normalize ⟨true⟩) where
  text := rfl
  source := rfl
  fields := rfl
  aggregates := rfl
  conditions := by
    show List.Forall₂ _ q.conditions (q.conditions.map _)
    rw [List.forall₂_map_right_iff, List.forall₂_same]
    exact fun c _ => c.unquoted_normalize
  connectives := rfl
  groupBy := rfl
  orderBy := rfl

/-- A text that is no query is none under either option, for the same reason.  A query is the same
one under both, but for the quotes of its values. -/
theorem Query.parse_under_both (t : Text) :
    (∃ e, parse {} t = .error e ∧ parse ⟨true⟩ t = .error e) ∨
      ∃ q r, parse {} t = .ok q ∧ parse ⟨true⟩ t = .ok r ∧ q.Unquoted r := by
  rw [parse_eq_normalize ⟨true⟩]
  cases parse {} t with
  | error e => exact .inl ⟨e, rfl, rfl⟩
  | ok q => exact .inr ⟨q, q.normalize ⟨true⟩, rfl, rfl, q.unquoted_normalize⟩

/-! ## restoring -/

namespace Condition

/-- Whether a value is in quotes and has a blank right behind the first or before the last. -/
def isPadded (c : Condition) : Bool :=
  (unquote? c.value).any fun inner => !decide (Text.Trimmed inner)

/-- A value stays trimmed without its quotes, unless they pad it. -/
theorem trimmed_normalize_iff {c : Condition} (h : Text.Trimmed c.value) :
    Text.Trimmed (c.normalize ⟨true⟩).value ↔ c.isPadded = false := by
  rw [normalize, isPadded, Options.normalize]
  cases unquote? c.value with
  | none => simpa using h
  | some inner => simp

/-- A stored condition is restored when it passes the check. -/
theorem ofJson_toJson (c : Condition) : ofJson c.toJson = c.check.mapError .broken :=
  JsonReader.record_members "FilterConditionRecord".toList c.independent_fillings
    c.restores_fillings

/-- A condition that is stored without quotes is not restored when they pad its value. -/
theorem errorOf?_ofJson_normalize {c : Condition} (hc : c.Tidy) (hv : Text.Trimmed c.value) :
    errorOf? (ofJson (c.normalize ⟨true⟩).toJson) =
      if c.isPadded then
        some (.broken (.malformedCondition (c.normalize ⟨true⟩).render .untidyValue))
      else none := by
  have htidy : (c.normalize ⟨true⟩).Tidy := ⟨hc.trimmed, hc.ne_nil, hc.no_sign⟩
  rw [ofJson_toJson]
  by_cases hp : c.isPadded = true
  · have hn : ¬ Text.Trimmed (c.normalize ⟨true⟩).value := by
      rw [trimmed_normalize_iff hv]
      simp [hp]
    have hvalue : Text.trim (c.normalize ⟨true⟩).value ≠ (c.normalize ⟨true⟩).value := hn
    rw [check, if_neg (Text.untidy_iff.not_left.2 ⟨htidy.trimmed, htidy.ne_nil⟩), if_pos hvalue,
      if_pos hp]
    rfl
  · have ht := (trimmed_normalize_iff hv).2 (by simpa using hp)
    rw [check_of_tidy htidy ht, if_neg hp]
    rfl

end Condition

namespace Query

/-- A query is not restored when one of its conditions is not. -/
theorem ofJson_toJson_error {q : Query} {e : DecodeError}
    (ha : ∀ a ∈ q.aggregates, a.check = .ok a)
    (he : (q.conditions.findSome? fun c => errorOf? (Condition.ofJson c.toJson)) = some e) :
    ofJson q.toJson = .error e := by
  have hconditions : JsonReader.list Condition.ofJson (.array (q.conditions.map Condition.toJson)) =
      .error e := by
    have hlist := errorOf?_mapM (fun json => Condition.ofJson json)
      (q.conditions.map Condition.toJson)
    rw [List.findSome?_map] at hlist
    exact errorOf?_eq_some_iff.1 (hlist.trans he)
  have hbad : (q.conditionsFilling : Filling JsonReader Query).slot.fill
      (q.conditionsFilling : Filling JsonReader Query).value = .error e :=
    JsonReader.map_error _ hconditions
  exact JsonReader.record_error "ParsedQueryRecord".toList q.independent_fillings
    (by simp [fillings, conditionsFilling]) hbad (restores_fillings ha)

/-- Values are trimmed when their quotes are kept. -/
theorem trimmed_of_parse {t : Text} {q : Query} (h : parse {} t = .ok q) :
    ∀ c ∈ q.conditions, Text.Trimmed c.value := by
  obtain ⟨p, -, -, hp⟩ := Pieces.parse_eq_ok_iff.1 h
  exact trimmed_of_parseFilter hp.filter

/-- A query that is stored without quotes is restored, its values trimmed, unless quotes pad one of
them; then the first such value is not trimmed and is the error. -/
theorem restored_unless_padded {t : Text} {q : Query} (h : parse ⟨true⟩ t = .ok q) :
    ∃ r, parse {} t = .ok r ∧ q = r.normalize ⟨true⟩ ∧
      match r.conditions.find? Condition.isPadded with
      | none => (∀ c ∈ q.conditions, Text.Trimmed c.value) ∧ ofJson q.toJson = .ok q
      | some c => c.normalize ⟨true⟩ ∈ q.conditions ∧
          ¬ Text.Trimmed (c.normalize ⟨true⟩).value ∧
          ofJson q.toJson =
            .error (.broken (.malformedCondition (c.normalize ⟨true⟩).render .untidyValue)) := by
  have htidy := tidy_of_parse_eq_ok h
  rw [parse_eq_normalize] at h
  cases hr : parse {} t with
  | error e =>
      rw [hr] at h
      cases h
  | ok r =>
      rw [hr] at h
      cases h
      refine ⟨r, rfl, rfl, ?_⟩
      have hread := tidy_of_parse_eq_ok hr
      have hvalues := trimmed_of_parse hr
      cases hf : r.conditions.find? Condition.isPadded with
      | none =>
          have htrimmed : ∀ c ∈ (r.normalize ⟨true⟩).conditions, Text.Trimmed c.value := by
            intro c hc
            obtain ⟨d, hd, rfl⟩ := List.mem_map.1 hc
            have hpad := List.find?_eq_none.1 hf d hd
            exact (Condition.trimmed_normalize_iff (hvalues d hd)).2 (by simpa using hpad)
          exact ⟨htrimmed, (htidy.storable htrimmed).ofJson_toJson⟩
      | some c =>
          have hmem := List.mem_of_find?_eq_some hf
          have hpad := List.find?_some hf
          refine ⟨List.mem_map_of_mem hmem, ?_, ?_⟩
          · rw [Condition.trimmed_normalize_iff (hvalues c hmem)]
            simp [hpad]
          · have hcheck := fun a ha => Aggregate.check_of_tidy (htidy.aggregates a ha)
            -- conditions are checked in their order, so the first that is padded is the error
            refine ofJson_toJson_error hcheck ?_
            have hfirst := findSome?_eq_map_find? fun d hd =>
              Condition.errorOf?_ofJson_normalize (hread.conditions d hd) (hvalues d hd)
            rw [hf] at hfirst
            exact List.findSome?_map.trans hfirst

/-- Such as one with a joining word in a value. -/
theorem restored_unpadded_value : ∃ q, parse ⟨true⟩
    "select a from t where n = 'x or y' and m != \"\"".toList = .ok q ∧
      (∀ c ∈ q.conditions, Text.Trimmed c.value) ∧ ofJson q.toJson = .ok q := by
  obtain ⟨q, h⟩ := exists_ok_of_isSome (x := parse ⟨true⟩
    "select a from t where n = 'x or y' and m != \"\"".toList) (by decide +kernel)
  obtain ⟨r, hr, -, hq⟩ := restored_unless_padded h
  have hpad : ((parse {} "select a from t where n = 'x or y' and m != \"\"".toList).toOption.any
      fun r => (r.conditions.find? Condition.isPadded).isNone) = true := by decide +kernel
  rw [hr] at hpad
  rw [Option.isNone_iff_eq_none.1 hpad] at hq
  exact ⟨q, h, hq⟩

/-- A value with blanks at its quotes is stored with them, and not restored. -/
theorem not_restored_padded_value :
    parse ⟨true⟩ "select a from t where n = ' x '".toList = .ok
      ⟨"select a from t where n = ' x '".toList, "t".toList, ["a".toList], [],
        [⟨"n".toList, .eq, " x ".toList⟩], [], [], []⟩ ∧
      ¬ Text.Trimmed " x ".toList ∧
      ofJson (toJson ⟨"select a from t where n = ' x '".toList, "t".toList, ["a".toList], [],
        [⟨"n".toList, .eq, " x ".toList⟩], [], [], []⟩) =
        .error (.broken (.malformedCondition "n =  x ".toList .untidyValue)) := by
  refine ⟨?_, by decide, ?_⟩
  · decide +kernel
  · exact ofJson_toJson_error (by simp) rfl

end Query

end FlatQuery
