import FlatQuery.Proofs.Entries
import FlatQuery.Proofs.Outcome

/-!
# FlatQuery.Proofs.Aggregate

Calls in the select list.

* `Call.ofText?_eq_some_iff` — the texts that are calls;
* `Aggregate.parse_render` — an aggregate is read from its text;
* `Query.parseSelected_eq_ok_iff` — what a select list is read as.
-/

namespace FlatQuery

namespace Call

/-! ## calls -/

theorem toNat_lt_of_isNameChar {c : Char} (h : isNameChar c = true) : c.toNat < 128 := by
  rw [isNameChar, Bool.or_eq_true] at h
  rcases h with h | h
  · have hc : c.isAlphanum = (decide (65 ≤ c.val ∧ c.val ≤ 90) ||
        (decide (97 ≤ c.val) && decide (c.val ≤ 122)) ||
        (decide (48 ≤ c.val) && decide (c.val ≤ 57))) := rfl
    simp only [hc, Bool.or_eq_true, Bool.and_eq_true, decide_eq_true_eq, UInt32.le_iff_toNat_le,
      UInt32.reduceToNat, Char.toNat_val] at h
    omega
  · rw [beq_iff_eq] at h
    rw [h]
    decide

/-- The characters of the names of calls are name characters. -/
theorem isWordChar_ofNat :
    ∀ n < 128, isNameChar (Char.ofNat n) = true → isWordChar (Char.ofNat n) = true := by
  decide +kernel

theorem isWordChar_of_isNameChar {c : Char} (h : isNameChar c = true) : isWordChar c = true := by
  have hc := isWordChar_ofNat c.toNat (toNat_lt_of_isNameChar h)
  rw [Char.ofNat_toNat] at hc
  exact hc h

/-- The texts that close a call. -/
theorem argument?_eq_some_iff {t argument : Text} :
    argument? t = some argument ↔ ∃ inner, t = inner ++ [')'] ∧
      inner.all (!isParenthesis ·) = true ∧ argument = Text.trim inner := by
  rw [argument?]
  constructor
  · intro h
    split at h
    · next hc =>
        rw [Bool.and_eq_true, decide_eq_true_eq, List.not_any_eq_all_not] at hc
        cases h
        exact ⟨t.dropLast, (List.dropLast_append_getLast? ')' hc.1).symm, hc.2, rfl⟩
    · cases h
  · intro ⟨inner, ht, hp, ha⟩
    rw [ht, List.getLast?_concat, List.dropLast_concat, List.not_any_eq_all_not, hp, ha]
    rfl

/-- No name character stands in front of the opening parenthesis, blanks aside. -/
theorem head?_gap {gap : Text} (hg : Text.isBlankText gap = true) (rest : Text) :
    (gap ++ '(' :: rest).head?.any isNameChar = false := by
  cases gap with
  | nil => rfl
  | cons c gap =>
      rw [Text.isBlankText, List.all_cons, Bool.and_eq_true] at hg
      rw [Bool.eq_false_iff]
      intro hc
      have hw := isWordChar_of_isNameChar hc
      rw [isWordChar_of_isBlank hg.1] at hw
      cases hw

/-- The texts that are calls. -/
theorem ofText?_eq_some_iff {t name argument : Text} :
    ofText? t = some ⟨name, argument⟩ ↔ ∃ gap inner,
      Text.trim t = name ++ (gap ++ '(' :: (inner ++ [')'])) ∧
      name.head?.any isNameStart = true ∧ name.all isNameChar = true ∧
      Text.isBlankText gap = true ∧ inner.all (!isParenthesis ·) = true ∧
      argument = Text.trim inner := by
  rw [ofText?]
  constructor
  · intro h
    split at h
    · next hs =>
        split at h
        · next rest hr =>
            obtain ⟨a, ha, he⟩ := Option.map_eq_some_iff.1 h
            obtain ⟨inner, rfl, hp, rfl⟩ := argument?_eq_some_iff.1 ha
            cases he
            refine ⟨((Text.trim t).dropWhile isNameChar).takeWhile isBlank, inner, ?_, hs,
              List.all_takeWhile, List.all_takeWhile, hp, rfl⟩
            rw [← hr, List.takeWhile_append_dropWhile, List.takeWhile_append_dropWhile]
        · cases h
    · cases h
  · intro ⟨gap, inner, ht, hs, hn, hg, hp, ha⟩
    have hgap := head?_gap hg (inner ++ [')'])
    have hd : (gap ++ '(' :: (inner ++ [')'])).dropWhile isBlank = '(' :: (inner ++ [')']) :=
      dropWhile_append_all hg rfl
    rw [ht, takeWhile_append_all hn hgap, dropWhile_append_all hn hgap, hd, if_pos hs]
    show (argument? (inner ++ [')'])).map _ = _
    rw [argument?_eq_some_iff.2 ⟨inner, rfl, hp, rfl⟩, ha]
    rfl

/-- The argument of a call is trimmed and holds no parenthesis, and no name runs out of it. -/
theorem exists_cut_of_ofText? {t : Text} {call : Call} (h : ofText? t = some call) :
    Text.Trimmed call.argument ∧ call.argument.all (!isParenthesis ·) = true ∧
      ∃ a b, t = a ++ call.argument ++ b ∧ Text.Breaks a call.argument ∧
        Text.Breaks call.argument b := by
  obtain ⟨name, argument⟩ := call
  obtain ⟨gap, inner, ht, -, -, -, hp, rfl⟩ := ofText?_eq_some_iff.1 h
  obtain ⟨g, g', hg, hg', hi⟩ := Text.exists_pad_trim inner
  obtain ⟨v, v', -, -, htv⟩ := Text.exists_pad_trim t
  refine ⟨Text.trimmed_trim inner, ?_, v ++ name ++ gap ++ ['('] ++ g, g' ++ ([')'] ++ v'), ?_,
    .inl ?_, .inr ?_⟩
  · rw [List.all_eq_true] at hp ⊢
    exact fun c hc => hp c (Text.mem_of_mem_trim hc)
  · conv_lhs => rw [htv, ht, hi]
    simp
  · refine isWordChar_getLast?_append ?_ hg
    rw [List.getLast?_concat]
    rfl
  · exact isWordChar_head?_append hg' (by rfl)

end Call

namespace Aggregate

/-! ## aggregates -/

/-- A kind is read from its name. -/
theorem parse_kind_eq_ok_iff {t : Text} {kind : AggregateKind} :
    AggregateKind.parse t = .ok kind ↔ AggregateKind.ofText? t = some kind := by
  rw [AggregateKind.parse]
  cases AggregateKind.ofText? t <;> simp

/-- The aggregates that are read. -/
theorem parse_eq_ok_some_iff {t : Text} {a : Aggregate} :
    parse t = .ok (some a) ↔ ∃ call, Call.ofText? t = some call ∧
      AggregateKind.ofText? call.name = some a.kind ∧ call.argument = a.field ∧ a.field ≠ [] := by
  obtain ⟨field, kind⟩ := a
  rw [parse]
  cases hc : Call.ofText? t with
  | none => simp
  | some call =>
      simp only [bind_eq_ok_iff, parse_kind_eq_ok_iff]
      constructor
      · intro ⟨kind', hk, h⟩
        split at h
        · cases h
        · next hn =>
            cases h
            exact ⟨call, rfl, hk, rfl, hn⟩
      · intro ⟨call', hcall, hk, hf, hn⟩
        cases hcall
        refine ⟨kind, hk, ?_⟩
        rw [← hf] at hn
        rw [if_neg hn, hf]
        rfl

/-- The field of an aggregate is trimmed, holds no parenthesis and is not empty, and no name runs
out of it. -/
theorem exists_cut_of_parse {t : Text} {a : Aggregate} (h : parse t = .ok (some a)) :
    Text.Trimmed a.field ∧ a.field.all (!Call.isParenthesis ·) = true ∧ a.field ≠ [] ∧
      ∃ x y, t = x ++ a.field ++ y ∧ Text.Breaks x a.field ∧ Text.Breaks a.field y := by
  obtain ⟨call, hc, -, hf, hn⟩ := parse_eq_ok_some_iff.1 h
  obtain ⟨ht, hp, hcut⟩ := Call.exists_cut_of_ofText? hc
  rw [hf] at ht hp hcut
  exact ⟨ht, hp, hn, hcut⟩

theorem parse_eq_ok_none_iff {t : Text} : parse t = .ok none ↔ isCall t = false := by
  rw [parse, isCall]
  cases hc : Call.ofText? t with
  | none => simp
  | some call =>
      simp only [bind_eq_ok_iff, Option.isSome_some, Bool.true_eq_false, iff_false]
      intro ⟨kind, _, h⟩
      split at h
      · cases h
      · cases h

@[simp] theorem ofText?_name (kind : AggregateKind) :
    AggregateKind.ofText? kind.name = some kind := by
  cases kind <;> decide

@[simp] theorem trimmed_render (a : Aggregate) : Text.Trimmed a.render := by
  rw [Text.trimmed_iff, render]
  constructor
  · cases a.kind <;> rfl
  · rw [List.getLast?_concat]
    rfl

/-- The text of an aggregate is a call, when its field can stand between parentheses. -/
theorem ofText?_render {a : Aggregate} (h : Text.Trimmed a.field)
    (hp : a.field.all (!Call.isParenthesis ·) = true) :
    Call.ofText? a.render = some ⟨a.kind.name, a.field⟩ := by
  have hname : a.kind.name.head?.any Call.isNameStart = true ∧
      a.kind.name.all Call.isNameChar = true := by
    cases a.kind <;> decide
  refine Call.ofText?_eq_some_iff.2 ⟨[], a.field, ?_, hname.1, hname.2, rfl, hp, h.symm⟩
  rw [(trimmed_render a : Text.trim a.render = a.render), render]
  simp

theorem parse_render {a : Aggregate} (h : Text.Trimmed a.field)
    (hp : a.field.all (!Call.isParenthesis ·) = true) (hn : a.field ≠ []) :
    parse a.render = .ok (some a) :=
  parse_eq_ok_some_iff.2 ⟨_, ofText?_render h hp, ofText?_name a.kind, rfl, hn⟩

/-- A keyword that does not stand in the field does not stand in the text of an aggregate. -/
theorem absent_render {k : Keyword} {a : Aggregate} (h : k.Absent a.field) :
    k.Absent a.render := by
  have hname : k.Absent a.kind.name := by
    cases k <;> cases a.kind <;> decide
  have hopen : k.Absent (a.kind.name ++ ['(']) :=
    Keyword.absent_append hname (Keyword.absent_singleton k (by decide))
      (Keyword.severed_of_head? (c := '(') rfl (by decide))
  have hfield : k.Absent (a.kind.name ++ ['('] ++ a.field) :=
    Keyword.absent_append hopen h
      (Keyword.severed_of_getLast? (c := '(') List.getLast?_concat (by decide))
  exact Keyword.absent_append hfield (Keyword.absent_singleton k (by decide))
    (Keyword.severed_of_head? (c := ')') rfl (by decide))

/-- Calls are read one by one. -/
theorem parseAll_eq_ok_iff {tokens : List Text} {aggregates : List Aggregate}
    (h : ∀ t ∈ tokens, isCall t = true) :
    parseAll tokens = .ok aggregates ↔
      List.Forall₂ (fun t a => parse t = .ok (some a)) tokens aggregates := by
  have hp : parseAll tokens = .ok aggregates ↔
      ∃ found, List.Forall₂ (fun t a => parse t = .ok a) tokens found ∧
        found.filterMap id = aggregates := by
    rw [parseAll, bind_eq_ok_iff]
    simp only [mapM_eq_ok_iff]
    constructor
    · intro ⟨found, hf, ha⟩
      cases ha
      exact ⟨found, hf, rfl⟩
    · intro ⟨found, hf, ha⟩
      rw [← ha]
      exact ⟨found, hf, rfl⟩
  rw [hp]
  clear hp
  constructor
  · intro ⟨found, hf, ha⟩
    subst ha
    induction hf with
    | nil => exact .nil
    | @cons t found tokens rest ht _ ih =>
        have hrest := ih fun t ht => h t (List.mem_cons_of_mem _ ht)
        cases found with
        | some a => exact .cons ht hrest
        | none =>
            have hc := parse_eq_ok_none_iff.1 ht
            rw [h t List.mem_cons_self] at hc
            cases hc
  · intro hf
    exact ⟨aggregates.map some, List.forall₂_map_right_iff.2 hf, by simp⟩

end Aggregate

namespace Query

/-! ## the select list -/

/-- A select list is read when it has entries, none of them is empty, and each call is a known
aggregate. -/
theorem parseSelected_eq_ok_iff {tokens fields : List Text} {aggregates : List Aggregate} :
    parseSelected tokens = .ok (fields, aggregates) ↔ tokens ≠ [] ∧ (∀ t ∈ tokens, t ≠ []) ∧
      fields = tokens.filter (!Aggregate.isCall ·) ∧
      List.Forall₂ (fun t a => Aggregate.parse t = .ok (some a)) (tokens.filter Aggregate.isCall)
        aggregates := by
  have hcalls : ∀ t ∈ tokens.filter Aggregate.isCall, Aggregate.isCall t = true :=
    fun t ht => (List.mem_filter.1 ht).2
  rw [parseSelected]
  constructor
  · intro h
    split at h
    · cases h
    next hn =>
    split at h
    · cases h
    next he =>
    obtain ⟨as, ha, h⟩ := bind_eq_ok_iff.1 h
    cases h
    refine ⟨fun h => hn (by rw [h]; rfl), fun t ht h => he ?_, rfl,
      (Aggregate.parseAll_eq_ok_iff hcalls).1 ha⟩
    exact List.any_eq_true.2 ⟨t, ht, by rw [h]; rfl⟩
  · intro ⟨hn, he, hf, ha⟩
    have hempty : ¬ tokens.any List.isEmpty = true := by
      intro h
      obtain ⟨t, ht, h⟩ := List.any_eq_true.1 h
      exact he t ht (List.isEmpty_iff.1 h)
    rw [if_neg (by rwa [List.isEmpty_iff]), if_neg hempty,
      (Aggregate.parseAll_eq_ok_iff hcalls).2 ha, hf]
    rfl

end Query

end FlatQuery
