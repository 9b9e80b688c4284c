import FlatQuery.Condition
import FlatQuery.Proofs.Trim
import Mathlib.Data.List.Infix

/-!
# FlatQuery.Proofs.Condition

Where a condition is divided, and what is read from the two sides.

* `Text.cut_eq_some_iff` — a text is cut at the first occurrence;
* `Comparison.divide?_eq_some_iff` — a condition is divided at the first comparison of the list that
  occurs in it;
* `Condition.parse_eq_ok_iff` — the conditions that are read.
-/

namespace FlatQuery

/-! ## occurrences -/

/-- What starts in front of a character that it does not hold ends in front of it. -/
theorem infix_of_length_le {needle u v b a : List α} {x : α} (hx : x ∉ needle)
    (h : b ++ (needle ++ a) = u ++ x :: v) (hl : b.length ≤ u.length) : needle <:+: u := by
  obtain ⟨d, rfl, hd⟩ := exists_of_append_eq h hl
  rcases List.append_eq_append_iff.1 hd with ⟨e, rfl, -⟩ | ⟨e, rfl, he⟩
  · exact ⟨b, e, by simp⟩
  · cases e with
    | nil => exact ⟨b, [], by simp⟩
    | cons y e =>
        rw [List.cons_append, List.cons.injEq] at he
        simp [he.1] at hx

/-- A list without a separator occurs on one side of it. -/
theorem infix_append_cons {needle u v : List α} {x : α} (hx : x ∉ needle)
    (h : needle <:+: u ++ x :: v) : needle <:+: u ∨ needle <:+: v := by
  obtain ⟨b, a, h⟩ := h
  rw [List.append_assoc] at h
  by_cases hl : b.length ≤ u.length
  · exact .inl (infix_of_length_le hx h hl)
  · obtain ⟨d, rfl, hd⟩ := exists_of_append_eq h.symm (by omega)
    cases d with
    | nil => simp at hl
    | cons y d =>
        rw [List.cons_append, List.cons.injEq] at hd
        exact .inr ⟨d, a, by rw [hd.2, List.append_assoc]⟩

/-- Where a list occurs that does not start in the first part. -/
theorem length_le_of_notMem {needle u v b a : List α} (hn : needle ≠ [])
    (hu : ∀ x ∈ needle.head?, x ∉ u) (h : b ++ (needle ++ a) = u ++ v) : u.length ≤ b.length := by
  by_contra hl
  obtain ⟨d, rfl, hd⟩ := exists_of_append_eq h (by omega)
  obtain ⟨x, needle, rfl⟩ := List.exists_cons_of_ne_nil hn
  cases d with
  | nil => simp at hl
  | cons y d =>
      rw [List.cons_append, List.cons_append, List.cons.injEq] at hd
      exact hu x rfl (by simp [hd.1])

/-- A list that does not start in the first of three parts nor ends in the last occurs in the
second. -/
theorem infix_of_notMem {needle u v w : List α} (hn : needle ≠ [])
    (hu : ∀ x ∈ needle.head?, x ∉ u) (hw : ∀ x ∈ needle.getLast?, x ∉ w)
    (h : needle <:+: u ++ (v ++ w)) : needle <:+: v := by
  obtain ⟨b, a, h⟩ := h
  rw [List.append_assoc] at h
  obtain ⟨d, rfl, hd⟩ := exists_of_append_eq h.symm (length_le_of_notMem hn hu h)
  rw [← List.append_assoc] at hd
  rcases List.append_eq_append_iff.1 hd with ⟨e, he, rfl⟩ | ⟨e, rfl, -⟩
  · by_cases hen : e = []
    · rw [hen, List.append_nil] at he
      exact ⟨d, [], by rw [he, List.append_nil]⟩
    · have hl := congrArg List.getLast? he
      rw [List.getLast?_append_of_ne_nil _ hn, List.getLast?_append_of_ne_nil _ hen,
        List.getLast?_eq_some_getLast hen] at hl
      exact absurd (List.mem_append_left a (List.getLast_mem hen)) (hw _ hl)
  · exact ⟨d, e, rfl⟩

namespace Text

/-- A text cannot be cut where the needle does not occur. -/
theorem cut_eq_none_iff {needle t : Text} : cut needle t = none ↔ ¬ needle <:+: t := by
  induction t with
  | nil => simp [cut]
  | cons c rest ih =>
      rw [cut, List.infix_cons_iff, not_or, ← List.isPrefixOf_iff_prefix]
      cases hp : needle.isPrefixOf (c :: rest) with
      | true => simp
      | false => simpa using ih

/-- No occurrence comes before the one that the text is cut at. -/
theorem length_le_of_cut {needle t before after b a : Text}
    (h : cut needle t = some (before, after)) (ht : t = b ++ needle ++ a) :
    before.length ≤ b.length := by
  induction t generalizing before b with
  | nil =>
      rw [cut] at h
      split at h
      · cases h
        exact Nat.zero_le _
      · cases h
  | cons c rest ih =>
      rw [cut] at h
      split at h
      · cases h
        exact Nat.zero_le _
      · next hp =>
          obtain ⟨⟨before', after'⟩, hr, he⟩ := Option.map_eq_some_iff.1 h
          simp only [Prod.mk.injEq] at he
          obtain ⟨rfl, rfl⟩ := he
          cases b with
          | nil =>
              refine absurd (List.isPrefixOf_iff_prefix.2 ⟨a, ?_⟩) hp
              rw [ht, List.nil_append]
          | cons d b =>
              rw [List.cons_append, List.cons_append, List.cons.injEq] at ht
              exact Nat.succ_le_succ (ih hr ht.2)

/-- A text is cut at the first occurrence. -/
theorem cut_eq_some_iff {needle t before after : Text} :
    cut needle t = some (before, after) ↔ t = before ++ needle ++ after ∧
      ∀ b a, t = b ++ needle ++ a → before.length ≤ b.length := by
  constructor
  · intro h
    exact ⟨eq_of_cut h, fun b a => length_le_of_cut h⟩
  · intro ⟨ht, hmin⟩
    cases hc : cut needle t with
    | none => exact absurd ⟨before, after, ht.symm⟩ (cut_eq_none_iff.1 hc)
    | some p =>
        obtain ⟨b, a⟩ := p
        have hba := eq_of_cut hc
        have hl : before.length = b.length :=
          Nat.le_antisymm (hmin b a hba) (length_le_of_cut hc ht)
        rw [ht, List.append_assoc, List.append_assoc] at hba
        obtain ⟨rfl, hna⟩ := List.append_inj hba hl
        rw [List.append_cancel_left hna]

theorem contains_iff {needle t : Text} : contains needle t = true ↔ needle <:+: t := by
  rw [contains, Option.isSome_iff_ne_none, ne_eq, cut_eq_none_iff, not_not]

end Text

namespace Comparison

/-! ## symbols -/

/-- The characters that symbols end with; each is a symbol. -/
def isSign (c : Char) : Bool := c == '<' || c == '>' || c == '='

/-- A symbol ends with a sign. -/
theorem exists_symbol_eq (op : Comparison) : ∃ s c, op.symbol = s ++ [c] ∧ isSign c = true := by
  cases op
  · exact ⟨['>'], '=', rfl, rfl⟩
  · exact ⟨['<'], '=', rfl, rfl⟩
  · exact ⟨['!'], '=', rfl, rfl⟩
  · exact ⟨['='], '=', rfl, rfl⟩
  · exact ⟨[], '>', rfl, rfl⟩
  · exact ⟨[], '<', rfl, rfl⟩
  · exact ⟨[], '=', rfl, rfl⟩

@[simp] theorem symbol_ne_nil (op : Comparison) : op.symbol ≠ [] := by cases op <;> decide

theorem isSymbolChar_of_mem (op : Comparison) : ∀ c ∈ op.symbol, isSymbolChar c = true := by
  cases op <;> exact forall_mem_of_all (by decide)

/-- A sign is a symbol. -/
theorem exists_of_isSign {c : Char} (h : isSign c = true) : ∃ op : Comparison, op.symbol = [c] := by
  simp only [isSign, Bool.or_eq_true, beq_iff_eq] at h
  rcases h with (rfl | rfl) | rfl
  · exact ⟨.lt, rfl⟩
  · exact ⟨.gt, rfl⟩
  · exact ⟨.eq, rfl⟩

/-- A symbol occurs where a sign does. -/
theorem occursIn_eq_false_iff {t : Text} : occursIn t = false ↔ ∀ c ∈ t, isSign c = false := by
  rw [occursIn, List.any_eq_false]
  constructor
  · intro h c hc
    by_contra hs
    obtain ⟨op, hop⟩ := exists_of_isSign (by simpa using hs)
    refine h op (mem_all op) (Text.contains_iff.2 ?_)
    obtain ⟨u, v, rfl⟩ := List.append_of_mem hc
    rw [hop]
    exact ⟨u, v, by simp⟩
  · intro h op _ ho
    obtain ⟨s, c, hop, hc⟩ := op.exists_symbol_eq
    have hs := h c ((Text.contains_iff.1 ho).subset (by simp [hop]))
    rw [hc] at hs
    cases hs

theorem not_infix_of_occursIn {t : Text} (h : occursIn t = false) (op : Comparison) :
    ¬ op.symbol <:+: t := by
  rw [occursIn, List.any_eq_false] at h
  exact fun hi => h op (mem_all op) (Text.contains_iff.2 hi)

/-! ## blanks -/

theorem isSign_of_isSymbolChar {c : Char} (h : isSymbolChar c = false) : isSign c = false := by
  simp_all [isSymbolChar, isSign]

theorem isSymbolChar_of_isBlank {c : Char} (h : isBlank c = true) : isSymbolChar c = false := by
  by_contra hs
  simp only [isSymbolChar, Bool.not_eq_false, Bool.or_eq_true, beq_iff_eq] at hs
  rcases hs with ((rfl | rfl) | rfl) | rfl <;> cases h

theorem isSymbolChar_of_isBlankText {g : Text} (hg : Text.isBlankText g = true) :
    ∀ c ∈ g, isSymbolChar c = false :=
  fun c hc => isSymbolChar_of_isBlank (List.all_eq_true.1 hg c hc)

/-- The symbols of a text stand between the blanks around it. -/
@[simp] theorem infix_trim_iff {t : Text} (op : Comparison) :
    op.symbol <:+: Text.trim t ↔ op.symbol <:+: t := by
  refine ⟨fun h => h.trans (Text.isInfix_trim t), fun h => ?_⟩
  have hblank : ∀ g : Text, Text.isBlankText g = true → ∀ c ∈ op.symbol, c ∉ g := by
    intro g hg c hc hm
    have hs := op.isSymbolChar_of_mem c hc
    rw [isSymbolChar_of_isBlankText hg c hm] at hs
    cases hs
  obtain ⟨g, g', hg, hg', ht⟩ := Text.exists_pad_trim t
  rw [ht, List.append_assoc] at h
  exact infix_of_notMem op.symbol_ne_nil (fun c hc => hblank g hg c (List.mem_of_mem_head? hc))
    (fun c hc => hblank g' hg' c (List.mem_of_mem_getLast? hc)) h

@[simp] theorem occursIn_trim (t : Text) : occursIn (Text.trim t) = occursIn t := by
  have hc : ∀ op : Comparison,
      Text.contains op.symbol (Text.trim t) = Text.contains op.symbol t := by
    intro op
    rw [Bool.eq_iff_iff, Text.contains_iff, Text.contains_iff, infix_trim_iff]
  simp only [occursIn, hc]

/-! ## dividing -/

/-- The comparisons that are looked for before `op`. -/
def earlier (op : Comparison) : List Comparison := all.takeWhile (· ≠ op)

/-- They stand in front of it in the list of all. -/
theorem exists_all_eq (op : Comparison) : ∃ l, all = op.earlier ++ op :: l := by
  cases op <;> exact ⟨_, rfl⟩

/-- Nothing else stands there. -/
theorem earlier_of_all_eq {op : Comparison} {l₁ l₂ : List Comparison} (h : all = l₁ ++ op :: l₂) :
    op.earlier = l₁ := by
  have hn : all.Nodup := by decide
  rw [h, List.nodup_append] at hn
  have hne : ∀ x ∈ l₁, decide (x ≠ op) = true := fun x hx =>
    decide_eq_true (hn.2.2 x hx op List.mem_cons_self)
  rw [earlier, h, List.takeWhile_append_of_pos hne]
  simp

/-- A condition is divided at the first comparison of the list that occurs in it. -/
theorem divide?_eq_some_iff {t before after : Text} {op : Comparison} :
    divide? t = some (before, op, after) ↔ Text.cut op.symbol t = some (before, after) ∧
      ∀ op' ∈ op.earlier, ¬ op'.symbol <:+: t := by
  rw [divide?, List.findSome?_eq_some_iff]
  constructor
  · intro ⟨l₁, op', l₂, hl, ho, hn⟩
    obtain ⟨⟨b, a⟩, hc, he⟩ := Option.map_eq_some_iff.1 ho
    simp only [Prod.mk.injEq] at he
    obtain ⟨rfl, rfl, rfl⟩ := he
    rw [earlier_of_all_eq hl]
    exact ⟨hc, fun x hx => Text.cut_eq_none_iff.1 (by simpa using hn x hx)⟩
  · intro ⟨hc, hn⟩
    obtain ⟨l, hl⟩ := op.exists_all_eq
    refine ⟨op.earlier, op, l, hl, by rw [hc]; rfl, fun x hx => ?_⟩
    rw [Text.cut_eq_none_iff.2 (hn x hx)]
    rfl

/-- A condition in which a symbol occurs is divided. -/
theorem exists_divide?_of_infix {t : Text} {op : Comparison} (h : op.symbol <:+: t) :
    ∃ before found after, divide? t = some (before, found, after) := by
  cases hd : divide? t with
  | some found => exact ⟨_, _, _, rfl⟩
  | none =>
      have hnone := List.findSome?_eq_none_iff.1 hd op (mem_all op)
      rw [Option.map_eq_none_iff, Text.cut_eq_none_iff] at hnone
      exact absurd h hnone

end Comparison

/-! ## values in quotes -/

/-- A value is in quotes when one quote stands at both of its ends. -/
theorem unquote?_eq_some_iff {value inner : Text} :
    unquote? value = some inner ↔
      ∃ quote, isQuote quote = true ∧ value = quote :: (inner ++ [quote]) := by
  constructor
  · intro h
    cases value with
    | nil => cases h
    | cons first rest =>
        rw [unquote?] at h
        split at h
        · cases h
        next last hl =>
        split at h
        · next hq =>
            rw [Bool.and_eq_true, decide_eq_true_iff] at hq
            obtain ⟨rfl, hq⟩ := hq
            cases h
            exact ⟨first, hq, by rw [List.dropLast_append_getLast? _ hl]⟩
        · cases h
  · rintro ⟨quote, hq, rfl⟩
    simp [unquote?, hq]

namespace Condition

/-! ## reading a condition -/

/-- The conditions that are read from a text. -/
theorem parse_eq_ok_iff {options : Options} {raw : Text} {c : Condition} :
    parse options raw = .ok c ↔ ∃ before after,
      Comparison.divide? (Text.trim raw) = some (before, c.comparison, after) ∧
      Comparison.occursIn c.property = false ∧
      ((unquote? (Text.trim after)).isSome = true ∨
        Comparison.occursIn (Text.trim after) = false) ∧
      c.property = Text.trim before ∧ c.property ≠ [] ∧ Text.trim after ≠ [] ∧
      c.value = options.normalize (Text.trim after) := by
  rw [parse]
  constructor
  · intro h
    split at h
    · cases h
    split at h
    · cases h
    next before op after hd =>
    dsimp only at h
    split at h
    · cases h
    next hs =>
    split at h
    · cases h
    next hn =>
    split at h
    · cases h
    next hv =>
    cases h
    refine ⟨before, after, hd, ?_, ?_, rfl, hn, hv, rfl⟩
    · rw [Bool.or_eq_true, not_or, Bool.not_eq_true] at hs
      exact hs.1
    · rw [Bool.or_eq_true, not_or, Bool.and_eq_true, not_and, Bool.not_eq_true] at hs
      cases hu : (unquote? (Text.trim after)) with
      | none => exact .inr (Bool.not_eq_true _ ▸ hs.2 (by rw [hu]; rfl))
      | some inner => exact .inl rfl
  · intro ⟨before, after, hd, hn, hv, hp, hpn, hvn, hval⟩
    obtain ⟨property, comparison, value⟩ := c
    dsimp only at hd hn hp hpn hval
    subst hp hval
    have hc : Text.trim raw ≠ [] := by
      have ht := Text.eq_of_cut (Comparison.divide?_eq_some_iff.1 hd).1
      obtain ⟨s, sign, hs, -⟩ := comparison.exists_symbol_eq
      rw [ht, hs]
      simp
    have hs : (Comparison.occursIn (Text.trim before) ||
        (unquote? (Text.trim after)).isNone && Comparison.occursIn (Text.trim after)) = false := by
      rw [hn, Bool.false_or, Bool.and_eq_false_iff]
      exact hv.imp_left fun hu => by rw [Option.isNone_eq_false_iff, hu]
    rw [if_neg hc, hd]
    simp only [hs, hpn, hvn, Bool.false_eq_true, if_false]

/-- Blanks around a condition do not matter when it is read. -/
@[simp] theorem parse_trim_eq_ok_iff {options : Options} {raw : Text} {c : Condition} :
    parse options (Text.trim raw) = .ok c ↔ parse options raw = .ok c := by
  rw [parse_eq_ok_iff, parse_eq_ok_iff, (Text.trimmed_trim raw : Text.trim (Text.trim raw) = _)]

/-- Values are stored as they are written when quotes are kept. -/
@[simp] theorem normalize_default (value : Text) : ({} : Options).normalize value = value := by
  rw [Options.normalize]
  split
  · rfl
  · rfl

end Condition

end FlatQuery
