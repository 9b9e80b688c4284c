import FlatQuery.Proofs.Condition

/-!
# FlatQuery.Proofs.Foremost

Where the comparison of a condition stands.

A condition is divided at the first symbol of a list, wherever that occurs.  Told by places, it is
divided where a symbol starts first, at the longest one that starts there (`Comparison.Foremost`),
unless a symbol that is looked for earlier stands behind that.

* `Comparison.divide?_foremost_iff` — a condition with no symbol in its name is divided at the
  foremost comparison when none that is looked for earlier stands behind it, and only then;
* `Condition.parse_foremost_iff` — the conditions that are read, told so;
* `Comparison.scan_eq_singleton_iff` — reading from left to right finds one comparison when no
  symbol stands behind the foremost one;
* `Condition.exists_parse_iff_scan` — a condition without quotes is read when one is found;
* `Condition.foremost_of_parse` — a condition is read at its foremost comparison, and one without
  quotes is read when reading from left to right finds one comparison in it, with text on both
  sides;
* `Condition.parse_render_of_parse` — a condition that has been read is read again from its text.
-/

namespace FlatQuery

namespace Comparison

/-! ## symbols beside each other -/

/-- None of the symbols that are looked for earlier is a part of a symbol. -/
theorem not_infix_of_earlier : ∀ op ∈ all, ∀ op' ∈ op.earlier, ¬ op'.symbol <:+: op.symbol := by
  decide

/-- Nor does one start inside it. -/
theorem head_notMem_tail :
    ∀ op ∈ all, ∀ op' ∈ op.earlier, op'.symbol.head? ∉ op.symbol.tail.map some := by decide

/-- A longer symbol is looked for earlier. -/
theorem mem_earlier_of_length_lt : ∀ op ∈ all, ∀ op' ∈ all,
    op.symbol.length < op'.symbol.length → op' ∈ op.earlier := by decide

/-- So is one that starts with what is no sign, and goes on as the symbol starts. -/
theorem mem_earlier_of_head : ∀ op ∈ all, ∀ op' ∈ all, op'.symbol.head?.any isSign = false →
    op'.symbol.tail.head? = op.symbol.head? → op' ∈ op.earlier := by decide

@[simp] theorem space_notMem_symbol (op : Comparison) : ' ' ∉ op.symbol := by cases op <;> decide

theorem length_symbol_le (op : Comparison) : op.symbol.length ≤ 2 := by cases op <;> decide

/-! ## the foremost comparison -/

/-- A comparison is foremost between two texts: no symbol starts in front of its own, and none that
starts with its own is longer. -/
structure Foremost (before : Text) (op : Comparison) (after : Text) : Prop where
  leftmost : ∀ (op' : Comparison) (b a : Text),
    b ++ (op'.symbol ++ a) = before ++ (op.symbol ++ after) → before.length ≤ b.length
  longest : ∀ op' : Comparison,
    op'.symbol <+: op.symbol ++ after → op'.symbol.length ≤ op.symbol.length

namespace Foremost

variable {before after : Text} {op : Comparison}

/-- No sign stands in front of the foremost comparison. -/
theorem occursIn_eq_false (h : Foremost before op after) : occursIn before = false := by
  rw [occursIn_eq_false_iff]
  intro c hc
  by_contra hs
  obtain ⟨op', hop⟩ := exists_of_isSign (by simpa using hs)
  obtain ⟨u, v, rfl⟩ := List.append_of_mem hc
  have hl := h.leftmost op' u (v ++ (op.symbol ++ after)) (by simp [hop])
  rw [List.length_append, List.length_cons] at hl
  omega

/-- A symbol that is looked for earlier is found behind the foremost comparison. -/
theorem exists_of_earlier {op' : Comparison} {b a : Text} (h : Foremost before op after)
    (hop : op' ∈ op.earlier) (ht : b ++ (op'.symbol ++ a) = before ++ (op.symbol ++ after)) :
    ∃ d, b = before ++ (op.symbol ++ d) ∧ d ++ (op'.symbol ++ a) = after := by
  obtain ⟨d, rfl, hd⟩ := exists_of_append_eq ht.symm (h.leftmost op' b a ht)
  rcases List.append_eq_append_iff.1 hd with ⟨e, rfl, he⟩ | ⟨e, hsymbol, he⟩
  · exact ⟨e, rfl, he.symm⟩
  · cases d with
    | nil =>
        -- both start at one place, and the foremost is the longest there
        have hp : op'.symbol <+: op.symbol ++ after := ⟨a, hd.symm⟩
        have hps := List.prefix_of_prefix_length_le hp (List.prefix_append _ _) (h.longest op' hp)
        exact absurd hps.isInfix (not_infix_of_earlier op op.mem_all op' hop)
    | cons x d =>
        cases e with
        | nil => exact ⟨[], by simp [hsymbol], he⟩
        | cons y e =>
            -- the other symbol would start inside the foremost one
            have hy : op'.symbol.head? = some y := by
              rw [← List.head?_append_of_ne_nil _ op'.symbol_ne_nil, he]
              rfl
            exact absurd (by simp [hy, hsymbol]) (head_notMem_tail op op.mem_all op' hop)

end Foremost

/-- The comparison at which a condition is divided is foremost when the text before it holds no
sign. -/
theorem foremost_of_divide? {t before after : Text} {op : Comparison}
    (h : divide? t = some (before, op, after)) (hb : occursIn before = false) :
    Foremost before op after := by
  obtain ⟨hcut, hearlier⟩ := divide?_eq_some_iff.1 h
  have ht := Text.eq_of_cut hcut
  rw [List.append_assoc] at ht
  constructor
  · intro op' b a hba
    by_contra hlt
    obtain ⟨d, rfl, hd⟩ := exists_of_append_eq hba (by omega)
    refine hearlier op' ?_ ⟨b, a, by rw [List.append_assoc, ht, hba]⟩
    have hd' : ¬ op'.symbol <+: d := fun hp =>
      not_infix_of_occursIn hb op' (hp.isInfix.trans (List.suffix_append b d).isInfix)
    rcases List.append_eq_append_iff.1 hd with ⟨e, rfl, -⟩ | ⟨e, hsymbol, he⟩
    · exact absurd (List.prefix_append _ e) hd'
    cases e with
    | nil => exact absurd (by rw [hsymbol, List.append_nil]) hd'
    | cons y e =>
        -- the other symbol starts with what is no sign and runs into the one that was found
        obtain ⟨x, rfl⟩ : ∃ x, d = [x] := by
          have hl := op'.length_symbol_le
          rw [hsymbol, List.length_append, List.length_cons] at hl
          rw [List.length_append] at hlt
          exact List.length_eq_one_iff.1 (by omega)
        have hx := occursIn_eq_false_iff.1 hb x (by simp)
        have hy : op.symbol.head? = some y := by
          rw [← List.head?_append_of_ne_nil _ op.symbol_ne_nil, he]
          rfl
        exact mem_earlier_of_head op op.mem_all op' op'.mem_all (by simpa [hsymbol] using hx)
          (by rw [hsymbol, hy]; rfl)
  · intro op' hp
    by_contra hlt
    exact hearlier op' (mem_earlier_of_length_lt op op.mem_all op' op'.mem_all (by omega))
      (hp.isInfix.trans ⟨before, [], by rw [ht, List.append_nil]⟩)

/-- A condition with no sign in front is divided at the foremost comparison when no symbol that is
looked for earlier stands behind it, and only then. -/
theorem divide?_foremost_iff {t before after : Text} {op : Comparison} :
    divide? t = some (before, op, after) ∧ occursIn before = false ↔
      t = before ++ (op.symbol ++ after) ∧ Foremost before op after ∧
        ∀ op' ∈ op.earlier, ¬ op'.symbol <:+: after := by
  constructor
  · intro ⟨hd, hb⟩
    obtain ⟨hcut, hearlier⟩ := divide?_eq_some_iff.1 hd
    have ht := Text.eq_of_cut hcut
    rw [List.append_assoc] at ht
    refine ⟨ht, foremost_of_divide? hd hb, fun op' hop hi => hearlier op' hop (hi.trans ?_)⟩
    exact ⟨before ++ op.symbol, [], by rw [ht]; simp⟩
  · rintro ⟨rfl, hf, hafter⟩
    refine ⟨divide?_eq_some_iff.2 ⟨Text.cut_eq_some_iff.2 ⟨by simp, fun b a hba => ?_⟩,
      fun op' hop hi => ?_⟩, hf.occursIn_eq_false⟩
    · rw [List.append_assoc] at hba
      exact hf.leftmost op b a hba.symm
    · obtain ⟨b, a, hba⟩ := hi
      rw [List.append_assoc] at hba
      obtain ⟨d, -, hd⟩ := hf.exists_of_earlier hop hba
      exact hafter op' hop ⟨d, a, by rw [← hd, List.append_assoc]⟩

/-! ## comparisons that are foremost -/

/-- A symbol that is longer than another and starts with it goes on with a sign. -/
theorem symbol_eq_concat : ∀ op ∈ all, ∀ op' ∈ all, op.symbol <+: op'.symbol →
    op.symbol.length < op'.symbol.length → op'.symbol = op.symbol ++ ['='] := by decide

/-- A symbol is the longest one where it starts, when no sign follows it. -/
theorem length_symbol_le_append {op op' : Comparison} {v : Text} (hv : v.head?.any isSign = false)
    (h : op'.symbol <+: op.symbol ++ v) : op'.symbol.length ≤ op.symbol.length := by
  by_contra hlt
  have hp := List.prefix_of_prefix_length_le (List.prefix_append op.symbol v) h (by omega)
  rw [symbol_eq_concat op op.mem_all op' op'.mem_all hp (by omega),
    List.prefix_append_right_inj] at h
  obtain ⟨w, rfl⟩ := h
  cases hv

/-- A comparison behind text without characters of symbols is foremost, when no sign follows it. -/
theorem foremost_of_forall {u v : Text} (op : Comparison) (hu : ∀ c ∈ u, isSymbolChar c = false)
    (hv : v.head?.any isSign = false) : Foremost u op v where
  leftmost op' b a h := by
    refine length_le_of_notMem op'.symbol_ne_nil (fun c hc hm => ?_) h
    have hs := op'.isSymbolChar_of_mem c (List.mem_of_mem_head? hc)
    rw [hu c hm] at hs
    cases hs
  longest _ h := length_symbol_le_append hv h

/-- So is one with blanks around it. -/
theorem foremost_padded {u g g' v : Text} (op : Comparison) (hu : ∀ c ∈ u, isSymbolChar c = false)
    (hg : Text.isBlankText g = true) (hg' : Text.isBlankText g' = true)
    (hv : v.head?.any isSign = false) : Foremost (u ++ g) op (g' ++ v) := by
  refine foremost_of_forall op (fun c hc => ?_) ?_
  · exact (List.mem_append.1 hc).elim (hu c) (isSymbolChar_of_isBlankText hg c)
  · cases g' with
    | nil => exact hv
    | cons c g' =>
        exact isSign_of_isSymbolChar (isSymbolChar_of_isBlankText hg' c List.mem_cons_self)

/-- A comparison with a space on either side is foremost behind text without signs. -/
theorem foremost_spaced {u : Text} (op : Comparison) (v : Text) (hu : occursIn u = false) :
    Foremost (u ++ [' ']) op (' ' :: v) where
  leftmost op' b a h := by
    by_contra hlt
    rw [List.length_append, List.length_singleton] at hlt
    rw [List.append_assoc] at h
    exact not_infix_of_occursIn hu op' (infix_of_length_le op'.space_notMem_symbol h (by omega))
  longest _ h := length_symbol_le_append rfl h

/-- What follows a text that holds no symbol at its start is searched on. -/
theorem Foremost.cons {before after : Text} {op : Comparison} (h : Foremost before op after)
    {c : Char} (hc : ∀ op' : Comparison, ¬ op'.symbol <+: c :: (before ++ (op.symbol ++ after))) :
    Foremost (c :: before) op after where
  leftmost op' b a hba := by
    cases b with
    | nil => exact absurd ⟨a, hba⟩ (hc op')
    | cons d b =>
        rw [List.cons_append, List.cons_append, List.cons.injEq] at hba
        exact Nat.succ_le_succ (h.leftmost op' b a hba.2)
  longest := h.longest

/-! ## values behind a comparison -/

/-- A value that may stand behind the comparison: it holds no symbol, or it is in quotes and holds
none that is looked for earlier. -/
def Admits (op : Comparison) (value : Text) : Prop :=
  occursIn value = false ∨
    (unquote? value).isSome = true ∧ ∀ op' ∈ op.earlier, ¬ op'.symbol <:+: value

/-- Of the comparisons that are looked for, one is the earlier one. -/
theorem mem_earlier_of_notMem : ∀ op ∈ all, ∀ op' ∈ op.earlier, ∀ found ∈ all,
    op' ∉ found.earlier → found ∈ op.earlier := by decide

/-- Where a symbol that is looked for earlier stands behind the foremost one, a condition is divided
behind that. -/
theorem Foremost.exists_divide? {before after : Text} {op op' : Comparison}
    (h : Foremost before op after) (hop : op' ∈ op.earlier) (hi : op'.symbol <:+: after) :
    ∃ d found rest, divide? (before ++ (op.symbol ++ after)) =
      some (before ++ (op.symbol ++ d), found, rest) := by
  have hin : op'.symbol <:+: before ++ (op.symbol ++ after) :=
    hi.trans ⟨before ++ op.symbol, [], by simp⟩
  obtain ⟨b, found, a, hd⟩ := exists_divide?_of_infix hin
  obtain ⟨hcut, hearlier⟩ := divide?_eq_some_iff.1 hd
  have hfound : found ∈ op.earlier := mem_earlier_of_notMem op op.mem_all op' hop found
    found.mem_all fun hm => hearlier op' hm hin
  have ht := Text.eq_of_cut hcut
  rw [List.append_assoc] at ht
  obtain ⟨d, rfl, -⟩ := h.exists_of_earlier hfound ht.symm
  exact ⟨d, found, a, hd⟩

end Comparison

namespace Condition

/-! ## reading a condition -/

/-- A condition is read at its foremost comparison, when what stands behind may stand there. -/
theorem parse_foremost_iff {options : Options} {raw : Text} {c : Condition} :
    parse options raw = .ok c ↔ ∃ before after,
      Text.trim raw = before ++ (c.comparison.symbol ++ after) ∧
      Comparison.Foremost before c.comparison after ∧ c.comparison.Admits (Text.trim after) ∧
      c.property = Text.trim before ∧ c.property ≠ [] ∧ Text.trim after ≠ [] ∧
      c.value = options.normalize (Text.trim after) := by
  rw [parse_eq_ok_iff]
  constructor
  · intro ⟨before, after, hd, hn, hv, hp, hpn, hvn, hval⟩
    rw [hp, Comparison.occursIn_trim] at hn
    obtain ⟨ht, hf, hearlier⟩ := Comparison.divide?_foremost_iff.1 ⟨hd, hn⟩
    refine ⟨before, after, ht, hf, ?_, hp, hpn, hvn, hval⟩
    rcases hv with hv | hv
    · exact .inr ⟨hv, fun op hop hi => hearlier op hop ((op.infix_trim_iff).1 hi)⟩
    · exact .inl hv
  · intro ⟨before, after, ht, hf, ha, hp, hpn, hvn, hval⟩
    have hearlier : ∀ op ∈ c.comparison.earlier, ¬ op.symbol <:+: after := by
      intro op hop hi
      rcases ha with ha | ha
      · exact Comparison.not_infix_of_occursIn ha op (op.infix_trim_iff.2 hi)
      · exact ha.2 op hop (op.infix_trim_iff.2 hi)
    obtain ⟨hd, hn⟩ := Comparison.divide?_foremost_iff.2 ⟨ht, hf, hearlier⟩
    refine ⟨before, after, hd, ?_, ?_, hp, hpn, hvn, hval⟩
    · rw [hp, Comparison.occursIn_trim]
      exact hn
    · rcases ha with ha | ha
      · exact .inr ha
      · exact .inl ha.1

/-- A condition with a name and a value, both trimmed. -/
structure Complete (c : Condition) : Prop where
  property : Text.Trimmed c.property
  property_ne_nil : c.property ≠ []
  value : Text.Trimmed c.value
  value_ne_nil : c.value ≠ []

/-- A condition that is read from some text: its name holds no symbol, and its value may stand
behind its comparison. -/
structure Readable (c : Condition) : Prop extends c.Complete where
  property_free : Comparison.occursIn c.property = false
  admitted : c.comparison.Admits c.value

namespace Complete

variable {c : Condition} {g g' : Text} (h : c.Complete) (hg : Text.isBlankText g = true)
  (hg' : Text.isBlankText g' = true)
include h

/-- A complete condition is trimmed, however its comparison is spaced. -/
theorem trimmed (g g' : Text) :
    Text.Trimmed (c.property ++ g ++ (c.comparison.symbol ++ (g' ++ c.value))) := by
  have ht := h.property.append h.property_ne_nil h.value h.value_ne_nil
    (g ++ (c.comparison.symbol ++ g'))
  simpa using ht

/-- A complete condition is refused when a symbol that is looked for earlier stands in the value. -/
theorem parse_of_earlier (options : Options) {op : Comparison}
    (hf : Comparison.Foremost (c.property ++ g) c.comparison (g' ++ c.value))
    (hop : op ∈ c.comparison.earlier) (hi : op.symbol <:+: c.value) :
    parse options (c.property ++ g ++ (c.comparison.symbol ++ (g' ++ c.value))) =
      .error (.malformedCondition
        (c.property ++ g ++ (c.comparison.symbol ++ (g' ++ c.value))) .secondComparison) := by
  obtain ⟨d, found, after, hd⟩ :=
    hf.exists_divide? hop (hi.trans (List.suffix_append g' c.value).isInfix)
  have hsecond : Comparison.occursIn
      (Text.trim (c.property ++ g ++ (c.comparison.symbol ++ d))) = true := by
    rw [Comparison.occursIn_trim]
    by_contra hnone
    exact Comparison.not_infix_of_occursIn (Bool.not_eq_true _ ▸ hnone) c.comparison
      (List.infix_append' _ _ _)
  have htrim : Text.trim (c.property ++ g ++ (c.comparison.symbol ++ (g' ++ c.value))) =
      c.property ++ g ++ (c.comparison.symbol ++ (g' ++ c.value)) := h.trimmed g g'
  rw [parse, htrim, if_neg (by simp [h.property_ne_nil]), hd]
  simp only [hsecond, Bool.true_or, if_true]

include hg

/-- Blanks behind the name come off. -/
theorem trim_property : Text.trim (c.property ++ g) = c.property :=
  h.property.trim_pad (g := []) rfl hg

omit hg
include hg'

/-- Blanks in front of the value come off. -/
theorem trim_value : Text.trim (g' ++ c.value) = c.value := by
  rw [← List.append_nil (g' ++ c.value)]
  exact h.value.trim_pad hg' rfl

include hg

/-- A complete condition is read when its value may stand behind its comparison. -/
theorem parse_of_admits (options : Options)
    (hf : Comparison.Foremost (c.property ++ g) c.comparison (g' ++ c.value))
    (ha : c.comparison.Admits c.value) :
    parse options (c.property ++ g ++ (c.comparison.symbol ++ (g' ++ c.value))) =
      .ok { c with value := options.normalize c.value } := by
  refine parse_foremost_iff.2 ⟨c.property ++ g, g' ++ c.value, h.trimmed g g', hf, ?_⟩
  rw [h.trim_property hg, h.trim_value hg']
  exact ⟨ha, rfl, h.property_ne_nil, h.value_ne_nil, rfl⟩

end Complete

/-- What is read under the default options can be read. -/
theorem readable_of_parse {raw : Text} {c : Condition} (h : parse {} raw = .ok c) :
    c.Readable := by
  obtain ⟨before, after, -, hf, ha, hp, hpn, hvn, hval⟩ := parse_foremost_iff.1 h
  rw [normalize_default] at hval
  rw [← hval] at ha hvn
  refine ⟨⟨?_, hpn, ?_, hvn⟩, ?_, ha⟩
  · rw [hp]
    exact Text.trimmed_trim before
  · rw [hval]
    exact Text.trimmed_trim after
  · rw [hp, Comparison.occursIn_trim]
    exact hf.occursIn_eq_false

/-- What can be read is read from its own text. -/
theorem Readable.parse_render {c : Condition} (h : c.Readable) : parse {} c.render = .ok c := by
  have hspace : Text.isBlankText [' '] = true := rfl
  have hf := Comparison.foremost_spaced c.comparison c.value h.property_free
  have hp := h.parse_of_admits hspace hspace {} hf h.admitted
  rw [normalize_default] at hp
  simpa [render] using hp

/-- A condition that has been read is read again from its text, however its comparison was
spaced. -/
theorem parse_render_of_parse {raw : Text} {c : Condition} (h : parse {} raw = .ok c) :
    parse {} c.render = .ok c :=
  (readable_of_parse h).parse_render

/-- Such as one with a lone `!` on both sides of its comparison and symbols in its quoted value. -/
theorem parse_render_of_parse_quoted :
    let raw := " na!me !>='a != b >= c'".toList
    let c : Condition := ⟨"na!me !".toList, .ge, "'a != b >= c'".toList⟩
    parse {} raw = .ok c ∧ parse {} c.render = .ok c := by
  have h : parse {} " na!me !>='a != b >= c'".toList =
      .ok ⟨"na!me !".toList, .ge, "'a != b >= c'".toList⟩ := by rfl
  exact ⟨h, parse_render_of_parse h⟩

end Condition

namespace Comparison

/-! ## reading from left to right -/

/-- The longest symbol at the start of a text. -/
def longest? (t : Text) : Option Comparison := all.find? fun op => op.symbol.isPrefixOf t

/-- The comparisons of a text that starts at `position`, each with its place, read from left to
right: the longest symbol at each place, and on behind it.  The first `skip` characters belong to a
symbol already read. -/
def scanFrom (skip position : Nat) : Text → List (Nat × Comparison)
  | [] => []
  | c :: rest =>
      match skip with
      | skip + 1 => scanFrom skip (position + 1) rest
      | 0 =>
          match longest? (c :: rest) with
          | some op => (position, op) :: scanFrom (op.symbol.length - 1) (position + 1) rest
          | none => scanFrom 0 (position + 1) rest

/-- The comparisons of a text, read from left to right. -/
def scan (t : Text) : List (Nat × Comparison) := scanFrom 0 0 t

/-- No symbol is found where none starts. -/
theorem longest?_eq_none_iff {t : Text} :
    longest? t = none ↔ ∀ op : Comparison, ¬ op.symbol <+: t := by
  simp [longest?, List.find?_eq_none]

/-- What is found starts there, and nothing that starts there is longer. -/
theorem prefix_of_longest? {t : Text} {op : Comparison} (h : longest? t = some op) :
    op.symbol <+: t ∧ ∀ op' : Comparison, op'.symbol <+: t →
      op'.symbol.length ≤ op.symbol.length := by
  rw [longest?, List.find?_eq_some_iff_append] at h
  obtain ⟨hp, l₁, l₂, hl, hn⟩ := h
  refine ⟨List.isPrefixOf_iff_prefix.1 hp, fun op' hp' => ?_⟩
  by_contra hlt
  have hm := mem_earlier_of_length_lt op op.mem_all op' op'.mem_all (by omega)
  rw [earlier_of_all_eq hl] at hm
  have hno := hn op' hm
  rw [List.isPrefixOf_iff_prefix.2 hp'] at hno
  cases hno

theorem symbol_injective : ∀ op ∈ all, ∀ op' ∈ all, op.symbol = op'.symbol → op = op' := by
  decide

/-- A symbol is found where it starts and none that starts there is longer. -/
theorem longest?_eq_some_iff {t : Text} {op : Comparison} :
    longest? t = some op ↔ op.symbol <+: t ∧ ∀ op' : Comparison, op'.symbol <+: t →
      op'.symbol.length ≤ op.symbol.length := by
  refine ⟨prefix_of_longest?, fun ⟨hp, hmax⟩ => ?_⟩
  cases hl : longest? t with
  | none => exact absurd hp (longest?_eq_none_iff.1 hl op)
  | some found =>
      obtain ⟨hf, hfmax⟩ := prefix_of_longest? hl
      have hs : found.symbol = op.symbol := (List.prefix_of_prefix_length_le hf hp
        (hmax found hf)).eq_of_length (Nat.le_antisymm (hmax found hf) (hfmax op hp))
      rw [symbol_injective found found.mem_all op op.mem_all hs]

theorem scanFrom_skip (position : Nat) (w v : Text) :
    scanFrom w.length position (w ++ v) = scanFrom 0 (position + w.length) v := by
  induction w generalizing position with
  | nil => rfl
  | cons c w ih =>
      rw [List.length_cons, List.cons_append, scanFrom, ih, Nat.add_assoc, Nat.add_comm 1]

/-- Where no symbol starts there is no sign. -/
theorem occursIn_cons_of_longest? {c : Char} {rest : Text} (h : longest? (c :: rest) = none) :
    occursIn (c :: rest) = occursIn rest := by
  have hc : isSign c = false := by
    by_contra hs
    obtain ⟨op, hop⟩ := exists_of_isSign (by simpa using hs)
    exact longest?_eq_none_iff.1 h op ⟨rest, by rw [hop]; rfl⟩
  rw [Bool.eq_iff_iff, ← not_iff_not, Bool.not_eq_true, Bool.not_eq_true]
  simp [occursIn_eq_false_iff, hc]

/-- Nothing is read in a text without signs, and only there. -/
theorem scanFrom_eq_nil_iff {position : Nat} {t : Text} :
    scanFrom 0 position t = [] ↔ occursIn t = false := by
  induction t generalizing position with
  | nil => simp [scanFrom, occursIn_eq_false_iff]
  | cons c rest ih =>
      rw [scanFrom]
      cases hl : longest? (c :: rest) with
      | none =>
          rw [occursIn_cons_of_longest? hl]
          exact ih
      | some op =>
          have hn : occursIn (c :: rest) ≠ false := fun hn =>
            not_infix_of_occursIn hn op (prefix_of_longest? hl).1.isInfix
          simp [hn]

variable {before after : Text} {op : Comparison}

/-- The rest of a text is searched like the whole. -/
theorem Foremost.of_cons {c : Char} (h : Foremost (c :: before) op after) :
    Foremost before op after where
  leftmost op' b a hba := Nat.le_of_succ_le_succ (h.leftmost op' (c :: b) a (by simp [hba]))
  longest := h.longest

/-- The foremost comparison is read first, and then those behind it. -/
theorem Foremost.scanFrom (h : Foremost before op after) (position : Nat) :
    scanFrom 0 position (before ++ (op.symbol ++ after)) =
      (position + before.length, op) ::
        scanFrom 0 (position + before.length + op.symbol.length) after := by
  induction before generalizing position with
  | nil =>
      obtain ⟨c, w, hs⟩ := List.exists_cons_of_ne_nil op.symbol_ne_nil
      have hl := longest?_eq_some_iff.2 ⟨List.prefix_append _ _, h.longest⟩
      have hlength : op.symbol.length - 1 = w.length := by
        rw [hs, List.length_cons, Nat.add_sub_cancel]
      rw [hs, List.cons_append] at hl
      rw [List.nil_append, hs, List.cons_append, Comparison.scanFrom, hl]
      dsimp only
      rw [hlength, scanFrom_skip]
      simp [Nat.add_assoc, Nat.add_comm 1]
  | cons c before ih =>
      have hl : longest? (c :: (before ++ (op.symbol ++ after))) = none := by
        rw [longest?_eq_none_iff]
        intro op' ⟨a, ha⟩
        have hle := h.leftmost op' [] a ha
        simp at hle
      rw [List.cons_append, Comparison.scanFrom, hl]
      dsimp only
      rw [ih h.of_cons]
      simp [Nat.add_assoc, Nat.add_comm 1]

/-- A text in which a symbol occurs has a foremost comparison. -/
theorem exists_foremost {t : Text} (h : occursIn t = true) :
    ∃ before op after, t = before ++ (op.symbol ++ after) ∧ Foremost before op after := by
  induction t with
  | nil => cases h
  | cons c rest ih =>
      cases hl : longest? (c :: rest) with
      | some op =>
          obtain ⟨⟨after, ha⟩, hmax⟩ := prefix_of_longest? hl
          refine ⟨[], op, after, ha.symm, fun _ _ _ _ => Nat.zero_le _, fun op' hp => ?_⟩
          rw [ha] at hp
          exact hmax op' hp
      | none =>
          rw [occursIn_cons_of_longest? hl] at h
          obtain ⟨before, op, after, rfl, hf⟩ := ih h
          exact ⟨c :: before, op, after, rfl, hf.cons (longest?_eq_none_iff.1 hl)⟩

/-- One comparison is read when no symbol stands behind the foremost one. -/
theorem scan_eq_singleton_iff {t : Text} {position : Nat} : scan t = [(position, op)] ↔
    ∃ before after, t = before ++ (op.symbol ++ after) ∧ position = before.length ∧
      Foremost before op after ∧ occursIn after = false := by
  constructor
  · intro h
    have ht : occursIn t = true := by
      by_contra hn
      rw [scan, scanFrom_eq_nil_iff.2 (Bool.not_eq_true _ ▸ hn)] at h
      cases h
    obtain ⟨before, op', after, rfl, hf⟩ := exists_foremost ht
    rw [scan, hf.scanFrom, List.cons.injEq, scanFrom_eq_nil_iff, Prod.mk.injEq] at h
    obtain ⟨⟨hposition, rfl⟩, hafter⟩ := h
    exact ⟨before, after, rfl, by omega, hf, hafter⟩
  · rintro ⟨before, after, rfl, rfl, hf, hafter⟩
    rw [scan, hf.scanFrom, scanFrom_eq_nil_iff.2 hafter, Nat.zero_add]

end Comparison

namespace Condition

/-- A value without quotes that may stand behind a comparison holds no symbol. -/
theorem occursIn_of_admits {op : Comparison} {value : Text} (h : op.Admits value)
    (hq : ∀ x ∈ value, isQuote x = false) : Comparison.occursIn value = false := by
  refine h.resolve_right fun ⟨hu, _⟩ => ?_
  obtain ⟨inner, hu⟩ := Option.isSome_iff_exists.1 hu
  obtain ⟨quote, hquote, rfl⟩ := unquote?_eq_some_iff.1 hu
  rw [hq quote List.mem_cons_self] at hquote
  cases hquote

/-- A condition without quotes is read just when reading it from left to right finds one comparison,
with text on both sides. -/
theorem exists_parse_iff_scan {options : Options} {raw : Text}
    (hq : ∀ x ∈ raw, isQuote x = false) :
    (∃ c, parse options raw = .ok c) ↔ ∃ before op after,
      Text.trim raw = before ++ (op.symbol ++ after) ∧
      Comparison.scan (Text.trim raw) = [(before.length, op)] ∧
      Text.isBlankText before = false ∧ Text.isBlankText after = false := by
  constructor
  · rintro ⟨c, hc⟩
    obtain ⟨before, after, ht, hf, ha, hp, hpn, hvn, -⟩ := parse_foremost_iff.1 hc
    have hvalue : ∀ x ∈ Text.trim after, isQuote x = false := fun x hx =>
      hq x (Text.mem_of_mem_trim (by simp [ht, Text.mem_of_mem_trim hx]))
    have hafter := occursIn_of_admits ha hvalue
    rw [Comparison.occursIn_trim] at hafter
    rw [hp] at hpn
    exact ⟨before, c.comparison, after, ht,
      Comparison.scan_eq_singleton_iff.2 ⟨before, after, ht, rfl, hf, hafter⟩,
      Text.trim_ne_nil_iff.1 hpn, Text.trim_ne_nil_iff.1 hvn⟩
  · rintro ⟨before, op, after, ht, hs, hb, ha⟩
    obtain ⟨before', after', ht', hl, hf, hafter⟩ := Comparison.scan_eq_singleton_iff.1 hs
    obtain ⟨rfl, hrest⟩ := List.append_inj (ht.symm.trans ht') hl
    obtain rfl := List.append_cancel_left hrest
    rw [← Comparison.occursIn_trim] at hafter
    exact ⟨⟨Text.trim before, op, options.normalize (Text.trim after)⟩,
      parse_foremost_iff.2 ⟨before, after, ht, hf, .inl hafter, rfl, Text.trim_ne_nil_iff.2 hb,
        Text.trim_ne_nil_iff.2 ha, rfl⟩⟩

/-- Of a condition that is read, the comparison is the foremost one: it starts where a symbol starts
first, and is the longest there.  The name and the value, as it is written, are the trimmed texts on
either side.  A text without quotes is read just when reading it from left to right finds one
comparison, with text on both sides. -/
theorem foremost_of_parse (options : Options) (raw : Text) :
    (∀ c, parse options raw = .ok c → ∃ before after,
      Text.trim raw = before ++ (c.comparison.symbol ++ after) ∧
      Comparison.Foremost before c.comparison after ∧
      c.property = Text.trim before ∧ Text.trim before ≠ [] ∧
      c.value = options.normalize (Text.trim after) ∧ Text.trim after ≠ []) ∧
    ((∀ x ∈ raw, isQuote x = false) →
      ((∃ c, parse options raw = .ok c) ↔ ∃ before op after,
        Text.trim raw = before ++ (op.symbol ++ after) ∧
        Comparison.scan (Text.trim raw) = [(before.length, op)] ∧
        Text.isBlankText before = false ∧ Text.isBlankText after = false)) := by
  refine ⟨fun c hc => ?_, exists_parse_iff_scan⟩
  obtain ⟨before, after, ht, hf, -, hp, hpn, hvn, hval⟩ := parse_foremost_iff.1 hc
  rw [hp] at hpn
  exact ⟨before, after, ht, hf, hp, hpn, hval, hvn⟩

end Condition

end FlatQuery
