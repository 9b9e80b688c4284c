import FlatQuery.Proofs.Survey

/-!
# FlatQuery.Proofs.Lead

What stands before `select` decides nothing.

Behind `select` every position moves along when something is put in front of a query
(`Layout.shift`), and every segment stays what it is.  So a query is read, or refused, as it is
without its lead, and the lead may be any text in which `select` does not stand.

* `Layout.locate_shift` — the layout of a query with more in front;
* `Query.parse_append` — a query with more in front is read as it is without;
* `Query.lead_decides_nothing` — the lead of an accepted query is as good as any other.
-/

namespace FlatQuery

/-! ## positions behind something put in front -/

namespace Text

variable (u v : Text)

/-- The same character comes before a position, unless the position is the start. -/
theorem charBefore?_shift {n : Nat} (h : 0 < n) :
    (u ++ v).charBefore? (u.length + n) = v.charBefore? n := by
  rw [charBefore?, charBefore?, if_neg (by omega), if_neg (by omega), Nat.add_sub_assoc h,
    List.getElem?_append_right (Nat.le_add_right _ _), Nat.add_sub_cancel_left]

/-- Blanks are skipped as far. -/
@[simp] theorem skipBlanks_shift (n : Nat) :
    (u ++ v).skipBlanks (u.length + n) = u.length + v.skipBlanks n := by
  rw [skipBlanks, skipBlanks, List.drop_length_add_append, Nat.add_assoc]

@[simp] theorem skipRun_shift (n : Nat) :
    (u ++ v).skipRun (u.length + n) = u.length + v.skipRun n := by
  rw [skipRun, skipRun, List.drop_length_add_append, Nat.add_assoc]

@[simp] theorem slice_shift (m n : Nat) :
    (u ++ v).slice (u.length + m) (u.length + n) = v.slice m n := by
  rw [slice, slice, List.take_length_add_append, List.drop_length_add_append]

end Text

/-- The span with `d` characters put in front of its text. -/
def Span.shift (d : Nat) (s : Span) : Span := ⟨d + s.start, d + s.stop⟩

@[simp] theorem Span.start_shift (d : Nat) (s : Span) : (s.shift d).start = d + s.start := rfl

@[simp] theorem Span.stop_shift (d : Nat) (s : Span) : (s.shift d).stop = d + s.stop := rfl

namespace Word

/-- A search that counts from further on. -/
@[simp] theorem findFrom?_shift (w : Word) (d : Nat) (before : Option Char) (position : Nat)
    (t : Text) :
    w.findFrom? before (d + position) t = (w.findFrom? before position t).map (.shift d) := by
  induction t generalizing before position with
  | nil => rfl
  | cons c rest ih =>
      rw [findFrom?, findFrom?]
      cases w.matchLength? before (c :: rest) with
      | some n => simp [Span.shift, Nat.add_assoc]
      | none => exact ih (some c) (position + 1)

variable (w : Word) (u v : Text) {n : Nat} (h : 0 < n)
include h

theorem find?_shift :
    w.find? (u ++ v) (u.length + n) = (w.find? v n).map (.shift u.length) := by
  rw [find?, find?, Text.charBefore?_shift u v h, List.drop_length_add_append, findFrom?_shift]

theorem endAt?_shift :
    w.endAt? (u ++ v) (u.length + n) = (w.endAt? v n).map (u.length + ·) := by
  rw [endAt?, endAt?, Text.charBefore?_shift u v h, List.drop_length_add_append, Option.map_map]
  simp [Function.comp_def, Nat.add_assoc]

end Word

namespace Layout

/-! ## layouts -/

/-- The layout of a query with `d` characters put in front. -/
def shift (d : Nat) (l : Layout) : Layout where
  selectWord := l.selectWord.shift d
  fromWord := l.fromWord.shift d
  source := l.source.shift d
  filterWord := l.filterWord.map (.shift d)
  groupByWord := l.groupByWord.map (.shift d)
  orderByWord := l.orderByWord.map (.shift d)

@[simp] theorem misplaced?_shift (d : Nat) (ws : List (Keyword × Span)) :
    misplaced? (ws.map fun w => (w.1, w.2.shift d)) = misplaced? ws := by
  induction ws with
  | nil => rfl
  | cons w ws ih =>
      cases ws with
      | nil => rfl
      | cons w' ws =>
          simp [misplaced?] at ih ⊢
          rw [ih]

section Located

variable (u v : Text)

theorem startsClause_shift {n : Nat} (h : 0 < n) :
    startsClause (u ++ v) (u.length + n) = startsClause v n := by
  simp only [startsClause, Word.endAt?_shift _ u v h, Option.isSome_map]

/-- The same clauses are found behind the source. -/
theorem withClauses_shift (selectWord fromWord : Span) {source : Span} (h : 0 < source.stop) :
    withClauses (u ++ v) (selectWord.shift u.length) (fromWord.shift u.length)
        (source.shift u.length) =
      (withClauses v selectWord fromWord source).map (shift u.length) := by
  have hfound : ∀ k : Keyword, k.word.find? (u ++ v) (source.shift u.length).stop =
      (k.word.find? v source.stop).map (.shift u.length) :=
    fun k => Word.find?_shift k.word u v h
  have hpresent : (Keyword.optionalClauses.filterMap fun k =>
      ((k.word.find? v source.stop).map (.shift u.length)).map (k, ·)) =
        (Keyword.optionalClauses.filterMap fun k => (k.word.find? v source.stop).map (k, ·)).map
          fun w => (w.1, w.2.shift u.length) := by
    simp only [List.map_filterMap, Option.map_map, Function.comp_def]
  simp only [withClauses, hfound, hpresent, misplaced?_shift]
  cases misplaced? _ <;> rfl

/-- The same source is read, and the same follows it. -/
theorem surveySource_shift (selectWord : Span) {fromWord : Span} (h : 0 < fromWord.stop) :
    (surveySource (u ++ v) (selectWord.shift u.length) (fromWord.shift u.length)).outcome =
      (surveySource v selectWord fromWord).outcome.map (shift u.length) := by
  have hstart : 0 < v.skipBlanks fromWord.stop := Nat.lt_of_lt_of_le h (Nat.le_add_right _ _)
  generalize hs : v.skipBlanks fromWord.stop = start at hstart
  have hstop : 0 < v.skipRun start := Nat.lt_of_lt_of_le hstart (Nat.le_add_right _ _)
  have hnext : 0 < v.skipBlanks (v.skipRun start) :=
    Nat.lt_of_lt_of_le hstop (Nat.le_add_right _ _)
  have hclauses : withClauses (u ++ v) (selectWord.shift u.length) (fromWord.shift u.length)
      (Span.shift u.length ⟨start, v.skipRun start⟩) = _ :=
    withClauses_shift u v selectWord fromWord hstop
  simp only [Span.shift] at hclauses
  simp only [surveySource, Span.shift, Text.skipBlanks_shift, Text.skipRun_shift, hs,
    startsClause_shift u v hstart, startsClause_shift u v hnext, Text.slice_shift, hclauses,
    List.length_append, Nat.add_le_add_iff_left, Nat.add_lt_add_iff_left]
  split
  · rfl
  · split <;> rfl

/-- When `select` is found at the same place, so is everything behind it. -/
theorem locate_shift {w : Span} (hv : Keyword.select.word.find? v 0 = some w)
    (huv : Keyword.select.word.find? (u ++ v) 0 = some (w.shift u.length)) (hw : 0 < w.stop) :
    locate (u ++ v) = (locate v).map (shift u.length) := by
  have hfrom : Keyword.source.word.find? (u ++ v) (w.shift u.length).stop =
      (Keyword.source.word.find? v w.stop).map (.shift u.length) := Word.find?_shift _ u v hw
  rw [locate, locate, survey, survey, huv, hv]
  simp only [hfrom]
  cases hf : Keyword.source.word.find? v w.stop with
  | none => rfl
  | some s =>
      have hs : 0 < s.stop := by
        obtain ⟨a, m, b, -, rfl, -⟩ := Keyword.exists_of_findFrom? hf
        rw [Nat.add_assoc]
        exact Nat.lt_of_lt_of_le hw (Nat.le_add_right _ _)
      exact surveySource_shift u v w hs

/-! ## segments -/

/-- The least of some positions moves as they do. -/
@[simp] theorem min?_shift (d : Nat) (ns : List Nat) :
    (ns.map (d + ·)).min? = ns.min?.map (d + ·) := by
  cases h : ns.min? with
  | none =>
      rw [List.min?_eq_none_iff] at h
      rw [h]
      rfl
  | some n =>
      rw [List.min?_eq_some_iff] at h
      rw [Option.map_some, List.min?_eq_some_iff]
      simpa using h

@[simp] theorem clauseStarts_shift (d : Nat) (l : Layout) :
    (l.shift d).clauseStarts = l.clauseStarts.map (d + ·) := by
  obtain ⟨a, b, c, f, g, o⟩ := l
  cases f <;> cases g <;> cases o <;> rfl

@[simp] theorem body_shift (l : Layout) (w : Span) :
    (l.shift u.length).body (u ++ v) (w.shift u.length) = l.body v w := by
  have hfilter : (l.clauseStarts.map (u.length + ·)).filter ((w.shift u.length).start < ·) =
      (l.clauseStarts.filter (w.start < ·)).map (u.length + ·) := by
    rw [List.filter_map]
    simp [Function.comp_def]
  have hstop : (l.shift u.length).bodyStop (u ++ v) (w.shift u.length) =
      u.length + l.bodyStop v w := by
    rw [bodyStop, bodyStop, clauseStarts_shift, hfilter, min?_shift, List.length_append,
      Option.getD_map (u.length + ·)]
  rw [body, body, hstop, Span.shift, Text.slice_shift]

/-- The segments are the same texts. -/
@[simp] theorem sourceName_shift (l : Layout) :
    (l.shift u.length).sourceName (u ++ v) = l.sourceName v :=
  Text.slice_shift u v _ _

@[simp] theorem selectedTokens_shift (l : Layout) :
    (l.shift u.length).selectedTokens (u ++ v) = l.selectedTokens v := by
  have hs : (l.shift u.length).selectedSegment (u ++ v) = l.selectedSegment v :=
    congrArg Text.trim (Text.slice_shift u v _ _)
  rw [selectedTokens, selectedTokens, hs]

theorem body?_shift (l : Layout) (w : Option Span) :
    (w.map (.shift u.length)).map ((l.shift u.length).body (u ++ v)) = w.map (l.body v) := by
  rw [Option.map_map]
  exact Option.map_congr fun w _ => body_shift u v l w

end Located

end Layout

namespace Query

/-! ## reading a query behind its lead -/

/-- A query is read from the same segments. -/
theorem ofLayout_shift (options : Options) (u v : Text) (l : Layout) :
    ofLayout options (u ++ v) (l.shift u.length) =
      (ofLayout options v l).map ({ · with text := u ++ v }) := by
  have hf : (l.shift u.length).conditionSegment? (u ++ v) = l.conditionSegment? v :=
    Layout.body?_shift u v l l.filterWord
  have hg : (l.shift u.length).groupBySegment? (u ++ v) = l.groupBySegment? v :=
    Layout.body?_shift u v l l.groupByWord
  have ho : (l.shift u.length).orderBySegment? (u ++ v) = l.orderBySegment? v :=
    Layout.body?_shift u v l l.orderByWord
  change _ = ({ · with text := u ++ v }) <$> ofLayout options v l
  simp only [ofLayout, Layout.sourceName_shift, Layout.selectedTokens_shift, hf, hg, ho,
    map_bind, map_pure]

/-- A query with more in front, in which `select` does not stand, is read as it is without. -/
theorem parse_append (options : Options) {u v : Text} (hu : Keyword.select.Absent u)
    (hl : u.getLast?.any isWordChar = false)
    (hv : (Keyword.select.word.endAt? v 0).isSome = true) :
    parse options (u ++ v) = (parse options v).map ({ · with text := u ++ v }) := by
  obtain ⟨n, hn⟩ := Option.isSome_iff_exists.1 (Option.isSome_map.symm.trans hv)
  obtain ⟨m, b, rfl, -, hm⟩ := Keyword.matchLength?_eq_some_iff.1 hn
  have hblank : ∀ u : Text, Text.isBlankText (u ++ (m ++ b)) = false := by
    intro u
    obtain ⟨c, rest, rfl, hw, -⟩ := hm.1.head
    simp [Text.isBlankText, isBlank_of_isWordChar hw]
  have hm' : Keyword.select.Stands u.getLast? m b.head? := ⟨hm.1, hl, hm.2.2⟩
  have hfind := Keyword.find?_of_absent (u := []) (a := []) (b := b)
    (Keyword.absent_of_isBlankText .select rfl) (Keyword.severed_blank_left rfl) hm
  have hfind' := Keyword.find?_of_absent (u := []) hu (Keyword.severed_of_stands hm')
    (by rwa [List.getLast?_nil, Option.or_none])
  have hlocate : Layout.locate (u ++ (m ++ b)) =
      (Layout.locate (m ++ b)).map (.shift u.length) := by
    refine Layout.locate_shift u (m ++ b) hfind ?_ ?_
    · simpa [Span.shift] using hfind'
    · simpa using List.length_pos_iff.2 hm.1.ne_nil
  rw [parse, parse, hblank u, ← List.nil_append (m ++ b), hblank [], List.nil_append, hlocate]
  cases Layout.locate (m ++ b) with
  | error e => rfl
  | ok l => exact ofLayout_shift options u (m ++ b) l

/-- `select` stands where the blanks in front end just when nothing else is in front of it. -/
theorem isBlankText_lead_iff {lead m v : Text} (hlead : Keyword.select.Absent lead)
    (hm : Keyword.select.Stands lead.getLast? m v.head?) : Text.isBlankText lead = true ↔
      (Keyword.select.word.endAt? (Text.trimStart (lead ++ (m ++ v))) 0).isSome = true := by
  have hhead : (m ++ v).head?.any isBlank = false := by
    obtain ⟨c, rest, rfl, hw, -⟩ := hm.1.head
    simp [isBlank_of_isWordChar hw]
  have hend : ∀ t, (Keyword.select.word.endAt? t 0).isSome =
      (Keyword.select.word.matchLength? none t).isSome := fun t => Option.isSome_map
  rw [Text.trimStart_append_of_head? hhead, hend, ← Text.trimStart_eq_nil_iff]
  constructor
  · intro hn
    rw [hn, List.nil_append, Keyword.matchLength?_eq_some_iff.2 ⟨m, v, rfl, rfl, hm.1, rfl, hm.2.2⟩]
    rfl
  · intro hs
    by_contra hn
    obtain ⟨c, rest, hc⟩ := List.exists_cons_of_ne_nil hn
    -- the lead without its blanks is free of `select` as well, so nothing matches where it starts
    have habsent : Keyword.select.Absent (c :: rest) := by
      rw [← hc]
      rw [← Text.takeWhile_append_trimStart lead] at hlead
      exact hlead.right (.inl (isWordChar_getLast?_blanks List.all_takeWhile))
    have hm' : Keyword.select.Stands (c :: rest).getLast? m v.head? := by
      rw [← hc]
      rw [← Text.takeWhile_append_trimStart lead, List.getLast?_append] at hm
      exact hm.of_or_before
    have hq := Keyword.quiet_of_absent habsent (Keyword.severed_of_stands (b := v) hm') none
    rw [hc, (Keyword.quiet_cons_iff.1 hq).1] at hs
    cases hs

/-- In front of the `select` of an accepted query may stand any text in which `select` does not
stand and that does not run on into it, and nothing of it shows in what is read.  It is empty or
blank just when `select` stands where the blanks in front end. -/
theorem lead_decides_nothing {options : Options} {t : Text} {q : Query}
    (h : parse options t = .ok q) :
    ∃ l, Layout.locate t = .ok l ∧
      Keyword.select.Absent (t.take l.selectWord.start) ∧
      (Text.isBlankText (t.take l.selectWord.start) = true ↔
        (Keyword.select.word.endAt? (Text.trimStart t) 0).isSome = true) ∧
      ∀ u, Keyword.select.Absent u → u.getLast?.any isWordChar = false →
        parse options (u ++ t.drop l.selectWord.start) =
          .ok { q with text := u ++ t.drop l.selectWord.start } := by
  obtain ⟨p, hp, rfl, hr⟩ := Pieces.parse_eq_ok_iff.1 h
  obtain ⟨v, hv⟩ : ∃ v, p.text = p.lead ++ (p.selectWord ++ (p.selected ++ p.fromWord ++ v)) :=
    ⟨p.gap ++ p.source ++ p.tail, by simp [Pieces.text_eq]⟩
  have hstands : Keyword.select.Stands p.lead.getLast? p.selectWord
      (p.selected ++ p.fromWord ++ v).head? := by
    have hn : p.selected ++ p.fromWord ≠ [] := by simp [hp.from_stands.1.ne_nil]
    rw [List.head?_append_of_ne_nil _ hn]
    exact hp.select_stands
  have hstart : p.layout.selectWord.start = p.lead.length := rfl
  refine ⟨p.layout, Pieces.locate_text hp, ?_, ?_, fun u hu hl => ?_⟩
  · rw [hstart, hv, List.take_left]
    exact hp.select_absent
  · rw [hstart, hv, List.take_left]
    exact isBlankText_lead_iff hp.select_absent hstands
  · have hselect : (Keyword.select.word.endAt?
        (p.selectWord ++ (p.selected ++ p.fromWord ++ v)) 0).isSome = true := by
      rw [Word.endAt?, Option.isSome_map]
      exact Option.isSome_iff_exists.2 ⟨_, Keyword.matchLength?_eq_some_iff.2
        ⟨_, _, rfl, rfl, hstands.1, rfl, hstands.2.2⟩⟩
    have hlast : p.lead.getLast?.any isWordChar = false := hstands.2.1
    -- with either lead the query is read as the text from `select` on
    rw [hv, parse_append options hp.select_absent hlast hselect] at h
    rw [hstart, hv, List.drop_left, parse_append options hu hl hselect]
    cases hq : parse options (p.selectWord ++ (p.selected ++ p.fromWord ++ v)) with
    | error e =>
        rw [hq] at h
        cases h
    | ok q' =>
        rw [hq] at h
        cases h
        rfl

/-- So nothing is left of a lead that could have been meant as a part of the query. -/
theorem parse_behind_with_clause : ∃ q,
    parse {} "with n as 1, selected Select a, n from t where a > 2".toList = .ok q ∧
    parse {} "Select a, n from t where a > 2".toList =
      .ok { q with text := "Select a, n from t where a > 2".toList } ∧
    ∀ u, Keyword.select.Absent u → u.getLast?.any isWordChar = false →
      parse {} (u ++ "Select a, n from t where a > 2".toList) =
        .ok { q with text := u ++ "Select a, n from t where a > 2".toList } := by
  obtain ⟨q, hq⟩ := exists_ok_of_isSome (x := parse {}
    "with n as 1, selected Select a, n from t where a > 2".toList) (by decide +kernel)
  obtain ⟨l, hl, -, -, hlead⟩ := lead_decides_nothing hq
  have hstart : Layout.locate "with n as 1, selected Select a, n from t where a > 2".toList =
      .ok ⟨⟨22, 28⟩, ⟨34, 38⟩, ⟨39, 40⟩, some ⟨41, 46⟩, none, none⟩ := by decide +kernel
  cases hstart.symm.trans hl
  exact ⟨q, hq, hlead [] (Keyword.absent_of_isBlankText _ rfl) rfl, hlead⟩

/-- A query is accepted with a name in front of `select`. -/
theorem exists_named_lead : ∃ q l, parse {} "x select a from t".toList = .ok q ∧
    Layout.locate "x select a from t".toList = .ok l ∧
    "x select a from t".toList.take l.selectWord.start = "x ".toList ∧
    Text.isBlankText "x ".toList = false := by
  obtain ⟨q, hq⟩ := exists_ok_of_isSome (x := parse {} "x select a from t".toList)
    (by decide +kernel)
  exact ⟨q, ⟨⟨2, 8⟩, ⟨11, 15⟩, ⟨16, 17⟩, none, none, none⟩, hq, by decide +kernel, by decide,
    by decide⟩

end Query

end FlatQuery
