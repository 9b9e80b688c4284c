import FlatQuery.Proofs.Bodies
import FlatQuery.Proofs.Draft
import FlatQuery.Proofs.Foremost
import FlatQuery.Proofs.Joined
import FlatQuery.Proofs.Selection

/-!
# FlatQuery.Proofs.Canonical

The canonical text of a query that has been read.

The text of a query is a draft (`Query.draft`).  Its parts come from the bodies of the text that was
read, so they hold no keyword that is looked for behind them, and its filter is written from the
conditions (`Filter.joined_render`).

* `Query.parse_canonical` — a query is read again from its canonical text.
-/

namespace FlatQuery

/-! ## conditions -/

namespace Condition

variable {raw : Text} {c : Condition}

/-- The two sides of a condition, where it was read. -/
theorem exists_sides (h : Condition.parse {} raw = .ok c) :
    ∃ before after, Text.trim raw = before ++ (c.comparison.symbol ++ after) ∧
      c.property = Text.trim before ∧ c.value = Text.trim after := by
  obtain ⟨before, after, hd, -, -, hp, -, -, hv⟩ := parse_eq_ok_iff.1 h
  rw [normalize_default] at hv
  have hraw := Text.eq_of_cut (Comparison.divide?_eq_some_iff.1 hd).1
  rw [List.append_assoc] at hraw
  exact ⟨before, after, hraw, hp, hv⟩

/-- The two sides of a condition, where it is written. -/
theorem render_eq_sides (c : Condition) :
    c.render = (c.property ++ [' ']) ++ (c.comparison.symbol ++ ([' '] ++ c.value)) := by
  simp [render]

/-- A condition is whole in its canonical text when it was where it was read, and reading leaves off
in the same state. -/
theorem whole_render (h : Condition.parse {} raw = .ok c)
    (hw : Filter.Whole (.outside none) none raw) :
    Filter.Whole (.outside none) none c.render ∧
      Filter.run (.outside none) c.render = Filter.run (.outside none) raw := by
  obtain ⟨before, after, hraw, hp, hv⟩ := exists_sides h
  have hproper := Filter.proper_outside none
  have hleft : Text.trim (c.property ++ [' ']) = Text.trim before := by
    rw [hp]
    exact (Text.trimmed_trim before).trim_pad (g := []) rfl rfl
  have hright : Text.trim ([' '] ++ c.value) = Text.trim after := by
    rw [hv, ← List.append_nil ([' '] ++ Text.trim after)]
    exact (Text.trimmed_trim after).trim_pad rfl rfl
  rw [← Filter.whole_trim hproper, hraw, Filter.whole_comparison hproper] at hw
  rw [← Filter.run_trim hproper raw, hraw, render_eq_sides, Filter.whole_comparison hproper,
    Filter.run_comparison hproper, Filter.run_comparison hproper, hleft, hright]
  exact ⟨hw, rfl⟩

/-- A keyword that does not stand where a condition was read does not stand in its canonical
text. -/
theorem absent_render {k : Keyword} (h : Condition.parse {} raw = .ok c) (hk : k.Absent raw) :
    k.Absent c.render := by
  obtain ⟨before, after, hraw, hp, hv⟩ := exists_sides h
  have ht := hk.trim
  rw [hraw, Filter.absent_comparison_iff] at ht
  rw [render_eq_sides, Filter.absent_comparison_iff, hp, hv]
  refine ⟨?_, ?_⟩
  · exact ht.1.trim.pad (g := []) rfl rfl
  · rw [← List.append_nil ([' '] ++ Text.trim after)]
    exact ht.2.trim.pad rfl rfl

end Condition

namespace Filter

/-! ## filters -/

theorem renderFilter_cons_cons (c d : Condition) (cs : List Condition) (op : Connective)
    (ops : List Connective) : Query.renderFilter (c :: d :: cs) (op :: ops) =
      c.render ++ [' '] ++ op.name ++ [' '] ++ Query.renderFilter (d :: cs) ops := by
  simp [Query.renderFilter]

/-- The filter written from the conditions of one that has been read. -/
theorem joined_render {before : Option Char} {us : List Text} {ms : List (Connective × Text)}
    {t : Text} {conditions : List Condition} (h : Splits before us ms t)
    (hb : before.any isWordChar = false ∨ t.head?.any isWordChar = false)
    (hc : List.Forall₂ (fun u c => Condition.parse {} u = .ok c) us conditions) :
    Joined (conditions.map Condition.render) (ms.map Prod.fst)
      (Query.renderFilter conditions (ms.map Prod.fst)) := by
  induction h generalizing conditions with
  | @one before u hu =>
      obtain ⟨c, cs, hcu, hcs, rfl⟩ := List.forall₂_cons_left_iff.1 hc
      cases hcs
      have hw : Whole (.outside none) none u :=
        (whole_before (hb.symm.imp_right fun h => ⟨h, rfl⟩)).1 hu
      exact .one (Condition.whole_render hcu hw).1
  | @more before last u m t op us ms hu hr hm ht ih =>
      obtain ⟨c, cs, hcu, hcs, rfl⟩ := List.forall₂_cons_left_iff.1 hc
      have hw : Whole (.outside none) none u :=
        (whole_before (hb.symm.imp any_head?_of_append fun h => ⟨h, rfl⟩)).1 hu
      obtain ⟨hcw, hcr⟩ := Condition.whole_render hcu hw
      have hrest := ih (.inr hm.2.2) hcs
      -- a connective is written only between conditions
      have hne : cs ≠ [] := by
        intro hn
        have hl := hcs.length_eq
        rw [length_of_splits ht, hn] at hl
        cases hl
      obtain ⟨d, ds, rfl⟩ := List.exists_cons_of_ne_nil hne
      have hmore := Joined.more hcw (hcr.trans hr) (List.cons_ne_nil ' ' []) rfl
        op.keyword.spelled_name (List.cons_ne_nil ' ' []) rfl hrest
      rw [show ((op, m) :: ms).map Prod.fst = op :: ms.map Prod.fst from rfl,
        renderFilter_cons_cons]
      simpa [Connective.name] using hmore

end Filter

namespace Query

/-! ## the canonical text -/

/-- A clause of the canonical text. -/
def draftClause (k : Keyword) (parts : List Text) (body : Text) : Option DraftClause :=
  if parts.isEmpty then none else some ⟨[' '], k.name, [' '], body⟩

/-- The canonical text of a query, part by part. -/
def draft (q : Query) : Draft where
  lead := []
  selectWord := Keyword.select.name
  selectPad := [' ']
  selected := listed (q.fields ++ q.aggregates.map Aggregate.render)
  fromGap := [' ']
  fromWord := Keyword.source.name
  fromPad := [' ']
  source := q.source
  filter := draftClause .filter (q.conditions.map Condition.render)
    (renderFilter q.conditions q.connectives)
  groupBy := draftClause .groupBy q.groupBy (listed q.groupBy)
  orderBy := draftClause .orderBy q.orderBy (listed q.orderBy)
  trail := []

/-- A clause of the canonical text is what is written for it. -/
@[simp] theorem text?_draftClause (k : Keyword) (parts : List Text) (body : Text) :
    DraftClause.text? (draftClause k parts body) = renderClause k parts body := by
  rw [draftClause, renderClause]
  split
  · rfl
  · rfl

/-- The canonical text is the text of its parts. -/
@[simp] theorem text_draft (q : Query) : q.draft.text = q.render := by
  simp only [Draft.text, draft, text?_draftClause, render, List.nil_append, List.append_nil]

/-! ## the draft is valid -/

theorem valid_draftClause {k : Keyword} {parts : List Text} {body : Text} :
    ∀ c ∈ draftClause k parts body, c.Valid k := by
  intro c hc
  rw [draftClause] at hc
  split at hc
  · cases hc
  · cases hc
    exact ⟨by simp, rfl, k.spelled_name, by simp, rfl⟩

@[simp] theorem draftClause_eq_none_iff {k : Keyword} {parts : List Text} {body : Text} :
    draftClause k parts body = none ↔ parts = [] := by
  rw [draftClause, ← List.isEmpty_iff]
  split
  · next h => simp [h]
  · next h => simp [h]

/-- A keyword does not stand in the body of a clause that is not written. -/
theorem absent_draftClause {k k' : Keyword} {parts : List Text} {body : Text}
    (h : parts ≠ [] → k.Absent body) :
    k.Absent (DraftClause.body? (draftClause k' parts body)) := by
  rw [draftClause]
  split
  · exact Keyword.absent_of_isBlankText k rfl
  · next hp => exact h fun hn => hp (by rw [hn]; rfl)

/-- A keyword that stands in no part does not stand in the list of them. -/
theorem absent_listed {k : Keyword} {parts : List Text} (h : ∀ t ∈ parts, k.Absent t) :
    k.Absent (listed parts) := by
  by_cases hn : parts = []
  · rw [hn]
    exact Keyword.absent_of_isBlankText k rfl
  · exact Keyword.absent_of_listed (Text.listed_join hn) h

/-- A keyword stands in the body of a list when it stands in a field. -/
theorem absent_fields_iff {k : Keyword} {place : FieldPlace} {clause : Option ClausePiece}
    {fields : List Text} (h : parseFields place (clause.map (Text.trim ·.body)) = .ok fields) :
    (∀ f ∈ fields, k.Absent f) ↔ k.Absent (Pieces.body? clause) := by
  obtain ⟨he, -⟩ := parseFields_eq_ok_iff.1 h
  cases clause with
  | none =>
      rw [he]
      exact iff_of_true (by simp) (Keyword.absent_of_isBlankText k rfl)
  | some c =>
      rw [he]
      exact Keyword.absent_entries_iff.trans Keyword.absent_trim_iff

/-- Only an absent clause has no fields. -/
theorem eq_none_of_parseFields {place : FieldPlace} {clause : Option ClausePiece}
    (h : parseFields place (clause.map (Text.trim ·.body)) = .ok []) : clause = none := by
  obtain ⟨he, -⟩ := parseFields_eq_ok_iff.1 h
  cases clause with
  | none => rfl
  | some c => exact absurd (List.map_eq_nil_iff.1 he.symm) (Text.splitOn_ne_nil _ _)

variable {p : Pieces} {q : Query}

/-- `from` does not stand in the select list of the canonical text. -/
theorem from_absent_of_reads (hp : p.Valid) (hr : p.Reads {} q) :
    ∀ t ∈ q.fields ++ q.aggregates.map Aggregate.render, Keyword.source.Absent t := by
  obtain ⟨-, -, hf, ha⟩ := parseSelected_eq_ok_iff.1 hr.selected
  have htoken : ∀ t ∈ Pieces.selectedTokens p.selected, Keyword.source.Absent t := fun t ht =>
    hp.from_absent.of_mem_entries (Pieces.mem_entries_of_mem_selectedTokens ht)
  have hfield : ∀ a ∈ q.aggregates, Keyword.source.Absent a.field := by
    refine forall_of_forall₂ ha fun e he a hea => ?_
    obtain ⟨-, -, -, x, y, rfl, hx, hy⟩ := Aggregate.exists_cut_of_parse hea
    exact (htoken _ (List.mem_filter.1 he).1).mid hx hy
  intro t ht
  rcases List.mem_append.1 ht with ht | ht
  · rw [hf] at ht
    exact htoken t (List.mem_filter.1 ht).1
  · obtain ⟨a, hm, rfl⟩ := List.mem_map.1 ht
    exact Aggregate.absent_render (hfield a hm)

/-- Only an absent filter has no conditions, and the conditions hold no keyword that its body does
not hold, unless it joins conditions. -/
theorem absent_of_parseFilter {clause : Option ClausePiece} {conditions : List Condition}
    {connectives : List Connective}
    (h : parseFilter {} (clause.map (Text.trim ·.body)) = .ok (conditions, connectives)) :
    (conditions = [] → clause = none) ∧
      ∀ k : Keyword, k ∉ Keyword.connectives → k.Absent (Pieces.body? clause) →
        conditions ≠ [] → k.Absent (renderFilter conditions connectives) := by
  rcases parseFilter_eq_ok h with ⟨hn, rfl, rfl⟩ | ⟨t, us, ms, ht, -, hs, hc, rfl⟩
  · exact ⟨fun _ => Option.map_eq_none_iff.1 hn, fun k _ _ hne => absurd rfl hne⟩
  · obtain ⟨c, rfl, rfl⟩ := Option.map_eq_some_iff.1 ht
    refine ⟨fun hn => ?_, fun k hk hb _ => ?_⟩
    · have hl := hc.length_eq
      rw [Filter.length_of_splits hs, hn] at hl
      cases hl
    · have hpieces := (Filter.absent_iff_of_splits hs hk).1 (Keyword.Absent.trim hb)
      have hrender : ∀ d ∈ conditions, k.Absent d.render :=
        forall_of_forall₂ hc fun u hu d hd => Condition.absent_render hd (hpieces u hu)
      refine Filter.absent_of_joined (Filter.joined_render hs (.inl rfl) hc) hk fun u hu => ?_
      obtain ⟨d, hd, rfl⟩ := List.mem_map.1 hu
      exact hrender d hd

/-- The canonical text of a query that has been read is a valid draft. -/
theorem valid_draft (hp : p.Valid) (hr : p.Reads {} q) : q.draft.Valid := by
  obtain ⟨hnone, hfilter⟩ := absent_of_parseFilter hr.filter
  have hfrom := absent_listed (from_absent_of_reads hp hr)
  refine ⟨rfl, Keyword.spelled_name _, by simp [draft], rfl, hfrom, by simp [draft], rfl,
    Keyword.spelled_name _, by simp [draft], rfl, ?_, ?_, ?_, valid_draftClause, valid_draftClause,
    valid_draftClause, ?_, ?_, ?_, ?_, ?_, rfl⟩
  · rw [draft, hr.source_eq]
    exact hp.source_ne_nil
  · rw [draft, hr.source_eq]
    exact hp.source_run
  · rw [draft, hr.source_eq]
    exact hp.source_free
  · intro hf
    have hpf := hnone (List.map_eq_nil_iff.1 (draftClause_eq_none_iff.1 hf))
    exact ⟨absent_draftClause fun _ => absent_listed
        ((absent_fields_iff hr.groupBy).2 (hp.filter_absent_groupBy hpf)),
      absent_draftClause fun _ => absent_listed
        ((absent_fields_iff hr.orderBy).2 (hp.filter_absent_orderBy hpf))⟩
  · intro hg
    have hgn : q.groupBy = [] := draftClause_eq_none_iff.1 hg
    have hpg := hr.groupBy
    rw [hgn] at hpg
    exact absent_draftClause fun _ => absent_listed ((absent_fields_iff hr.orderBy).2
      (hp.groupBy_absent_orderBy (eq_none_of_parseFields hpg)))
  · exact absent_draftClause fun hn => hfilter .groupBy (by decide) hp.groupBy_absent_filter
      fun hc => hn (by rw [hc]; rfl)
  · exact absent_draftClause fun hn => hfilter .orderBy (by decide) hp.orderBy_absent_filter
      fun hc => hn (by rw [hc]; rfl)
  · exact absent_draftClause fun _ => absent_listed
      ((absent_fields_iff hr.groupBy).2 hp.orderBy_absent_groupBy)

/-! ## reading the draft -/

/-- The entries of the canonical select list. -/
def entries (q : Query) : List Entry := q.fields.map .field ++ q.aggregates.map .call

/-- The canonical select list is written from its entries. -/
@[simp] theorem map_text_entries (q : Query) :
    q.entries.map Entry.text = q.fields ++ q.aggregates.map Aggregate.render := by
  rw [entries, List.map_append, List.map_map, List.map_map]
  exact congrArg (· ++ _) (List.map_id q.fields)

/-- The fields come first in the canonical select list. -/
theorem filterMap_entries (q : Query) : q.entries.filterMap Entry.field? = q.fields ∧
    q.entries.filterMap Entry.aggregate? = q.aggregates := by
  rw [entries, List.filterMap_append, List.filterMap_append, List.filterMap_map,
    List.filterMap_map, List.filterMap_map, List.filterMap_map]
  constructor
  · rw [show Entry.field? ∘ Entry.field = some from rfl,
      show Entry.field? ∘ Entry.call = fun _ => none from rfl]
    simp
  · rw [show Entry.aggregate? ∘ Entry.call = some from rfl,
      show Entry.aggregate? ∘ Entry.field = fun _ => none from rfl]
    simp

/-- A tidy query is read from its canonical select list. -/
theorem Tidy.parseSelected_listed (h : q.Tidy) :
    parseSelected (Pieces.selectedTokens (listed (q.fields ++ q.aggregates.map Aggregate.render))) =
      .ok (q.fields, q.aggregates) := by
  have hn : q.fields ++ q.aggregates.map Aggregate.render ≠ [] := by
    intro hn
    obtain ⟨hf, ha⟩ := List.append_eq_nil_iff.1 hn
    exact h.selected.elim (· hf) (· (List.map_eq_nil_iff.1 ha))
  have hl := Text.listed_join hn
  rw [← map_text_entries] at hl
  have hs := parseSelected_of_listed hl fun e he => ?_
  · obtain ⟨hf, ha⟩ := filterMap_entries q
    rwa [map_text_entries, hf, ha] at hs
  · rcases List.mem_append.1 he with he | he
    · obtain ⟨f, hf, rfl⟩ := List.mem_map.1 he
      exact h.fields f hf
    · obtain ⟨a, ha, rfl⟩ := List.mem_map.1 he
      exact h.aggregates a ha

/-- A list of fields is read from its clause in the canonical text. -/
theorem parseFields_draftClause {place : FieldPlace} {k : Keyword} {fields : List Text}
    (h : ∀ f ∈ fields, Text.TidyEntry f) :
    parseFields place ((draftClause k fields (listed fields)).map (Text.trim ·.body)) =
      .ok fields := by
  by_cases hn : fields = []
  · rw [hn]
    rfl
  · rw [draftClause, if_neg (by rwa [List.isEmpty_iff])]
    exact parseFields_of_listed (Text.listed_join hn) h

/-- A filter that has been read is read again from its canonical text. -/
theorem parseFilter_draftClause {clause : Option ClausePiece} {conditions : List Condition}
    {connectives : List Connective}
    (h : parseFilter {} (clause.map (Text.trim ·.body)) = .ok (conditions, connectives)) :
    parseFilter {} ((draftClause .filter (conditions.map Condition.render)
      (renderFilter conditions connectives)).map (Text.trim ·.body)) =
        .ok (conditions, connectives) := by
  rcases parseFilter_eq_ok h with ⟨-, rfl, rfl⟩ | ⟨t, us, ms, -, -, hs, hc, rfl⟩
  · rfl
  · have hn : conditions.map Condition.render ≠ [] := by
      intro hn
      have hl := hc.length_eq
      rw [Filter.length_of_splits hs, List.map_eq_nil_iff.1 hn] at hl
      cases hl
    have hread : List.Forall₂ (fun u c => Condition.parse {} u = .ok c)
        (conditions.map Condition.render) conditions := by
      rw [List.forall₂_map_left_iff, List.forall₂_same]
      exact forall_of_forall₂ hc fun u _ c h => (Condition.readable_of_parse h).parse_render
    rw [draftClause, if_neg (by rwa [List.isEmpty_iff])]
    exact Filter.parse_trim (Filter.parse_of_joined (Filter.joined_render hs (.inl rfl) hc) hread)

/-- What has been read is what the draft of the canonical text holds. -/
theorem reads_draft (hp : p.Valid) (hr : p.Reads {} q) :
    q.draft.Reads {} { q with text := q.render } where
  text_eq := q.text_draft.symm
  source_eq := rfl
  selected := (p.tidy_of_reads hp hr).parseSelected_listed
  filter := parseFilter_draftClause hr.filter
  groupBy := parseFields_draftClause (p.tidy_of_reads hp hr).groupBy
  orderBy := parseFields_draftClause (p.tidy_of_reads hp hr).orderBy

/-- A query that has been read is read again from its canonical text, and only the text differs. -/
theorem parse_canonical {t : Text} (h : parse {} t = .ok q) :
    parse {} q.render = .ok { q with text := q.render } := by
  obtain ⟨p, hp, -, hr⟩ := Pieces.parse_eq_ok_iff.1 h
  have hd := (Draft.parse_eq_ok_iff (valid_draft hp hr)).2 (reads_draft hp hr)
  rwa [text_draft] at hd

/-- Such as one with an open quote behind its last comparison, and joining words in a value. -/
theorem parse_canonical_open_quote : ∃ q, parse {}
    "Select sum( a ),b From t Where note='x or y'  AND c!='d Group By e".toList = .ok q ∧
      parse {} q.render = .ok { q with text := q.render } := by
  obtain ⟨q, h⟩ := exists_ok_of_isSome (x := parse {}
    "Select sum( a ),b From t Where note='x or y'  AND c!='d Group By e".toList)
    (by decide +kernel)
  exact ⟨q, h, parse_canonical h⟩

end Query

end FlatQuery
