import FlatQuery.Proofs.Pieces

/-!
# FlatQuery.Proofs.Survey

A text that is surveyed without an error falls into pieces.

Two keywords never overlap (`Keyword.Stands.disjoint`), so the clauses that the searches find one by
one follow each other.

* `Pieces.exists_of_locate` — a text with a layout is the text of valid pieces;
* `Pieces.parse_eq_ok_iff` — a query is read from such pieces, and only from them.
-/

namespace FlatQuery

namespace Pieces

/-! ## the pieces of a text -/

/-- The text after a clause is empty, or starts with another keyword that stands no earlier than
`span`. -/
def Follows (k : Keyword) (span : Option Span) (u front after : Text) : Prop :=
  after = [] ∨ ∃ k' m b, k ≠ k' ∧ after = m ++ b ∧ k'.Stands front.getLast? m b.head? ∧
    ∀ s ∈ span, s.start ≤ (u ++ front).length

/-- A search divides the text before the clauses that follow. -/
theorem First.exists {k : Keyword} {u v front after : Text} (hv : v = front ++ after)
    (hu : v.head?.any isWordChar = false)
    (hf : Follows k (k.word.find? (u ++ v) u.length) u front after) :
    ∃ before clause, front = before ++ clauseText clause ∧ First k before clause after ∧
      k.word.find? (u ++ v) u.length = clause.map fun c => Span.after (u ++ before) c.word := by
  cases hs : k.word.find? (u ++ v) u.length with
  | none =>
      refine ⟨front, none, by simp, ?_, rfl⟩
      have ha := Keyword.absent_of_find? hs (.inr hu)
      rwa [hv] at ha
  | some s =>
      obtain ⟨a, m, b, ht, rfl, hm, ha⟩ := Keyword.exists_of_find? hs
      have hm := hm.of_or_before
      have hspan : (⟨u.length + a.length, u.length + a.length + m.length⟩ : Span) =
          Span.after (u ++ a) m := by
        simp [Span.after]
      rw [hs] at hf
      rw [hv] at ht
      rcases hf with rfl | ⟨k', m', b', hk, rfl, hm', hle⟩
      · rw [List.append_nil] at ht
        exact ⟨a, some ⟨m, b⟩, ht, ⟨ha (.inr hu), by rwa [List.append_nil]⟩, by rw [hspan]; rfl⟩
      · have hle := hle _ rfl
        obtain ⟨body, rfl, rfl⟩ := hm.disjoint hm' ht.symm hk (by
          simp only [List.length_append] at hle
          omega)
        exact ⟨a, some ⟨m, body⟩, by simp, ⟨ha (.inr hu), hm⟩, by rw [hspan]; rfl⟩

/-- Clauses of which none is misplaced start one after the other. -/
theorem le_of_misplaced? {k₁ k₂ k₃ : Keyword} (s₁ s₂ s₃ : Option Span)
    (h : Layout.misplaced? ([(k₁, s₁), (k₂, s₂), (k₃, s₃)].filterMap
      fun c => c.2.map (c.1, ·)) = none) :
    (∀ a ∈ s₁, ∀ b ∈ s₂, a.start ≤ b.start) ∧ (∀ a ∈ s₁, ∀ b ∈ s₃, a.start ≤ b.start) ∧
      ∀ a ∈ s₂, ∀ b ∈ s₃, a.start ≤ b.start := by
  rw [Layout.misplaced?_eq_none_iff, Layout.InOrder, List.pairwise_filterMap] at h
  simpa [and_assoc] using h

/-- The clauses that are found behind the source divide the text there. -/
theorem exists_clauses {u v : Text} (hv : v.head?.any isWordChar = false)
    (h : Layout.misplaced? (Keyword.optionalClauses.filterMap
      fun k => (k.word.find? (u ++ v) u.length).map (k, ·)) = none) :
    ∃ rest filter groupBy orderBy,
      v = rest ++ clauseText filter ++ clauseText groupBy ++ clauseText orderBy ∧
      First .filter rest filter (clauseText groupBy ++ clauseText orderBy) ∧
      First .groupBy (rest ++ clauseText filter) groupBy (clauseText orderBy) ∧
      First .orderBy (rest ++ clauseText filter ++ clauseText groupBy) orderBy [] ∧
      ∀ k ∈ Keyword.optionalClauses, ∀ s ∈ k.word.find? (u ++ v) u.length,
        (u ++ rest).length ≤ s.start := by
  obtain ⟨hfg, hfo, hgo⟩ := le_of_misplaced? (Keyword.filter.word.find? (u ++ v) u.length)
    (Keyword.groupBy.word.find? (u ++ v) u.length)
    (Keyword.orderBy.word.find? (u ++ v) u.length) h
  -- from the last clause to the first: what follows a clause is known when the clause is cut off
  obtain ⟨bo, orderBy, hvo, ho, hso⟩ := First.exists (k := .orderBy) (u := u)
    (List.append_nil v).symm hv (.inl rfl)
  obtain ⟨bg, groupBy, rfl, hg, hsg⟩ := First.exists (k := .groupBy) (u := u) hvo hv (by
    cases orderBy with
    | none => exact .inl rfl
    | some c =>
        refine .inr ⟨.orderBy, c.word, c.body, by decide, rfl, ?_, fun s hs => hgo s hs _ hso⟩
        have hst := ho.2
        rwa [List.append_nil] at hst)
  rw [List.append_assoc] at hvo
  obtain ⟨rest, filter, rfl, hf, hsf⟩ := First.exists (k := .filter) (u := u) hvo hv (by
      cases groupBy with
      | some c =>
          exact .inr ⟨.groupBy, c.word, c.body ++ clauseText orderBy, by decide,
            by simp, hg.2, fun s hs => hfg s hs _ hsg⟩
      | none =>
          cases orderBy with
          | none => exact .inl rfl
          | some c =>
              refine .inr ⟨.orderBy, c.word, c.body, by decide, rfl, ?_, fun s hs => ?_⟩
              · have hst := ho.2
                rwa [List.append_nil, clauseText, List.append_nil] at hst
              · have hle := hfo s hs _ hso
                simpa using hle)
  rw [← List.append_assoc] at hvo
  refine ⟨rest, filter, groupBy, orderBy, hvo, hf, hg, ho, fun k hk s hs => ?_⟩
  simp only [Keyword.mem_optionalClauses_iff] at hk
  rcases hk with rfl | rfl | rfl
  · rw [hsf] at hs
    obtain ⟨c, -, rfl⟩ := Option.map_eq_some_iff.1 hs
    exact Nat.le_refl _
  · rw [hsg] at hs
    obtain ⟨c, -, rfl⟩ := Option.map_eq_some_iff.1 hs
    simp
  · rw [hso] at hs
    obtain ⟨c, -, rfl⟩ := Option.map_eq_some_iff.1 hs
    simp

/-- What stands in front of all clauses is blank, when only a clause may follow the blanks. -/
theorem isBlankText_rest {u g v rest w : Text} (hg : Text.isBlankText g = true)
    (hv : g ++ v = rest ++ w)
    (h : v = [] ∨ Layout.startsClause (u ++ (g ++ v)) (u ++ g).length = true)
    (hle : ∀ k ∈ Keyword.optionalClauses, ∀ s ∈ k.word.find? (u ++ (g ++ v)) u.length,
      (u ++ rest).length ≤ s.start) : Text.isBlankText rest = true := by
  have hr : rest <+: g := by
    rcases h with rfl | h
    · rw [List.append_nil] at hv
      exact ⟨w, hv.symm⟩
    · rw [Layout.startsClause, List.any_eq_true] at h
      obtain ⟨k, hk, hs⟩ := h
      rw [← List.append_assoc, Word.endAt?_append, Option.isSome_map, List.getLast?_append] at hs
      have hvn : v ≠ [] := by
        obtain ⟨n, hn⟩ := Option.isSome_iff_exists.1 hs
        obtain ⟨m, b, rfl, -, hm⟩ := Keyword.matchLength?_eq_some_iff.1 hn
        simp [hm.1.ne_nil]
      obtain ⟨s, hf, hsg⟩ := Keyword.findFrom?_le u.length hvn hs
      rw [← Word.find?_append] at hf
      have hrs := hle k hk s hf
      rw [List.length_append] at hrs
      exact List.prefix_of_prefix_length_le ⟨w, hv.symm⟩ ⟨v, rfl⟩ (by omega)
  obtain ⟨g', rfl⟩ := hr
  rw [Text.isBlankText_append, Bool.and_eq_true] at hg
  exact hg.1

/-- No `where` stands at the start of a source that starts no clause. -/
theorem matchLength?_of_startsClause {u g r w : Text} (hg : Text.isBlankText g = true)
    (hu : (g ++ (r ++ w)).head?.any isWordChar = false) (hw : w.head?.all isBlank = true)
    (h : Layout.startsClause (u ++ (g ++ (r ++ w))) (u ++ g).length = false) :
    Keyword.filter.word.matchLength? none r = none := by
  rw [Layout.startsClause, List.any_eq_false] at h
  have hf := h .filter (by decide)
  rw [← List.append_assoc, Word.endAt?_append, Option.isSome_map, Bool.not_eq_true,
    Option.isSome_eq_false_iff, Option.isNone_iff_eq_none, Keyword.matchLength?_eq_none_iff] at hf
  rw [Keyword.matchLength?_eq_none_iff]
  intro m b hr hs
  subst hr
  have hbreaks : (u ++ g).getLast?.any isWordChar = false ∨
      (m ++ b).head?.any isWordChar = false := by
    by_cases hn : g = []
    · rw [hn, List.nil_append] at hu
      exact .inr (any_head?_of_append hu)
    · exact .inl (isWordChar_getLast?_of_blank hn hg)
  refine hf m (b ++ w) (List.append_assoc m b w) ?_
  rw [List.head?_append]
  exact (hs.or_before (a := []) hbreaks).or_after (a := []) (.inr (isWordChar_head?_of_all hw))

/-- What follows `from` in a text with a layout. -/
theorem exists_of_surveySource {u v : Text} {selectWord fromWord : Span} {l : Layout}
    (hu : fromWord.stop = u.length) (hv : v.head?.any isWordChar = false)
    (h : (Layout.surveySource (u ++ v) selectWord fromWord).outcome = .ok l) :
    ∃ gap source tail, v = gap ++ (source ++ tail) ∧ Text.isBlankText gap = true ∧ source ≠ [] ∧
      source.all (!isBlank ·) = true ∧ tail.head?.all isBlank = true ∧
      Keyword.filter.word.matchLength? none source = none ∧
      ∃ rest filter groupBy orderBy, Text.isBlankText rest = true ∧
        tail = rest ++ clauseText filter ++ clauseText groupBy ++ clauseText orderBy ∧
        First .filter rest filter (clauseText groupBy ++ clauseText orderBy) ∧
        First .groupBy (rest ++ clauseText filter) groupBy (clauseText orderBy) ∧
        First .orderBy (rest ++ clauseText filter ++ clauseText groupBy) orderBy [] := by
  obtain ⟨gap, v, hg, hh, rfl⟩ := Text.exists_blanks v
  obtain ⟨source, tail, hr, ht, rfl⟩ := Text.exists_run v
  have hstart : (u ++ (gap ++ (source ++ tail))).skipBlanks u.length = (u ++ gap).length :=
    Text.skipBlanks_append hg hh
  have hstop : (u ++ (gap ++ (source ++ tail))).skipRun (u ++ gap).length =
      (u ++ gap ++ source).length := by
    rw [← List.append_assoc, Text.skipRun_append hr ht]
  rw [Layout.surveySource, hu, hstart] at h
  simp only [hstop] at h
  split at h
  · cases h
  next hfound =>
  rw [Bool.or_eq_true, not_or, Bool.not_eq_true, Bool.not_eq_true] at hfound
  split at h
  · cases h
  next hnext =>
  -- no blank follows the gap, so with no source the text would end there, which is refused
  have hsource : source ≠ [] := by
    intro hs
    subst hs
    have htn : tail = [] := by
      cases tail with
      | nil => rfl
      | cons c tail =>
          rw [List.nil_append] at hh
          simp only [List.head?_cons, Option.any_some, Option.all_some] at hh ht
          rw [hh] at ht
          cases ht
    simp [htn] at hfound
  have hassoc : u ++ (gap ++ (source ++ tail)) = u ++ gap ++ source ++ tail := by simp
  rw [hassoc] at h hnext
  simp only [Layout.withClauses] at h
  split at h
  · cases h
  next hm =>
  obtain ⟨rest, filter, groupBy, orderBy, hw, hf, hgr, ho, hle⟩ :=
    exists_clauses (isWordChar_head?_of_all ht) hm
  refine ⟨gap, source, tail, rfl, hg, hsource, hr, ht,
    matchLength?_of_startsClause hg hv ht hfound.2, rest, filter, groupBy, orderBy, ?_, hw, hf,
    hgr, ho⟩
  -- behind the blanks of the tail the text ends or a clause starts, so `rest` is those blanks
  obtain ⟨g, w, hgb, hwh, rfl⟩ := Text.exists_blanks tail
  rw [List.append_assoc, List.append_assoc] at hw
  refine isBlankText_rest hgb hw ?_ hle
  rw [Text.skipBlanks_append hgb hwh] at hnext
  by_cases hwn : w = []
  · exact .inl hwn
  · have hl := List.length_pos_iff.2 hwn
    simp [hl] at hnext
    exact .inr (by simpa using hnext)

/-- A text with a layout is put together from valid pieces. -/
theorem exists_of_locate {t : Text} {l : Layout} (h : Layout.locate t = .ok l) :
    ∃ p : Pieces, p.Valid ∧ p.text = t ∧ p.layout = l := by
  suffices hp : ∃ p : Pieces, p.Valid ∧ p.text = t by
    obtain ⟨p, hv, rfl⟩ := hp
    rw [locate_text hv] at h
    cases h
    exact ⟨p, hv, rfl, rfl⟩
  rw [Layout.locate, Layout.survey] at h
  split at h
  · cases h
  next selectWord hsel =>
  obtain ⟨lead, ms, b, rfl, rfl, hms, hlead⟩ := Keyword.exists_of_find? (u := []) hsel
  split at h
  · cases h
  next fromWord hfrom =>
  have hus : (⟨([] : Text).length + lead.length, ([] : Text).length + lead.length + ms.length⟩ :
      Span).stop = (lead ++ ms).length := by simp
  rw [hus, ← List.append_assoc] at hfrom
  obtain ⟨selected, mf, v, rfl, rfl, hmf, hselected⟩ := Keyword.exists_of_find? hfrom
  have hb : (selected ++ (mf ++ v)).head?.any isWordChar = false := hms.2.2
  have hmf := hmf.of_or_before
  have hstop : (⟨(lead ++ ms).length + selected.length,
      (lead ++ ms).length + selected.length + mf.length⟩ : Span).stop =
        (lead ++ ms ++ selected ++ mf).length := by simp [Nat.add_assoc]
  have hassoc : lead ++ ms ++ (selected ++ (mf ++ v)) = lead ++ ms ++ selected ++ mf ++ v := by simp
  rw [← List.append_assoc, hassoc] at h
  obtain ⟨gap, source, tail, rfl, hg, hs, hr, ht, hfree, rest, filter, groupBy, orderBy, hrest,
    rfl, hf, hgr, ho⟩ := exists_of_surveySource hstop hmf.2.2 h
  refine ⟨⟨lead, ms, selected, mf, gap, source, rest, filter, groupBy, orderBy⟩,
    ⟨hlead (.inl rfl), ?_, hselected (.inr hb), ?_, hg, hs, hr, hfree, hrest, ht, hf, hgr, ho⟩, ?_⟩
  · have hn : selected ++ mf ≠ [] := by simp [hmf.1.ne_nil]
    rw [List.getLast?_nil, Option.or_none, ← List.append_assoc,
      List.head?_append_of_ne_nil _ hn] at hms
    exact hms
  · have hn : gap ++ source ≠ [] := by simp [hs]
    rwa [← List.append_assoc, List.head?_append_of_ne_nil _ hn] at hmf
  · simp [text_eq, tail_eq_filter]

/-! ## reading a query -/

/-- A query is read from the pieces of its text. -/
theorem parse_eq_ok_iff {options : Options} {t : Text} {q : Query} :
    Query.parse options t = .ok q ↔ ∃ p : Pieces, p.Valid ∧ p.text = t ∧ p.Reads options q := by
  constructor
  · intro h
    have hl : ∃ l, Layout.locate t = .ok l := by
      rw [Query.parse] at h
      split at h
      · cases h
      · obtain ⟨l, hl, -⟩ := bind_eq_ok_iff.1 h
        exact ⟨l, hl⟩
    obtain ⟨l, hl⟩ := hl
    obtain ⟨p, hp, rfl, -⟩ := exists_of_locate hl
    exact ⟨p, hp, rfl, (parse_text_eq_ok_iff hp).1 h⟩
  · intro h
    obtain ⟨p, hp, ht, hr⟩ := h
    rw [← ht]
    exact (parse_text_eq_ok_iff hp).2 hr

end Pieces

end FlatQuery
