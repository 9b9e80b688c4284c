import FlatQuery.Proofs.Tiling

/-!
# FlatQuery.Proofs.Locating

What a survey of a query finds, told by the places where keywords stand.

`Layout.Outcome` says of a text, without any search, which layout it has or what is wrong with it.
A keyword counts where it stands first (`Keyword.FirstAt`), and the source is a longest row of
characters that are no blanks (`Text.Run`).

* `Text.skipBlanks_eq_iff`, `Text.skipRun_eq_iff` — a cursor skips a longest row;
* `Keyword.find?_eq_iff` — a search finds the first place, or there is none;
* `Layout.misplaced?_eq_some_iff` — the clause that is misplaced is the first one that starts later
  than the next;
* `Layout.locate_eq_iff` — a text is located as its outcome says.
-/

namespace FlatQuery

/-! ## longest rows -/

namespace Text

variable {p : Char → Bool} {t : Text} {start stop : Nat}

/-- The characters from `start` up to `stop` have the property, and the one at `stop`, if there is
one, has not. -/
structure Run (t : Text) (p : Char → Bool) (start stop : Nat) : Prop where
  le : start ≤ stop
  stop_le : stop ≤ t.length
  all : ∀ i c, start ≤ i → i < stop → t[i]? = some c → p c = true
  ends : ∀ c, t[stop]? = some c → p c = false

/-- A row ends at one place only. -/
theorem Run.stop_le_of_run {stop' : Nat} (h : t.Run p start stop) (h' : t.Run p start stop') :
    stop ≤ stop' := by
  by_contra hlt
  have hl := h.stop_le
  obtain ⟨c, hc⟩ : ∃ c, t[stop']? = some c := ⟨_, List.getElem?_eq_getElem (by omega)⟩
  have hp := h.all stop' c h'.le (by omega) hc
  rw [h'.ends c hc] at hp
  cases hp

/-- A row is as long as what is taken while the property holds. -/
theorem run_takeWhile (h : start ≤ t.length) :
    t.Run p start (start + ((t.drop start).takeWhile p).length) := by
  obtain ⟨u, v, rfl, rfl⟩ := exists_append_of_le h
  obtain ⟨x, y, hv, hx, hy⟩ : ∃ x y, v = x ++ y ∧ x = v.takeWhile p ∧ y = v.dropWhile p :=
    ⟨_, _, List.takeWhile_append_dropWhile.symm, rfl, rfl⟩
  rw [List.drop_left, ← hx]
  refine ⟨Nat.le_add_right _ _, by simp [hv], fun i c hi hlt hc => ?_, fun c hc => ?_⟩
  · rw [List.getElem?_append_right hi, hv, List.getElem?_append_left (by omega)] at hc
    have hm := List.mem_of_getElem? hc
    rw [hx] at hm
    exact (List.all_eq_true.1 List.all_takeWhile c hm)
  · have hh : y.head?.any p = false := by
      rw [hy]
      exact head?_dropWhile v
    rw [List.getElem?_append_right (Nat.le_add_right _ _), Nat.add_sub_cancel_left, hv,
      List.getElem?_append_right (Nat.le_refl _), Nat.sub_self, ← List.head?_eq_getElem?] at hc
    simpa [hc] using hh

/-- A row is what is taken while the property holds. -/
theorem add_length_takeWhile_eq_iff (h : start ≤ t.length) :
    start + ((t.drop start).takeWhile p).length = stop ↔ t.Run p start stop := by
  constructor
  · rintro rfl
    exact run_takeWhile h
  · intro hr
    exact Nat.le_antisymm ((run_takeWhile h).stop_le_of_run hr)
      (hr.stop_le_of_run (run_takeWhile h))

theorem exists_run_of_le (p : Char → Bool) (h : start ≤ t.length) : ∃ stop, t.Run p start stop :=
  ⟨_, run_takeWhile h⟩

/-- Blanks are skipped up to their end. -/
theorem skipBlanks_eq_iff (h : start ≤ t.length) :
    t.skipBlanks start = stop ↔ t.Run isBlank start stop :=
  add_length_takeWhile_eq_iff h

/-- What is no blank is skipped up to its end. -/
theorem skipRun_eq_iff (h : start ≤ t.length) :
    t.skipRun start = stop ↔ t.Run (!isBlank ·) start stop :=
  add_length_takeWhile_eq_iff h

end Text

/-! ## first places -/

namespace Keyword

variable {k : Keyword} {t : Text} {start : Nat}

/-- The first place at or behind `start` where the keyword stands. -/
structure FirstAt (k : Keyword) (t : Text) (start : Nat) (s : Span) : Prop where
  stands : k.StandsAt t s
  le : start ≤ s.start
  first : ∀ s', k.StandsAt t s' → start ≤ s'.start → s.start ≤ s'.start

/-- What there is to find at or behind `start`: the first place where the keyword stands, or
nothing when it stands nowhere. -/
def Found (k : Keyword) (t : Text) (start : Nat) : Option Span → Prop
  | none => ∀ s, k.StandsAt t s → s.start < start
  | some s => k.FirstAt t start s

theorem StandsAt.stop_le {s : Span} (h : k.StandsAt t s) : s.stop ≤ t.length := by
  obtain ⟨a, m, b, rfl, rfl, -⟩ := h
  simp

/-- A keyword that starts at a position ends at one only. -/
theorem StandsAt.unique {s s' : Span} (h : k.StandsAt t s) (h' : k.StandsAt t s')
    (hs : s.start = s'.start) : s = s' := by
  obtain ⟨i, j⟩ := s
  obtain ⟨i', j'⟩ := s'
  obtain rfl : i = i' := hs
  rw [← endAt?_eq_some_iff] at h h'
  rw [h] at h'
  cases h'
  rfl

/-- What a search finds is there to be found. -/
theorem found_find? (k : Keyword) (t : Text) (start : Nat) :
    k.Found t start (k.word.find? t start) := by
  have hpass : ∀ s', k.StandsAt t s' → start ≤ s'.start →
      ∃ s, k.word.find? t start = some s ∧ s.start ≤ s'.start := fun s' hs hle =>
    find?_le hle hs.isSome_endAt?
  cases h : k.word.find? t start with
  | none =>
      intro s' hs
      by_contra hle
      obtain ⟨s, hf, -⟩ := hpass s' hs (by omega)
      rw [h] at hf
      cases hf
  | some s =>
      obtain ⟨hstands, hle⟩ : k.StandsAt t s ∧ start ≤ s.start := by
        by_cases hl : start ≤ t.length
        · obtain ⟨u, v, rfl, rfl⟩ := Text.exists_append_of_le hl
          obtain ⟨a, m, b, rfl, rfl, hm, -⟩ := exists_of_find? h
          rw [← List.getLast?_append] at hm
          exact ⟨⟨u ++ a, m, b, by simp, by simp, hm⟩, Nat.le_add_right _ _⟩
        · rw [Word.find?, List.drop_eq_nil_of_le (by omega)] at h
          cases h
      refine ⟨hstands, hle, fun s' hs hle' => ?_⟩
      obtain ⟨w, hw, hws⟩ := hpass s' hs hle'
      rw [h] at hw
      cases hw
      exact hws

/-- There is one thing to find. -/
theorem Found.unique {found found' : Option Span} (h : k.Found t start found)
    (h' : k.Found t start found') : found = found' := by
  cases found with
  | none =>
      cases found' with
      | none => rfl
      | some s' => exact absurd (h s' h'.stands) (Nat.not_lt.2 h'.le)
  | some s =>
      cases found' with
      | none => exact absurd (h' s h.stands) (Nat.not_lt.2 h.le)
      | some s' =>
          have hs : s.start = s'.start :=
            Nat.le_antisymm (h.first s' h'.stands h'.le) (h'.first s h.stands h.le)
          rw [h.stands.unique h'.stands hs]

theorem exists_found (k : Keyword) (t : Text) (start : Nat) : ∃ found, k.Found t start found :=
  ⟨_, found_find? k t start⟩

/-- A search finds the first place, or there is none. -/
theorem find?_eq_iff {found : Option Span} :
    k.word.find? t start = found ↔ k.Found t start found := by
  constructor
  · rintro rfl
    exact found_find? k t start
  · exact (found_find? k t start).unique

end Keyword

/-! ## what there is to locate -/

namespace Layout

variable {t : Text} {l : Layout} {selectWord fromWord source : Span}

def ClauseAt (t : Text) (position : Nat) : Prop :=
  ∃ k ∈ Keyword.optionalClauses, ∃ stop, k.StandsAt t ⟨position, stop⟩

/-- The first `select`, the first `from` behind it, and the source: the longest row of characters
that are no blanks, behind the blanks after `from`.  It is not empty and starts no clause. -/
structure Sourced (t : Text) (selectWord fromWord source : Span) : Prop where
  select_first : Keyword.select.FirstAt t 0 selectWord
  from_first : Keyword.source.FirstAt t selectWord.stop fromWord
  gap : t.Run isBlank fromWord.stop source.start
  source_lt : source.start < t.length
  source_clause : ¬ ClauseAt t source.start
  source_run : t.Run (!isBlank ·) source.start source.stop

/-- The source and the first places of the optional clauses behind it, in any order.  Behind the
blanks after the source the text ends or a clause starts. -/
structure Surveyed (t : Text) (l : Layout) : Prop where
  sourced : Sourced t l.selectWord l.fromWord l.source
  next : ∃ next, t.Run isBlank l.source.stop next ∧ (next = t.length ∨ ClauseAt t next)
  clauses : ∀ k ∈ Keyword.optionalClauses, k.Found t l.source.stop (l.word? k)

/-- The keyword starts later than the one that comes next in the list, and is the first one that
does. -/
def OutOfPlace (words : List (Keyword × Span)) (k : Keyword) : Prop :=
  ∃ before s k' s' after, words = before ++ (k, s) :: (k', s') :: after ∧
    InOrder (before ++ [(k, s)]) ∧ s'.start < s.start

/-- What is to be said of a text: its layout, or the first thing that is wrong with it. -/
inductive Outcome (t : Text) : Except QueryError Layout → Prop
  | noSelect : (∀ s, ¬ Keyword.select.StandsAt t s) → Outcome t (.error (.missingClause .select))
  | noFrom {selectWord : Span} : Keyword.select.FirstAt t 0 selectWord →
      (∀ s, Keyword.source.StandsAt t s → s.start < selectWord.stop) →
      Outcome t (.error (.missingClause .source))
  | noSource {selectWord fromWord : Span} {start : Nat} : Keyword.select.FirstAt t 0 selectWord →
      Keyword.source.FirstAt t selectWord.stop fromWord → t.Run isBlank fromWord.stop start →
      start = t.length ∨ ClauseAt t start → Outcome t (.error (.missingClause .source))
  | unexpected {selectWord fromWord source : Span} {next stop : Nat} :
      Sourced t selectWord fromWord source → t.Run isBlank source.stop next → next < t.length →
      ¬ ClauseAt t next → t.Run (!isBlank ·) next stop →
      Outcome t (.error (.unexpectedText (t.slice next stop)))
  | misplaced {l : Layout} {k : Keyword} : Surveyed t l → ¬ InOrder l.optionalWords →
      OutOfPlace l.optionalWords k → Outcome t (.error (.misplacedClause k))
  | found {l : Layout} : Surveyed t l → InOrder l.optionalWords → Outcome t (.ok l)

/-! ## the order of clauses -/

section Order

variable {a b : Keyword × Span} {words : List (Keyword × Span)} {k : Keyword}

/-- The first keyword is out of place when it starts later than the next; otherwise one behind it
may be. -/
theorem outOfPlace_cons_cons :
    OutOfPlace (a :: b :: words) k ↔ b.2.start < a.2.start ∧ a.1 = k ∨
      a.2.start ≤ b.2.start ∧ OutOfPlace (b :: words) k := by
  constructor
  · rintro ⟨before, s, k', s', after, hw, ho, hlt⟩
    cases before with
    | nil =>
        cases hw
        exact .inl ⟨hlt, rfl⟩
    | cons c before =>
        rw [List.cons_append, List.cons.injEq] at hw
        obtain ⟨rfl, hw⟩ := hw
        obtain ⟨rest, hrest⟩ : ∃ rest, before ++ [(k, s)] = b :: rest := by
          cases before <;> simp_all
        rw [List.cons_append, hrest, inOrder_cons_cons, ← hrest] at ho
        exact .inr ⟨ho.1, before, s, k', s', after, hw, ho.2, hlt⟩
  · rintro (⟨hlt, rfl⟩ | ⟨hle, before, s, k', s', after, hw, ho, hlt⟩)
    · exact ⟨[], a.2, b.1, b.2, words, rfl, List.pairwise_singleton _ _, hlt⟩
    · obtain ⟨rest, hrest⟩ : ∃ rest, before ++ [(k, s)] = b :: rest := by
        cases before <;> simp_all
      refine ⟨a :: before, s, k', s', after, by rw [hw, List.cons_append], ?_, hlt⟩
      rw [List.cons_append, hrest, inOrder_cons_cons, ← hrest]
      exact ⟨hle, ho⟩

theorem misplaced?_eq_some_iff : misplaced? words = some k ↔ OutOfPlace words k := by
  fun_induction misplaced? words with
  | case1 k₁ s k' s' rest hlt => simp [outOfPlace_cons_cons, hlt, Nat.not_le.2 hlt]
  | case2 k₁ s k' s' rest hle ih => simp [ih, outOfPlace_cons_cons, hle, Nat.not_lt.1 hle]
  | case3 words hw =>
      rcases words with _ | ⟨a, _ | ⟨b, rest⟩⟩
      · simp [OutOfPlace]
      · simp [OutOfPlace, List.cons_eq_append_iff]
      · exact absurd rfl (hw a.1 a.2 b.1 b.2 rest)

/-- Where keywords are not in order, one is out of place. -/
theorem exists_outOfPlace (h : ¬ InOrder words) : ∃ k, OutOfPlace words k := by
  rw [← misplaced?_eq_none_iff] at h
  obtain ⟨k, hk⟩ := Option.ne_none_iff_exists'.1 h
  exact ⟨k, misplaced?_eq_some_iff.1 hk⟩

end Order

/-! ## locating -/

theorem startsClause_iff {position : Nat} :
    startsClause t position = true ↔ ClauseAt t position := by
  simp only [startsClause, List.any_eq_true, Option.isSome_iff_exists,
    Keyword.endAt?_eq_some_iff, ClauseAt]

/-- A text with the first `select` and the first `from` behind it is surveyed from there on. -/
theorem locate_of_firstAt (hs : Keyword.select.FirstAt t 0 selectWord)
    (hf : Keyword.source.FirstAt t selectWord.stop fromWord) :
    locate t = (surveySource t selectWord fromWord).outcome := by
  have hselect : Keyword.select.word.find? t 0 = some selectWord := Keyword.find?_eq_iff.2 hs
  have hfrom : Keyword.source.word.find? t selectWord.stop = some fromWord :=
    Keyword.find?_eq_iff.2 hf
  simp only [locate, survey, hselect, hfrom]

/-- Where the text ends or a clause starts there is no source. -/
theorem surveySource_of_not_sourced {start : Nat} (hg : t.Run isBlank fromWord.stop start)
    (hf : fromWord.stop ≤ t.length) (h : start = t.length ∨ ClauseAt t start) :
    (surveySource t selectWord fromWord).outcome = .error (.missingClause .source) := by
  have hstart := (Text.skipBlanks_eq_iff hf).2 hg
  have hnone : (decide (t.length ≤ start) || startsClause t start) = true := by
    rw [Bool.or_eq_true, decide_eq_true_iff, startsClause_iff]
    exact h.imp_left fun he => Nat.le_of_eq he.symm
  simp only [surveySource, hstart, hnone, if_true]

/-- Behind the source only a clause may follow. -/
theorem surveySource_of_sourced {next : Nat} (h : Sourced t selectWord fromWord source)
    (hn : t.Run isBlank source.stop next) :
    (surveySource t selectWord fromWord).outcome =
      if next < t.length && !startsClause t next then
        .error (.unexpectedText (t.slice next (t.skipRun next)))
      else withClauses t selectWord fromWord source := by
  have hstart := (Text.skipBlanks_eq_iff h.from_first.stands.stop_le).2 h.gap
  have hstop := (Text.skipRun_eq_iff h.gap.stop_le).2 h.source_run
  have hnext := (Text.skipBlanks_eq_iff h.source_run.stop_le).2 hn
  have hfound : (decide (t.length ≤ source.start) || startsClause t source.start) = false := by
    simpa [← startsClause_iff] using And.intro h.source_lt h.source_clause
  simp only [surveySource, hstart, hstop, hnext, hfound, Bool.false_eq_true, if_false,
    apply_ite Survey.outcome]

/-- In a surveyed text the clauses of its layout are found. -/
theorem Surveyed.find?_eq (h : Surveyed t l) :
    ∀ k ∈ Keyword.optionalClauses, k.word.find? t l.source.stop = l.word? k :=
  fun k hk => Keyword.find?_eq_iff.2 (h.clauses k hk)

/-- Those that there are, in the order of the grammar. -/
theorem Surveyed.present_eq (h : Surveyed t l) :
    (Keyword.optionalClauses.filterMap fun k => (k.word.find? t l.source.stop).map (k, ·)) =
      l.optionalWords :=
  List.filterMap_congr fun k hk => by rw [h.find?_eq k hk]

/-- They make up the layout when they are in order. -/
theorem withClauses_of_inOrder (h : Surveyed t l) (ho : InOrder l.optionalWords) :
    withClauses t l.selectWord l.fromWord l.source = .ok l := by
  have hlayout : withClauses t l.selectWord l.fromWord l.source = .ok ⟨l.selectWord, l.fromWord,
      l.source, l.word? .filter, l.word? .groupBy, l.word? .orderBy⟩ := by
    simp only [withClauses, h.present_eq, misplaced?_eq_none_iff.2 ho,
      h.find?_eq .filter (by decide), h.find?_eq .groupBy (by decide),
      h.find?_eq .orderBy (by decide)]
  exact hlayout

/-- Otherwise the one that is out of place is the error. -/
theorem withClauses_of_outOfPlace {k : Keyword} (h : Surveyed t l)
    (hk : OutOfPlace l.optionalWords k) :
    withClauses t l.selectWord l.fromWord l.source = .error (.misplacedClause k) := by
  simp only [withClauses, h.present_eq, misplaced?_eq_some_iff.2 hk]

/-- A surveyed text is located as its clauses are. -/
theorem locate_of_surveyed (h : Surveyed t l) :
    locate t = withClauses t l.selectWord l.fromWord l.source := by
  obtain ⟨next, hn, hnext⟩ := h.next
  have hfollowed : (decide (next < t.length) && !startsClause t next) = false := by
    rw [← startsClause_iff] at hnext
    rcases hnext with rfl | hnext <;> simp [*]
  rw [locate_of_firstAt h.sourced.select_first h.sourced.from_first,
    surveySource_of_sourced h.sourced hn, hfollowed]
  rfl

/-- There is an outcome behind `from`. -/
theorem exists_outcome_of_firstAt (hs : Keyword.select.FirstAt t 0 selectWord)
    (hf : Keyword.source.FirstAt t selectWord.stop fromWord) : ∃ r, Outcome t r := by
  obtain ⟨start, hgap⟩ := Text.exists_run_of_le isBlank hf.stands.stop_le
  by_cases hsource : start = t.length ∨ ClauseAt t start
  · exact ⟨_, .noSource hs hf hgap hsource⟩
  rw [not_or] at hsource
  obtain ⟨stop, hrun⟩ := Text.exists_run_of_le (!isBlank ·) hgap.stop_le
  have hsourced : Sourced t selectWord fromWord ⟨start, stop⟩ :=
    ⟨hs, hf, hgap, Nat.lt_of_le_of_ne hgap.stop_le hsource.1, hsource.2, hrun⟩
  obtain ⟨next, hblank⟩ := Text.exists_run_of_le isBlank hrun.stop_le
  by_cases hnext : next = t.length ∨ ClauseAt t next
  · let find (k : Keyword) := k.word.find? t stop
    let l : Layout :=
      ⟨selectWord, fromWord, ⟨start, stop⟩, find .filter, find .groupBy, find .orderBy⟩
    have hl : Surveyed t l := by
      refine ⟨hsourced, ⟨next, hblank, hnext⟩, ?_⟩
      simp only [Keyword.optionalClauses, List.forall_mem_cons]
      exact ⟨Keyword.found_find? _ t stop, Keyword.found_find? _ t stop,
        Keyword.found_find? _ t stop, by simp⟩
    by_cases ho : InOrder l.optionalWords
    · exact ⟨_, .found hl ho⟩
    · obtain ⟨k, hk⟩ := exists_outOfPlace ho
      exact ⟨_, .misplaced hl ho hk⟩
  · rw [not_or] at hnext
    obtain ⟨stop', hrun'⟩ := Text.exists_run_of_le (!isBlank ·) hblank.stop_le
    exact ⟨_, .unexpected hsourced hblank (Nat.lt_of_le_of_ne hblank.stop_le hnext.1) hnext.2 hrun'⟩

/-- Every text has an outcome. -/
theorem exists_outcome (t : Text) : ∃ r, Outcome t r := by
  obtain ⟨_ | selectWord, hs⟩ := Keyword.exists_found .select t 0
  · exact ⟨_, .noSelect fun s hs' => absurd (hs s hs') (Nat.not_lt_zero _)⟩
  obtain ⟨_ | fromWord, hf⟩ := Keyword.exists_found .source t selectWord.stop
  · exact ⟨_, .noFrom hs hf⟩
  · exact exists_outcome_of_firstAt hs hf

/-- A text is located as its outcome says. -/
theorem locate_of_outcome {r : Except QueryError Layout} (h : Outcome t r) : locate t = r := by
  cases h with
  | noSelect h =>
      have hselect : Keyword.select.word.find? t 0 = none :=
        Keyword.find?_eq_iff.2 fun s hs => absurd hs (h s)
      simp only [locate, survey, hselect]
  | @noFrom selectWord hs h =>
      have hselect : Keyword.select.word.find? t 0 = some selectWord := Keyword.find?_eq_iff.2 hs
      have hfrom : Keyword.source.word.find? t selectWord.stop = none := Keyword.find?_eq_iff.2 h
      simp only [locate, survey, hselect, hfrom]
  | noSource hs hf hgap h =>
      rw [locate_of_firstAt hs hf, surveySource_of_not_sourced hgap hf.stands.stop_le h]
  | @unexpected selectWord fromWord source next stop hs hn hlt hc hr =>
      have hnext : (decide (next < t.length) && !startsClause t next) = true := by
        simpa [← startsClause_iff] using And.intro hlt hc
      rw [locate_of_firstAt hs.select_first hs.from_first, surveySource_of_sourced hs hn, hnext,
        (Text.skipRun_eq_iff hn.stop_le).2 hr]
      rfl
  | misplaced hl _ hk => rw [locate_of_surveyed hl, withClauses_of_outOfPlace hl hk]
  | found hl ho => rw [locate_of_surveyed hl, withClauses_of_inOrder hl ho]

/-- A text is located as its outcome says, and every text has one. -/
theorem locate_eq_iff {r : Except QueryError Layout} : locate t = r ↔ Outcome t r := by
  refine ⟨?_, locate_of_outcome⟩
  rintro rfl
  obtain ⟨r, hr⟩ := exists_outcome t
  rwa [locate_of_outcome hr]

end Layout

end FlatQuery
