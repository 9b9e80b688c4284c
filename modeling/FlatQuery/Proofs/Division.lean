import FlatQuery.Proofs.Locating
import FlatQuery.Proofs.QuotedValues

/-!
# FlatQuery.Proofs.Division

A filter is divided by its joining words.

* `Filter.Division` — a text divided into pieces and words, each a connective where it stands;
* `Filter.mem_jointSpans_iff` — a connective that stands in a filter joins conditions where reading
  is outside quoted values, and only there;
* `Query.parse_ne_unknownConnective` — no query is refused for a word between conditions;
* `Filter.split_divides` — a filter is split into the pieces and words of a division.
-/

namespace FlatQuery

namespace Filter

/-! ## texts put together -/

/-- A text put together from pieces and the words between them. -/
def weave : List Text → List Text → Text
  | u :: us, m :: ms => u ++ (m ++ weave us ms)
  | us, _ => us.flatten

/-- The places of the words between pieces, in a text that starts at `position`. -/
def jointSpans (position : Nat) : List Text → List Text → List Span
  | u :: us, m :: ms =>
      ⟨position + u.length, position + u.length + m.length⟩ ::
        jointSpans (position + u.length + m.length) us ms
  | _, _ => []

/-- A text divided by words between its pieces: no character is lost or doubled, there is one piece
more than words, and each word is a connective that stands in the text. -/
structure Division (t : Text) where
  pieces : List Text
  words : List Text
  connectives : List Connective
  weave_eq : weave pieces words = t
  length_pieces : pieces.length = words.length + 1
  stands : List.Forall₂ (fun op s => op.keyword.StandsAt t s) connectives
    (jointSpans 0 pieces words)

def Division.spans {t : Text} (d : Division t) : List Span := jointSpans 0 d.pieces d.words

/-- At each of them a connective stands. -/
theorem Division.exists_of_mem_spans {t : Text} (d : Division t) :
    ∀ s ∈ d.spans, ∃ op : Connective, op.keyword.StandsAt t s :=
  forall_of_forall₂ d.stands fun op _ _ h => ⟨op, h⟩

theorem le_start_of_mem_jointSpans {position : Nat} {us ms : List Text} {s : Span}
    (h : s ∈ jointSpans position us ms) : position ≤ s.start := by
  induction us generalizing position ms with
  | nil => cases h
  | cons u us ih =>
      cases ms with
      | nil => cases h
      | cons m ms =>
          rcases List.mem_cons.1 h with rfl | h
          · exact Nat.le_add_right _ _
          · have hle := ih h
            omega

section Splits

variable {before last : Option Char} {us : List Text} {ms : List (Connective × Text)}
  {t u v a m b : Text} {op : Connective}

/-! ## what a filter is put together from -/

/-- No character is lost or doubled. -/
theorem weave_of_splits (h : Splits before us ms t) : weave us (ms.map Prod.snd) = t := by
  induction h with
  | one _ => simp [weave]
  | more _ _ _ _ ih => rw [List.map_cons, weave, ih]

/-- The words of a filter are connectives that stand in it. -/
theorem standsAt_of_splits (h : Splits before us ms t) {p : Text} (hp : p.getLast? = before) :
    List.Forall₂ (fun op s => op.keyword.StandsAt (p ++ t) s) (ms.map Prod.fst)
      (jointSpans p.length us (ms.map Prod.snd)) := by
  induction h generalizing p with
  | one _ => exact .nil
  | @more before last u m t op us ms _ _ hm _ ih =>
      have hu : (p ++ u).getLast? = u.getLast?.or before := by rw [List.getLast?_append, hp]
      have hlast : (p ++ u ++ m).getLast? = m.getLast? := by
        rw [List.getLast?_append, List.getLast?_eq_some_getLast hm.1.ne_nil, Option.some_or]
      have hrest := ih hlast
      simp only [List.append_assoc, List.length_append, ← Nat.add_assoc] at hrest
      refine .cons ⟨p ++ u, m, t, by simp, by simp, ?_⟩ hrest
      rw [hu]
      exact hm

/-- The division of a filter. -/
def divisionOfSplits (h : Splits none us ms t) : Division t where
  pieces := us
  words := ms.map Prod.snd
  connectives := ms.map Prod.fst
  weave_eq := weave_of_splits h
  length_pieces := by rw [List.length_map, length_of_splits h]
  stands := standsAt_of_splits (p := []) h rfl

/-! ## which words join -/

/-- A text without joining words is read through. -/
theorem stateBehind_whole (h : Whole (.outside none) before u) :
    stateBehind before u = run (.outside none) u :=
  stateBehind_of_splits (.one h)

/-- Behind a joining word reading starts anew. -/
theorem stateBehind_joint (hu : Whole (.outside none) before u)
    (hr : run (.outside none) u = .outside last)
    (hm : op.keyword.Stands (u.getLast?.or before) m v.head?) :
    stateBehind before (u ++ (m ++ v)) = stateBehind m.getLast? v := by
  obtain ⟨us, ms, hv⟩ := exists_splits m.getLast? v
  rw [stateBehind_of_splits (.more hu hr hm hv), stateBehind_of_splits hv,
    getLast?_cons_of_splits hv]

/-- A connective that stands in a text without joining words stands in a quoted value. -/
theorem not_outside_of_whole (h : Whole (.outside none) before (a ++ (m ++ b)))
    (hs : op.keyword.Stands (a.getLast?.or before) m b.head?) :
    ¬ ∃ last, stateBehind before a = .outside last := by
  rintro ⟨last, hr⟩
  obtain ⟨ha, hw⟩ := (whole_append (.inl hs.of_or_before.2.1)).1 h
  rw [stateBehind_whole ha] at hr
  have hj := jointLength?_of_stands hs
  obtain ⟨c, m, rfl, -⟩ := hs.1.head
  have hn : jointLength? (a.getLast?.or before) (c :: m ++ b) = none := hw.1 last hr
  rw [hn] at hj
  cases hj

/-- A connective that stands in a filter joins conditions where reading is outside quoted values,
and only there. -/
theorem mem_jointSpans_iff (position : Nat) (h : Splits before us ms (a ++ (m ++ b)))
    (hs : op.keyword.Stands (a.getLast?.or before) m b.head?) :
    ⟨position + a.length, position + a.length + m.length⟩ ∈
        jointSpans position us (ms.map Prod.snd) ↔
      ∃ last, stateBehind before a = .outside last := by
  generalize ht : a ++ (m ++ b) = t at h
  induction h generalizing position a with
  | @one before u hu =>
      subst ht
      exact iff_of_false List.not_mem_nil (not_outside_of_whole hu hs)
  | @more before last u m' t op' us ms hu hrun hm' hrest ih =>
      have hlength := List.length_pos_iff.2 hs.1.ne_nil
      rw [List.map_cons, jointSpans, List.mem_cons, Span.mk.injEq]
      rcases Nat.lt_trichotomy a.length u.length with hlt | heq | hlt
      · -- it stands in the first piece
        obtain ⟨c, rfl, rfl⟩ := hs.of_or_before.disjoint_of_lt hm'.of_or_before ht hlt
        have hsu : op.keyword.Stands (a.getLast?.or before) m c.head? := by
          rw [List.head?_append] at hs
          exact hs.of_or_after
        refine iff_of_false ?_ (not_outside_of_whole hu hsu)
        rintro (⟨hstart, -⟩ | hmem)
        · omega
        · have hle := le_start_of_mem_jointSpans hmem
          dsimp only at hle
          omega
      · -- it is the first joining word
        obtain ⟨rfl, hm⟩ := List.append_inj ht heq
        have hj := jointLength?_of_stands hs
        rw [hm, jointLength?_of_stands hm', Option.some.injEq] at hj
        rw [stateBehind_whole hu]
        exact iff_of_true (.inl ⟨rfl, by rw [hj]⟩) ⟨last, hrun⟩
      · -- it stands behind the first joining word
        obtain ⟨c, rfl, rfl⟩ := hm'.of_or_before.disjoint_of_lt hs.of_or_before ht.symm hlt
        have hc : op.keyword.Stands (c.getLast?.or m'.getLast?) m b.head? := by
          rw [List.getLast?_append, List.getLast?_append, Option.or_assoc, Option.or_assoc] at hs
          rw [List.getLast?_eq_some_getLast hm'.1.ne_nil] at hs ⊢
          exact hs
        have hm : op'.keyword.Stands (u.getLast?.or before) m' c.head? := by
          rw [List.head?_append] at hm'
          exact hm'.of_or_after
        rw [stateBehind_joint hu hrun hm, ← ih (position + u.length + m'.length) hc rfl]
        simp only [List.length_append] at hlt ⊢
        simp only [← Nat.add_assoc]
        constructor
        · rintro (⟨hstart, -⟩ | hmem)
          · omega
          · exact hmem
        · exact .inr

/-- No quote opens a value in a text without quotes. -/
theorem exists_run_outside (h : ∀ c ∈ u, isQuote c = false) (last : Option Char) :
    ∃ last', run (.outside last) u = .outside last' := by
  induction u generalizing last with
  | nil => exact ⟨last, rfl⟩
  | cons c u ih =>
      have hc := h c List.mem_cons_self
      rw [run, List.foldl_cons, next, hc, Bool.false_and, if_neg (by decide)]
      exact ih (fun d hd => h d (List.mem_cons_of_mem c hd)) _

/-- So reading is outside behind it. -/
theorem exists_stateBehind_outside (h : ∀ c ∈ t, isQuote c = false) (before : Option Char) :
    ∃ last, stateBehind before t = .outside last := by
  obtain ⟨us, ms, hs⟩ := exists_splits before t
  rw [stateBehind_of_splits hs]
  refine exists_run_outside (fun c hc => h c ?_) none
  cases hl : us.getLast? with
  | none => simp [hl] at hc
  | some u =>
      rw [hl, Option.getD_some] at hc
      exact (infix_of_mem_splits hs (List.mem_of_getLast? hl)).subset hc

variable (h : Splits none us ms t)

/-- The words of a filter are the connectives that stand in it, less those in quoted values. -/
theorem mem_spans_iff {s : Span} : s ∈ (divisionOfSplits h).spans ↔
    (∃ op : Connective, op.keyword.StandsAt t s) ∧
      ∃ last, stateAfter (t.take s.start) = .outside last := by
  have hjoin : ∀ op : Connective, op.keyword.StandsAt t s →
      (s ∈ (divisionOfSplits h).spans ↔ ∃ last, stateAfter (t.take s.start) = .outside last) := by
    rintro op ⟨a, m, b, rfl, rfl, hs⟩
    rw [List.take_left]
    have hmem := mem_jointSpans_iff 0 h (by rwa [Option.or_none])
    rwa [Nat.zero_add] at hmem
  constructor
  · intro hs
    obtain ⟨op, hop⟩ := (divisionOfSplits h).exists_of_mem_spans s hs
    exact ⟨⟨op, hop⟩, (hjoin op hop).1 hs⟩
  · rintro ⟨⟨op, hop⟩, hstate⟩
    exact (hjoin op hop).2 hstate

/-- Without quotes they are all of them. -/
theorem mem_spans_iff_of_unquoted (ht : ∀ c ∈ t, isQuote c = false) {s : Span} :
    s ∈ (divisionOfSplits h).spans ↔ ∃ op : Connective, op.keyword.StandsAt t s := by
  have hstate : ∃ last, stateAfter (t.take s.start) = .outside last :=
    exists_stateBehind_outside (fun c hc => ht c (List.mem_of_mem_take hc)) none
  rw [mem_spans_iff, and_iff_left hstate]

end Splits

end Filter

/-! ## errors -/

/-- A condition that cannot be read is malformed. -/
theorem Condition.exists_malformed {options : Options} {raw : Text} {e : QueryError}
    (h : parse options raw = .error e) : ∃ t fault, e = .malformedCondition t fault := by
  simp only [parse] at h
  repeat' split at h
  all_goals cases h
  all_goals exact ⟨_, _, rfl⟩

/-- A call that cannot be read has no known name or no argument. -/
theorem Aggregate.unknown_or_empty {token : Text} {e : QueryError} (h : parse token = .error e) :
    (∃ name, e = .unknownAggregate name) ∨ e = .emptyField .aggregate := by
  rw [parse] at h
  split at h
  · cases h
  · next call _ =>
      rw [AggregateKind.parse] at h
      split at h
      · rw [ok_bind] at h
        split at h
        · cases h
          exact .inr rfl
        · cases h
      · cases h
        exact .inl ⟨_, rfl⟩

namespace Query

/-- No query is refused for a word between its conditions. -/
theorem parse_ne_unknownConnective (options : Options) (query w : Text) :
    parse options query ≠ .error (.unknownConnective w) := by
  intro h
  by_cases hb : Text.isBlankText query = true
  · rw [parse, if_pos hb] at h
    cases h
  cases hl : Layout.locate query with
  | error e =>
      rw [parse, if_neg hb, hl] at h
      cases h
      obtain ⟨r, hr⟩ := Layout.exists_outcome query
      rw [Layout.locate_of_outcome hr] at hl
      rw [hl] at hr
      cases hr
  | ok l =>
      rw [parse_of_locate hl (by simpa using hb)] at h
      have hproblem := errorOf?_ofLayout options hl
      rw [h] at hproblem
      obtain ⟨problem, hmem, hp⟩ := List.exists_of_findSome?_eq_some hproblem.symm
      obtain rfl : problem = some (.unknownConnective w) := hp
      -- only calls and conditions bring errors of their readers; the other problems are named there
      have hitem : some (.unknownConnective w) = (Clauses.aggregateSegments query).findSome?
            (fun call => errorOf? (Aggregate.parse call)) ∨
          some (.unknownConnective w) = (Clauses.conditions query).findSome?
            (fun condition => errorOf? (Condition.parse options condition)) := by
        simpa [Clauses.problems] using hmem
      rcases hitem with hcall | hcondition
      · obtain ⟨call, -, hcall⟩ := List.exists_of_findSome?_eq_some hcall.symm
        rcases Aggregate.unknown_or_empty (errorOf?_eq_some_iff.1 hcall) with ⟨name, he⟩ | he
        all_goals cases he
      · obtain ⟨raw, -, hraw⟩ := List.exists_of_findSome?_eq_some hcondition.symm
        obtain ⟨t, fault, he⟩ := Condition.exists_malformed (errorOf?_eq_some_iff.1 hraw)
        cases he

end Query

namespace Filter

/-- A filter is split into the trimmed pieces of a division and its words in lower case, which are
the names of connectives and are read as such, so that no query is refused for one.  It is divided
at every connective that stands outside quoted values, which without quotes are all that stand in
it. -/
theorem split_divides (t : Text) :
    (∃ d : Division t, split t = (d.pieces.map Text.trim, d.words.map Text.toLower) ∧
      d.words.map Text.toLower = d.connectives.map Connective.name ∧
      (∀ s, s ∈ d.spans ↔ (∃ op : Connective, op.keyword.StandsAt t s) ∧
        ∃ last, stateAfter (t.take s.start) = .outside last) ∧
      ((∀ c ∈ t, isQuote c = false) →
        ∀ s, s ∈ d.spans ↔ ∃ op : Connective, op.keyword.StandsAt t s)) ∧
    (split t).1.length = (split t).2.length + 1 ∧
    (∀ w ∈ (split t).2, (w = "and".toList ∨ w = "or".toList) ∧
      ∃ op, readConnective w = .ok op) ∧
    ∀ options query w, Query.parse options query ≠ .error (.unknownConnective w) := by
  refine ⟨?_, length_split t, fun w hw => ?_, Query.parse_ne_unknownConnective⟩
  · obtain ⟨us, ms, h⟩ := exists_splits none t
    obtain ⟨hpieces, hjoints⟩ := pieces_of_splits h
    have hnames := map_toLower_of_splits h
    refine ⟨divisionOfSplits h, ?_, ?_, fun s => mem_spans_iff h,
      fun ht s => mem_spans_iff_of_unquoted h ht⟩
    · rw [split, tokens, hpieces, hjoints]
      rfl
    · simpa [divisionOfSplits] using hnames
  · obtain ⟨ops, hops⟩ := exists_connectives t
    rw [hops] at hw
    obtain ⟨op, -, rfl⟩ := List.mem_map.1 hw
    refine ⟨?_, op, readConnective_name op⟩
    cases op
    · exact .inl rfl
    · exact .inr rfl

end Filter

end FlatQuery
