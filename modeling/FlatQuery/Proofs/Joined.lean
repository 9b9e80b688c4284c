import FlatQuery.Proofs.Splitting

/-!
# FlatQuery.Proofs.Joined

Filters as they are written.

`Filter.Joined` writes conditions one after the other, with blanks around the words that join them.

* `Filter.split_trim` — blanks around a filter do not show in its parts;
* `Filter.parse_of_joined` — a written filter is read as its conditions and connectives;
* `Filter.absent_of_joined` — a keyword that stands in no condition does not stand in the filter.
-/

namespace FlatQuery

namespace Filter

/-! ## blanks around a filter -/

/-- A text without name characters is not divided behind another. -/
theorem whole_append_blank {state : ReadingState} {before : Option Char} {u g : Text}
    (hu : Whole state before u) (hg : Text.isBlankText g = true) :
    Whole state before (u ++ g) := by
  have hb : Text.Breaks u g := .inr (isWordChar_head?_blanks hg)
  exact (whole_append hb).2 ⟨hu, whole_of_forall (fun _ => isWordChar_of_mem_blanks hg) _ _⟩

/-- Behind blanks a text is whole when it is. -/
theorem whole_append_left {before : Option Char} {g u : Text} (hg : Text.isBlankText g = true)
    (hb : before.any isWordChar = false ∨ g ≠ []) (hu : Whole (.outside none) none u) :
    Whole (.outside none) before (g ++ u) := by
  have hp : Whole (.outside none) none (g ++ u ++ []) :=
    (whole_pad (proper_outside none) hg rfl).2 hu
  rw [List.append_nil] at hp
  refine (whole_before ?_).1 hp
  rcases hb with hb | hb
  · exact .inr ⟨rfl, hb⟩
  · obtain ⟨c, g, rfl⟩ := List.exists_cons_of_ne_nil hb
    exact .inl (isWordChar_of_mem_blanks hg List.mem_cons_self)

/-- Blanks in front belong to the first piece. -/
theorem Splits.pad_left {us : List Text} {ms : List (Connective × Text)} {before : Option Char}
    {g t : Text} (h : Splits none us ms t) (hg : Text.isBlankText g = true)
    (hb : before.any isWordChar = false ∨ g ≠ []) :
    ∃ us', Splits before us' ms (g ++ t) ∧ us'.map Text.trim = us.map Text.trim := by
  have htrim : ∀ u : Text, Text.trim (g ++ u) = Text.trim u := by
    intro u
    rw [← List.append_nil (g ++ u), Text.trim_pad hg rfl]
  cases h with
  | one hu => exact ⟨[g ++ t], .one (whole_append_left hg hb hu), by simp [htrim]⟩
  | @more _ last u m t op us ms hu hr hm ht =>
      have hrun : run (.outside none) (g ++ u) = .outside last := by
        rw [run_append, run_blank (proper_outside _) hg, hr]
      have hl := isWordChar_getLast?_blanks hg
      have hbefore : (g.getLast?.or before).any isWordChar = false := by
        cases hgl : g.getLast? with
        | some c => rwa [hgl] at hl
        | none => exact hb.resolve_right fun hn => hn (List.getLast?_eq_none_iff.1 hgl)
      have hstands : op.keyword.Stands ((g ++ u).getLast?.or before) m t.head? := by
        rw [List.getLast?_append, Option.or_assoc]
        exact hm.of_or_before.or_before (b := t) (.inl hbefore)
      refine ⟨(g ++ u) :: us, ?_, by simp [htrim]⟩
      rw [← List.append_assoc]
      exact .more (whole_append_left hg hb hu) hrun hstands ht

/-- Blanks behind belong to the last piece. -/
theorem Splits.pad_right {us : List Text} {ms : List (Connective × Text)} {before : Option Char}
    {g t : Text} (h : Splits before us ms t) (hg : Text.isBlankText g = true) :
    ∃ us', Splits before us' ms (t ++ g) ∧ us'.map Text.trim = us.map Text.trim := by
  induction h with
  | @one before u hu =>
      refine ⟨[u ++ g], .one (whole_append_blank hu hg), ?_⟩
      rw [List.map_singleton, List.map_singleton, ← List.nil_append (u ++ g), ← List.append_assoc,
        Text.trim_pad rfl hg]
  | @more before last u m t op us ms hu hr hm _ ih =>
      obtain ⟨us', hus, htrim⟩ := ih
      refine ⟨u :: us', ?_, by rw [List.map_cons, List.map_cons, htrim]⟩
      rw [List.append_assoc, List.append_assoc]
      refine .more hu hr ?_ hus
      rw [List.head?_append]
      exact hm.or_after (a := u) (.inr (isWordChar_head?_blanks hg))

/-- Blanks around a filter do not show in its parts. -/
@[simp] theorem split_trim (t : Text) : split (Text.trim t) = split t := by
  obtain ⟨g, g', hg, hg', ht⟩ := Text.exists_pad_trim t
  obtain ⟨us, ms, hs⟩ := exists_splits none (Text.trim t)
  obtain ⟨us', hs', htrim'⟩ : ∃ us', Splits none us' ms (g ++ Text.trim t) ∧ _ :=
    hs.pad_left hg (.inl rfl)
  obtain ⟨us'', hs'', htrim''⟩ := hs'.pad_right hg'
  rw [← ht] at hs''
  rw [split_of_splits hs, split_of_splits hs'', htrim'', htrim']

/-- A filter is read as another one that is split into the same parts. -/
theorem parse_of_split_eq {options : Options} {t t' : Text}
    {r : List Condition × List Connective} (ht : split t' = split t)
    (h : parse options t = .ok r) : parse options t' = .ok r := by
  by_cases hn : t = []
  · rw [parse, if_pos hn] at h
    cases h
  rw [parse, if_neg hn, ← ht] at h
  have hn' : t' ≠ [] := by
    rintro rfl
    obtain ⟨cs, hcs, -⟩ := bind_eq_ok_iff.1 h
    rw [mapM_eq_ok_iff, show (split []).1 = [[]] from rfl] at hcs
    cases hcs with
    | cons hc _ => cases hc
  rw [parse, if_neg hn']
  exact h

/-- Blanks around a filter do not matter when it is read. -/
theorem parse_trim {options : Options} {t : Text} {r : List Condition × List Connective}
    (h : parse options t = .ok r) : parse options (Text.trim t) = .ok r :=
  parse_of_split_eq (split_trim t) h

/-! ## filters as they are written -/

/-- Pieces written one after the other, with blanks around the words that join them.  No joining
word is read in a piece, and none is followed by an open quote. -/
inductive Joined : List Text → List Connective → Text → Prop where
  | one {u : Text} : Whole (.outside none) none u → Joined [u] [] u
  | more {last : Option Char} {u g m g' t : Text} {op : Connective} {us : List Text}
      {ops : List Connective} : Whole (.outside none) none u →
      run (.outside none) u = .outside last → g ≠ [] → Text.isBlankText g = true →
      op.keyword.Spelled m → g' ≠ [] → Text.isBlankText g' = true → Joined us ops t →
      Joined (u :: us) (op :: ops) (u ++ g ++ (m ++ (g' ++ t)))

/-- A written filter is put together from its pieces and the blanks around them. -/
theorem exists_splits_of_joined {us : List Text} {ops : List Connective} {t : Text}
    (h : Joined us ops t) : ∃ us' ms, Splits none us' ms t ∧
      us'.map Text.trim = us.map Text.trim ∧ ms.map Prod.fst = ops := by
  induction h with
  | @one u hu => exact ⟨[u], [], .one hu, rfl, rfl⟩
  | @more last u g m g' t op us ops hu hr hgn hg hm hgn' hg' _ ih =>
      obtain ⟨us', ms, hs, htrim, hops⟩ := ih
      obtain ⟨us'', hs', htrim'⟩ : ∃ us'', Splits m.getLast? us'' ms (g' ++ t) ∧ _ :=
        hs.pad_left hg' (.inr hgn')
      refine ⟨(u ++ g) :: us'', (op, m) :: ms, ?_, ?_, by rw [List.map_cons, hops]⟩
      · have hrun : run (.outside none) (u ++ g) = .outside last := by
          rw [run_append, hr, run_blank (proper_outside _) hg]
        refine .more (whole_append_blank hu hg) hrun ⟨hm, ?_, ?_⟩ hs'
        · rw [Option.or_none]
          exact isWordChar_getLast?_of_blank hgn hg
        · exact isWordChar_head?_of_blank hgn' hg'
      · rw [List.map_cons, List.map_cons, htrim', htrim, ← List.nil_append (u ++ g),
          ← List.append_assoc, Text.trim_pad rfl hg]

/-- A written filter is read as its conditions and connectives. -/
theorem parse_of_joined {options : Options} {us : List Text} {ops : List Connective} {t : Text}
    {conditions : List Condition} (h : Joined us ops t)
    (hc : List.Forall₂ (fun u c => Condition.parse options u = .ok c) us conditions) :
    parse options t = .ok (conditions, ops) := by
  obtain ⟨us', ms, hs, htrim, hops⟩ := exists_splits_of_joined h
  have hparts : List.Forall₂ (fun u c => Condition.parse options u = .ok c) (us'.map Text.trim)
      conditions := by
    rw [htrim, List.forall₂_map_left_iff]
    exact hc.imp fun u c hu => Condition.parse_trim_eq_ok_iff.2 hu
  have ht : t ≠ [] := by
    intro ht
    have hsplit := split_of_splits hs
    rw [ht, show split [] = ([[]], []) from rfl, Prod.mk.injEq] at hsplit
    rw [← hsplit.1] at hparts
    cases hparts with
    | cons hu _ => cases hu
  rw [List.forall₂_map_left_iff] at hparts
  exact (parse_eq_ok_iff hs ht).2
    ⟨hparts.imp fun u c hu => Condition.parse_trim_eq_ok_iff.1 hu, hops.symm⟩

/-- A keyword that stands in no condition does not stand in the filter, unless it joins
conditions. -/
theorem absent_of_joined {k : Keyword} {us : List Text} {ops : List Connective} {t : Text}
    (h : Joined us ops t) (hk : k ∉ Keyword.connectives) (hu : ∀ u ∈ us, k.Absent u) :
    k.Absent t := by
  induction h with
  | @one u _ => exact hu u List.mem_cons_self
  | @more last u g m g' t op us ops _ _ hgn hg hm hgn' hg' _ ih =>
      have ht : k.Absent (g' ++ t) := by
        have hp : k.Absent (g' ++ t ++ []) :=
          (ih fun v hv => hu v (List.mem_cons_of_mem _ hv)).pad hg' rfl
        rwa [List.append_nil] at hp
      have hug : k.Absent (u ++ g) :=
        (hu u List.mem_cons_self).pad (g := []) rfl hg
      have hs : op.keyword.Stands (u ++ g).getLast? m (g' ++ t).head? :=
        ⟨hm, isWordChar_getLast?_of_blank hgn hg, isWordChar_head?_of_blank hgn' hg'⟩
      have hop : k ≠ op.keyword := fun he => hk (he ▸ keyword_mem_connectives op)
      rw [← List.append_assoc]
      exact hug.append_stands ht hs hop

/-! ## the two sides of a comparison -/

theorem isWordChar_of_mem_symbol (op : Comparison) : ∀ c ∈ op.symbol, isWordChar c = false := by
  cases op <;> exact forall_mem_of_all (by decide)

/-- Symbols start and end with characters that no keyword runs across. -/
theorem exists_mark_head (op : Comparison) :
    ∃ c, op.symbol.head? = some c ∧ Keyword.isMark c = true := by
  cases op <;> exact ⟨_, rfl, by decide⟩

theorem exists_mark_getLast (op : Comparison) :
    ∃ c, op.symbol.getLast? = some c ∧ Keyword.isMark c = true := by
  cases op <;> exact ⟨_, rfl, by decide⟩

/-- No name runs into a comparison. -/
theorem breaks_comparison (op : Comparison) (u v : Text) : Text.Breaks u (op.symbol ++ v) := by
  right
  rw [List.head?_append_of_ne_nil _ op.symbol_ne_nil]
  cases op <;> decide

theorem breaks_of_comparison (op : Comparison) (v : Text) : Text.Breaks op.symbol v := by
  left
  cases op <;> decide

/-- A keyword stands in a comparison when it stands on one side. -/
theorem absent_comparison_iff {k : Keyword} {op : Comparison} {before after : Text} :
    k.Absent (before ++ (op.symbol ++ after)) ↔ k.Absent before ∧ k.Absent after := by
  constructor
  · intro h
    have hright := h.right (breaks_comparison op before after)
    exact ⟨h.left (breaks_comparison op before after), hright.right (breaks_of_comparison op after)⟩
  · intro ⟨hb, ha⟩
    obtain ⟨c, hc, hcm⟩ := exists_mark_head op
    obtain ⟨d, hd, hdm⟩ := exists_mark_getLast op
    have hs := Keyword.absent_of_forall k (isWordChar_of_mem_symbol op)
    refine Keyword.absent_append hb
      (Keyword.absent_append hs ha (Keyword.severed_of_getLast? hd hdm))
      (Keyword.severed_of_head? (c := c) ?_ hcm)
    rw [List.head?_append_of_ne_nil _ op.symbol_ne_nil]
    exact hc

/-- Reading leaves off where it does without the blanks around. -/
theorem run_trim {state : ReadingState} (h : Proper state) (u : Text) :
    run state (Text.trim u) = run state u := by
  obtain ⟨g, g', hg, hg', hu⟩ := Text.exists_pad_trim u
  conv_rhs => rw [hu, run_pad h hg hg']

/-- A text is whole when it is without the blanks around. -/
theorem whole_trim {state : ReadingState} (h : Proper state) (u : Text) :
    Whole state none (Text.trim u) ↔ Whole state none u := by
  obtain ⟨g, g', hg, hg', hu⟩ := Text.exists_pad_trim u
  conv_rhs => rw [hu, whole_pad h hg hg']

/-- Where reading leaves off behind a comparison. -/
theorem run_comparison {state : ReadingState} (h : Proper state) (op : Comparison)
    (before after : Text) : run state (before ++ (op.symbol ++ after)) =
      run (run (run state (Text.trim before)) op.symbol) (Text.trim after) := by
  rw [run_append, run_append, run_trim h, run_trim (proper_run (proper_run h _) _)]

/-- A comparison is whole when its sides are. -/
theorem whole_comparison {state : ReadingState} (h : Proper state) (op : Comparison)
    (before after : Text) : Whole state none (before ++ (op.symbol ++ after)) ↔
      Whole state none (Text.trim before) ∧
        Whole (run (run state (Text.trim before)) op.symbol) none (Text.trim after) := by
  rw [whole_append_none (breaks_comparison op before after),
    whole_append_none (breaks_of_comparison op after), whole_trim h, run_trim h,
    whole_trim (proper_run (proper_run h _) _)]
  exact and_congr_right fun _ =>
    and_iff_right (whole_of_forall (isWordChar_of_mem_symbol op) _ _)

end Filter

end FlatQuery
