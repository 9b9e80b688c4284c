import FlatQuery.Proofs.Standing
import FlatQuery.Query.Parse

/-!
# FlatQuery.Proofs.Entries

Comma-separated lists, as they are read and as they are written.

`Listed` says which texts hold given parts between commas, with blanks around them.

* `Text.entries_of_listed` — the parts of a list are its entries;
* `Keyword.absent_entries_iff`, `Keyword.absent_of_listed` — a keyword stands in a list when it
  stands in an entry;
* `Query.parseFields_eq_ok_iff` — the lists of fields that are read.
-/

namespace FlatQuery

namespace Text

/-! ## entries -/

/-- Blanks around a text do not show in its entries. -/
theorem entries_pad {g g' : Text} (hg : isBlankText g = true) (hg' : isBlankText g' = true)
    (t : Text) : entries (g ++ t ++ g') = entries t := by
  have hc := notMem_of_isBlankText (c := ',') hg (by decide)
  have hc' := notMem_of_isBlankText (c := ',') hg' (by decide)
  induction t using separator_induction ',' generalizing g with
  | one u hu =>
      rw [entries, entries, splitOn_of_notMem hu, splitOn_of_notMem (by simp [hc, hu, hc']),
        List.map_singleton, List.map_singleton, trim_pad hg hg']
  | more u v hu ih =>
      have hv : entries (v ++ g') = entries v := ih (g := []) rfl (by simp)
      have hs : g ++ (u ++ ',' :: v) ++ g' = (g ++ u) ++ ',' :: (v ++ g') := by simp
      have htrim : trim (g ++ u) = trim u := by
        rw [← List.append_nil (g ++ u), trim_pad hg rfl]
      rw [hs, entries, entries, splitOn_append_cons (by simp [hc, hu]), splitOn_append_cons hu,
        List.map_cons, List.map_cons, htrim, ← entries, ← entries, hv]

theorem entries_trim (t : Text) : entries (trim t) = entries t := by
  obtain ⟨g, g', hg, hg', ht⟩ := exists_pad_trim t
  conv_rhs => rw [ht, entries_pad hg hg']

/-- An entry is trimmed and holds no comma, and no name runs out of it in the text. -/
theorem exists_cut_of_mem_entries {e t : Text} (h : e ∈ entries t) :
    Trimmed e ∧ ',' ∉ e ∧ ∃ a b, t = a ++ e ++ b ∧ Breaks a e ∧ Breaks e b := by
  obtain ⟨p, hp, rfl⟩ := List.mem_map.1 h
  obtain ⟨hc, a, b, rfl, ha, hb⟩ := exists_cut_of_mem_splitOn hp
  obtain ⟨g, g', hg, hg', he⟩ := exists_pad_trim p
  have ht : a ++ p ++ b = a ++ g ++ trim p ++ (g' ++ b) := by
    conv_lhs => rw [he]
    simp
  refine ⟨trimmed_trim p, fun h' => hc (mem_of_mem_trim h'), a ++ g, g' ++ b, ht, .inl ?_, .inr ?_⟩
  · refine isWordChar_getLast?_append ?_ hg
    cases hl : a.getLast? with
    | none => rfl
    | some c =>
        rw [ha c hl]
        decide
  · refine isWordChar_head?_append hg' ?_
    cases hl : b.head? with
    | none => rfl
    | some c =>
        rw [hb c hl]
        decide

/-! ## written lists -/

/-- The texts of a list of parts: commas stand between the parts, and blanks may stand around
them. -/
inductive Listed : List Text → Text → Prop where
  | one {g p g' : Text} : isBlankText g = true → isBlankText g' = true → Listed [p] (g ++ p ++ g')
  | more {g p g' t : Text} {ps : List Text} : isBlankText g = true → isBlankText g' = true →
      Listed ps t → Listed (p :: ps) (g ++ p ++ g' ++ ',' :: t)

/-- The parts of a list are its entries. -/
theorem entries_of_listed {ps : List Text} {t : Text} (h : Listed ps t)
    (hp : ∀ p ∈ ps, Trimmed p ∧ ',' ∉ p) : entries t = ps := by
  induction h with
  | @one g p g' hg hg' =>
      obtain ⟨ht, hc⟩ := hp p (by simp)
      rw [entries_pad hg hg', entries, splitOn_of_notMem hc, List.map_singleton,
        (ht : trim p = p)]
  | @more g p g' t ps hg hg' _ ih =>
      obtain ⟨ht, hc⟩ := hp p (by simp)
      have hcg := notMem_of_isBlankText (c := ',') hg (by decide)
      have hcg' := notMem_of_isBlankText (c := ',') hg' (by decide)
      rw [entries, splitOn_append_cons (by simp [hcg, hc, hcg']), List.map_cons,
        ht.trim_pad hg hg', ← entries, ih fun q hq => hp q (List.mem_cons_of_mem _ hq)]

theorem Listed.pad {ps : List Text} {g t : Text} (h : Listed ps t) (hg : isBlankText g = true) :
    Listed ps (g ++ t) := by
  cases h with
  | @one g' p g'' hg' hg'' =>
      have hgg : isBlankText (g ++ g') = true := by rw [isBlankText_append, hg, hg']; rfl
      have hl := Listed.one (p := p) hgg hg''
      simpa using hl
  | @more g' p g'' t ps hg' hg'' ht =>
      have hgg : isBlankText (g ++ g') = true := by rw [isBlankText_append, hg, hg']; rfl
      have hl := Listed.more (p := p) hgg hg'' ht
      simpa using hl

/-- Parts with a comma and a space between neighbours are a list of these parts. -/
theorem listed_join {ps : List Text} (h : ps ≠ []) : Listed ps (join ", ".toList ps) := by
  induction ps with
  | nil => exact absurd rfl h
  | cons p ps ih =>
      cases ps with
      | nil =>
          have ho : Listed [p] ([] ++ p ++ []) := .one rfl rfl
          rw [join, List.intercalate_singleton]
          simpa using ho
      | cons q ps =>
          have hl := (ih (by simp)).pad (g := [' ']) rfl
          have hm : Listed (p :: q :: ps) ([] ++ p ++ [] ++ ',' :: _) := .more rfl rfl hl
          rw [join, List.intercalate_cons_cons, ← join]
          simpa using hm

/-- A text is the list of its entries. -/
theorem listed_entries (t : Text) : Listed (entries t) t := by
  induction t using separator_induction ',' with
  | one u hu =>
      obtain ⟨g, g', hg, hg', ht⟩ := exists_pad_trim u
      have hl := Listed.one (p := trim u) hg hg'
      rw [← ht] at hl
      rw [entries, splitOn_of_notMem hu]
      exact hl
  | more u v hu ih =>
      obtain ⟨g, g', hg, hg', ht⟩ := exists_pad_trim u
      have hl := Listed.more (p := trim u) hg hg' ih
      rw [← ht] at hl
      rw [entries, splitOn_append_cons hu]
      exact hl

end Text

/-! ## keywords in lists -/

namespace Keyword

variable {k : Keyword}

/-- What stands in an entry stands in the list. -/
theorem Absent.of_mem_entries {e t : Text} (h : k.Absent t) (he : e ∈ Text.entries t) :
    k.Absent e := by
  obtain ⟨-, -, a, b, rfl, ha, hb⟩ := Text.exists_cut_of_mem_entries he
  exact h.mid ha hb

/-- A keyword that stands in no part does not stand in the list. -/
theorem absent_of_listed {ps : List Text} {t : Text} (h : Text.Listed ps t)
    (hp : ∀ p ∈ ps, k.Absent p) : k.Absent t := by
  induction h with
  | @one g p g' hg hg' => exact (hp p (by simp)).pad hg hg'
  | @more g p g' t ps hg hg' _ ih =>
      have hfirst := (hp p (by simp)).pad hg hg'
      have hrest := ih fun q hq => hp q (List.mem_cons_of_mem _ hq)
      have hcomma : k.Absent (',' :: t) :=
        absent_append (u := [',']) (absent_singleton k (by decide)) hrest
          (severed_of_getLast? (c := ',') rfl (by decide))
      exact absent_append hfirst hcomma (severed_of_head? (c := ',') rfl (by decide))

/-- A keyword stands in a list when it stands in an entry. -/
theorem absent_entries_iff {t : Text} : (∀ e ∈ Text.entries t, k.Absent e) ↔ k.Absent t :=
  ⟨absent_of_listed (Text.listed_entries t), fun h _ he => h.of_mem_entries he⟩

end Keyword

namespace Query

/-! ## lists of fields -/

/-- A list of fields is read when no entry is empty. -/
theorem parseFields_eq_ok_iff {place : FieldPlace} {segment : Option Text} {fields : List Text} :
    parseFields place segment = .ok fields ↔
      fields = (segment.map Text.entries).getD [] ∧ ∀ f ∈ fields, f ≠ [] := by
  cases segment with
  | none =>
      constructor
      · intro h
        cases h
        exact ⟨rfl, by simp⟩
      · intro ⟨h, _⟩
        rw [h]
        rfl
  | some t =>
      rw [parseFields]
      split
      · next h =>
          obtain ⟨f, hf, hn⟩ := List.any_eq_true.1 h
          constructor
          · intro h
            cases h
          · intro ⟨he, hfs⟩
            rw [List.isEmpty_iff] at hn
            exact absurd hn (hfs f (by rw [he]; exact hf))
      · next h =>
          rw [Bool.not_eq_true, List.any_eq_false] at h
          constructor
          · intro hf
            cases hf
            exact ⟨rfl, fun f hf hn => h f hf (by rw [hn]; rfl)⟩
          · intro ⟨he, _⟩
            rw [he]
            rfl

end Query

end FlatQuery
