import FlatQuery.Text.Basic

/-!
# FlatQuery.Proofs.Trim

What trimming and cutting at a separator do to a text.

* `trimmed_iff` — a text is trimmed when no blank stands at either end;
* `trim_pad` — blanks around a text do not show in the trimmed text;
* `exists_pad_trim` — a text is its trimmed text with blanks around it;
* `splitOn_append_cons`, `exists_cut_of_mem_splitOn` — the pieces of a text between separators.
-/

namespace FlatQuery

/-! ## the ends of a list -/

/-- Nothing comes off the front of a list that starts with no match. -/
theorem dropWhile_of_head? {p : α → Bool} {l : List α} (h : l.head?.any p = false) :
    l.dropWhile p = l := by
  cases l with
  | nil => rfl
  | cons a l => exact List.dropWhile_cons_of_neg (by simpa using h)

/-- What is left of a list starts with no match. -/
theorem head?_dropWhile {p : α → Bool} (l : List α) : (l.dropWhile p).head?.any p = false := by
  have h := List.head?_dropWhile_not p l
  cases hd : (l.dropWhile p).head? with
  | none => rfl
  | some a =>
      rw [hd] at h
      simpa using h

/-- All of a list comes off when all of it matches, and then what follows is left. -/
theorem dropWhile_append_all {p : α → Bool} {g l : List α} (hg : g.all p = true)
    (hl : l.head?.any p = false) : (g ++ l).dropWhile p = l := by
  rw [List.dropWhile_append_of_pos (List.all_eq_true.1 hg), dropWhile_of_head? hl]

/-- The front of a list that matches, when what follows it starts with no match. -/
theorem takeWhile_append_all {p : α → Bool} {g l : List α} (hg : g.all p = true)
    (hl : l.head?.any p = false) : (g ++ l).takeWhile p = g := by
  rw [List.takeWhile_append_of_pos (List.all_eq_true.1 hg)]
  cases l with
  | nil => simp
  | cons a l =>
      rw [List.takeWhile_cons_of_neg (by simpa using hl), List.append_nil]

/-- The shorter of two fronts of a list is the front of the other. -/
theorem exists_of_append_eq {u v x y : List α} (h : u ++ v = x ++ y)
    (hl : u.length ≤ x.length) : ∃ d, x = u ++ d ∧ v = d ++ y := by
  rcases List.append_eq_append_iff.1 h with hd | ⟨d, rfl, hd⟩
  · exact hd
  · have hn : d = [] := by
      rw [List.length_append] at hl
      exact List.length_eq_zero_iff.1 (by omega)
    exact ⟨[], by simp [hn], by simp [hd, hn]⟩

/-- What holds of every item of a list is checked item by item. -/
theorem forall_mem_of_all {p : α → Prop} [DecidablePred p] {l : List α}
    (h : l.all (p ·) = true) : ∀ a ∈ l, p a := by
  simpa using h

namespace Text

/-! ## blank texts -/

@[simp] theorem isBlankText_append (u v : Text) :
    isBlankText (u ++ v) = (isBlankText u && isBlankText v) := List.all_append

/-- A blank text holds blanks only. -/
theorem notMem_of_isBlankText {g : Text} {c : Char} (hg : isBlankText g = true)
    (hc : isBlank c = false) : c ∉ g := by
  intro h
  rw [List.all_eq_true.1 hg c h] at hc
  cases hc

@[simp] theorem trimStart_eq_nil_iff {t : Text} : trimStart t = [] ↔ isBlankText t = true := by
  induction t with
  | nil => simp [trimStart, isBlankText]
  | cons c rest ih =>
      cases hc : isBlank c with
      | false => simp [trimStart, isBlankText, hc]
      | true =>
          rw [trimStart, List.dropWhile_cons_of_pos hc, isBlankText, List.all_cons, hc,
            Bool.true_and]
          exact ih

/-! ## trimming -/

/-- Trimming the end is trimming the start of the reversed text. -/
theorem trimEnd_eq_reverse (t : Text) : trimEnd t = (trimStart t.reverse).reverse := rfl

/-- Blanks in front come off. -/
theorem trimStart_append {g : Text} (hg : isBlankText g = true) (t : Text) :
    trimStart (g ++ t) = trimStart t :=
  List.dropWhile_append_of_pos (List.all_eq_true.1 hg)

/-- Blanks at the end come off. -/
theorem trimEnd_append_blank {g : Text} (hg : isBlankText g = true) (t : Text) :
    trimEnd (t ++ g) = trimEnd t := by
  have hr : isBlankText g.reverse = true := by rw [isBlankText, List.all_reverse]; exact hg
  rw [trimEnd_eq_reverse, List.reverse_append, trimStart_append hr, ← trimEnd_eq_reverse]

theorem trimStart_of_head? {t : Text} (h : t.head?.any isBlank = false) : trimStart t = t :=
  dropWhile_of_head? h

theorem trimEnd_of_getLast? {t : Text} (h : t.getLast?.any isBlank = false) : trimEnd t = t := by
  rw [trimEnd_eq_reverse, trimStart_of_head? (by rw [List.head?_reverse]; exact h),
    List.reverse_reverse]

/-- Trimming the start stops at what is no blank. -/
theorem trimStart_append_of_head? {u v : Text} (hv : v.head?.any isBlank = false) :
    trimStart (u ++ v) = trimStart u ++ v := by
  have hs := dropWhile_of_head? hv
  rw [trimStart, trimStart, List.dropWhile_append, hs]
  split
  · next hn => rw [List.isEmpty_iff.1 hn, List.nil_append]
  · rfl

/-- Trimming the end stops at what is no blank. -/
theorem trimEnd_append_of_getLast? {u v : Text} (hu : u.getLast?.any isBlank = false) :
    trimEnd (u ++ v) = u ++ trimEnd v := by
  rw [trimEnd_eq_reverse, List.reverse_append, trimStart_append_of_head?, List.reverse_append,
    List.reverse_reverse, ← trimEnd_eq_reverse]
  rwa [List.head?_reverse]

/-- No blank stands at the end of a text whose end has been trimmed. -/
@[simp] theorem getLast?_trimEnd (t : Text) : (trimEnd t).getLast?.any isBlank = false := by
  rw [trimEnd_eq_reverse, List.getLast?_reverse]
  exact head?_dropWhile _

/-- Trimming the end puts no blank in front. -/
theorem head?_trimEnd {t : Text} (h : t.head?.any isBlank = false) :
    (trimEnd t).head?.any isBlank = false := by
  have ht := trimEnd_append t
  cases hd : trimEnd t with
  | nil => rfl
  | cons c rest =>
      rw [hd] at ht
      rw [← ht] at h
      simpa using h

/-- A text is trimmed when no blank stands at either end. -/
theorem trimmed_iff {t : Text} :
    Trimmed t ↔ t.head?.any isBlank = false ∧ t.getLast?.any isBlank = false := by
  constructor
  · intro h
    rw [← show trim t = t from h]
    exact ⟨head?_trimEnd (head?_dropWhile _), getLast?_trimEnd _⟩
  · rintro ⟨hh, hl⟩
    rw [Trimmed, trim, trimStart_of_head? hh, trimEnd_of_getLast? hl]

@[simp] theorem trimmed_trim (t : Text) : Trimmed (trim t) :=
  trimmed_iff.2 ⟨head?_trimEnd (head?_dropWhile _), getLast?_trimEnd _⟩

/-- Blanks around a text do not show in the trimmed text. -/
theorem trim_pad {g g' : Text} (hg : isBlankText g = true) (hg' : isBlankText g' = true)
    (t : Text) : trim (g ++ t ++ g') = trim t := by
  rw [trim, List.append_assoc, trimStart_append hg]
  by_cases ht : isBlankText t = true
  · have h : isBlankText (t ++ g') = true := by rw [isBlankText_append, ht, hg']; rfl
    rw [trim, trimStart_eq_nil_iff.2 h, trimStart_eq_nil_iff.2 ht]
  · have h : trimStart t ≠ [] := fun h => ht (trimStart_eq_nil_iff.1 h)
    rw [trim, ← trimEnd_append_blank hg' (trimStart t), trimStart, trimStart,
      List.dropWhile_append]
    rw [if_neg]
    rw [List.isEmpty_iff]
    exact h

/-- Blanks around a trimmed text come off. -/
theorem Trimmed.trim_pad {g t g' : Text} (ht : Trimmed t) (hg : isBlankText g = true)
    (hg' : isBlankText g' = true) : trim (g ++ t ++ g') = t := by
  rw [Text.trim_pad hg hg']
  exact ht

/-- What comes off the end of a text is blanks. -/
theorem exists_trimEnd_append (t : Text) : ∃ g, isBlankText g = true ∧ t = trimEnd t ++ g := by
  refine ⟨(t.reverse.takeWhile isBlank).reverse, ?_, (trimEnd_append t).symm⟩
  rw [isBlankText, List.all_reverse]
  exact List.all_takeWhile

/-- A text is its trimmed text with blanks around it. -/
theorem exists_pad_trim (t : Text) :
    ∃ g g', isBlankText g = true ∧ isBlankText g' = true ∧ t = g ++ trim t ++ g' := by
  obtain ⟨g', hg', ht⟩ := exists_trimEnd_append (trimStart t)
  refine ⟨t.takeWhile isBlank, g', List.all_takeWhile, hg', ?_⟩
  rw [trim, List.append_assoc, ← ht, takeWhile_append_trimStart]

/-- The trimmed text is part of the text. -/
theorem isInfix_trim (t : Text) : trim t <:+: t := by
  obtain ⟨g, g', -, -, ht⟩ := exists_pad_trim t
  exact ⟨g, g', ht.symm⟩

@[simp] theorem trim_eq_nil_iff {t : Text} : trim t = [] ↔ isBlankText t = true := by
  constructor
  · intro h
    obtain ⟨g, g', hg, hg', ht⟩ := exists_pad_trim t
    rw [ht, h, isBlankText_append, isBlankText_append, hg, hg']
    rfl
  · intro h
    rw [trim, trimStart_eq_nil_iff.2 h]
    rfl

theorem trim_ne_nil_iff {t : Text} : trim t ≠ [] ↔ isBlankText t = false := by
  rw [ne_eq, trim_eq_nil_iff, Bool.not_eq_true]

theorem mem_of_mem_trim {c : Char} {t : Text} (h : c ∈ trim t) : c ∈ t :=
  (isInfix_trim t).subset h

/-- What starts and ends with trimmed texts is trimmed. -/
theorem Trimmed.append {a b : Text} (ha : Trimmed a) (han : a ≠ []) (hb : Trimmed b)
    (hbn : b ≠ []) (mid : Text) : Trimmed (a ++ mid ++ b) := by
  rw [trimmed_iff] at ha hb ⊢
  constructor
  · obtain ⟨c, a, rfl⟩ := List.exists_cons_of_ne_nil han
    exact ha.1
  · rw [List.getLast?_append, List.getLast?_eq_some_getLast hbn, Option.some_or,
      ← List.getLast?_eq_some_getLast]
    exact hb.2

theorem exists_append_of_le {t : Text} {n : Nat} (h : n ≤ t.length) :
    ∃ u v, t = u ++ v ∧ n = u.length :=
  ⟨t.take n, t.drop n, (List.take_append_drop n t).symm, (List.length_take_of_le h).symm⟩

/-- A text is a run of blanks and what follows it. -/
theorem exists_blanks (t : Text) :
    ∃ g rest, isBlankText g = true ∧ rest.head?.any isBlank = false ∧ t = g ++ rest :=
  ⟨t.takeWhile isBlank, t.dropWhile isBlank, List.all_takeWhile, head?_dropWhile t,
    List.takeWhile_append_dropWhile.symm⟩

/-- A text is a run without blanks and what follows it. -/
theorem exists_run (t : Text) :
    ∃ r rest, r.all (!isBlank ·) = true ∧ rest.head?.all isBlank = true ∧ t = r ++ rest := by
  refine ⟨t.takeWhile (!isBlank ·), t.dropWhile (!isBlank ·), List.all_takeWhile, ?_,
    List.takeWhile_append_dropWhile.symm⟩
  have hd := head?_dropWhile (p := (!isBlank ·)) t
  cases hw : (t.dropWhile (!isBlank ·)).head? with
  | none => rfl
  | some c => simpa [hw] using hd

/-! ## cutting at a separator -/

theorem splitOn_of_notMem {separator : Char} {t : Text} (h : separator ∉ t) :
    splitOn separator t = [t] := by
  induction t with
  | nil => rfl
  | cons c rest ih =>
      rw [List.mem_cons, not_or] at h
      rw [splitOn, if_neg (Ne.symm h.1), ih h.2]

/-- The first piece ends at the first separator. -/
theorem splitOn_append_cons {separator : Char} {u : Text} (h : separator ∉ u) (t : Text) :
    splitOn separator (u ++ separator :: t) = u :: splitOn separator t := by
  induction u with
  | nil => rw [List.nil_append, splitOn, if_pos rfl]
  | cons c rest ih =>
      rw [List.mem_cons, not_or] at h
      rw [List.cons_append, splitOn, if_neg (Ne.symm h.1), ih h.2]

/-- Texts are built piece by piece. -/
theorem separator_induction {P : Text → Prop} (separator : Char)
    (one : ∀ u, separator ∉ u → P u)
    (more : ∀ u t, separator ∉ u → P t → P (u ++ separator :: t)) (t : Text) : P t := by
  induction hn : t.length using Nat.strongRecOn generalizing t with
  | ind n ih =>
    by_cases h : separator ∈ t
    · obtain ⟨u, v, rfl, hu⟩ := List.eq_append_cons_of_mem h
      refine more u v hu (ih v.length ?_ v rfl)
      rw [← hn, List.length_append, List.length_cons]
      omega
    · exact one t h

/-- A piece holds no separator, and stands in the text between separators or the ends. -/
theorem exists_cut_of_mem_splitOn {separator : Char} {p t : Text} (h : p ∈ splitOn separator t) :
    separator ∉ p ∧ ∃ a b, t = a ++ p ++ b ∧
      (∀ c ∈ a.getLast?, c = separator) ∧ ∀ c ∈ b.head?, c = separator := by
  induction t using separator_induction separator with
  | one u hu =>
      rw [splitOn_of_notMem hu, List.mem_singleton] at h
      rw [h]
      exact ⟨hu, [], [], by simp, by simp, by simp⟩
  | more u v hu ih =>
      rw [splitOn_append_cons hu, List.mem_cons] at h
      rcases h with rfl | h
      · exact ⟨hu, [], separator :: v, by simp, by simp, by simp⟩
      · obtain ⟨hp, a, b, rfl, ha, hb⟩ := ih h
        refine ⟨hp, u ++ separator :: a, b, by simp, ?_, hb⟩
        cases a with
        | nil => simp
        | cons c a => simpa using ha

end Text

end FlatQuery
