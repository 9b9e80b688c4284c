import FlatQuery.Proofs.Standing

/-!
# FlatQuery.Proofs.Neighbours

Keywords side by side in a text.

* `Keyword.Stands.disjoint` — two keywords never overlap;
* `Keyword.Spelled.absent` — no keyword stands in the spelling of another;
* `Keyword.Absent.append_stands` — nor does it stand in texts that another keyword joins.
-/

namespace FlatQuery

namespace Keyword

/-! ## keywords do not overlap -/

/-- The first word of a spelling is the name that it starts with. -/
theorem Stands.takeWhile_isWordChar {k : Keyword} {m b : Text} {before : Option Char}
    (h : k.Stands before m b.head?) :
    SameLetters k.firstWord ((m ++ b).takeWhile isWordChar) := by
  obtain ⟨⟨m₁, g, m₂, rfl, hm₁, hg, hgs, hm₂⟩, -, ha⟩ := h
  have hw := List.all_eq_true.2 (hm₁.isWordChar (isUpper_of_mem_firstWord k))
  have hn : (g ++ (m₂ ++ b)).head?.any isWordChar = false := by
    cases g with
    | nil =>
        rw [hm₂.eq_nil_iff.2 (hgs.1 rfl)]
        exact ha
    | cons c g =>
        rw [Text.isBlankText, List.all_cons, Bool.and_eq_true] at hg
        exact isWordChar_of_isBlank hg.1
  rw [List.append_assoc, List.append_assoc, takeWhile_append_all hw hn]
  exact hm₁

@[simp] theorem mem_all (k : Keyword) : k ∈ all := by cases k <;> decide

/-- A keyword is told from the others by its first word. -/
theorem firstWord_injective :
    ∀ k ∈ all, ∀ k' ∈ all, k.firstWord = k'.firstWord → k = k' := by decide

/-- Two keywords that stand at one place are the same: they start with one name. -/
theorem Stands.eq_of_append_eq {k k' : Keyword} {before before' : Option Char} {m b m' b' : Text}
    (h : k.Stands before m b.head?) (h' : k'.Stands before' m' b'.head?)
    (ht : m ++ b = m' ++ b') : k = k' := by
  have hf := h.takeWhile_isWordChar
  rw [ht] at hf
  exact firstWord_injective k k.mem_all k' k'.mem_all (hf.unique h'.takeWhile_isWordChar
    (isUpper_of_mem_firstWord k) (isUpper_of_mem_firstWord k'))

/-- No keyword starts inside a spelling, which would go on with `BY` there. -/
theorem Spelled.not_inside {k k' : Keyword} {d e b m' b' : Text} {after : Option Char}
    (h : k.Spelled (d ++ e)) (hd : d ≠ []) (he : e ≠ []) (h' : k'.Stands d.getLast? m' after) :
    e ++ b ≠ m' ++ b' := by
  intro heq
  obtain ⟨-, g, c, w, rfl, hg, hc⟩ := h.cut_head hd he (.inl h'.2.1)
  obtain ⟨c', rest, rfl, hw, -⟩ := h'.1.head
  cases g with
  | nil =>
      rw [List.cons_append, List.nil_append, List.cons_append, List.cons.injEq] at heq
      exact h'.1.upper_ne (heq.1 ▸ hc)
  | cons x g =>
      rw [List.cons_append, List.cons_append, List.cons_append, List.cons.injEq] at heq
      rw [Text.isBlankText, List.all_cons, Bool.and_eq_true] at hg
      have hx := isWordChar_of_isBlank hg.1
      rw [heq.1, hw] at hx
      cases hx

section Disjoint

variable {k k' : Keyword} {a m b a' m' b' : Text}
  (h : k.Stands a.getLast? m b.head?) (h' : k'.Stands a'.getLast? m' b'.head?)
  (ht : a ++ (m ++ b) = a' ++ (m' ++ b'))
include h h' ht

/-- A keyword that starts behind the start of one stands behind its end. -/
theorem Stands.disjoint_of_lt (hlt : a.length < a'.length) :
    ∃ c, a' = a ++ (m ++ c) ∧ b = c ++ (m' ++ b') := by
  obtain ⟨d, rfl, hd⟩ := exists_of_append_eq ht (Nat.le_of_lt hlt)
  have hdn : d ≠ [] := by
    rintro rfl
    simp at hlt
  rcases List.append_eq_append_iff.1 hd with ⟨c, rfl, rfl⟩ | ⟨e, rfl, he⟩
  · exact ⟨c, rfl, rfl⟩
  by_cases hn : e = []
  · subst hn
    exact ⟨[], by simp, he.symm⟩
  · rw [List.getLast?_append] at h'
    exact absurd he.symm (h.1.not_inside hdn hn h'.of_or_before)

/-- The next keyword stands behind the end of one that stands before it. -/
theorem Stands.disjoint (hk : k ≠ k') (hle : a.length ≤ a'.length) :
    ∃ c, a' = a ++ (m ++ c) ∧ b = c ++ (m' ++ b') := by
  rcases Nat.lt_or_eq_of_le hle with hlt | heq
  · exact h.disjoint_of_lt h' ht hlt
  · obtain ⟨rfl, hm⟩ := List.append_inj ht heq
    exact absurd (h.eq_of_append_eq h' hm) hk

end Disjoint

/-- No keyword stands in the spelling of another. -/
theorem Spelled.absent {k k' : Keyword} {m : Text} (hm : k'.Spelled m) (hk : k ≠ k') :
    k.Absent m := by
  intro a x b ht hs
  have h' : k'.Stands ([] : Text).getLast? m ([] : Text).head? := ⟨hm, rfl, rfl⟩
  obtain ⟨c, hc, hb⟩ := h'.disjoint hs (by simpa using ht) hk.symm (Nat.zero_le _)
  have hx := hs.1.ne_nil
  simp at hb
  exact hx hb.2.1

/-! ## no spelling runs in or out -/

/-- No spelling runs into a keyword that stands. -/
theorem severed_of_stands {k k' : Keyword} {u m b : Text} {after : Option Char}
    (h : k'.Stands u.getLast? m after) : k.Severed u (m ++ b) :=
  severed_gap_spelled (g := []) (.inl h.2.1) rfl h.1

def lastWord (k : Keyword) : Text := if k.secondWord = [] then k.firstWord else k.secondWord

/-- No first word of two is the end of another keyword. -/
theorem not_suffix_lastWord : ∀ k ∈ all, ∀ k' ∈ all, k ≠ k' → k.secondWord ≠ [] →
    ¬ k.firstWord <:+ k'.lastWord := by decide

/-- A spelling ends with the last word of its keyword. -/
theorem Stands.exists_lastWord {k : Keyword} {u m : Text} {after : Option Char}
    (h : k.Stands u.getLast? m after) :
    ∃ w n, u ++ m = w ++ n ∧ w.getLast?.any isWordChar = false ∧ SameLetters k.lastWord n := by
  obtain ⟨⟨m₁, g, m₂, rfl, hm₁, hb, hg, hm₂⟩, hu, -⟩ := h
  rw [lastWord]
  split
  · next hs =>
      rw [hg.2 hs, hm₂.eq_nil_iff.2 hs]
      exact ⟨u, m₁, by simp, hu, hm₁⟩
  · next hs =>
      have hgn : g ≠ [] := fun h => hs (hg.1 h)
      exact ⟨u ++ m₁ ++ g, m₂, by simp, isWordChar_getLast?_of_blank hgn hb, hm₂⟩

theorem isUpper_of_mem_lastWord (k : Keyword) : ∀ l ∈ k.lastWord, l.isUpper = true := by
  cases k <;> exact forall_mem_of_all (by decide)

@[simp] theorem lastWord_ne_nil (k : Keyword) : k.lastWord ≠ [] := by cases k <;> decide

/-- A row of name characters that ends a text ends the name there. -/
theorem isSuffix_of_isSuffix_append {w n m : Text} (h : m <:+ w ++ n)
    (hw : w.getLast?.any isWordChar = false) (hm : ∀ c ∈ m, isWordChar c = true) : m <:+ n := by
  rcases List.suffix_or_suffix_of_suffix h (List.suffix_append w n) with hs | ⟨w', rfl⟩
  · exact hs
  cases hl : w'.getLast? with
  | none =>
      rw [List.getLast?_eq_none_iff] at hl
      rw [hl]
      exact List.suffix_rfl
  | some c =>
      obtain ⟨t, ht⟩ := h
      rw [← List.append_assoc] at ht
      rw [← List.append_cancel_right ht] at hw
      have hc := any_getLast?_of_append hw
      rw [hl, Option.any_some, hm c (List.mem_append_left n (List.mem_of_getLast? hl))] at hc
      cases hc

/-- No spelling runs on from another keyword that stands. -/
theorem severed_of_stands_left {k k' : Keyword} {u m v : Text}
    (h : k'.Stands u.getLast? m v.head?) (hk : k ≠ k') : k.Severed (u ++ m) v := by
  intro x y hx hy hxu hyv hs
  obtain ⟨w, n, hwn, hw, hn⟩ := h.exists_lastWord
  rw [hwn] at hxu
  have hb : Text.Breaks x y := by
    obtain ⟨v', rfl⟩ := hyv
    exact .inr (any_head?_of_append h.2.2)
  obtain ⟨m₁, g₁, -, -, rfl, -, hg₁, -, hm₁, -, hsecond⟩ := hs.cut hx hy hb
  -- the other keyword ends with a name, so no blanks of this one come before the cut
  have hg : g₁ = [] := by
    by_contra hg
    have hnn : n ≠ [] := fun h => k'.lastWord_ne_nil (hn.eq_nil_iff.1 h)
    obtain ⟨t, ht⟩ := hxu
    have hl := congrArg List.getLast? ht
    rw [List.getLast?_append, List.getLast?_append, List.getLast?_append,
      List.getLast?_eq_some_getLast hg, List.getLast?_eq_some_getLast hnn, Option.some_or,
      Option.some_or, Option.some_or, Option.some.injEq] at hl
    have hw := hn.isWordChar (isUpper_of_mem_lastWord k') _ (List.getLast_mem hnn)
    rw [← hl, isWordChar_of_mem_blanks hg₁ (List.getLast_mem hg)] at hw
    cases hw
  rw [hg, List.append_nil] at hxu
  obtain ⟨n₀, rfl⟩ := isSuffix_of_isSuffix_append hxu hw
    (hm₁.isWordChar (isUpper_of_mem_firstWord k))
  have hd := List.forall₂_drop_append _ _ _ hn
  have hfirst := hm₁.unique hd (isUpper_of_mem_firstWord k)
    fun l hl => isUpper_of_mem_lastWord k' l (List.mem_of_mem_drop hl)
  refine not_suffix_lastWord k k.mem_all k' k'.mem_all hk hsecond ?_
  rw [hfirst]
  exact List.drop_suffix _ _

/-- A keyword does not stand in texts without it that another keyword joins. -/
theorem Absent.append_stands {k k' : Keyword} {u m v : Text} (hu : k.Absent u) (hv : k.Absent v)
    (h : k'.Stands u.getLast? m v.head?) (hk : k ≠ k') : k.Absent (u ++ m ++ v) := by
  have hum : k.Absent (u ++ m) := by
    rw [← List.append_nil m]
    exact absent_append hu (by rw [List.append_nil]; exact h.1.absent hk) (severed_of_stands h)
  exact absent_append hum hv (severed_of_stands_left h hk)

/-- Another keyword stands in texts that a keyword joins when it stands in one of them. -/
theorem absent_join_iff {k k' : Keyword} {u m v : Text} (h : k'.Stands u.getLast? m v.head?)
    (hk : k ≠ k') : k.Absent (u ++ (m ++ v)) ↔ k.Absent u ∧ k.Absent v := by
  rw [← List.append_assoc]
  constructor
  · intro ha
    have hleft := ha.left (.inr h.2.2)
    exact ⟨hleft.left (.inl h.2.1), ha.right (.inr h.2.2)⟩
  · intro ⟨hu, hv⟩
    exact hu.append_stands hv h hk

/-- A keyword that stands between two texts without it stands nowhere else. -/
theorem Absent.length_eq_of_stands {k : Keyword} {u m v a m' b : Text} (hu : k.Absent u)
    (hv : k.Absent v) (h : k.Stands u.getLast? m v.head?) (h' : k.Stands a.getLast? m' b.head?)
    (ht : u ++ (m ++ v) = a ++ (m' ++ b)) : a.length = u.length := by
  rcases Nat.lt_trichotomy a.length u.length with hlt | heq | hlt
  · obtain ⟨c, rfl, rfl⟩ := h'.disjoint_of_lt h ht.symm hlt
    rw [List.head?_append] at h'
    exact absurd h'.of_or_after (hu a m' c (by simp))
  · exact heq
  · obtain ⟨c, rfl, rfl⟩ := h.disjoint_of_lt h' ht hlt
    rw [← List.append_assoc, List.getLast?_append] at h'
    exact absurd h'.of_or_before (hv c m' b (by simp))

end Keyword

end FlatQuery
