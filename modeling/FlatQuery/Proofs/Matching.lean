import FlatQuery.Filter
import FlatQuery.Proofs.Locating

/-!
# FlatQuery.Proofs.Matching

Where keywords match.

`Keyword.Occupies` says, without any matcher, which spans of a text a keyword occupies: its words
are written there, blanks between them, and no name character touches them.

* `Keyword.occupies_iff` — a keyword occupies the spans where it stands;
* `Keyword.matches_exactly` — a keyword is matched at the spans that it occupies, one at most from
  each position, and a search finds the first of them;
* `Keyword.StandsAt.eq_or_apart` — two keywords that stand in a text are one, or lie apart;
* `Keyword.matches_apart` — so one keyword at most is matched at a position, and keywords may be
  tried in any order.
-/

namespace FlatQuery

/-! ## written words -/

namespace Text

/-- The characters are the letters in any case: the upper case of each is its letter. -/
def Letters (letters m : Text) : Prop := List.Forall₂ (fun l c => upper c = [l]) letters m

/-- The words one after another, each in any case, and blanks, one at least, between two. -/
inductive Written : List Text → Text → Prop where
  | one {w m : Text} : Letters w m → Written [w] m
  | more {w m g t : Text} {ws : List Text} : Letters w m → g ≠ [] → isBlankText g = true →
      Written ws t → Written (w :: ws) (m ++ g ++ t)

/-- Capitals are written in any case. -/
theorem letters_iff {letters m : Text} (h : ∀ l ∈ letters, l.isUpper = true) :
    Letters letters m ↔ SameLetters letters m := by
  induction letters generalizing m with
  | nil => simp [Letters, SameLetters]
  | cons l letters ih =>
      have hl := upper_of_isUpper (h l List.mem_cons_self)
      have ih := fun m => @ih m fun l hl => h l (List.mem_cons_of_mem _ hl)
      simp only [Letters, SameLetters, List.forall₂_cons_left_iff, hl] at ih ⊢
      simp only [ih]

/-- One word is written by its letters. -/
theorem written_singleton_iff {w m : Text} : Written [w] m ↔ Letters w m := by
  constructor
  · intro h
    cases h with
    | one hm => exact hm
    | more _ _ _ h => cases h
  · exact .one

/-- Two words are written with blanks between them. -/
theorem written_pair_iff {w w' m : Text} : Written [w, w'] m ↔ ∃ m₁ g m₂, m = m₁ ++ g ++ m₂ ∧
    Letters w m₁ ∧ isBlankText g = true ∧ g ≠ [] ∧ Letters w' m₂ := by
  constructor
  · intro h
    cases h with
    | more hm hn hg h => exact ⟨_, _, _, rfl, hm, hg, hn, written_singleton_iff.1 h⟩
  · rintro ⟨m₁, g, m₂, rfl, hm, hg, hn, h⟩
    exact .more hm hn hg (.one h)

end Text

namespace Keyword

variable {k k' : Keyword} {t : Text} {s s' : Span}

/-- The words of a keyword, in capitals. -/
def words (k : Keyword) : List Text := Text.splitOn ' ' k.letters

/-- They are the first word and, if there is one, the second. -/
theorem words_eq (k : Keyword) :
    k.words = if k.secondWord = [] then [k.firstWord] else [k.firstWord, k.secondWord] := by
  cases k <;> rfl

/-- A keyword is spelled when its words are written. -/
theorem written_words_iff {m : Text} : Text.Written k.words m ↔ k.Spelled m := by
  have hfirst := fun m => Text.letters_iff (m := m) (isUpper_of_mem_firstWord k)
  have hsecond := fun m => Text.letters_iff (m := m) (isUpper_of_mem_secondWord k)
  rw [words_eq]
  split
  · next hs => rw [Text.written_singleton_iff, hfirst, spelled_iff_of_secondWord hs]
  · next hs => simp only [Text.written_pair_iff, Spelled, hfirst, hsecond, hs, iff_false, Ne]

/-! ## occupied spans -/

/-- The keyword occupies the span: its words are written there, and the characters at both sides, if
there are any, are no name characters. -/
structure Occupies (k : Keyword) (t : Text) (s : Span) : Prop where
  start_le : s.start ≤ s.stop
  stop_le : s.stop ≤ t.length
  written : Text.Written k.words (t.slice s.start s.stop)
  before : ∀ i c, i + 1 = s.start → t[i]? = some c → isWordChar c = false
  after : ∀ c, t[s.stop]? = some c → isWordChar c = false

/-- A keyword occupies the middle of a text when it stands there. -/
theorem occupies_append_iff {a m b : Text} :
    k.Occupies (a ++ (m ++ b)) ⟨a.length, a.length + m.length⟩ ↔
      k.Stands a.getLast? m b.head? := by
  have hslice := Text.slice_append_mid a m b
  have hbefore : ∀ i, i + 1 = a.length → (a ++ (m ++ b))[i]? = a.getLast? := by
    intro i hi
    rw [List.getElem?_append_left (by omega), List.getLast?_eq_getElem?, ← hi, Nat.add_sub_cancel]
  have hafter : (a ++ (m ++ b))[a.length + m.length]? = b.head? := by
    rw [← List.append_assoc, List.getElem?_append_right (by simp), List.length_append,
      Nat.sub_self, List.head?_eq_getElem?]
  constructor
  · intro h
    refine ⟨?_, ?_, ?_⟩
    · rw [← written_words_iff, ← hslice]
      exact h.written
    · cases ha : a.getLast? with
      | none => rfl
      | some c =>
          have hl := List.length_pos_iff.2 (List.ne_nil_of_mem (List.mem_of_getLast? ha))
          have hi : a.length - 1 + 1 = a.length := Nat.sub_add_cancel hl
          exact h.before (a.length - 1) c hi ((hbefore _ hi).trans ha)
    · cases hb : b.head? with
      | none => rfl
      | some c => exact h.after c (hafter.trans hb)
  · intro ⟨hm, ha, hb⟩
    refine ⟨Nat.le_add_right _ _, by simp, ?_, fun i c hi hc => ?_, fun c hc => ?_⟩
    · rw [hslice]
      exact written_words_iff.2 hm
    · rwa [(hbefore i hi).symm.trans hc] at ha
    · rwa [hafter.symm.trans hc] at hb

/-- A keyword occupies the spans where it stands. -/
theorem occupies_iff : k.Occupies t s ↔ k.StandsAt t s := by
  constructor
  · intro h
    obtain ⟨start, stop⟩ := s
    obtain ⟨u, b, rfl, rfl⟩ := Text.exists_append_of_le h.stop_le
    obtain ⟨a, m, rfl, rfl⟩ := Text.exists_append_of_le h.start_le
    rw [List.append_assoc, List.length_append] at h
    exact ⟨a, m, b, List.append_assoc a m b, by rw [List.length_append], occupies_append_iff.1 h⟩
  · rintro ⟨a, m, b, rfl, rfl, h⟩
    exact occupies_append_iff.2 h

theorem StandsAt.start_lt_stop (h : k.StandsAt t s) : s.start < s.stop := by
  obtain ⟨a, m, b, -, rfl, hm⟩ := h
  have hl := List.length_pos_iff.2 hm.1.ne_nil
  show a.length < a.length + m.length
  omega

/-! ## matches -/

/-- A keyword is not matched at a position when it stands nowhere from there on. -/
theorem endAt?_eq_none_iff {i : Nat} :
    k.word.endAt? t i = none ↔ ∀ s, k.StandsAt t s → s.start ≠ i := by
  rw [Option.eq_none_iff_forall_ne_some]
  constructor
  · rintro h s hs rfl
    exact h s.stop (endAt?_eq_some_iff.2 hs)
  · intro h j hj
    exact h ⟨i, j⟩ (endAt?_eq_some_iff.1 hj) rfl

/-- The first place where a keyword stands is the first position where it is matched. -/
theorem firstAt_iff {p : Nat} : k.FirstAt t p s ↔ p ≤ s.start ∧
    k.word.endAt? t s.start = some s.stop ∧
    ∀ i, p ≤ i → i < s.start → k.word.endAt? t i = none := by
  constructor
  · intro h
    refine ⟨h.le, endAt?_eq_some_iff.2 h.stands, fun i hi hlt => ?_⟩
    rw [endAt?_eq_none_iff]
    rintro s' hs' rfl
    exact absurd hlt (Nat.not_lt.2 (h.first s' hs' hi))
  · intro ⟨hle, hs, hnone⟩
    refine ⟨endAt?_eq_some_iff.1 hs, hle, fun s' hs' hle' => ?_⟩
    by_contra hlt
    exact endAt?_eq_none_iff.1 (hnone s'.start hle' (Nat.not_le.1 hlt)) s' hs' rfl

/-- There is nothing to find where the keyword is matched nowhere. -/
theorem found_none_iff {p : Nat} :
    k.Found t p none ↔ ∀ i, p ≤ i → k.word.endAt? t i = none := by
  constructor
  · intro h i hi
    rw [endAt?_eq_none_iff]
    rintro s hs rfl
    exact absurd (h s hs) (Nat.not_lt.2 hi)
  · intro h s hs
    by_contra hlt
    exact endAt?_eq_none_iff.1 (h s.start (Nat.not_lt.1 hlt)) s hs rfl

/-- A keyword is matched at the spans that it occupies, and from each position it occupies one at
most.  A search finds the first position where it is matched, if there is one. -/
theorem matches_exactly (k : Keyword) (t : Text) (p : Nat) :
    (∀ e, k.word.endAt? t p = some e ↔ k.Occupies t ⟨p, e⟩) ∧
    (∀ e, k.Occupies t ⟨p, e⟩ →
      p < e ∧ e ≤ t.length ∧ ∀ e', k.Occupies t ⟨p, e'⟩ → e' = e) ∧
    (∀ s, k.word.find? t p = some s ↔ p ≤ s.start ∧ k.word.endAt? t s.start = some s.stop ∧
      ∀ i, p ≤ i → i < s.start → k.word.endAt? t i = none) ∧
    (k.word.find? t p = none ↔ ∀ i, p ≤ i → k.word.endAt? t i = none) := by
  refine ⟨fun e => ?_, fun e h => ?_, fun s => ?_, ?_⟩
  · rw [endAt?_eq_some_iff, occupies_iff]
  · have hs := occupies_iff.1 h
    refine ⟨hs.start_lt_stop, h.stop_le, fun e' h' => ?_⟩
    have he := (occupies_iff.1 h').unique hs rfl
    exact congrArg Span.stop he
  · rw [find?_eq_iff]
    exact firstAt_iff
  · rw [find?_eq_iff]
    exact found_none_iff

example : groupBy.word.find? "a regroup by a GROUP \t by b".toList 0 = some ⟨15, 25⟩ := by
  decide +kernel

end Keyword

/-! ## matches side by side -/

/-- One of the spans ends before the other starts. -/
def Span.Apart (s s' : Span) : Prop := s.stop ≤ s'.start ∨ s'.stop ≤ s.start

/-- Where one item at most gives something, it is found wherever it stands in a list. -/
theorem findSome?_eq_some_iff_of_unique {f : α → Option β} {as : List α} {b : β}
    (h : ∀ a a', (f a).isSome = true → (f a').isSome = true → a = a') :
    as.findSome? f = some b ↔ ∃ a ∈ as, f a = some b := by
  constructor
  · exact List.exists_of_findSome?_eq_some
  · intro ⟨a, ha, hb⟩
    cases hf : as.findSome? f with
    | none =>
        rw [List.findSome?_eq_none_iff] at hf
        rw [hf a ha] at hb
        cases hb
    | some b' =>
        obtain ⟨a', -, hb'⟩ := List.exists_of_findSome?_eq_some hf
        rw [← hb', h a' a (by simp [hb']) (by simp [hb]), hb]

/-- The order of the list does not matter then. -/
theorem findSome?_eq_of_perm {f : α → Option β} {as bs : List α} (hp : as.Perm bs)
    (h : ∀ a a', (f a).isSome = true → (f a').isSome = true → a = a') :
    as.findSome? f = bs.findSome? f := by
  ext b
  rw [findSome?_eq_some_iff_of_unique h, findSome?_eq_some_iff_of_unique h]
  simp only [hp.mem_iff]

namespace Keyword

variable {k k' : Keyword} {t : Text} {s s' : Span}

/-- One keyword at most is matched at the start of a text. -/
theorem eq_of_matchLength? {before : Option Char} (h : (k.word.matchLength? before t).isSome = true)
    (h' : (k'.word.matchLength? before t).isSome = true) : k = k' := by
  obtain ⟨n, hn⟩ := Option.isSome_iff_exists.1 h
  obtain ⟨n', hn'⟩ := Option.isSome_iff_exists.1 h'
  obtain ⟨m, b, rfl, -, hm⟩ := matchLength?_eq_some_iff.1 hn
  obtain ⟨m', b', ht, -, hm'⟩ := matchLength?_eq_some_iff.1 hn'
  exact hm.eq_of_append_eq hm' ht

/-- One keyword at most is matched at a position. -/
theorem eq_of_endAt? {p : Nat} (h : (k.word.endAt? t p).isSome = true)
    (h' : (k'.word.endAt? t p).isSome = true) : k = k' := by
  rw [Word.endAt?, Option.isSome_map] at h h'
  exact eq_of_matchLength? h h'

/-- A keyword that stands behind the start of one stands behind its end. -/
theorem StandsAt.stop_le_start (h : k.StandsAt t s) (h' : k'.StandsAt t s')
    (hlt : s.start < s'.start) : s.stop ≤ s'.start := by
  obtain ⟨a, m, b, rfl, rfl, hm⟩ := h
  obtain ⟨a', m', b', ht, rfl, hm'⟩ := h'
  obtain ⟨c, rfl, -⟩ := hm.disjoint_of_lt hm' ht hlt
  simp

/-- Two keywords that stand in a text are one at one place, or they lie apart. -/
theorem StandsAt.eq_or_apart (h : k.StandsAt t s) (h' : k'.StandsAt t s') :
    k = k' ∧ s = s' ∨ s.Apart s' := by
  rcases Nat.lt_trichotomy s.start s'.start with hlt | heq | hlt
  · exact .inr (.inl (h.stop_le_start h' hlt))
  · have hs := h.isSome_endAt?
    rw [heq] at hs
    obtain rfl := eq_of_endAt? hs h'.isSome_endAt?
    exact .inl ⟨rfl, h.unique h' heq⟩
  · exact .inr (.inr (h'.stop_le_start h hlt))

/-- The first of the keywords that is matched at a position, and where it ends. -/
def firstOf? (ks : List Keyword) (t : Text) (p : Nat) : Option (Keyword × Nat) :=
  ks.findSome? fun k => (k.word.endAt? t p).map (k, ·)

/-- Two matches of keywords are one match, or their spans lie apart.  So one keyword at most is
matched at a position, and keywords may be tried in any order. -/
theorem matches_apart (t : Text) :
    (∀ (k k' : Keyword) (s s' : Span), k.word.endAt? t s.start = some s.stop →
      k'.word.endAt? t s'.start = some s'.stop → k = k' ∧ s = s' ∨ s.Apart s') ∧
    (∀ (k k' : Keyword) p, (k.word.endAt? t p).isSome = true →
      (k'.word.endAt? t p).isSome = true → k = k') ∧
    (∀ ks ks' p, ks.Perm ks' → firstOf? ks t p = firstOf? ks' t p) ∧
    (∀ (ks : List Keyword) p, ks.Perm optionalClauses →
      (ks.any fun k => (k.word.endAt? t p).isSome) = Layout.startsClause t p) ∧
    ∀ (ks : List Keyword) before, ks.Perm connectives →
      (ks.findSome? fun k => k.word.matchLength? before t) = Filter.jointLength? before t := by
  refine ⟨fun k k' s s' h h' => ?_, fun k k' p => eq_of_endAt?, fun ks ks' p hp => ?_,
    fun ks p hp => ?_, fun ks before hp => ?_⟩
  · exact (endAt?_eq_some_iff.1 h).eq_or_apart (endAt?_eq_some_iff.1 h')
  · refine findSome?_eq_of_perm hp fun k k' h h' => ?_
    rw [Option.isSome_map] at h h'
    exact eq_of_endAt? h h'
  · exact hp.any_eq
  · exact findSome?_eq_of_perm hp fun k k' => eq_of_matchLength?

example : firstOf? [or, orderBy] "a or  order by b".toList 6 = some (orderBy, 14) := by
  decide +kernel

end Keyword

end FlatQuery
