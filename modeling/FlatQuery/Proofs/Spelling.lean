import FlatQuery.Proofs.Letters
import FlatQuery.Proofs.Trim
import Mathlib.Data.List.Forall2

/-!
# FlatQuery.Proofs.Spelling

Which texts spell a keyword, and where a keyword stands alone.

A keyword has one word or two, with blanks between them.  `Keyword.Spelled` says which texts are
these words in any case; `Keyword.Stands` adds that no name character touches them.

* `Keyword.dropLetters?_eq_some_iff` — the letters of a keyword take its spellings off a text;
* `Keyword.matchLength?_eq_some_iff` — a keyword matches where it stands;
* `Keyword.Spelled.cut` — a spelling that is cut where no name runs on is cut before `BY`.
-/

namespace FlatQuery

/-! ## letters in any case -/

/-- `m` is the letters `ls` in any case. -/
def SameLetters (ls m : Text) : Prop := List.Forall₂ (fun l c => upper c = upper l) ls m

/-- Spellings of capitals are name characters. -/
theorem SameLetters.isWordChar {ls m : Text} (h : SameLetters ls m)
    (hl : ∀ l ∈ ls, l.isUpper = true) : ∀ c ∈ m, isWordChar c = true := by
  induction h with
  | nil => simp
  | @cons l c ls m hc _ ih =>
      have hu := hl l List.mem_cons_self
      rw [upper_of_isUpper hu] at hc
      intro d hd
      rcases List.mem_cons.1 hd with rfl | hd
      · exact isWordChar_of_upper_eq hu hc
      · exact ih (fun l hl' => hl l (List.mem_cons_of_mem _ hl')) d hd

/-- A spelling of no letters is empty, and of some letters is not. -/
theorem SameLetters.eq_nil_iff {ls m : Text} (h : SameLetters ls m) : m = [] ↔ ls = [] := by
  rw [← List.length_eq_zero_iff, ← List.length_eq_zero_iff, h.length_eq]

/-- A text spells one row of capitals at most. -/
theorem SameLetters.unique {ls ls' m : Text} (h : SameLetters ls m) (h' : SameLetters ls' m)
    (hl : ∀ l ∈ ls, l.isUpper = true) (hl' : ∀ l ∈ ls', l.isUpper = true) : ls = ls' := by
  induction h generalizing ls' with
  | nil => exact (h'.eq_nil_iff.1 rfl).symm
  | @cons l c ls m hc _ ih =>
      obtain ⟨l', ls', hc', hm', rfl⟩ := List.forall₂_cons_right_iff.1 h'
      rw [hc, upper_of_isUpper (hl l List.mem_cons_self),
        upper_of_isUpper (hl' l' List.mem_cons_self), List.cons.injEq] at hc'
      rw [hc'.1, ih hm' (fun l h => hl l (List.mem_cons_of_mem _ h))
        (fun l h => hl' l (List.mem_cons_of_mem _ h))]

/-- Letters in front are taken off by their spellings. -/
theorem dropLetters?_append {ls : Text} (h : ∀ l ∈ ls, l ≠ ' ') {more t rest : Text} :
    Word.dropLetters? (ls ++ more) t = some rest ↔
      ∃ m t', t = m ++ t' ∧ SameLetters ls m ∧ Word.dropLetters? more t' = some rest := by
  induction ls generalizing t with
  | nil =>
      constructor
      · intro ht
        exact ⟨[], t, rfl, .nil, ht⟩
      · rintro ⟨m, t', rfl, hm, ht⟩
        cases hm
        exact ht
  | cons l ls ih =>
      have hl : l ≠ ' ' := h l List.mem_cons_self
      have ih := @ih fun l hl' => h l (List.mem_cons_of_mem _ hl')
      cases t with
      | nil =>
          rw [List.cons_append, Word.dropLetters?]
          constructor
          · intro ht
            cases ht
          · rintro ⟨m, t', ht, hm, -⟩
            cases hm
            cases ht
      | cons c t =>
          rw [List.cons_append, Word.dropLetters?, if_neg hl]
          by_cases hc : upper c = upper l
          · rw [if_pos hc, ih]
            constructor
            · rintro ⟨m, t', rfl, hm, ht⟩
              exact ⟨c :: m, t', rfl, .cons hc hm, ht⟩
            · rintro ⟨_, t', ht, hm, ht'⟩
              cases hm with
              | @cons _ d _ m _ hm =>
                  rw [List.cons_append, List.cons.injEq] at ht
                  exact ⟨m, t', ht.2, hm, ht'⟩
          · rw [if_neg hc]
            constructor
            · intro ht
              cases ht
            · rintro ⟨_, t', ht, hm, -⟩
              cases hm with
              | @cons _ d _ m hd _ =>
                  rw [List.cons_append, List.cons.injEq] at ht
                  rw [ht.1] at hc
                  exact absurd hd hc

/-- A space takes a run of blanks. -/
theorem dropLetters?_space {more t rest : Text} :
    Word.dropLetters? (' ' :: more) t = some rest ↔
      ∃ g t', t = g ++ t' ∧ g ≠ [] ∧ Text.isBlankText g = true ∧ t'.head?.any isBlank = false ∧
        Word.dropLetters? more t' = some rest := by
  constructor
  · intro h
    cases t with
    | nil => cases h
    | cons c t =>
        rw [Word.dropLetters?, if_pos rfl] at h
        split at h
        · next hc =>
            refine ⟨c :: t.takeWhile isBlank, t.dropWhile isBlank, ?_, by simp, ?_,
              head?_dropWhile t, h⟩
            · rw [List.cons_append, List.takeWhile_append_dropWhile]
            · rw [Text.isBlankText, List.all_cons, hc, List.all_takeWhile]
              rfl
        · cases h
  · rintro ⟨g, t', rfl, hg, hb, hh, h⟩
    cases g with
    | nil => exact absurd rfl hg
    | cons c g =>
        rw [Text.isBlankText, List.all_cons, Bool.and_eq_true] at hb
        rw [List.cons_append, Word.dropLetters?, if_pos rfl, if_pos hb.1,
          dropWhile_append_all hb.2 hh]
        exact h

namespace Keyword

/-! ## the words of a keyword -/

def firstWord : Keyword → Text
  | groupBy => "GROUP".toList
  | orderBy => "ORDER".toList
  | k => k.letters

/-- The second word of a keyword, if it has one. -/
def secondWord : Keyword → Text
  | groupBy | orderBy => "BY".toList
  | _ => []

theorem letters_of_secondWord_eq_nil {k : Keyword} (h : k.secondWord = []) :
    k.letters = k.firstWord := by
  cases k <;> first | rfl | cases h

theorem letters_of_secondWord_ne_nil {k : Keyword} (h : k.secondWord ≠ []) :
    k.letters = k.firstWord ++ ' ' :: k.secondWord := by
  cases k <;> first | rfl | exact absurd rfl h

theorem isUpper_of_mem_firstWord (k : Keyword) : ∀ l ∈ k.firstWord, l.isUpper = true := by
  cases k <;> exact forall_mem_of_all (by decide)

theorem isUpper_of_mem_secondWord (k : Keyword) : ∀ l ∈ k.secondWord, l.isUpper = true := by
  cases k <;> exact forall_mem_of_all (by decide)

@[simp] theorem firstWord_ne_nil (k : Keyword) : k.firstWord ≠ [] := by cases k <;> decide

/-- Every second word is `BY`. -/
theorem head?_secondWord {k : Keyword} {l : Char} (h : l ∈ k.secondWord.head?) : l = 'B' := by
  cases k <;> simp_all [secondWord, eq_comm]

theorem ne_space_of_isUpper {l : Char} (h : l.isUpper = true) : l ≠ ' ' := by
  rintro rfl
  cases h

/-! ## spellings -/

/-- `m` spells the keyword: its words in any case, with blanks between two. -/
def Spelled (k : Keyword) (m : Text) : Prop :=
  ∃ m₁ g m₂, m = m₁ ++ g ++ m₂ ∧ SameLetters k.firstWord m₁ ∧ Text.isBlankText g = true ∧
    (g = [] ↔ k.secondWord = []) ∧ SameLetters k.secondWord m₂

/-- The letters of a keyword take its spellings off a text. -/
theorem dropLetters?_eq_some_iff {k : Keyword} {t rest : Text} :
    Word.dropLetters? k.letters t = some rest ↔ ∃ m, k.Spelled m ∧ t = m ++ rest := by
  have h₁ : ∀ l ∈ k.firstWord, l ≠ ' ' := fun l hl =>
    ne_space_of_isUpper (isUpper_of_mem_firstWord k l hl)
  have h₂ : ∀ l ∈ k.secondWord, l ≠ ' ' := fun l hl =>
    ne_space_of_isUpper (isUpper_of_mem_secondWord k l hl)
  by_cases hs : k.secondWord = []
  · rw [letters_of_secondWord_eq_nil hs, ← List.append_nil k.firstWord, dropLetters?_append h₁]
    constructor
    · rintro ⟨m, t', rfl, hm, ht⟩
      cases ht
      exact ⟨m, ⟨m, [], [], by simp, hm, rfl, by simp [hs], by rw [hs]; exact .nil⟩, rfl⟩
    · rintro ⟨m, ⟨m₁, g, m₂, rfl, hm₁, -, hg, hm₂⟩, rfl⟩
      rw [hg.2 hs, hm₂.eq_nil_iff.2 hs, List.append_nil, List.append_nil]
      exact ⟨m₁, rest, rfl, hm₁, rfl⟩
  · rw [letters_of_secondWord_ne_nil hs, dropLetters?_append h₁]
    constructor
    · rintro ⟨m₁, t', rfl, hm₁, ht⟩
      obtain ⟨g, t'', rfl, hg, hb, -, ht⟩ := dropLetters?_space.1 ht
      rw [← List.append_nil k.secondWord, dropLetters?_append h₂] at ht
      obtain ⟨m₂, t₃, rfl, hm₂, ht⟩ := ht
      cases ht
      refine ⟨m₁ ++ g ++ m₂, ⟨m₁, g, m₂, rfl, hm₁, hb, ?_, hm₂⟩, by simp⟩
      simp [hg, hs]
    · rintro ⟨m, ⟨m₁, g, m₂, rfl, hm₁, hb, hg, hm₂⟩, rfl⟩
      refine ⟨m₁, g ++ (m₂ ++ rest), by simp, hm₁, dropLetters?_space.2
        ⟨g, m₂ ++ rest, rfl, fun h => hs (hg.1 h), hb, ?_, ?_⟩⟩
      · cases m₂ with
        | nil => exact absurd (hm₂.eq_nil_iff.1 rfl) hs
        | cons c m₂ =>
            have hc := hm₂.isWordChar (isUpper_of_mem_secondWord k) c List.mem_cons_self
            simp [isBlank_of_isWordChar hc]
      · rw [← List.append_nil k.secondWord, dropLetters?_append h₂]
        exact ⟨m₂, rest, rfl, hm₂, rfl⟩

/-- The letters of a keyword take all of a spelling. -/
theorem spelled_iff {k : Keyword} {m : Text} :
    k.Spelled m ↔ Word.dropLetters? k.letters m = some [] := by
  simp [dropLetters?_eq_some_iff]

instance (k : Keyword) : DecidablePred k.Spelled := fun _ => decidable_of_iff _ spelled_iff.symm

@[simp] theorem spelled_name (k : Keyword) : k.Spelled k.name := by cases k <;> decide

/-- A spelling starts with a name character. -/
theorem Spelled.head {k : Keyword} {m : Text} (h : k.Spelled m) :
    ∃ c rest, m = c :: rest ∧ isWordChar c = true ∧
      ∃ l ls, k.firstWord = l :: ls ∧ upper c = upper l := by
  obtain ⟨m₁, g, m₂, rfl, hm₁, -⟩ := h
  have hw := hm₁.isWordChar (isUpper_of_mem_firstWord k)
  rw [SameLetters] at hm₁
  cases hm : m₁ with
  | nil =>
      rw [hm, List.forall₂_nil_right_iff] at hm₁
      exact absurd hm₁ k.firstWord_ne_nil
  | cons c rest =>
      rw [hm] at hm₁ hw
      obtain ⟨l, ls, hc, -, hl⟩ := List.forall₂_cons_right_iff.1 hm₁
      exact ⟨c, rest ++ g ++ m₂, by simp, hw c List.mem_cons_self, l, ls, hl, hc⟩

theorem Spelled.ne_nil {k : Keyword} {m : Text} (h : k.Spelled m) : m ≠ [] := by
  obtain ⟨c, rest, rfl, -⟩ := h.head
  simp

theorem Spelled.getLast? {k : Keyword} {m : Text} (h : k.Spelled m) :
    m.getLast?.any isWordChar = true := by
  obtain ⟨m₁, g, m₂, rfl, hm₁, -, hg, hm₂⟩ := h
  have hw₁ := hm₁.isWordChar (isUpper_of_mem_firstWord k)
  have hw₂ := hm₂.isWordChar (isUpper_of_mem_secondWord k)
  cases h₂ : m₂.getLast? with
  | some c =>
      simp [h₂, hw₂ c (List.mem_of_getLast? h₂)]
  | none =>
      rw [List.getLast?_eq_none_iff] at h₂
      rw [hg.2 (hm₂.eq_nil_iff.1 h₂), h₂, List.append_nil, List.append_nil]
      cases h₁ : m₁.getLast? with
      | some c => exact hw₁ c (List.mem_of_getLast? h₁)
      | none =>
          rw [List.getLast?_eq_none_iff] at h₁
          exact absurd (hm₁.eq_nil_iff.1 h₁) k.firstWord_ne_nil

/-- A spelling is made of name characters and blanks, and a keyword of one word has no blank. -/
theorem Spelled.char {k : Keyword} {m : Text} (h : k.Spelled m) {c : Char} (hc : c ∈ m) :
    isWordChar c = true ∨ isBlank c = true ∧ k.secondWord ≠ [] := by
  obtain ⟨m₁, g, m₂, rfl, hm₁, hb, hg, hm₂⟩ := h
  rcases List.mem_append.1 hc with hc | hc
  · rcases List.mem_append.1 hc with hc | hc
    · exact .inl (hm₁.isWordChar (isUpper_of_mem_firstWord k) c hc)
    · refine .inr ⟨List.all_eq_true.1 hb c hc, fun hs => ?_⟩
      rw [hg.2 hs] at hc
      cases hc
  · exact .inl (hm₂.isWordChar (isUpper_of_mem_secondWord k) c hc)

/-- The spellings of a keyword of one word. -/
theorem spelled_iff_of_secondWord {k : Keyword} {m : Text} (hk : k.secondWord = []) :
    k.Spelled m ↔ SameLetters k.firstWord m := by
  constructor
  · intro ⟨m₁, g, m₂, hm, hm₁, _, hg, hm₂⟩
    rw [hg.2 hk, hm₂.eq_nil_iff.2 hk, List.append_nil, List.append_nil] at hm
    rw [hm]
    exact hm₁
  · intro hm
    exact ⟨m, [], [], by simp, hm, rfl, by simp [hk], by rw [hk]; exact .nil⟩

theorem Spelled.exists_blank {k : Keyword} {m : Text} (h : k.Spelled m)
    (hs : k.secondWord ≠ []) : ∃ c ∈ m, isBlank c = true := by
  obtain ⟨m₁, g, m₂, rfl, -, hb, hg, -⟩ := h
  cases g with
  | nil => exact absurd (hg.1 rfl) hs
  | cons c g =>
      rw [Text.isBlankText, List.all_cons, Bool.and_eq_true] at hb
      exact ⟨c, by simp, hb.1⟩

end Keyword

/-! ## cuts between names -/

/-- No name runs on from the end of `u` into `v`. -/
def Text.Breaks (u v : Text) : Prop :=
  u.getLast?.any isWordChar = false ∨ v.head?.any isWordChar = false

/-- Whether a name runs on depends on the end of what comes before. -/
theorem Text.breaks_append_cons {u v w : Text} {c : Char} :
    Text.Breaks (u ++ c :: v) w ↔ Text.Breaks (c :: v) w := by
  simp [Text.Breaks, List.getLast?_append, List.getLast?_cons]

theorem any_head?_of_append {p : α → Bool} {u v : List α} (h : (u ++ v).head?.any p = false) :
    u.head?.any p = false := by
  cases u with
  | nil => rfl
  | cons c u => simpa using h

theorem any_getLast?_of_append {p : α → Bool} {u v : List α}
    (h : (u ++ v).getLast?.any p = false) : v.getLast?.any p = false := by
  rw [List.getLast?_append] at h
  cases hv : v.getLast? with
  | none => rfl
  | some c => simpa [hv] using h

theorem Text.Breaks.of_append {u v w : Text} (h : Text.Breaks (u ++ v) w) : Text.Breaks v w :=
  h.imp_left any_getLast?_of_append

theorem isWordChar_of_mem_blanks {g : Text} (hg : Text.isBlankText g = true) {c : Char}
    (hc : c ∈ g) : isWordChar c = false :=
  isWordChar_of_isBlank (List.all_eq_true.1 hg c hc)

/-- No name runs out of blanks at the end. -/
theorem isWordChar_getLast?_append {u g : Text} (hu : u.getLast?.any isWordChar = false)
    (hg : Text.isBlankText g = true) : (u ++ g).getLast?.any isWordChar = false := by
  rw [List.getLast?_append]
  cases h : g.getLast? with
  | none => exact hu
  | some c => exact isWordChar_of_mem_blanks hg (List.mem_of_getLast? h)

/-- No name runs into blanks in front. -/
theorem isWordChar_head?_append {g v : Text} (hg : Text.isBlankText g = true)
    (hv : v.head?.any isWordChar = false) : (g ++ v).head?.any isWordChar = false := by
  rw [List.head?_append]
  cases h : g.head? with
  | none => exact hv
  | some c => exact isWordChar_of_mem_blanks hg (List.mem_of_head? h)

/-- Neither does one run out of a blank text or into it. -/
theorem isWordChar_getLast?_blanks {g : Text} (hg : Text.isBlankText g = true) :
    g.getLast?.any isWordChar = false :=
  isWordChar_getLast?_append (u := []) rfl hg

theorem isWordChar_head?_blanks {g : Text} (hg : Text.isBlankText g = true) :
    g.head?.any isWordChar = false := by
  have hh := isWordChar_head?_append hg (v := []) rfl
  rwa [List.append_nil] at hh

/-- Blanks at the end end a name. -/
theorem isWordChar_getLast?_of_blank {u g : Text} (hn : g ≠ []) (hg : Text.isBlankText g = true) :
    (u ++ g).getLast?.any isWordChar = false := by
  rw [List.getLast?_append, List.getLast?_eq_some_getLast hn, Option.some_or]
  exact isWordChar_of_mem_blanks hg (List.getLast_mem hn)

theorem isWordChar_head?_of_blank {g v : Text} (hn : g ≠ []) (hg : Text.isBlankText g = true) :
    (g ++ v).head?.any isWordChar = false := by
  obtain ⟨c, g, rfl⟩ := List.exists_cons_of_ne_nil hn
  exact isWordChar_of_mem_blanks hg List.mem_cons_self

theorem isWordChar_head?_of_all {v : Text} (hv : v.head?.all isBlank = true) :
    v.head?.any isWordChar = false := by
  cases h : v.head? with
  | none => rfl
  | some c =>
      rw [h] at hv
      exact isWordChar_of_isBlank hv

/-- A cut inside a row of name characters cuts a name. -/
theorem Text.not_breaks_of_all {u v : Text} (hu : u ≠ []) (hv : v ≠ [])
    (h : ∀ c ∈ u ++ v, isWordChar c = true) : ¬ Text.Breaks u v := by
  obtain ⟨c, hc⟩ : ∃ c, u.getLast? = some c := by
    cases hc : u.getLast? with
    | none => exact absurd (List.getLast?_eq_none_iff.1 hc) hu
    | some c => exact ⟨c, rfl⟩
  obtain ⟨d, v, rfl⟩ := List.exists_cons_of_ne_nil hv
  rintro (hb | hb)
  · simp [hc, h c (List.mem_append_left _ (List.mem_of_getLast? hc))] at hb
  · simp [h d (by simp)] at hb

/-- A spelling that is cut, but not inside a name, is cut between its two words. -/
theorem Keyword.Spelled.cut {k : Keyword} {x y : Text} (h : k.Spelled (x ++ y)) (hx : x ≠ [])
    (hy : y ≠ []) (hb : Text.Breaks x y) :
    ∃ m₁ g₁ g₂ m₂, x = m₁ ++ g₁ ∧ y = g₂ ++ m₂ ∧ Text.isBlankText g₁ = true ∧
      Text.isBlankText g₂ = true ∧ SameLetters k.firstWord m₁ ∧ SameLetters k.secondWord m₂ ∧
      k.secondWord ≠ [] := by
  obtain ⟨m₁, g, m₂, hm, hm₁, hbg, hg, hm₂⟩ := h
  have hw₁ := hm₁.isWordChar (isUpper_of_mem_firstWord k)
  have hw₂ := hm₂.isWordChar (isUpper_of_mem_secondWord k)
  have hsecond : g ++ m₂ ≠ [] → k.secondWord ≠ [] := by
    intro hne hs
    rw [hg.2 hs, hm₂.eq_nil_iff.2 hs] at hne
    exact hne rfl
  -- the cut is in the first word, between the words or in the second; inside a word it cuts a name
  rw [List.append_assoc, List.append_eq_append_iff] at hm
  rcases hm with ⟨as, rfl, hyg⟩ | ⟨bs, rfl, hm⟩
  · cases as with
    | nil =>
        rw [List.nil_append] at hyg
        exact ⟨x, [], g, m₂, by simp, hyg, rfl, hbg, by simpa using hm₁, hm₂,
          hsecond (hyg ▸ hy)⟩
    | cons c as =>
        refine absurd ?_ (Text.not_breaks_of_all hx (List.cons_ne_nil c as) hw₁)
        rw [hyg] at hb
        simpa [Text.Breaks] using hb
  · rw [List.append_eq_append_iff] at hm
    rcases hm with ⟨cs, rfl, rfl⟩ | ⟨ds, rfl, rfl⟩
    · cases cs with
      | nil =>
          exact ⟨m₁, g, [], y, by simp, rfl, hbg, rfl, hm₁, hm₂, hsecond (by simp [hy])⟩
      | cons c cs =>
          refine absurd ?_ (Text.not_breaks_of_all (List.cons_ne_nil c cs) hy hw₂)
          rwa [← List.append_assoc, Text.breaks_append_cons] at hb
    · rw [Text.isBlankText_append, Bool.and_eq_true] at hbg
      refine ⟨m₁, bs, ds, m₂, rfl, rfl, hbg.1, hbg.2, hm₁, hm₂, hsecond ?_⟩
      intro hn
      rw [List.append_assoc, List.append_eq_nil_iff] at hn
      exact hy hn.2

/-- Behind a cut between its two words a spelling goes on with `BY`. -/
theorem Keyword.Spelled.cut_head {k : Keyword} {x y : Text} (h : k.Spelled (x ++ y)) (hx : x ≠ [])
    (hy : y ≠ []) (hb : Text.Breaks x y) :
    k.secondWord ≠ [] ∧ ∃ g c w, y = g ++ c :: w ∧ Text.isBlankText g = true ∧
      upper c = ['B'] := by
  obtain ⟨-, -, g, m, -, rfl, -, hg, -, hm, hs⟩ := h.cut hx hy hb
  obtain ⟨c, w, rfl⟩ := List.exists_cons_of_ne_nil fun hn => hs (hm.eq_nil_iff.1 hn)
  refine ⟨hs, g, c, w, rfl, hg, ?_⟩
  obtain ⟨l, ls, hc, -, hl⟩ := List.forall₂_cons_right_iff.1 hm
  rw [hc, head?_secondWord (k := k) (l := l) (by rw [hl]; rfl)]
  exact upper_of_isUpper (by decide)

namespace Keyword

/-! ## standing alone -/

/-- `m` spells the keyword, and no name character touches it on either side. -/
def Stands (k : Keyword) (before : Option Char) (m : Text) (after : Option Char) : Prop :=
  k.Spelled m ∧ before.any isWordChar = false ∧ after.any isWordChar = false

/-- A keyword matches where it stands. -/
theorem matchLength?_eq_some_iff {k : Keyword} {before : Option Char} {t : Text} {n : Nat} :
    k.word.matchLength? before t = some n ↔
      ∃ m rest, t = m ++ rest ∧ m.length = n ∧ k.Stands before m rest.head? := by
  rw [Word.matchLength?]
  constructor
  · intro h
    split at h
    · cases h
    · next rest hr =>
        obtain ⟨m, hm, rfl⟩ := dropLetters?_eq_some_iff.1 hr
        split at h
        · cases h
        · next hb =>
            rw [Bool.or_eq_true, not_or, Bool.not_eq_true, Bool.not_eq_true] at hb
            refine ⟨m, rest, rfl, ?_, hm, hb.1, hb.2⟩
            simpa using h
  · rintro ⟨m, rest, rfl, rfl, hm, hb, ha⟩
    have hd : Word.dropLetters? k.word.letters (m ++ rest) = some rest :=
      dropLetters?_eq_some_iff.2 ⟨m, hm, rfl⟩
    simp [hd, hb, ha]

/-- A keyword that does not match stands nowhere at the start of the text. -/
theorem matchLength?_eq_none_iff {k : Keyword} {before : Option Char} {t : Text} :
    k.word.matchLength? before t = none ↔
      ∀ m rest, t = m ++ rest → ¬ k.Stands before m rest.head? := by
  constructor
  · intro h m rest ht hs
    rw [matchLength?_eq_some_iff.2 ⟨m, rest, ht, rfl, hs⟩] at h
    cases h
  · intro h
    cases hn : k.word.matchLength? before t with
    | none => rfl
    | some n =>
        obtain ⟨m, rest, ht, -, hs⟩ := matchLength?_eq_some_iff.1 hn
        exact absurd hs (h m rest ht)

end Keyword

end FlatQuery
