import FlatQuery.Proofs.Bodies
import FlatQuery.Proofs.Survey
import Mathlib.Data.List.Pairwise

/-!
# FlatQuery.Proofs.Tiling

The keywords of a layout and what stands between them.

A layout tells where the keywords are; what stands between two neighbours, less the blanks at its
ends, is the segment of the first one.  The keywords and the segments are the tiles of the text:
they stand one after another, and nothing but blanks is between them.

* `Layout.words`, `Layout.tiles` — the keywords and the tiles, in order;
* `Layout.existsUnique_tile` — where keywords are in order, each character that is no blank is in
  one tile;
* `Layout.tiled_of_locate` — a layout that is found tiles its text.
-/

namespace FlatQuery

/-! ## spans -/

def Span.Holds (s : Span) (i : Nat) : Prop := s.start ≤ i ∧ i < s.stop

namespace Text

/-- The place of the trimmed text of a range. -/
def trimSpan (t : Text) (start stop : Nat) : Span :=
  .after (t.take start ++ (t.slice start stop).takeWhile isBlank) (trim (t.slice start stop))

/-- A text is a range of it and what is around the range. -/
theorem eq_append_slice {start stop : Nat} (t : Text) (h : start ≤ stop) :
    t = t.take start ++ (t.slice start stop ++ t.drop stop) := by
  have hs : t.take start ++ t.slice start stop = t.take stop := by
    have htake : t.take start = (t.take stop).take start := by
      rw [List.take_take, Nat.min_eq_left h]
    rw [htake, slice, List.take_append_drop]
  rw [← List.append_assoc, hs, List.take_append_drop]

/-- A character at a position in the middle of a text. -/
theorem mem_of_getElem? {u m v : Text} {i : Nat} {c : Char} (h : (u ++ (m ++ v))[i]? = some c)
    (hu : u.length ≤ i) (hm : i < (u ++ m).length) : c ∈ m := by
  rw [List.length_append] at hm
  rw [List.getElem?_append_right hu, List.getElem?_append_left (by omega)] at h
  exact List.mem_of_getElem? h

section Range

variable {t : Text} {start stop : Nat} (h : start ≤ stop) (hl : stop ≤ t.length)
include h hl

/-- A range is its trimmed text with blanks around it. -/
theorem exists_trimSpan :
    ∃ u g g' v, t = u ++ (g ++ (trim (t.slice start stop) ++ (g' ++ v))) ∧
      isBlankText g = true ∧ isBlankText g' = true ∧ start = u.length ∧
      stop = u.length + g.length + (trim (t.slice start stop)).length + g'.length ∧
      t.trimSpan start stop = .after (u ++ g) (trim (t.slice start stop)) := by
  have hx : t.slice start stop = (t.slice start stop).takeWhile isBlank ++
      (trim (t.slice start stop) ++
        ((trimStart (t.slice start stop)).reverse.takeWhile isBlank).reverse) := by
    rw [trim, trimEnd_append, takeWhile_append_trimStart]
  have hlength : (t.slice start stop).length = stop - start := by
    rw [length_slice, Nat.min_eq_left hl]
  refine ⟨t.take start, (t.slice start stop).takeWhile isBlank,
    ((trimStart (t.slice start stop)).reverse.takeWhile isBlank).reverse, t.drop stop, ?_,
    List.all_takeWhile, ?_, ?_, ?_, rfl⟩
  · have ht := eq_append_slice t h
    rw [hx] at ht
    simpa using ht
  · rw [isBlankText, List.all_reverse]
    exact List.all_takeWhile
  · rw [List.length_take]
    omega
  · rw [hx] at hlength
    simp only [List.length_append, List.length_take] at hlength ⊢
    omega

/-- The trimmed text of a range stands in the range. -/
theorem trimSpan_le : start ≤ (t.trimSpan start stop).start ∧
    (t.trimSpan start stop).start ≤ (t.trimSpan start stop).stop ∧
    (t.trimSpan start stop).stop ≤ stop := by
  obtain ⟨u, g, g', v, -, -, -, hstart, hstop, hs⟩ := exists_trimSpan h hl
  simp only [hs, Span.start_after, Span.stop_after, List.length_append]
  omega

theorem slice_trimSpan :
    t.slice (t.trimSpan start stop).start (t.trimSpan start stop).stop =
      trim (t.slice start stop) := by
  obtain ⟨u, g, g', v, ht, -, -, -, -, hs⟩ := exists_trimSpan h hl
  have hm := slice_append_mid (u ++ g) (trim (t.slice start stop)) (g' ++ v)
  rw [List.append_assoc, ← ht] at hm
  rw [hs]
  exact hm

/-- The place of its trimmed text holds every character of a range that is no blank. -/
theorem trimSpan_holds {i : Nat} {c : Char} (hi : t[i]? = some c) (hc : isBlank c = false)
    (hs : start ≤ i) (hst : i < stop) : (t.trimSpan start stop).Holds i := by
  obtain ⟨u, g, g', v, ht, hg, hg', hstart, hstop, hspan⟩ := exists_trimSpan h hl
  generalize trim (t.slice start stop) = m at *
  rw [hspan]
  constructor
  · by_contra hlt
    rw [ht] at hi
    have hin : i < (u ++ g).length := by simpa using hlt
    exact notMem_of_isBlankText hg hc (mem_of_getElem? hi (by omega) hin)
  · by_contra hlt
    have ht' : t = (u ++ (g ++ m)) ++ (g' ++ v) := by rw [ht]; simp
    rw [ht'] at hi
    refine notMem_of_isBlankText hg' hc (mem_of_getElem? hi ?_ ?_)
    · simp at hlt ⊢
      omega
    · simp
      omega

end Range

end Text

/-! ## the tiles of a layout -/

namespace Keyword

/-- The keywords that do not stand in the segment of a clause: those that would end it. -/
def barred : Keyword → List Keyword
  | select => [source]
  | filter => [groupBy, orderBy]
  | groupBy => [orderBy]
  | source | orderBy | and | or => []

@[simp] theorem mem_barred_select {k : Keyword} : k ∈ select.barred ↔ k = .source := by
  simp [barred]

@[simp] theorem mem_barred_filter {k : Keyword} :
    k ∈ filter.barred ↔ k = .groupBy ∨ k = .orderBy := by
  simp [barred]

@[simp] theorem mem_barred_groupBy {k : Keyword} : k ∈ groupBy.barred ↔ k = .orderBy := by
  simp [barred]

end Keyword

namespace Layout

/-- Where the keyword of a clause stands. -/
def word? (l : Layout) : Keyword → Option Span
  | .select => some l.selectWord
  | .source => some l.fromWord
  | .filter => l.filterWord
  | .groupBy => l.groupByWord
  | .orderBy => l.orderByWord
  | .and | .or => none

/-- The keywords of the optional clauses that there are. -/
def optionalWords (l : Layout) : List (Keyword × Span) :=
  Keyword.optionalClauses.filterMap fun k => (l.word? k).map (k, ·)

theorem optionalWords_eq (l : Layout) : l.optionalWords =
    [(Keyword.filter, l.filterWord), (.groupBy, l.groupByWord), (.orderBy, l.orderByWord)].filterMap
      fun x => x.2.map (x.1, ·) := rfl

/-- The keywords that there are, in the order of the clauses. -/
def words (l : Layout) : List (Keyword × Span) :=
  (.select, l.selectWord) :: (.source, l.fromWord) :: l.optionalWords

/-- The spans that a layout consists of, in the order of the clauses. -/
def spans (l : Layout) : List Span :=
  [some l.selectWord, some l.fromWord, some l.source, l.filterWord, l.groupByWord,
    l.orderByWord].filterMap id

theorem spans_eq (l : Layout) :
    l.spans = l.selectWord :: l.fromWord :: l.source :: l.optionalWords.map Prod.snd := by
  obtain ⟨a, b, c, f, g, o⟩ := l
  cases f <;> cases g <;> cases o <;> rfl

/-- The text behind the keyword of a clause. -/
def segment? (l : Layout) (t : Text) : Keyword → Option Text
  | .select => some (l.selectedSegment t)
  | .source => some (l.sourceName t)
  | .filter => l.conditionSegment? t
  | .groupBy => l.groupBySegment? t
  | .orderBy => l.orderBySegment? t
  | .and | .or => none

/-- A part of a query: a keyword, or the segment behind it. -/
inductive Part where
  | word (k : Keyword)
  | segment (k : Keyword)
deriving DecidableEq

/-- A part of a query and its place. -/
structure Tile where
  part : Part
  span : Span
deriving DecidableEq

/-- Where the first of some keywords stands, or the end of the text when there is none. -/
def nextStart (t : Text) (words : List (Keyword × Span)) : Nat :=
  (words.head?.map (·.2.start)).getD t.length

@[simp] theorem nextStart_nil (t : Text) : nextStart t [] = t.length := rfl

@[simp] theorem nextStart_cons (t : Text) (w : Keyword × Span) (rest : List (Keyword × Span)) :
    nextStart t (w :: rest) = w.2.start := rfl

/-- Keywords, each with the trimmed text up to the next one. -/
def tilesFrom (t : Text) : List (Keyword × Span) → List Tile
  | [] => []
  | (k, w) :: rest =>
      ⟨.word k, w⟩ :: ⟨.segment k, t.trimSpan w.stop (nextStart t rest)⟩ :: tilesFrom t rest

@[simp] theorem tilesFrom_nil (t : Text) : tilesFrom t [] = [] := rfl

@[simp] theorem tilesFrom_cons (t : Text) (w : Keyword × Span) (rest : List (Keyword × Span)) :
    tilesFrom t (w :: rest) = ⟨.word w.1, w.2⟩ ::
      ⟨.segment w.1, t.trimSpan w.2.stop (nextStart t rest)⟩ :: tilesFrom t rest := rfl

/-- The keywords of a layout and the texts between them. -/
def tiles (l : Layout) (t : Text) : List Tile := tilesFrom t l.words

/-- Keywords that are in order, none of them empty. -/
def Ordered (t : Text) : List (Keyword × Span) → Prop
  | [] => True
  | (_, w) :: rest => w.start < w.stop ∧ w.stop ≤ nextStart t rest ∧ Ordered t rest

section Ordered

variable {t : Text} {ws : List (Keyword × Span)}

theorem Ordered.nextStart_le (h : Ordered t ws) : nextStart t ws ≤ t.length := by
  induction ws with
  | nil => exact Nat.le_refl _
  | cons w rest ih =>
      obtain ⟨hw, hn, hrest⟩ := h
      have hr := ih hrest
      rw [nextStart_cons]
      omega

/-- The tiles stand no earlier than the first keyword. -/
theorem Ordered.le_of_mem (h : Ordered t ws) {x : Tile} (hx : x ∈ tilesFrom t ws) :
    nextStart t ws ≤ x.span.start := by
  induction ws with
  | nil => cases hx
  | cons w rest ih =>
      obtain ⟨hw, hn, hrest⟩ := h
      have hb := Text.trimSpan_le hn hrest.nextStart_le
      simp only [tilesFrom_cons, List.mem_cons] at hx
      rw [nextStart_cons]
      rcases hx with rfl | rfl | hx
      · exact Nat.le_refl _
      · dsimp only
        omega
      · have hr := ih hrest hx
        omega

/-- The tiles stand one after another. -/
theorem Ordered.pairwise (h : Ordered t ws) :
    (tilesFrom t ws).Pairwise fun x y => x.span.stop ≤ y.span.start := by
  induction ws with
  | nil => exact .nil
  | cons w rest ih =>
      obtain ⟨hw, hn, hrest⟩ := h
      have hb := Text.trimSpan_le hn hrest.nextStart_le
      rw [tilesFrom_cons, List.pairwise_cons, List.pairwise_cons]
      refine ⟨fun x hx => ?_, fun x hx => ?_, ih hrest⟩
      · rcases List.mem_cons.1 hx with rfl | hx
        · exact hb.1
        · exact Nat.le_trans hn (hrest.le_of_mem hx)
      · exact Nat.le_trans hb.2.2 (hrest.le_of_mem hx)

/-- Every character behind the first keyword is in a tile, unless it is blank. -/
theorem Ordered.exists_tile (h : Ordered t ws) {i : Nat} {c : Char} (hi : t[i]? = some c)
    (hc : isBlank c = false) (hw : nextStart t ws ≤ i) : ∃ x ∈ tilesFrom t ws, x.span.Holds i := by
  induction ws with
  | nil =>
      have hlt := (List.getElem?_eq_some_iff.1 hi).1
      exact absurd hw (Nat.not_le.2 hlt)
  | cons w rest ih =>
      obtain ⟨-, hn, hrest⟩ := h
      simp only [tilesFrom_cons, List.exists_mem_cons_iff]
      by_cases hword : i < w.2.stop
      · exact .inl ⟨hw, hword⟩
      by_cases hnext : i < nextStart t rest
      · exact .inr (.inl (Text.trimSpan_holds hn hrest.nextStart_le hi hc (by omega) hnext))
      · exact .inr (.inr (ih hrest (by omega)))

/-- And in one only. -/
theorem Ordered.existsUnique_tile (h : Ordered t ws) {i : Nat} {c : Char} (hi : t[i]? = some c)
    (hc : isBlank c = false) (hw : nextStart t ws ≤ i) :
    ∃! x, x ∈ tilesFrom t ws ∧ x.span.Holds i := by
  obtain ⟨x, hx, hxi⟩ := h.exists_tile hi hc hw
  refine ⟨x, ⟨hx, hxi⟩, fun y ⟨hy, hyi⟩ => ?_⟩
  have hdisjoint : (tilesFrom t ws).Pairwise fun x y => ¬ (x.span.Holds i ∧ y.span.Holds i) := by
    refine h.pairwise.imp fun {x y} hle => ?_
    unfold Span.Holds
    omega
  have hsymm : Std.Symm fun x y : Tile => ¬ (x.span.Holds i ∧ y.span.Holds i) :=
    ⟨fun _ _ hn ha => hn ha.symm⟩
  by_contra hne
  exact hdisjoint.forall hy hx hne ⟨hyi, hxi⟩

@[simp] theorem word_mem_tilesFrom_iff {k : Keyword} {w : Span} :
    ⟨.word k, w⟩ ∈ tilesFrom t ws ↔ (k, w) ∈ ws := by
  induction ws with
  | nil => simp
  | cons a rest ih => simp [ih, Prod.ext_iff]

/-- Keywords in order start one after another. -/
theorem Ordered.pairwise_start (h : Ordered t ws) :
    ws.Pairwise fun a b => a.2.start < b.2.start := by
  induction ws with
  | nil => exact .nil
  | cons a rest ih =>
      obtain ⟨hw, hn, hrest⟩ := h
      refine List.pairwise_cons.2 ⟨fun b hb => ?_, ih hrest⟩
      have hle : nextStart t rest ≤ b.2.start := hrest.le_of_mem (word_mem_tilesFrom_iff.2 hb)
      omega

/-- The keywords from one of them on are in order. -/
theorem Ordered.of_append {before : List (Keyword × Span)} (h : Ordered t (before ++ ws)) :
    Ordered t ws := by
  induction before with
  | nil => exact h
  | cons a before ih => exact ih h.2.2

/-- A tile behind a keyword is the trimmed text up to the next one. -/
theorem segment_mem_tilesFrom_iff {k : Keyword} {s : Span} :
    ⟨.segment k, s⟩ ∈ tilesFrom t ws ↔ ∃ before w rest, ws = before ++ (k, w) :: rest ∧
      s = t.trimSpan w.stop (nextStart t rest) := by
  constructor
  · intro h
    induction ws with
    | nil => cases h
    | cons a rest ih =>
        simp only [tilesFrom_cons, List.mem_cons, Tile.mk.injEq, reduceCtorEq, false_and, false_or,
          Part.segment.injEq] at h
        rcases h with ⟨rfl, rfl⟩ | h
        · exact ⟨[], a.2, rest, rfl, rfl⟩
        · obtain ⟨before, w, more, rfl, rfl⟩ := ih h
          exact ⟨a :: before, w, more, rfl, rfl⟩
  · rintro ⟨before, w, rest, rfl, rfl⟩
    induction before with
    | nil => simp
    | cons a before ih => simp [ih]

end Ordered

/-! ## the words of a layout -/

variable {l : Layout} {t : Text} {k : Keyword} {w : Span}

/-- The keyword of an optional clause. -/
@[simp] theorem mem_optionalWords_iff :
    (k, w) ∈ l.optionalWords ↔ k ∈ Keyword.optionalClauses ∧ l.word? k = some w := by
  rw [optionalWords, List.mem_filterMap]
  constructor
  · rintro ⟨k', hk, hw⟩
    obtain ⟨w', hw', he⟩ := Option.map_eq_some_iff.1 hw
    cases he
    exact ⟨hk, hw'⟩
  · rintro ⟨hk, hw⟩
    exact ⟨k, hk, by rw [hw]; rfl⟩

@[simp] theorem mem_words_iff : (k, w) ∈ l.words ↔ l.word? k = some w := by
  rw [words, List.mem_cons, List.mem_cons, mem_optionalWords_iff]
  cases k <;> simp [word?, eq_comm]

/-- Keywords are in order when the spans of the layout are. -/
theorem ordered_words (hs : ∀ s ∈ l.spans, s.start < s.stop ∧ s.stop ≤ t.length)
    (hp : l.spans.Pairwise fun s s' => s.stop ≤ s'.start) : Ordered t l.words := by
  obtain ⟨a, b, c, f, g, o⟩ := l
  cases f <;> cases g <;> cases o <;>
    simp [spans, words, optionalWords_eq, Ordered] at hs hp ⊢ <;> omega

/-- No keyword comes before one whose segment it would end. -/
theorem pairwise_not_barred (l : Layout) : l.words.Pairwise fun a b => a.1 ∉ b.1.barred := by
  obtain ⟨a, b, c, f, g, o⟩ := l
  cases f <;> cases g <;> cases o <;>
    simp [words, optionalWords_eq, Keyword.barred]

/-- A keyword that would end a segment comes behind it. -/
theorem mem_rest_of_barred {before rest : List (Keyword × Span)} {k' : Keyword} {w' : Span}
    (h : l.words = before ++ (k, w) :: rest) (hk : k' ∈ k.barred) (hw : l.word? k' = some w') :
    (k', w') ∈ rest := by
  have hmem := mem_words_iff.2 hw
  have hp := l.pairwise_not_barred
  rw [h] at hmem hp
  rw [List.pairwise_append] at hp
  rcases List.mem_append.1 hmem with hb | hb
  · exact absurd hk (hp.2.2 _ hb _ List.mem_cons_self)
  rcases List.mem_cons.1 hb with he | hr
  · cases he
    cases k <;> simp [Keyword.barred] at hk
  · exact hr

/-- The clauses behind `select` start where their keywords do. -/
theorem clauseStarts_eq (l : Layout) : l.clauseStarts = l.words.tail.map (·.2.start) := by
  obtain ⟨a, b, c, f, g, o⟩ := l
  cases f <;> cases g <;> cases o <;> rfl

/-- A segment ends where the next keyword starts. -/
theorem bodyStop_of_words (ho : Ordered t l.words) {before rest : List (Keyword × Span)}
    (h : l.words = before ++ (k, w) :: rest) (hk : k ≠ .select) :
    l.bodyStop t w = nextStart t rest := by
  have hp := ho.pairwise_start
  cases before with
  | nil =>
      obtain ⟨a, b, c, f, g, o⟩ := l
      cases h
      exact absurd rfl hk
  | cons a before =>
      rw [h, List.cons_append, List.pairwise_cons, List.pairwise_append, List.pairwise_cons] at hp
      obtain ⟨-, -, ⟨hrest, hsorted⟩, hbefore⟩ := hp
      -- no keyword up to this one starts behind it, and the ones after it start in order
      have hstarts : l.clauseStarts =
          (before.map (·.2.start) ++ [w.start]) ++ rest.map (·.2.start) := by
        rw [clauseStarts_eq, h]
        simp
      have hstop : l.bodyStop t w = _ := Pieces.bodyStop_eq _ _ hstarts ?_ ?_ ?_
      · rw [hstop, nextStart, List.head?_map]
      · intro n hn
        rcases List.mem_append.1 hn with hn | hn
        · obtain ⟨b, hb, rfl⟩ := List.mem_map.1 hn
          exact Nat.le_of_lt (hbefore b hb _ List.mem_cons_self)
        · simp at hn
          omega
      · intro n hn
        obtain ⟨b, hb, rfl⟩ := List.mem_map.1 hn
        exact hrest b hb
      · exact List.pairwise_map.2 (hsorted.imp Nat.le_of_lt)

/-- The keywords in front of one of them. -/
theorem split_words {before rest : List (Keyword × Span)} (h : l.words = before ++ (k, w) :: rest) :
    k = .select ∧ w = l.selectWord ∧ rest = (.source, l.fromWord) :: l.optionalWords ∨
      k = .source ∧ w = l.fromWord ∧ rest = l.optionalWords ∨
        k ∈ Keyword.optionalClauses ∧ l.word? k = some w := by
  rw [words, List.cons_eq_append_iff] at h
  rcases h with ⟨-, h⟩ | ⟨before, -, h⟩
  · cases h
    exact .inl ⟨rfl, rfl, rfl⟩
  rw [List.cons_eq_append_iff] at h
  rcases h with ⟨-, h⟩ | ⟨before, -, h⟩
  · cases h
    exact .inr (.inl ⟨rfl, rfl, rfl⟩)
  · exact .inr (.inr (mem_optionalWords_iff.1 (by rw [h]; simp)))

/-- A segment is the trimmed text up to the next keyword. -/
theorem segment?_of_words (ho : Ordered t l.words)
    (hsource : l.source = t.trimSpan l.fromWord.stop (nextStart t l.optionalWords))
    {before rest : List (Keyword × Span)} (h : l.words = before ++ (k, w) :: rest) :
    l.segment? t k = some (Text.trim (t.slice w.stop (nextStart t rest))) := by
  obtain ⟨rfl, rfl, rfl⟩ | ⟨rfl, rfl, rfl⟩ | ⟨hk, hw⟩ := split_words h
  · rfl
  · obtain ⟨-, -, -, hn, hrest⟩ := ho
    rw [segment?, sourceName, hsource, Text.slice_trimSpan hn hrest.nextStart_le]
  · have hstop : l.bodyStop t w = nextStart t rest := bodyStop_of_words ho h (by
      rintro rfl
      cases hw
      simp at hk)
    simp only [Keyword.mem_optionalClauses_iff] at hk
    rw [← hstop]
    rcases hk with rfl | rfl | rfl <;> simp only [word?] at hw <;>
      simp [segment?, conditionSegment?, groupBySegment?, orderBySegment?, hw, body]

end Layout

/-! ## what a segment is free of -/

/-- A search does not pass by a place where the keyword stands. -/
theorem Keyword.find?_le {k : Keyword} {t : Text} {start i : Nat} (hi : start ≤ i)
    (h : (k.word.endAt? t i).isSome = true) :
    ∃ w, k.word.find? t start = some w ∧ w.start ≤ i := by
  obtain ⟨a, m, b, rfl, rfl, hs⟩ := isSome_endAt?_iff.1 h
  obtain ⟨u, a, rfl, rfl⟩ := Text.exists_append_of_le hi
  rw [List.getLast?_append] at hs
  have hm : (k.word.matchLength? (a.getLast?.or u.getLast?) (m ++ b)).isSome = true :=
    Option.isSome_iff_exists.2 ⟨_, matchLength?_eq_some_iff.2 ⟨m, b, rfl, rfl, hs⟩⟩
  obtain ⟨w, hw, hle⟩ := findFrom?_le u.length (by simp [hs.1.ne_nil]) hm
  rw [List.append_assoc, Word.find?_append]
  exact ⟨w, hw, by rwa [List.length_append]⟩

namespace Pieces.Valid

variable {p : Pieces}

/-- The keywords and the source are in order. -/
theorem spans_ordered (h : p.Valid) :
    (∀ s ∈ p.layout.spans, s.start < s.stop ∧ s.stop ≤ p.text.length) ∧
      p.layout.spans.Pairwise fun s s' => s.stop ≤ s'.start := by
  have hselect := List.length_pos_iff.2 h.select_stands.1.ne_nil
  have hfrom := List.length_pos_iff.2 h.from_stands.1.ne_nil
  have hsource := List.length_pos_iff.2 h.source_ne_nil
  have hclause : ∀ {k before after} {clause : Option ClausePiece}, First k before clause after →
      ∀ c ∈ clause, 0 < c.word.length := by
    rintro k before after _ hf c rfl
    exact List.length_pos_iff.2 hf.2.1.ne_nil
  have hf := hclause h.filter_first
  have hg := hclause h.groupBy_first
  have ho := hclause h.orderBy_first
  cases hF : p.filter <;> cases hG : p.groupBy <;> cases hO : p.orderBy <;>
    simp [Layout.spans, hF, hG, hO] at hf hg ho ⊢ <;> omega

/-- The source is what stands between `from` and the next keyword. -/
theorem source_eq_trimSpan (h : p.Valid) : p.layout.source =
    p.text.trimSpan p.layout.fromWord.stop (Layout.nextStart p.text p.layout.optionalWords) := by
  have hnext : Layout.nextStart p.text p.layout.optionalWords = (p.head ++ p.rest).length := by
    cases hf : p.filter <;> cases hg : p.groupBy <;> cases ho : p.orderBy <;>
      simp [Layout.optionalWords_eq, hf, hg, ho]
  have htext : p.text = (p.beforeFrom ++ p.fromWord) ++ (p.gap ++ p.source ++ p.rest ++
      (clauseText p.filter ++ clauseText p.groupBy ++ clauseText p.orderBy)) := by
    simp [text_eq, tail_eq_filter, beforeFrom]
  have hstop : p.layout.fromWord.stop = (p.beforeFrom ++ p.fromWord).length := by simp
  have hlength : (p.head ++ p.rest).length =
      (p.beforeFrom ++ p.fromWord).length + (p.gap ++ p.source ++ p.rest).length := by
    simp
    omega
  rw [hnext, hstop, hlength, htext, Text.trimSpan, Text.slice_append_mid, List.take_left,
    h.trimmed_source.trim_pad h.gap_blank h.rest_blank, List.append_assoc p.gap,
    takeWhile_append_all h.gap_blank]
  · rfl
  · rw [List.head?_append_of_ne_nil _ h.source_ne_nil]
    exact (Text.trimmed_iff.1 h.trimmed_source).1

/-- A search for a keyword that would end a segment starts in front of the segment. -/
theorem find?_barred (h : p.Valid) {k k' : Keyword} (hk : k' ∈ k.barred) {w : Span}
    (hw : p.layout.word? k = some w) :
    ∃ n ≤ w.stop, k'.word.find? p.text n = p.layout.word? k' := by
  have hhead : k ∈ Keyword.optionalClauses → p.head.length ≤ w.stop := by
    intro hc
    obtain ⟨hpos, hpair⟩ := h.spans_ordered
    have hmem : w ∈ p.layout.optionalWords.map Prod.snd :=
      List.mem_map_of_mem (f := Prod.snd) (Layout.mem_optionalWords_iff.2 ⟨hc, hw⟩)
    rw [Layout.spans_eq] at hpos hpair
    simp only [List.pairwise_cons, source_stop] at hpair
    have hle := hpair.2.2.1 w hmem
    have hlt := (hpos w (by simp only [List.mem_cons, hmem, or_true])).1
    omega
  cases k with
  | select =>
      obtain rfl := Keyword.mem_barred_select.1 hk
      cases hw
      exact ⟨_, Nat.le_refl _, h.find?_from⟩
  | filter =>
      rcases Keyword.mem_barred_filter.1 hk with rfl | rfl
      · exact ⟨_, hhead (by decide), h.find?_groupBy⟩
      · exact ⟨_, hhead (by decide), h.find?_orderBy⟩
  | groupBy =>
      obtain rfl := Keyword.mem_barred_groupBy.1 hk
      exact ⟨_, hhead (by decide), h.find?_orderBy⟩
  | source | orderBy | and | or => cases hk

/-- A segment is free of the keywords that would end it. -/
theorem barred_absent (h : p.Valid) {k k' : Keyword} (hk : k' ∈ k.barred) {u : Text}
    (hu : p.layout.segment? p.text k = some u) : k'.Absent u := by
  have hbody : ∀ {clause : Option ClausePiece} {k : Keyword}, k.Absent (body? clause) →
      clause.map (Text.trim ·.body) = some u → k.Absent u := by
    intro clause k ha hc
    obtain ⟨c, rfl, rfl⟩ := Option.map_eq_some_iff.1 hc
    exact Keyword.Absent.trim ha
  cases k with
  | select =>
      obtain rfl := Keyword.mem_barred_select.1 hk
      rw [Layout.segment?, selectedSegment_text] at hu
      cases hu
      exact h.from_absent.trim
  | filter =>
      rw [Layout.segment?, conditionSegment?_text h] at hu
      rcases Keyword.mem_barred_filter.1 hk with rfl | rfl
      · exact hbody h.groupBy_absent_filter hu
      · exact hbody h.orderBy_absent_filter hu
  | groupBy =>
      obtain rfl := Keyword.mem_barred_groupBy.1 hk
      rw [Layout.segment?, groupBySegment?_text h] at hu
      exact hbody h.orderBy_absent_groupBy hu
  | source | orderBy | and | or => cases hk

theorem ordered_words (h : p.Valid) : Layout.Ordered p.text p.layout.words :=
  Layout.ordered_words h.spans_ordered.1 h.spans_ordered.2

/-- A keyword that would end a segment stands nowhere in it: it would have been found there. -/
theorem endAt?_barred (h : p.Valid) {k k' : Keyword} (hk : k' ∈ k.barred) {s : Span}
    (hs : ⟨.segment k, s⟩ ∈ p.layout.tiles p.text) {i : Nat} (hi : s.Holds i) :
    k'.word.endAt? p.text i = none := by
  have ho := h.ordered_words
  obtain ⟨before, w, rest, hw, rfl⟩ := Layout.segment_mem_tilesFrom_iff.1 hs
  have hword : p.layout.word? k = some w := Layout.mem_words_iff.1 (by rw [hw]; simp)
  rw [hw] at ho
  obtain ⟨-, hn, hrest⟩ := ho.of_append
  have hb := Text.trimSpan_le hn hrest.nextStart_le
  obtain ⟨hsi, his⟩ := hi
  by_contra hend
  obtain ⟨n, hnw, hfind⟩ := h.find?_barred hk hword
  have hni : n ≤ i := by omega
  obtain ⟨w', hw', hle⟩ := Keyword.find?_le hni (Option.isSome_iff_ne_none.2 hend)
  have hmem : (k', w') ∈ rest := Layout.mem_rest_of_barred hw hk (hfind.symm.trans hw')
  have hstart : Layout.nextStart p.text rest ≤ w'.start :=
    hrest.le_of_mem (Layout.word_mem_tilesFrom_iff.2 hmem)
  omega

end Pieces.Valid

/-! ## tilings -/

namespace Layout

/-- The layout divides the text. -/
structure Tiled (l : Layout) (t : Text) : Prop where
  /-- The keywords and the source are in the text, none of them empty and one after another. -/
  span_pos : ∀ s ∈ l.spans, s.start < s.stop
  span_le : ∀ s ∈ l.spans, s.stop ≤ t.length
  spans_ordered : l.spans.Pairwise fun s s' => s.stop ≤ s'.start
  /-- The segment of a clause is the trimmed text between its keyword and the next one. -/
  segment_none : ∀ k, l.word? k = none → l.segment? t k = none
  segment_between : ∀ before k w rest, l.words = before ++ (k, w) :: rest →
    l.segment? t k = some (Text.trim (t.slice w.stop (nextStart t rest)))
  /-- The tiles are the keywords and the segments where they stand. -/
  word_tile : ∀ k w, ⟨.word k, w⟩ ∈ l.tiles t ↔ l.word? k = some w
  segment_tile : ∀ k s, ⟨.segment k, s⟩ ∈ l.tiles t →
    l.segment? t k = some (t.slice s.start s.stop)
  source_tile : ⟨.segment .source, l.source⟩ ∈ l.tiles t
  /-- From `select` on, every character that is no blank is in just one tile. -/
  existsUnique_tile : ∀ i c, t[i]? = some c → isBlank c = false → l.selectWord.start ≤ i →
    ∃! x, x ∈ l.tiles t ∧ x.span.Holds i
  /-- In no segment stands a keyword that would end it, neither in the text nor in the segment
  alone. -/
  barred_in_place : ∀ k, ∀ k' ∈ k.barred, ∀ s, ⟨.segment k, s⟩ ∈ l.tiles t →
    ∀ i, s.Holds i → k'.word.endAt? t i = none
  barred_alone : ∀ k, ∀ k' ∈ k.barred, ∀ u, l.segment? t k = some u → k'.word.find? u 0 = none

/-- A layout that is found divides the text. -/
theorem tiled_of_locate {t : Text} {l : Layout} (h : locate t = .ok l) : l.Tiled t := by
  obtain ⟨p, hp, rfl, rfl⟩ := Pieces.exists_of_locate h
  obtain ⟨hpos, hpair⟩ := hp.spans_ordered
  have ho := hp.ordered_words
  have hsource := hp.source_eq_trimSpan
  have hbetween : ∀ before k w rest, p.layout.words = before ++ (k, w) :: rest →
      p.layout.segment? p.text k = some (Text.trim (p.text.slice w.stop (nextStart p.text rest))) :=
    fun _ _ _ _ => segment?_of_words ho hsource
  exact {
    span_pos := fun s hs => (hpos s hs).1
    span_le := fun s hs => (hpos s hs).2
    spans_ordered := hpair
    segment_none := by
      intro k hk
      cases k <;>
        simp [word?, segment?, conditionSegment?, groupBySegment?, orderBySegment?] at hk ⊢
      all_goals exact hk
    segment_between := hbetween
    word_tile := fun k w => word_mem_tilesFrom_iff.trans mem_words_iff
    segment_tile := by
      intro k s hs
      obtain ⟨before, w, rest, hw, rfl⟩ := segment_mem_tilesFrom_iff.1 hs
      obtain ⟨-, hn, hrest⟩ : Ordered p.text ((k, w) :: rest) := .of_append (hw ▸ ho)
      rw [hbetween before k w rest hw, Text.slice_trimSpan hn hrest.nextStart_le]
    source_tile := segment_mem_tilesFrom_iff.2
      ⟨[(.select, p.layout.selectWord)], p.layout.fromWord, p.layout.optionalWords, rfl, hsource⟩
    existsUnique_tile := fun i c hi hc hs => ho.existsUnique_tile hi hc hs
    barred_in_place := fun _ _ hk _ hs _ hi => hp.endAt?_barred hk hs hi
    barred_alone := fun k k' hk u hu => Keyword.absent_iff.1 (hp.barred_absent hk hu) }

/-- Such as one in which parts of keywords stand in names and next to the clauses. -/
theorem tiled_with_keyword_parts : ∃ l, locate
    "  Select a , sum(from_b)  From t\nWhere group = 'by x' and order_by<>2 order Order By c".toList =
      .ok l ∧ l.Tiled
    "  Select a , sum(from_b)  From t\nWhere group = 'by x' and order_by<>2 order Order By c".toList := by
  obtain ⟨l, h⟩ := exists_ok_of_isSome (x := locate
    "  Select a , sum(from_b)  From t\nWhere group = 'by x' and order_by<>2 order Order By c".toList)
    (by decide +kernel)
  exact ⟨l, h, tiled_of_locate h⟩

end Layout

end FlatQuery
