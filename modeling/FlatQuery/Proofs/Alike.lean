import FlatQuery.Proofs.Joined

/-!
# FlatQuery.Proofs.Alike

Texts that stand in for each other between keywords.

Two texts are alike when no search tells them apart from what comes before or after: the same
keywords are absent from them, and their ends are of one kind.  Texts that are joined by keywords
are alike when their parts are (`Alike.join`).

* `Reblanked` — the blanks at the ends of a text are others;
* `Respelled` — letters are of another case, and so are the blanks between two words;
* `Keyword.Spelled.respelled` — a keyword in another spelling;
* `Filter.Splits.restyled` — a filter with other blanks and spellings is split into the same
  conditions and connectives.
-/

namespace FlatQuery

/-! ## the ends of a text -/

/-- What tells at the end of a text whether a name runs on, and whether it is blank there. -/
def edge (c : Char) : Bool × Bool := (isWordChar c, isBlank c)

theorem any_eq_edge (o : Option Char) : o.any isWordChar = (o.map edge).any Prod.fst := by
  cases o <;> rfl

theorem all_eq_edge (o : Option Char) : o.all isBlank = (o.map edge).all Prod.snd := by
  cases o <;> rfl

/-- The ends of two texts are of one kind. -/
structure SameEdges (u v : Text) : Prop where
  head : u.head?.map edge = v.head?.map edge
  last : u.getLast?.map edge = v.getLast?.map edge

instance : DecidableRel SameEdges := fun u v =>
  decidable_of_iff (u.head?.map edge = v.head?.map edge ∧ u.getLast?.map edge = v.getLast?.map edge)
    ⟨fun h => ⟨h.1, h.2⟩, fun h => ⟨h.head, h.last⟩⟩

namespace SameEdges

variable {u u' v v' : Text}

theorem refl (u : Text) : SameEdges u u := ⟨rfl, rfl⟩

/-- Texts joined have the ends of their parts. -/
theorem append (hu : SameEdges u u') (hv : SameEdges v v') : SameEdges (u ++ v) (u' ++ v') := by
  constructor
  · rw [List.head?_append, List.head?_append, Option.map_or, Option.map_or, hu.head, hv.head]
  · rw [List.getLast?_append, List.getLast?_append, Option.map_or, Option.map_or, hu.last, hv.last]

/-- A name runs out of both or of neither. -/
theorem any_head? (h : SameEdges u v) : u.head?.any isWordChar = v.head?.any isWordChar := by
  rw [any_eq_edge, any_eq_edge, h.head]

theorem any_getLast? (h : SameEdges u v) :
    u.getLast?.any isWordChar = v.getLast?.any isWordChar := by
  rw [any_eq_edge, any_eq_edge, h.last]

/-- Both start with a blank, or are empty, or neither. -/
theorem all_head? (h : SameEdges u v) : u.head?.all isBlank = v.head?.all isBlank := by
  rw [all_eq_edge, all_eq_edge, h.head]

theorem all_getLast? (h : SameEdges u v) : u.getLast?.all isBlank = v.getLast?.all isBlank := by
  rw [all_eq_edge, all_eq_edge, h.last]

theorem nil_iff (h : SameEdges u v) : u = [] ↔ v = [] := by
  rw [← List.head?_eq_none_iff, ← List.head?_eq_none_iff, ← Option.map_eq_none_iff (f := edge),
    h.head, Option.map_eq_none_iff]

/-- A keyword stands between texts with the same ends. -/
theorem stands {k : Keyword} {m m' : Text} (hu : SameEdges u u') (hv : SameEdges v v')
    (h : k.Stands u.getLast? m v.head?) (hm : k.Spelled m') : k.Stands u'.getLast? m' v'.head? := by
  refine ⟨hm, ?_, ?_⟩
  · rw [← hu.any_getLast?]
    exact h.2.1
  · rw [← hv.any_head?]
    exact h.2.2

end SameEdges

theorem edge_of_isBlank {c : Char} (h : isBlank c = true) : edge c = (false, true) := by
  rw [edge, isWordChar_of_isBlank h, h]

theorem edge_of_isWordChar {c : Char} (h : isWordChar c = true) : edge c = (true, false) := by
  rw [edge, isBlank_of_isWordChar h, h]

/-- Spellings start and end with a name. -/
theorem Keyword.Spelled.sameEdges {k k' : Keyword} {m m' : Text} (h : k.Spelled m)
    (h' : k'.Spelled m') : SameEdges m m' := by
  have hedges : ∀ {k : Keyword} {m : Text}, k.Spelled m →
      m.head?.map edge = some (true, false) ∧ m.getLast?.map edge = some (true, false) := by
    intro k m hm
    have hlast := hm.getLast?
    obtain ⟨c, rest, rfl, hc, -⟩ := hm.head
    constructor
    · rw [List.head?_cons, Option.map_some, edge_of_isWordChar hc]
    · rw [List.getLast?_cons, Option.any_some] at hlast
      rw [List.getLast?_cons, Option.map_some, edge_of_isWordChar hlast]
  exact ⟨(hedges h).1.trans (hedges h').1.symm, (hedges h).2.trans (hedges h').2.symm⟩

/-! ## runs of blanks -/

/-- Two runs of blanks, of which both are empty or neither is. -/
structure BlankRuns (g h : Text) : Prop where
  left : Text.isBlankText g = true
  right : Text.isBlankText h = true
  nil_iff : g = [] ↔ h = []

theorem BlankRuns.sameEdges {g h : Text} (r : BlankRuns g h) : SameEdges g h := by
  have hedges : ∀ {g : Text}, Text.isBlankText g = true → g ≠ [] →
      g.head?.map edge = some (false, true) ∧ g.getLast?.map edge = some (false, true) := by
    intro g hg hn
    have hb := List.all_eq_true.1 hg
    rw [List.head?_eq_some_head hn, List.getLast?_eq_some_getLast hn, Option.map_some,
      Option.map_some, edge_of_isBlank (hb _ (List.head_mem hn)),
      edge_of_isBlank (hb _ (List.getLast_mem hn))]
    exact ⟨rfl, rfl⟩
  by_cases hn : g = []
  · rw [hn, r.nil_iff.1 hn]
    exact .refl []
  · have hg := hedges r.left hn
    have hh := hedges r.right fun he => hn (r.nil_iff.2 he)
    exact ⟨hg.1.trans hh.1.symm, hg.2.trans hh.2.symm⟩

/-- `v` is `u` with other runs of blanks at its ends. -/
inductive Reblanked : Text → Text → Prop where
  | mk {g h g' h' : Text} (core : Text) : BlankRuns g h → BlankRuns g' h' →
      Reblanked (g ++ core ++ g') (h ++ core ++ h')

namespace Reblanked

variable {u v : Text}

theorem trim_eq (r : Reblanked u v) : Text.trim v = Text.trim u := by
  obtain ⟨core, r, r'⟩ := r
  rw [Text.trim_pad r.left r'.left, Text.trim_pad r.right r'.right]

theorem sameEdges (r : Reblanked u v) : SameEdges u v := by
  obtain ⟨core, r, r'⟩ := r
  exact (r.sameEdges.append (.refl core)).append r'.sameEdges

end Reblanked

/-- Blanks in front of a trimmed text show in its first character. -/
theorem all_head?_pad {g s v : Text} (hg : Text.isBlankText g = true) (hs : Text.Trimmed s)
    (hn : s ≠ []) : (g ++ s ++ v).head?.all isBlank = true ↔ g ≠ [] := by
  obtain ⟨c, s, rfl⟩ := List.exists_cons_of_ne_nil hn
  have hc : isBlank c = false := (Text.trimmed_iff.1 hs).1
  cases g with
  | nil => simp [hc]
  | cons d g =>
      rw [Text.isBlankText, List.all_cons, Bool.and_eq_true] at hg
      simp [hg.1]

/-- Blanks behind a trimmed text show in its last character. -/
theorem all_getLast?_pad {u s g : Text} (hg : Text.isBlankText g = true) (hs : Text.Trimmed s)
    (hn : s ≠ []) : (u ++ s ++ g).getLast?.all isBlank = true ↔ g ≠ [] := by
  by_cases h : g = []
  · have hlast := (Text.trimmed_iff.1 hs).2
    rw [List.getLast?_eq_some_getLast hn, Option.any_some] at hlast
    simp [h, List.getLast?_append, List.getLast?_eq_some_getLast hn, hlast]
  · have hlast := List.all_eq_true.1 hg _ (List.getLast_mem h)
    simp [h, List.getLast?_append, List.getLast?_eq_some_getLast h, hlast]

/-- Around a trimmed text are runs of blanks, both empty or neither. -/
theorem SameEdges.exists_runs {g s g' v : Text} (e : SameEdges (g ++ s ++ g') v)
    (ht : Text.trim v = s) (hg : Text.isBlankText g = true) (hg' : Text.isBlankText g' = true)
    (hn : s ≠ []) : ∃ h h', v = h ++ s ++ h' ∧ BlankRuns g h ∧ BlankRuns g' h' := by
  obtain ⟨h, h', hh, hh', hv⟩ := Text.exists_pad_trim v
  have hs : Text.Trimmed s := by
    rw [← ht]
    exact Text.trimmed_trim v
  rw [ht] at hv
  have hhead := e.all_head?
  have hlast := e.all_getLast?
  rw [hv, Bool.eq_iff_iff, all_head?_pad hg hs hn, all_head?_pad hh hs hn] at hhead
  rw [hv, Bool.eq_iff_iff, all_getLast?_pad hg' hs hn, all_getLast?_pad hh' hs hn] at hlast
  exact ⟨h, h', hv, ⟨hg, hh, not_iff_not.1 hhead⟩, hg', hh', not_iff_not.1 hlast⟩

/-- A text has other blanks at its ends when both texts trim to the same one and their ends are of
one kind. -/
theorem reblanked_iff {u v : Text} :
    Reblanked u v ↔ Text.trim v = Text.trim u ∧ SameEdges u v := by
  refine ⟨fun r => ⟨r.trim_eq, r.sameEdges⟩, fun ⟨ht, e⟩ => ?_⟩
  by_cases hn : Text.trim u = []
  · rw [hn] at ht
    have r : BlankRuns u v := ⟨Text.trim_eq_nil_iff.1 hn, Text.trim_eq_nil_iff.1 ht, e.nil_iff⟩
    have hr : Reblanked (u ++ [] ++ []) (v ++ [] ++ []) := .mk [] r ⟨rfl, rfl, Iff.rfl⟩
    simpa using hr
  · obtain ⟨g, g', hg, hg', hu⟩ := Text.exists_pad_trim u
    generalize Text.trim u = core at *
    rw [hu] at e ⊢
    obtain ⟨h, h', rfl, r, r'⟩ := e.exists_runs ht hg hg' hn
    exact .mk core r r'

instance : DecidableRel Reblanked := fun _ _ => decidable_of_iff _ reblanked_iff.symm

/-! ## alike texts -/

/-- No search tells the two texts apart: the same keywords are absent, and the ends are of one
kind. -/
structure Alike (u v : Text) : Prop extends SameEdges u v where
  absent : ∀ k : Keyword, k.Absent u ↔ k.Absent v

/-- Other blanks at the ends make no difference. -/
theorem Reblanked.alike {u v : Text} (r : Reblanked u v) : Alike u v where
  toSameEdges := r.sameEdges
  absent k := by rw [← Keyword.absent_trim_iff, ← r.trim_eq, Keyword.absent_trim_iff]

/-- Nor do other runs of blanks. -/
theorem BlankRuns.alike {g h : Text} (r : BlankRuns g h) : Alike g h where
  toSameEdges := r.sameEdges
  absent k := iff_of_true (Keyword.absent_of_isBlankText k r.left)
    (Keyword.absent_of_isBlankText k r.right)

/-- A keyword that stands in a text is not absent from it. -/
theorem Keyword.Stands.not_absent {k : Keyword} {u m v : Text}
    (h : k.Stands u.getLast? m v.head?) : ¬ k.Absent (u ++ (m ++ v)) :=
  fun ha => ha u m v (List.append_assoc u m v).symm h

/-- Texts that a keyword joins, in one spelling or another, are alike when they are. -/
theorem Alike.join {k : Keyword} {u u' m m' v v' : Text} (hu : Alike u u') (hv : Alike v v')
    (h : k.Stands u.getLast? m v.head?) (hm : k.Spelled m') :
    Alike (u ++ (m ++ v)) (u' ++ (m' ++ v')) where
  toSameEdges := hu.append ((h.1.sameEdges hm).append hv.toSameEdges)
  absent k' := by
    have h' := hu.stands hv.toSameEdges h hm
    by_cases hk : k' = k
    · rw [hk]
      exact iff_of_false h.not_absent h'.not_absent
    · rw [Keyword.absent_join_iff h hk, Keyword.absent_join_iff h' hk, hu.absent, hv.absent]

/-! ## other spellings -/

/-- The letters of `v` are those of `u`, in ASCII of another case at most. -/
def Recased (u v : Text) : Prop := List.Forall₂ (fun c d => c.toLower = d.toLower) u v

instance : DecidableRel Recased := fun u v =>
  inferInstanceAs (Decidable (List.Forall₂ (fun c d => c.toLower = d.toLower) u v))

/-- `v` spells what `u` spells, with letters of another case and another run of blanks between two
words. -/
inductive Respelled : Text → Text → Prop where
  | mk {a a' g h b b' : Text} : Recased a a' → BlankRuns g h → Recased b b' →
      Respelled (a ++ g ++ b) (a' ++ h ++ b')

/-- A word in letters of another case. -/
theorem Respelled.of_recased {u v : Text} (r : Recased u v) : Respelled u v := by
  have h : Respelled (u ++ [] ++ []) (v ++ [] ++ []) := .mk r ⟨rfl, rfl, Iff.rfl⟩ .nil
  simpa using h

/-- The parts of a list correspond to parts of the other. -/
theorem exists_append_of_forall₂ {R : α → β → Prop} {as bs : List α} {cs : List β}
    (h : List.Forall₂ R (as ++ bs) cs) :
    ∃ xs ys, cs = xs ++ ys ∧ List.Forall₂ R as xs ∧ List.Forall₂ R bs ys := by
  refine ⟨cs.take as.length, cs.drop as.length, (List.take_append_drop _ _).symm, ?_, ?_⟩
  · exact (List.forall₂_take_append cs as bs h.flip).flip
  · exact (List.forall₂_drop_append cs as bs h.flip).flip

namespace Recased

variable {u v : Text}

/-- Blanks have no case. -/
theorem isBlankText (r : Recased u v) (h : Text.isBlankText u = true) :
    Text.isBlankText v = true := by
  induction r with
  | nil => rfl
  | @cons c d u v hcd _ ih =>
      rw [Text.isBlankText, List.all_cons, Bool.and_eq_true] at h ⊢
      rw [← (upper_toLower d).2, ← hcd, (upper_toLower c).2]
      exact ⟨h.1, ih h.2⟩

/-- Letters are looked for whatever their case. -/
theorem sameLetters {ls : Text} (r : Recased u v) (h : SameLetters ls u) : SameLetters ls v := by
  induction r generalizing ls with
  | nil => exact h
  | @cons c d u v hcd _ ih =>
      obtain ⟨l, ls, hc, hs, rfl⟩ := List.forall₂_cons_right_iff.1 h
      refine .cons ?_ (ih hs)
      rw [← hc, ← (upper_toLower d).1, ← hcd, (upper_toLower c).1]

theorem nil_iff (r : Recased u v) : u = [] ↔ v = [] := by
  rw [← List.length_eq_zero_iff, ← List.length_eq_zero_iff, List.Forall₂.length_eq r]

end Recased

namespace Keyword.Spelled

variable {k : Keyword} {m m' : Text}

theorem recased (hm : k.Spelled m) (r : Recased m m') : k.Spelled m' := by
  obtain ⟨m₁, g, m₂, rfl, hm₁, hg, hn, hm₂⟩ := hm
  obtain ⟨x, m₂', rfl, r, r₂⟩ := exists_append_of_forall₂ r
  obtain ⟨m₁', g', rfl, r₁, rg⟩ := exists_append_of_forall₂ r
  exact ⟨m₁', g', m₂', rfl, Recased.sameLetters r₁ hm₁, Recased.isBlankText rg hg,
    (Recased.nil_iff rg).symm.trans hn, Recased.sameLetters r₂ hm₂⟩

/-- Blanks in a spelling are blanks between its two words. -/
theorem around_blank {a g b : Text} (hm : k.Spelled (a ++ g ++ b)) (hg : Text.isBlankText g = true)
    (hn : g ≠ []) : ∃ m₁ x y m₂, a = m₁ ++ x ∧ b = y ++ m₂ ∧ SameLetters k.firstWord m₁ ∧
      Text.isBlankText x = true ∧ Text.isBlankText y = true ∧ SameLetters k.secondWord m₂ ∧
      k.secondWord ≠ [] := by
  have hbreaks : Text.Breaks a (g ++ b) := .inr (isWordChar_head?_of_blank hn hg)
  rw [List.append_assoc] at hm
  have ha : a ≠ [] := by
    rintro rfl
    obtain ⟨c, rest, hc, hw, -⟩ := hm.head
    have hh := isWordChar_head?_of_blank (v := b) hn hg
    rw [List.nil_append] at hc
    rw [hc] at hh
    simp [hw] at hh
  obtain ⟨m₁, x, g₂, m₂, rfl, hy, hx, hg₂, hm₁, hm₂, hs⟩ := hm.cut ha (by simp [hn]) hbreaks
  -- the run ends before the second word, which has no blank
  obtain ⟨y, rfl, rfl⟩ : ∃ y, g₂ = g ++ y ∧ b = y ++ m₂ := by
    rcases List.append_eq_append_iff.1 hy with hy | ⟨e, rfl, rfl⟩
    · exact hy
    · cases e with
      | nil => exact ⟨[], by simp, by simp⟩
      | cons c e =>
          have hb := List.all_eq_true.1 hg c (by simp)
          have hw := hm₂.isWordChar (isUpper_of_mem_secondWord k) c (by simp)
          rw [isBlank_of_isWordChar hw] at hb
          cases hb
  rw [Text.isBlankText_append, Bool.and_eq_true] at hg₂
  exact ⟨m₁, x, y, m₂, rfl, rfl, hm₁, hx, hg₂.2, hm₂, hs⟩

theorem respelled (hm : k.Spelled m) (r : Respelled m m') : k.Spelled m' := by
  obtain @⟨a, a', g, h, b, b', ra, rg, rb⟩ := r
  by_cases hn : g = []
  · rw [rg.nil_iff.1 hn, List.append_nil]
    rw [hn, List.append_nil] at hm
    exact hm.recased (List.rel_append ra rb)
  · obtain ⟨m₁, x, y, m₂, rfl, rfl, hm₁, hx, hy, hm₂, hs⟩ := hm.around_blank rg.left hn
    obtain ⟨m₁', x', rfl, r₁, rx⟩ := exists_append_of_forall₂ ra
    obtain ⟨y', m₂', rfl, ry, r₂⟩ := exists_append_of_forall₂ rb
    refine ⟨m₁', x' ++ h ++ y', m₂', by simp, Recased.sameLetters r₁ hm₁, ?_, ?_,
      Recased.sameLetters r₂ hm₂⟩
    · rw [Text.isBlankText_append, Text.isBlankText_append, rg.right,
        Recased.isBlankText rx hx, Recased.isBlankText ry hy]
      rfl
    · refine iff_of_false (fun he => hn (rg.nil_iff.2 ?_)) hs
      rw [List.append_eq_nil_iff, List.append_eq_nil_iff] at he
      exact he.1.2

end Keyword.Spelled

/-! ## links -/

/-- A keyword as it is spelled, and the text from it to the next one. -/
structure Link where
  word : Text
  gap : Text
deriving DecidableEq

namespace Link

def text (x : Link) : Text := x.word ++ x.gap

@[simp] theorem text_mk (word gap : Text) : text ⟨word, gap⟩ = word ++ gap := rfl

/-- Another spelling of the keyword, and other blanks at the ends of the text behind it. -/
structure Restyled (x y : Link) : Prop where
  word : Respelled x.word y.word
  gap : Reblanked x.gap y.gap

end Link

namespace Filter

/-- A text with other blanks at its ends is whole behind a character of the same kind. -/
theorem Whole.reblanked {before before' : Option Char} {u v : Text}
    (h : Whole (.outside none) before u) (r : Reblanked u v)
    (hb : before.any isWordChar = false ∨ u.head?.any isWordChar = false)
    (he : before'.any isWordChar = before.any isWordChar) : Whole (.outside none) before' v := by
  have hv : before'.any isWordChar = false ∨ v.head?.any isWordChar = false := by
    rwa [he, ← r.sameEdges.any_head?]
  have hu : Whole (.outside none) none u :=
    (whole_before (hb.symm.imp_right fun hb => ⟨hb, rfl⟩)).1 h
  rw [← whole_trim (proper_outside none), ← r.trim_eq, whole_trim (proper_outside none)] at hu
  exact (whole_before (hv.symm.imp_right fun hv => ⟨hv, rfl⟩)).2 hu

/-- The end of a text, or what comes before it, is of the same kind. -/
theorem any_getLast?_or {u v : Text} {before before' : Option Char} (h : SameEdges u v)
    (he : before'.any isWordChar = before.any isWordChar) :
    (v.getLast?.or before').any isWordChar = (u.getLast?.or before).any isWordChar := by
  have hl := h.last
  have ha := h.any_getLast?
  cases hu : u.getLast? <;> cases hv : v.getLast? <;> simp_all

/-- A filter whose joining words are spelled otherwise, with other blanks around them, is put
together in the same way. -/
theorem Splits.restyled {before : Option Char} {us : List Text} {ms : List (Connective × Text)}
    {t word : Text} {links : List Link} (h : Splits before us ms t)
    (hb : before.any isWordChar = false ∨ t.head?.any isWordChar = false)
    (hl : List.Forall₂ Link.Restyled (List.zipWith .mk (word :: ms.map Prod.snd) us) links) :
    ∃ word' t' us' ms', links.flatMap Link.text = word' ++ t' ∧ Respelled word word' ∧
      Alike t t' ∧ us'.map Text.trim = us.map Text.trim ∧ ms'.map Prod.fst = ms.map Prod.fst ∧
      ∀ before' : Option Char, before'.any isWordChar = before.any isWordChar →
        Splits before' us' ms' t' := by
  induction h generalizing word links with
  | @one before u hu =>
      obtain ⟨y, ys, hy, hys, rfl⟩ := List.forall₂_cons_left_iff.1 hl
      rw [List.forall₂_nil_left_iff.1 hys]
      refine ⟨y.word, y.gap, [y.gap], [], by simp [Link.text], hy.word, hy.gap.alike, ?_, rfl,
        fun before' he => .one (hu.reblanked hy.gap hb he)⟩
      rw [List.map_singleton, List.map_singleton, hy.gap.trim_eq]
  | @more before last u m t op us ms hu hr hm ht ih =>
      obtain ⟨y, ys, hy, hys, rfl⟩ := List.forall₂_cons_left_iff.1 hl
      obtain ⟨m', t', us', ms', htext, hword, halike, htrim, hops, hsplits⟩ := ih (.inr hm.2.2) hys
      have hm' := hm.1.respelled hword
      refine ⟨y.word, y.gap ++ (m' ++ t'), y.gap :: us', (op, m') :: ms', ?_, hy.word,
        hy.gap.alike.join halike hm.of_or_before hm', ?_, ?_, fun before' he => ?_⟩
      · rw [List.flatMap_cons, htext, Link.text, List.append_assoc]
      · rw [List.map_cons, List.map_cons, htrim, hy.gap.trim_eq]
      · rw [List.map_cons, List.map_cons, hops]
      · -- a restyled piece trims to the same text, so reading leaves off in the same state
        have hrun : run (.outside none) y.gap = .outside last := by
          rw [← run_trim (proper_outside none), hy.gap.trim_eq, run_trim (proper_outside none), hr]
        refine .more (hu.reblanked hy.gap (hb.imp_right any_head?_of_append) he) hrun
          ⟨hm', ?_, ?_⟩ (hsplits _ ?_)
        · rw [any_getLast?_or hy.gap.sameEdges he]
          exact hm.2.1
        · rw [← halike.any_head?]
          exact hm.2.2
        · rw [hm'.getLast?, hm.1.getLast?]

/-- The links of a filter behind its keyword: the joining words, each with what follows it. -/
def links (word gap : Text) : List Link :=
  List.zipWith .mk (word :: joints (tokens gap)) (pieces (tokens gap))

/-- What a filter is put together from makes it up. -/
theorem Splits.text_links {before : Option Char} {us : List Text} {ms : List (Connective × Text)}
    {t : Text} (h : Splits before us ms t) (word : Text) :
    (List.zipWith Link.mk (word :: ms.map Prod.snd) us).flatMap Link.text = word ++ t := by
  induction h generalizing word with
  | one _ => simp
  | more _ _ _ _ ih =>
      rw [List.map_cons, List.zipWith_cons_cons, List.flatMap_cons, ih, Link.text,
        List.append_assoc]

/-- The links of a filter make it up. -/
@[simp] theorem text_links (word gap : Text) :
    (links word gap).flatMap Link.text = word ++ gap := by
  obtain ⟨us, ms, hs⟩ := exists_splits none gap
  obtain ⟨hpieces, hjoints⟩ := pieces_of_splits hs
  rw [links, tokens, hpieces, hjoints]
  exact hs.text_links word

/-- A filter in another style is split into the same conditions and connectives. -/
theorem split_of_restyled {word t : Text} {ys : List Link}
    (h : List.Forall₂ Link.Restyled (links word t) ys) :
    ∃ word' t', ys.flatMap Link.text = word' ++ t' ∧ Respelled word word' ∧ Alike t t' ∧
      split t' = split t := by
  obtain ⟨us, ms, hs⟩ := exists_splits none t
  obtain ⟨hpieces, hjoints⟩ := pieces_of_splits hs
  rw [links, tokens, hpieces, hjoints] at h
  obtain ⟨word', t', us', ms', htext, hword, halike, htrim, hops, hsplits⟩ :=
    hs.restyled (.inl rfl) h
  refine ⟨word', t', htext, hword, halike, ?_⟩
  have hnames : ∀ ms : List (Connective × Text),
      (ms.map fun m => m.1.name) = (ms.map Prod.fst).map Connective.name := by simp
  rw [split_of_splits (hsplits none rfl), split_of_splits hs, htrim, hnames, hops, ← hnames]

end Filter

end FlatQuery
