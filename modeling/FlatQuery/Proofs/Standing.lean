import FlatQuery.Proofs.Spelling

/-!
# FlatQuery.Proofs.Standing

Texts in which a keyword stands nowhere, and the first place where it stands.

`Keyword.Absent` is closed under cutting a text where no name runs on (`Keyword.Absent.mid`) and
under joining texts where no spelling runs across (`Keyword.absent_append`).

* `Keyword.find?_of_absent`, `Keyword.exists_of_find?` — a search finds the first place;
* `Keyword.find?_eq_none`, `Keyword.absent_of_find?` — or finds that there is none;
* `Keyword.endAt?_eq_some_iff` — a keyword is found at the places where it stands.
-/

namespace FlatQuery

namespace Keyword

/-! ## absence -/

/-- The keyword stands alone nowhere in the text. -/
def Absent (k : Keyword) (t : Text) : Prop :=
  ∀ a m b, t = a ++ m ++ b → ¬ k.Stands a.getLast? m b.head?

/-- No spelling of the keyword runs from `u` into `v`. -/
def Severed (k : Keyword) (u v : Text) : Prop :=
  ∀ x y, x ≠ [] → y ≠ [] → x <:+ u → y <+: v → ¬ k.Spelled (x ++ y)

/-- A keyword stands where it stood when less comes before it. -/
theorem Stands.of_or_before {k : Keyword} {x y : Option Char} {m : Text} {after : Option Char}
    (h : k.Stands (x.or y) m after) : k.Stands x m after := by
  obtain ⟨hm, hb, ha⟩ := h
  refine ⟨hm, ?_, ha⟩
  cases x with
  | none => rfl
  | some c => exact hb

/-- A keyword stands where it stood when less comes after it. -/
theorem Stands.of_or_after {k : Keyword} {x y : Option Char} {m : Text} {before : Option Char}
    (h : k.Stands before m (x.or y)) : k.Stands before m x := by
  obtain ⟨hm, hb, ha⟩ := h
  refine ⟨hm, hb, ?_⟩
  cases x with
  | none => rfl
  | some c => exact ha

/-- A keyword stands where it stood when more comes before the text and no name runs into it. -/
theorem Stands.or_before {k : Keyword} {a m b : Text} {x after : Option Char}
    (h : k.Stands a.getLast? m after)
    (hx : x.any isWordChar = false ∨ (a ++ m ++ b).head?.any isWordChar = false) :
    k.Stands (a.getLast?.or x) m after := by
  refine ⟨h.1, ?_, h.2.2⟩
  cases ha : a.getLast? with
  | some c => simpa [ha] using h.2.1
  | none =>
      obtain ⟨c, rest, rfl, hc, -⟩ := h.1.head
      refine hx.resolve_right fun hn => ?_
      rw [List.getLast?_eq_none_iff.1 ha] at hn
      simp [hc] at hn

/-- A keyword stands where it stood when more comes after the text and no name runs out of it. -/
theorem Stands.or_after {k : Keyword} {a m b : Text} {y before : Option Char}
    (h : k.Stands before m b.head?)
    (hy : (a ++ m ++ b).getLast?.any isWordChar = false ∨ y.any isWordChar = false) :
    k.Stands before m (b.head?.or y) := by
  refine ⟨h.1, h.2.1, ?_⟩
  cases hb : b.head? with
  | some c => simpa [hb] using h.2.2
  | none =>
      have hl := h.1.getLast?
      refine hy.resolve_left fun hn => ?_
      rw [List.head?_eq_none_iff.1 hb, List.append_nil, List.getLast?_append] at hn
      cases hm : m.getLast? with
      | none =>
          rw [hm] at hl
          cases hl
      | some c =>
          rw [hm] at hl hn
          rw [Option.some_or, hl] at hn
          cases hn

/-- Nothing stands in a text without name characters. -/
theorem absent_of_forall (k : Keyword) {t : Text} (h : ∀ c ∈ t, isWordChar c = false) :
    k.Absent t := by
  intro a m b ht hs
  obtain ⟨c, rest, rfl, hc, -⟩ := hs.1.head
  rw [h c (by rw [ht]; simp)] at hc
  cases hc

theorem absent_singleton (k : Keyword) {c : Char} (h : isWordChar c = false) : k.Absent [c] :=
  absent_of_forall k (by simp [h])

theorem absent_of_isBlankText (k : Keyword) {g : Text} (h : Text.isBlankText g = true) :
    k.Absent g :=
  absent_of_forall k fun _ => isWordChar_of_mem_blanks h

/-- Where no spelling runs across, nothing new stands in two texts joined. -/
theorem absent_append {k : Keyword} {u v : Text} (hu : k.Absent u) (hv : k.Absent v)
    (h : k.Severed u v) : k.Absent (u ++ v) := by
  intro a m b ht hs
  rw [List.append_assoc, List.append_eq_append_iff] at ht
  rcases ht with ⟨as, rfl, rfl⟩ | ⟨bs, rfl, ht⟩
  · refine hv as m b (by simp) ?_
    rw [List.getLast?_append] at hs
    exact hs.of_or_before
  · rw [List.append_eq_append_iff] at ht
    rcases ht with ⟨cs, rfl, rfl⟩ | ⟨ds, rfl, rfl⟩
    · refine hu a m cs (by simp) ?_
      rw [List.head?_append] at hs
      exact hs.of_or_after
    · by_cases hb : bs = []
      · subst hb
        exact hv [] ds b rfl ⟨hs.1, rfl, hs.2.2⟩
      · by_cases hd : ds = []
        · subst hd
          exact hu a bs [] (by simp) ⟨by simpa using hs.1, hs.2.1, rfl⟩
        · exact h bs ds hb hd (List.suffix_append a bs) (List.prefix_append ds b) hs.1

/-- What stands in a part that no name runs out of stands in the whole. -/
theorem Absent.mid {k : Keyword} {u v w : Text} (h : k.Absent (u ++ v ++ w))
    (hu : Text.Breaks u v) (hw : Text.Breaks v w) : k.Absent v := by
  intro a m b hv hs
  subst hv
  refine h (u ++ a) m (b ++ w) (by simp) ?_
  rw [List.getLast?_append, List.head?_append]
  exact (hs.or_before hu).or_after hw

/-- What follows a cut between names. -/
theorem Absent.right {k : Keyword} {u v : Text} (h : k.Absent (u ++ v)) (hb : Text.Breaks u v) :
    k.Absent v := by
  refine Absent.mid (u := u) (w := []) ?_ hb (.inr rfl)
  rwa [List.append_nil]

/-- What precedes a cut between names. -/
theorem Absent.left {k : Keyword} {u v : Text} (h : k.Absent (u ++ v)) (hb : Text.Breaks u v) :
    k.Absent u :=
  Absent.mid (u := []) h (.inl rfl) hb

theorem Absent.trim {k : Keyword} {t : Text} (h : k.Absent t) : k.Absent (Text.trim t) := by
  obtain ⟨g, g', hg, hg', ht⟩ := Text.exists_pad_trim t
  rw [ht] at h
  exact h.mid (.inl (isWordChar_getLast?_blanks hg)) (.inr (isWordChar_head?_blanks hg'))

/-! ## where no spelling runs across -/

/-- A character of neither names nor gaps. -/
def isMark (c : Char) : Bool := !isWordChar c && !isBlank c

/-- A spelling holds no mark. -/
theorem Spelled.isMark_eq_false {k : Keyword} {m : Text} (h : k.Spelled m) {c : Char}
    (hc : c ∈ m) : isMark c = false := by
  rcases h.char hc with hw | ⟨hb, -⟩
  · simp [isMark, hw]
  · simp [isMark, hb]

/-- No spelling runs across a mark at the end. -/
theorem severed_of_getLast? {k : Keyword} {u v : Text} {c : Char} (hu : u.getLast? = some c)
    (hc : isMark c = true) : k.Severed u v := by
  intro x y hx _ hxu _ hs
  obtain ⟨u', rfl⟩ := hxu
  have hl : x.getLast? = some c := by
    rw [List.getLast?_append] at hu
    cases hx' : x.getLast? with
    | none => exact absurd (List.getLast?_eq_none_iff.1 hx') hx
    | some d => simpa [hx'] using hu
  have := hs.isMark_eq_false (List.mem_append_left y (List.mem_of_getLast? hl))
  rw [hc] at this
  cases this

/-- No spelling runs across a mark at the start. -/
theorem severed_of_head? {k : Keyword} {u v : Text} {c : Char} (hv : v.head? = some c)
    (hc : isMark c = true) : k.Severed u v := by
  intro x y _ hy _ hyv hs
  obtain ⟨v', rfl⟩ := hyv
  obtain ⟨d, y, rfl⟩ := List.exists_cons_of_ne_nil hy
  have hd : d = c := by simpa using hv
  have := hs.isMark_eq_false (c := c) (by simp [hd])
  rw [hc] at this
  cases this

/-- No spelling runs across a cut between names, unless `BY` comes next. -/
theorem severed_of_breaks {k : Keyword} {u v : Text} (hb : Text.Breaks u v)
    (hv : k.secondWord = [] ∨
      ∀ g c w, v = g ++ c :: w → Text.isBlankText g = true → upper c ≠ ['B']) :
    k.Severed u v := by
  intro x y hx hy hxu hyv hs
  obtain ⟨u', rfl⟩ := hxu
  obtain ⟨v', rfl⟩ := hyv
  have hxy : Text.Breaks x y := by
    obtain ⟨d, y, rfl⟩ := List.exists_cons_of_ne_nil hy
    obtain ⟨c, x, rfl⟩ := List.exists_cons_of_ne_nil hx
    rw [Text.breaks_append_cons] at hb
    simpa [Text.Breaks] using hb
  obtain ⟨hk, g, c, w, rfl, hg, hc⟩ := hs.cut_head hx hy hxy
  rcases hv with hv | hv
  · exact hk hv
  · exact hv g c (w ++ v') (by simp) hg hc

/-- A spelling ends with no blank, so none runs into blanks. -/
theorem severed_blank_right {k : Keyword} {u g : Text} (hg : Text.isBlankText g = true) :
    k.Severed u g := by
  refine severed_of_breaks ?_ (.inr ?_)
  · right
    cases g with
    | nil => rfl
    | cons c g =>
        rw [Text.isBlankText, List.all_cons, Bool.and_eq_true] at hg
        exact isWordChar_of_isBlank hg.1
  · intro g' c w hgw _ hc
    have hb : isBlank c = true := List.all_eq_true.1 hg c (by rw [hgw]; simp)
    have hw := isWordChar_of_upper_eq (l := 'B') (by decide) hc
    rw [isWordChar_of_isBlank hb] at hw
    cases hw

/-- A spelling starts with no blank, so none runs out of blanks. -/
theorem severed_blank_left {k : Keyword} {g v : Text} (hg : Text.isBlankText g = true) :
    k.Severed g v := by
  intro x y hx _ hxg _ hs
  obtain ⟨g', rfl⟩ := hxg
  rw [Text.isBlankText_append, Bool.and_eq_true] at hg
  obtain ⟨c, x, rfl⟩ := List.exists_cons_of_ne_nil hx
  obtain ⟨d, rest, hd, hw, -⟩ := hs.head
  rw [List.cons_append, List.cons.injEq] at hd
  have hb : isBlank c = true := List.all_eq_true.1 hg.2 c (by simp)
  rw [← hd.1, isWordChar_of_isBlank hb] at hw
  cases hw

/-- Nothing new stands in a text with blanks around it. -/
theorem Absent.pad {k : Keyword} {g t g' : Text} (h : k.Absent t)
    (hg : Text.isBlankText g = true) (hg' : Text.isBlankText g' = true) :
    k.Absent (g ++ t ++ g') :=
  absent_append (absent_append (absent_of_isBlankText k hg) h (severed_blank_left hg))
    (absent_of_isBlankText k hg') (severed_blank_right hg')

/-- Blanks around a text hold no keyword. -/
@[simp] theorem absent_trim_iff {k : Keyword} {t : Text} : k.Absent (Text.trim t) ↔ k.Absent t := by
  refine ⟨fun h => ?_, Absent.trim⟩
  obtain ⟨g, g', hg, hg', ht⟩ := Text.exists_pad_trim t
  rw [ht]
  exact h.pad hg hg'

/-- No keyword starts with the first letter of `BY`. -/
theorem Spelled.upper_ne {k : Keyword} {c : Char} {m : Text} (h : k.Spelled (c :: m)) :
    upper c ≠ ['B'] := by
  obtain ⟨d, rest, hd, -, l, ls, hl, hc⟩ := h.head
  rw [List.cons.injEq] at hd
  have hu := isUpper_of_mem_firstWord k l (by rw [hl]; simp)
  rw [hd.1, hc, upper_of_isUpper hu]
  intro hB
  rw [List.cons.injEq] at hB
  rw [hB.1] at hl
  cases k <;> cases hl

/-- No spelling runs into blanks with a keyword after them. -/
theorem severed_gap_spelled {k k' : Keyword} {u g m b : Text} (hb : Text.Breaks u (g ++ m))
    (hg : Text.isBlankText g = true) (hm : k'.Spelled m) : k.Severed u (g ++ (m ++ b)) := by
  obtain ⟨c, rest, rfl, hw, -⟩ := hm.head
  refine severed_of_breaks ?_ (.inr ?_)
  · rcases hb with hb | hb
    · exact .inl hb
    · right
      cases g <;> exact hb
  · intro g' d w hgw hg' hd
    -- the first character that is no blank is the same on both sides
    have h₁ : (g ++ (c :: rest ++ b)).dropWhile isBlank = c :: rest ++ b :=
      dropWhile_append_all hg (by simp [isBlank_of_isWordChar hw])
    have h₂ : (g' ++ d :: w).dropWhile isBlank = d :: w :=
      dropWhile_append_all hg' (by
        simp [isBlank_of_isWordChar (isWordChar_of_upper_eq (l := 'B') (by decide) hd)])
    rw [hgw, h₂, List.cons_append, List.cons.injEq] at h₁
    exact hm.upper_ne (h₁.1 ▸ hd)

/-! ## searching -/

/-- No match starts in `u` when `u` comes after `before` and is followed by `v`. -/
def Quiet (k : Keyword) (before : Option Char) (u v : Text) : Prop :=
  ∀ x c y, u = x ++ c :: y → k.word.matchLength? (x.getLast?.or before) (c :: y ++ v) = none

/-- The first place to look at, and the others. -/
theorem quiet_cons_iff {k : Keyword} {before : Option Char} {c : Char} {u v : Text} :
    k.Quiet before (c :: u) v ↔
      k.word.matchLength? before (c :: u ++ v) = none ∧ k.Quiet (some c) u v := by
  constructor
  · intro h
    refine ⟨h [] c u rfl, fun x d y hu => ?_⟩
    have hd := h (c :: x) d y (by rw [hu]; rfl)
    rw [List.getLast?_cons] at hd
    cases hx : x.getLast? <;> simpa [hx] using hd
  · intro ⟨h, hu⟩ x d y hx
    cases x with
    | nil =>
        rw [List.nil_append, List.cons.injEq] at hx
        rw [← hx.1, ← hx.2]
        exact h
    | cons e x =>
        rw [List.cons_append, List.cons.injEq] at hx
        have hd := hu x d y hx.2
        rw [List.getLast?_cons, ← hx.1]
        cases hx : x.getLast? <;> simpa [hx] using hd

/-- A keyword that is absent from `u` and does not run into `v` matches nowhere in `u`. -/
theorem quiet_of_absent {k : Keyword} {u v : Text} (hu : k.Absent u) (h : k.Severed u v)
    (before : Option Char) : k.Quiet before u v := by
  intro x c y hxy
  rw [matchLength?_eq_none_iff]
  intro m rest hm hs
  rw [List.append_eq_append_iff] at hm
  have hx := hs.of_or_before
  rcases hm with ⟨as, rfl, rfl⟩ | ⟨bs, hbs, rfl⟩
  · -- a match that leaves `u` is a spelling that runs into `v`, or ends where `u` does
    by_cases ha : as = []
    · subst ha
      exact hu x (c :: y) [] (by simp [hxy]) ⟨by simpa using hx.1, hx.2.1, rfl⟩
    · refine h (c :: y) as (by simp) ha ?_ (List.prefix_append as rest) hs.1
      rw [hxy]
      exact List.suffix_append x (c :: y)
  · refine hu x m bs (by rw [hxy, hbs, List.append_assoc]) ?_
    rw [List.head?_append] at hx
    exact hx.of_or_after

/-- A keyword that matches nowhere in `u` is absent from it, when no name runs in or out. -/
theorem absent_of_quiet {k : Keyword} {before : Option Char} {u v : Text}
    (h : k.Quiet before u v)
    (hb : before.any isWordChar = false ∨ u.head?.any isWordChar = false)
    (hv : Text.Breaks u v) : k.Absent u := by
  intro a m b hu hs
  subst hu
  have hstands := (hs.or_before hb).or_after hv
  rw [← List.head?_append] at hstands
  obtain ⟨c, rest, rfl, -, -⟩ := hs.1.head
  have hnone := h a c (rest ++ b) (by simp)
  exact matchLength?_eq_none_iff.1 hnone (c :: rest) (b ++ v) (by simp) hstands

/-- A search passes over a text without a match. -/
theorem findFrom?_append_of_quiet {k : Keyword} {before : Option Char} {position : Nat}
    {u v : Text} (h : k.Quiet before u v) :
    k.word.findFrom? before position (u ++ v) =
      k.word.findFrom? (u.getLast?.or before) (position + u.length) v := by
  induction u generalizing before position with
  | nil => rfl
  | cons c u ih =>
      obtain ⟨hc, hu⟩ := quiet_cons_iff.1 h
      rw [List.cons_append] at hc ⊢
      rw [Word.findFrom?, hc]
      dsimp only
      rw [ih hu, List.getLast?_cons, List.length_cons, Nat.add_right_comm, Nat.add_assoc]
      cases u.getLast? <;> rfl

/-- A search stops where the keyword stands. -/
theorem findFrom?_of_stands {k : Keyword} {before : Option Char} {m b : Text} (position : Nat)
    (h : k.Stands before m b.head?) :
    k.word.findFrom? before position (m ++ b) = some ⟨position, position + m.length⟩ := by
  have hm := matchLength?_eq_some_iff.2 ⟨m, b, rfl, rfl, h⟩
  obtain ⟨c, rest, rfl, -⟩ := h.1.head
  rw [List.cons_append] at hm ⊢
  rw [Word.findFrom?, hm]

/-- What a search finds is the first place where the keyword stands. -/
theorem exists_of_findFrom? {k : Keyword} {before : Option Char} {position : Nat} {t : Text}
    {s : Span} (h : k.word.findFrom? before position t = some s) :
    ∃ a m b, t = a ++ (m ++ b) ∧
      s = ⟨position + a.length, position + a.length + m.length⟩ ∧
      k.Stands (a.getLast?.or before) m b.head? ∧ k.Quiet before a (m ++ b) := by
  induction t generalizing before position with
  | nil => cases h
  | cons c t ih =>
      rw [Word.findFrom?] at h
      split at h
      · next n hn =>
          obtain ⟨m, rest, hm, rfl, hs⟩ := matchLength?_eq_some_iff.1 hn
          refine ⟨[], m, rest, hm, (Option.some.inj h).symm, hs, ?_⟩
          intro x d y hx
          exact absurd hx.symm (by simp)
      · next hn =>
          obtain ⟨a, m, b, rfl, rfl, hs, hq⟩ := ih h
          refine ⟨c :: a, m, b, rfl, ?_, ?_, quiet_cons_iff.2 ⟨hn, hq⟩⟩
          · simp only [List.length_cons, Span.mk.injEq]
            omega
          · rw [List.getLast?_cons]
            cases ha : a.getLast? <;> simpa [ha] using hs

/-- A search does not pass by a place where the keyword matches. -/
theorem findFrom?_le {k : Keyword} {before : Option Char} (position : Nat) {a v : Text}
    (hv : v ≠ []) (h : (k.word.matchLength? (a.getLast?.or before) v).isSome = true) :
    ∃ s, k.word.findFrom? before position (a ++ v) = some s ∧ s.start ≤ position + a.length := by
  induction a generalizing before position with
  | nil =>
      obtain ⟨c, v, rfl⟩ := List.exists_cons_of_ne_nil hv
      obtain ⟨n, hn⟩ := Option.isSome_iff_exists.1 h
      rw [List.getLast?_nil, Option.none_or] at hn
      rw [List.nil_append, Word.findFrom?, hn]
      exact ⟨_, rfl, Nat.le_refl _⟩
  | cons c a ih =>
      rw [List.cons_append, Word.findFrom?]
      cases hn : k.word.matchLength? before (c :: (a ++ v)) with
      | some n => exact ⟨_, rfl, Nat.le_add_right _ _⟩
      | none =>
          have hc : (k.word.matchLength? (a.getLast?.or (some c)) v).isSome = true := by
            rw [List.getLast?_cons] at h
            cases ha : a.getLast? <;> simpa [ha] using h
          obtain ⟨s, hs, hle⟩ := ih (position + 1) hc
          exact ⟨s, hs, by rw [List.length_cons]; omega⟩

/-- A search that finds nothing has passed over the whole text. -/
theorem findFrom?_eq_none_iff {k : Keyword} {before : Option Char} {position : Nat} {t : Text} :
    k.word.findFrom? before position t = none ↔ k.Quiet before t [] := by
  induction t generalizing before position with
  | nil =>
      constructor
      · intro _ x c y hx
        exact absurd hx.symm (by simp)
      · intro _
        rfl
  | cons c t ih =>
      rw [Word.findFrom?, quiet_cons_iff, List.append_nil]
      cases hn : k.word.matchLength? before (c :: t) with
      | some n => simp
      | none => simpa using ih

end Keyword

/-- The character before the rest of a text is the last one of its front. -/
@[simp] theorem Text.charBefore?_append (u v : Text) :
    (u ++ v).charBefore? u.length = u.getLast? := by
  rw [Text.charBefore?]
  cases u with
  | nil => rfl
  | cons c u =>
      rw [if_neg (by simp), List.getElem?_append_left (by simp), ← List.getLast?_eq_getElem?]

/-- A search in the rest of a text. -/
@[simp] theorem Word.find?_append (w : Word) (u v : Text) :
    w.find? (u ++ v) u.length = w.findFrom? u.getLast? u.length v := by
  rw [Word.find?, Text.charBefore?_append, List.drop_left]

/-- A match in the rest of a text. -/
@[simp] theorem Word.endAt?_append (w : Word) (u v : Text) :
    w.endAt? (u ++ v) u.length = (w.matchLength? u.getLast? v).map (u.length + ·) := by
  rw [Word.endAt?, Text.charBefore?_append, List.drop_left]

namespace Keyword

/-- A search finds the keyword behind a text that it is absent from. -/
theorem find?_of_absent {k : Keyword} {u a m b : Text} (ha : k.Absent a)
    (hs : k.Severed a (m ++ b)) (hm : k.Stands (a.getLast?.or u.getLast?) m b.head?) :
    k.word.find? (u ++ (a ++ (m ++ b))) u.length =
      some ⟨u.length + a.length, u.length + a.length + m.length⟩ := by
  rw [Word.find?_append, findFrom?_append_of_quiet (quiet_of_absent ha hs _),
    findFrom?_of_stands _ hm]

/-- A search finds nothing where the keyword is absent. -/
theorem find?_eq_none {k : Keyword} {u v : Text} (hv : k.Absent v) :
    k.word.find? (u ++ v) u.length = none := by
  rw [Word.find?_append, findFrom?_eq_none_iff]
  exact quiet_of_absent hv (severed_blank_right rfl) _

/-- What a search finds, and that the keyword is absent from what comes before it. -/
theorem exists_of_find? {k : Keyword} {u v : Text} {s : Span}
    (h : k.word.find? (u ++ v) u.length = some s) :
    ∃ a m b, v = a ++ (m ++ b) ∧
      s = ⟨u.length + a.length, u.length + a.length + m.length⟩ ∧
      k.Stands (a.getLast?.or u.getLast?) m b.head? ∧
      (Text.Breaks u v → k.Absent a) := by
  rw [Word.find?_append] at h
  obtain ⟨a, m, b, rfl, rfl, hm, hq⟩ := exists_of_findFrom? h
  refine ⟨a, m, b, rfl, rfl, hm, fun hb => absent_of_quiet hq ?_ ?_⟩
  · rcases hb with hb | hb
    · exact .inl hb
    · cases a with
      | nil => exact .inr rfl
      | cons c a => exact .inr hb
  · exact .inl hm.of_or_before.2.1

/-- Where a search finds nothing, the keyword is absent. -/
theorem absent_of_find? {k : Keyword} {u v : Text} (h : k.word.find? (u ++ v) u.length = none)
    (hb : Text.Breaks u v) : k.Absent v := by
  rw [Word.find?_append, findFrom?_eq_none_iff] at h
  exact absent_of_quiet h hb (.inr rfl)

/-- The keyword stands alone at a place of the text. -/
def StandsAt (k : Keyword) (t : Text) (s : Span) : Prop :=
  ∃ a m b, t = a ++ (m ++ b) ∧ s = ⟨a.length, a.length + m.length⟩ ∧
    k.Stands a.getLast? m b.head?

/-- A keyword is found at the places where it stands. -/
theorem endAt?_eq_some_iff {k : Keyword} {t : Text} {i j : Nat} :
    k.word.endAt? t i = some j ↔ k.StandsAt t ⟨i, j⟩ := by
  constructor
  · intro h
    by_cases hi : i ≤ t.length
    · obtain ⟨a, v, rfl, rfl⟩ := Text.exists_append_of_le hi
      rw [Word.endAt?_append] at h
      obtain ⟨n, hn, rfl⟩ := Option.map_eq_some_iff.1 h
      obtain ⟨m, b, rfl, rfl, hs⟩ := matchLength?_eq_some_iff.1 hn
      exact ⟨a, m, b, rfl, rfl, hs⟩
    · rw [Word.endAt?, List.drop_eq_nil_of_le (by omega)] at h
      obtain ⟨n, hn, -⟩ := Option.map_eq_some_iff.1 h
      obtain ⟨m, b, hm, -, hs⟩ := matchLength?_eq_some_iff.1 hn
      exact absurd (List.append_eq_nil_iff.1 hm.symm).1 hs.1.ne_nil
  · rintro ⟨a, m, b, rfl, hs, h⟩
    cases hs
    rw [Word.endAt?_append, matchLength?_eq_some_iff.2 ⟨m, b, rfl, rfl, h⟩]
    rfl

theorem StandsAt.isSome_endAt? {k : Keyword} {t : Text} {s : Span} (h : k.StandsAt t s) :
    (k.word.endAt? t s.start).isSome = true :=
  Option.isSome_iff_exists.2 ⟨s.stop, endAt?_eq_some_iff.2 h⟩

/-- Whether a keyword is found at a position. -/
theorem isSome_endAt?_iff {k : Keyword} {t : Text} {i : Nat} :
    (k.word.endAt? t i).isSome = true ↔
      ∃ a m b, t = a ++ (m ++ b) ∧ i = a.length ∧ k.Stands a.getLast? m b.head? := by
  simp only [Option.isSome_iff_exists, endAt?_eq_some_iff, StandsAt, Span.mk.injEq]
  constructor
  · rintro ⟨j, a, m, b, ht, ⟨hi, -⟩, h⟩
    exact ⟨a, m, b, ht, hi, h⟩
  · rintro ⟨a, m, b, ht, hi, h⟩
    exact ⟨_, a, m, b, ht, ⟨hi, rfl⟩, h⟩

/-- A keyword is absent from a text when a search of it finds nothing. -/
theorem absent_iff {k : Keyword} {t : Text} : k.Absent t ↔ k.word.find? t 0 = none :=
  ⟨fun h => find?_eq_none (u := []) h, fun h => absent_of_find? (u := []) h (.inl rfl)⟩

instance (k : Keyword) : DecidablePred k.Absent := fun _ => decidable_of_iff _ absent_iff.symm

end Keyword

end FlatQuery
