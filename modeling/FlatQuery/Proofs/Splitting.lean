import FlatQuery.Proofs.Condition
import FlatQuery.Proofs.Neighbours
import FlatQuery.Proofs.Outcome
import FlatQuery.Query.Parse

/-!
# FlatQuery.Proofs.Splitting

How a filter is split into conditions and joining words.

Reading goes from state to state by `Filter.next`, one character at a time.  A text is whole
(`Filter.Whole`) when no joining word is read in it; `Filter.Splits` puts a filter together from
whole pieces and the words that join them.

* `Filter.whole_append` — a text is whole when its parts are, where no name runs across;
* `Filter.exists_splits` — every filter is put together in this way;
* `Filter.split_of_splits` — and is split into these pieces and words.
-/

namespace FlatQuery

namespace Filter

/-! ## joining words -/

theorem keyword_mem_connectives (op : Connective) : op.keyword ∈ Keyword.connectives := by
  cases op <;> decide

/-- A joining word is found where the keyword of a connective stands. -/
theorem jointLength?_eq_none_iff {before : Option Char} {t : Text} :
    jointLength? before t = none ↔
      ∀ op : Connective, op.keyword.word.matchLength? before t = none := by
  rw [jointLength?, List.findSome?_eq_none_iff]
  constructor
  · intro h op
    exact h op.keyword (keyword_mem_connectives op)
  · intro h k hk
    simp only [Keyword.mem_connectives_iff] at hk
    rcases hk with rfl | rfl
    · exact h .and
    · exact h .or

@[simp] theorem secondWord_keyword (op : Connective) : op.keyword.secondWord = [] := by
  cases op <;> rfl

/-- Where a joining word stands its length is found. -/
theorem jointLength?_of_stands {op : Connective} {before : Option Char} {m rest : Text}
    (h : op.keyword.Stands before m rest.head?) :
    jointLength? before (m ++ rest) = some m.length := by
  have hm := Keyword.matchLength?_eq_some_iff.2 ⟨m, rest, rfl, rfl, h⟩
  cases op with
  | and =>
      rw [Connective.keyword] at hm
      rw [jointLength?, Keyword.connectives, List.findSome?_cons, hm]
  | or =>
      rw [Connective.keyword] at hm
      have hn : Keyword.and.word.matchLength? before (m ++ rest) = none := by
        rw [Keyword.matchLength?_eq_none_iff]
        intro m' rest' ht h'
        cases h.eq_of_append_eq h' ht
      rw [jointLength?, Keyword.connectives, List.findSome?_cons, hn, List.findSome?_cons, hm]

/-- Whether a keyword of one word matches at the start of a text does not depend on what stands
behind a cut between names. -/
theorem matchLength?_append_eq_none_iff {k : Keyword} (hk : k.secondWord = [])
    {before : Option Char} {u v : Text} (hu : u ≠ []) (hb : Text.Breaks u v) :
    k.word.matchLength? before (u ++ v) = none ↔ k.word.matchLength? before u = none := by
  rw [Keyword.matchLength?_eq_none_iff, Keyword.matchLength?_eq_none_iff]
  constructor
  · intro h m rest hm hs
    subst hm
    refine h m (rest ++ v) (List.append_assoc m rest v) ?_
    rw [List.head?_append]
    exact hs.or_after (a := []) hb
  · intro h m rest hm hs
    rcases List.append_eq_append_iff.1 hm with ⟨as, rfl, rfl⟩ | ⟨bs, rfl, rfl⟩
    · cases as with
      | nil =>
          rw [List.append_nil] at hs
          exact h u [] (by simp) ⟨hs.1, hs.2.1, rfl⟩
      | cons c as =>
          have hw : ∀ d ∈ u ++ c :: as, isWordChar d = true := by
            intro d hd
            rcases hs.1.char hd with hd | ⟨-, hd⟩
            · exact hd
            · exact absurd hk hd
          refine Text.not_breaks_of_all hu (List.cons_ne_nil c as) hw ?_
          simpa [Text.Breaks] using hb
    · rw [List.head?_append] at hs
      exact h m bs rfl hs.of_or_after

/-- So whether a joining word is found does not depend on it either. -/
theorem jointLength?_append_eq_none_iff {before : Option Char} {u v : Text} (hu : u ≠ [])
    (hb : Text.Breaks u v) :
    jointLength? before (u ++ v) = none ↔ jointLength? before u = none := by
  rw [jointLength?_eq_none_iff, jointLength?_eq_none_iff]
  exact forall_congr' fun op => matchLength?_append_eq_none_iff (secondWord_keyword op) hu hb

/-- A joining word is found where some connective stands. -/
theorem exists_of_jointLength? {before : Option Char} {t : Text} {n : Nat}
    (h : jointLength? before t = some n) :
    ∃ (op : Connective) (m v : Text), t = m ++ v ∧ op.keyword.Stands before m v.head? := by
  obtain ⟨k, hk, hn⟩ := List.exists_of_findSome?_eq_some h
  obtain ⟨m, v, ht, -, hm⟩ := Keyword.matchLength?_eq_some_iff.1 hn
  simp only [Keyword.mem_connectives_iff] at hk
  rcases hk with rfl | rfl
  · exact ⟨.and, m, v, ht, hm⟩
  · exact ⟨.or, m, v, ht, hm⟩

/-- The character before what follows a text is the last one of the text, if there is one. -/
theorem getLast?_cons_or (before : Option Char) (c : Char) (u : Text) :
    (c :: u).getLast?.or before = u.getLast?.or (some c) := by
  rw [List.getLast?_cons]
  cases u.getLast? <;> rfl

/-! ## reading without splitting -/

/-- The state after a character that belongs to a condition. -/
def next : ReadingState → Char → ReadingState
  | .inside quote, c => if c = quote then .outside (some c) else .inside quote
  | .outside last, c =>
      if isQuote c && last.any Comparison.isSymbolChar then .inside c
      else .outside (if isBlank c then last else some c)

/-- The state after a text that belongs to a condition. -/
def run (state : ReadingState) (u : Text) : ReadingState := u.foldl next state

/-- No joining word is read in the text. -/
def Whole : ReadingState → Option Char → Text → Prop
  | _, _, [] => True
  | state, before, c :: rest =>
      (∀ last, state = .outside last → jointLength? before (c :: rest) = none) ∧
        Whole (next state c) (some c) rest

@[simp] theorem run_append (state : ReadingState) (u v : Text) :
    run state (u ++ v) = run (run state u) v :=
  List.foldl_append

/-- A text is whole when its parts are, where no name runs across. -/
theorem whole_append {state : ReadingState} {before : Option Char} {u v : Text}
    (hb : Text.Breaks u v) : Whole state before (u ++ v) ↔
      Whole state before u ∧ Whole (run state u) (u.getLast?.or before) v := by
  induction u generalizing state before with
  | nil => simp [Whole, run]
  | cons c u ih =>
      have hrest : Text.Breaks u v := hb.of_append (u := [c])
      have hj : jointLength? before (c :: u ++ v) = none ↔ jointLength? before (c :: u) = none :=
        jointLength?_append_eq_none_iff (List.cons_ne_nil c u) hb
      rw [List.cons_append] at hj ⊢
      rw [Whole, Whole, hj, ih hrest, getLast?_cons_or, and_assoc]
      rfl

/-! ## what does not matter -/

/-- A state that reading can be in: a value in quotes is opened by a quote. -/
def Proper : ReadingState → Prop
  | .inside quote => isQuote quote = true
  | .outside _ => True

@[simp] theorem proper_outside (last : Option Char) : Proper (.outside last) := trivial

theorem proper_next {state : ReadingState} (h : Proper state) (c : Char) :
    Proper (next state c) := by
  cases state with
  | inside quote =>
      rw [next]
      split
      · trivial
      · exact h
  | outside last =>
      rw [next]
      split
      · next hc =>
          rw [Bool.and_eq_true] at hc
          exact hc.1
      · trivial

theorem proper_run {state : ReadingState} (h : Proper state) (u : Text) :
    Proper (run state u) := by
  induction u generalizing state with
  | nil => exact h
  | cons c u ih => exact ih (proper_next h c)

theorem isQuote_iff {c : Char} : isQuote c = true ↔ c = '\'' ∨ c = '"' := by
  simp [isQuote]

theorem isBlank_of_isQuote {c : Char} (h : isQuote c = true) : isBlank c = false := by
  rcases isQuote_iff.1 h with rfl | rfl <;> decide

theorem isSymbolChar_of_isQuote {c : Char} (h : isQuote c = true) :
    Comparison.isSymbolChar c = false := by
  rcases isQuote_iff.1 h with rfl | rfl <;> decide

theorem isWordChar_of_isQuote {c : Char} (h : isQuote c = true) : isWordChar c = false := by
  rcases isQuote_iff.1 h with rfl | rfl <;> decide

/-- A blank changes nothing. -/
theorem next_blank {state : ReadingState} (h : Proper state) {c : Char} (hc : isBlank c = true) :
    next state c = state := by
  have hq : isQuote c = false := by
    rw [Bool.eq_false_iff]
    intro hq
    rw [isBlank_of_isQuote hq] at hc
    cases hc
  cases state with
  | inside quote =>
      have hne : c ≠ quote := by
        intro he
        rw [he, (h : isQuote quote = true)] at hq
        cases hq
      rw [next, if_neg hne]
  | outside last => rw [next, hq, Bool.false_and, if_neg (by decide), if_pos hc]

theorem run_blank {state : ReadingState} (h : Proper state) {g : Text}
    (hg : Text.isBlankText g = true) : run state g = state := by
  induction g with
  | nil => rfl
  | cons c g ih =>
      rw [Text.isBlankText, List.all_cons, Bool.and_eq_true] at hg
      have hn := next_blank h hg.1
      rw [run, List.foldl_cons, hn]
      exact ih hg.2

/-- No joining word starts with what is no name character, or behind a name character. -/
theorem jointLength?_eq_none {before : Option Char} {c : Char} {rest : Text}
    (h : before.any isWordChar = true ∨ isWordChar c = false) :
    jointLength? before (c :: rest) = none := by
  rw [jointLength?_eq_none_iff]
  intro op
  rw [Keyword.matchLength?_eq_none_iff]
  intro m b hm hs
  rcases h with h | h
  · rw [hs.2.1] at h
    cases h
  · obtain ⟨d, m, rfl, hd, -⟩ := hs.1.head
    rw [List.cons_append, List.cons.injEq] at hm
    rw [hm.1, hd] at h
    cases h

/-- What comes before a text matters only when a name could run on. -/
theorem whole_before {state : ReadingState} {before before' : Option Char} {u : Text}
    (h : u.head?.any isWordChar = false ∨
      before.any isWordChar = false ∧ before'.any isWordChar = false) :
    Whole state before u ↔ Whole state before' u := by
  cases u with
  | nil => exact Iff.rfl
  | cons c u =>
      have hj : jointLength? before (c :: u) = jointLength? before' (c :: u) := by
        rcases h with h | ⟨h, h'⟩
        · have hc : isWordChar c = false := by simpa using h
          rw [jointLength?_eq_none (.inr hc), jointLength?_eq_none (.inr hc)]
        · simp only [jointLength?, Word.matchLength?, h, h']
      rw [Whole, Whole, hj]

/-- Two texts are whole together when each is, from where the first leaves off. -/
theorem whole_append_none {state : ReadingState} {u v : Text} (hb : Text.Breaks u v) :
    Whole state none (u ++ v) ↔ Whole state none u ∧ Whole (run state u) none v := by
  rw [whole_append hb, Option.or_none]
  have hv : Whole (run state u) u.getLast? v ↔ Whole (run state u) none v :=
    whole_before (hb.symm.imp_right fun h => ⟨h, rfl⟩)
  rw [hv]

/-- A text of which no character is a name character is whole. -/
theorem whole_of_forall {u : Text} (hu : ∀ c ∈ u, isWordChar c = false) (state : ReadingState)
    (before : Option Char) : Whole state before u := by
  induction u generalizing state before with
  | nil => trivial
  | cons c u ih =>
      refine ⟨fun _ _ => jointLength?_eq_none (.inr (hu c List.mem_cons_self)), ?_⟩
      exact ih (fun d hd => hu d (List.mem_cons_of_mem _ hd)) _ _

/-- Blanks around a text do not matter. -/
theorem whole_pad {state : ReadingState} (h : Proper state) {g u g' : Text}
    (hg : Text.isBlankText g = true) (hg' : Text.isBlankText g' = true) :
    Whole state none (g ++ u ++ g') ↔ Whole state none u := by
  have hleft : Text.Breaks g u := .inl (isWordChar_getLast?_blanks hg)
  have hright : Text.Breaks (g ++ u) g' := .inr (isWordChar_head?_blanks hg')
  rw [whole_append_none hright, whole_append_none hleft, run_blank h hg]
  constructor
  · intro ⟨⟨_, hu⟩, _⟩
    exact hu
  · intro hu
    exact ⟨⟨whole_of_forall (fun _ => isWordChar_of_mem_blanks hg) _ _, hu⟩,
      whole_of_forall (fun _ => isWordChar_of_mem_blanks hg') _ _⟩

/-- Blanks around a text do not change where reading leaves off. -/
theorem run_pad {state : ReadingState} (h : Proper state) {g u g' : Text}
    (hg : Text.isBlankText g = true) (hg' : Text.isBlankText g' = true) :
    run state (g ++ u ++ g') = run state u := by
  rw [run_append, run_append, run_blank h hg, run_blank (proper_run h u) hg']

/-! ## tokens -/

/-- The characters of a joining word are skipped. -/
theorem tokensFrom_skip (state : ReadingState) (before : Option Char) (w v : Text) :
    tokensFrom w.length state before (w ++ v) = tokensFrom 0 state (w.getLast?.or before) v := by
  induction w generalizing before with
  | nil => rfl
  | cons c w ih =>
      rw [List.length_cons, List.cons_append, tokensFrom, ih, getLast?_cons_or]

/-- The tokens of a whole text are its characters. -/
theorem tokensFrom_whole {state : ReadingState} {before : Option Char} {u v : Text}
    (h : Whole state before u) (hb : Text.Breaks u v) :
    tokensFrom 0 state before (u ++ v) =
      u.map Token.character ++ tokensFrom 0 (run state u) (u.getLast?.or before) v := by
  induction u generalizing state before with
  | nil => rfl
  | cons c u ih =>
      have hrest : Text.Breaks u v := hb.of_append (u := [c])
      have hstep : tokensFrom 0 state before (c :: u ++ v) =
          .character c :: tokensFrom 0 (next state c) (some c) (u ++ v) := by
        cases state with
        | inside quote => rw [List.cons_append, tokensFrom, next]
        | outside last =>
            have hj : jointLength? before (c :: (u ++ v)) = none :=
              (jointLength?_append_eq_none_iff (List.cons_ne_nil c u) hb).2 (h.1 last rfl)
            rw [List.cons_append, tokensFrom, next]
            split
            · rfl
            · rw [hj]
      rw [hstep, ih h.2 hrest, getLast?_cons_or]
      rfl

/-- A joining word is one token. -/
theorem tokensFrom_joint {op : Connective} {last before : Option Char} {m v : Text}
    (h : op.keyword.Stands before m v.head?) :
    tokensFrom 0 (.outside last) before (m ++ v) =
      .joint m :: tokensFrom 0 (.outside none) m.getLast? v := by
  have hj := jointLength?_of_stands h
  obtain ⟨c, m, rfl, hc, -⟩ := h.1.head
  have hq : isQuote c = false := by
    rw [Bool.eq_false_iff]
    intro hq
    rw [isWordChar_of_isQuote hq] at hc
    cases hc
  rw [List.cons_append] at hj ⊢
  rw [tokensFrom, hq, Bool.false_and, if_neg (by decide), hj]
  dsimp only
  rw [List.length_cons, Nat.add_sub_cancel, tokensFrom_skip, List.take_succ_cons, List.take_left,
    ← getLast?_cons_or none, Option.or_none]

/-- Characters make up a piece. -/
theorem pieces_characters (u : Text) (ts : List Token) (p : Text) (ps : List Text)
    (h : pieces ts = p :: ps) : pieces (u.map Token.character ++ ts) = (u ++ p) :: ps := by
  induction u with
  | nil => exact h
  | cons c u ih => rw [List.map_cons, List.cons_append, pieces, ih, List.cons_append]

/-- The last piece of what is read first and the first piece of what is read then are one piece. -/
theorem exists_pieces_append (ts : List Token) : ∃ ps p, pieces ts = ps ++ [p] ∧
    ∀ ts' q qs, pieces ts' = q :: qs → pieces (ts ++ ts') = ps ++ (p ++ q) :: qs := by
  induction ts with
  | nil => exact ⟨[], [], rfl, fun ts' q qs h => h⟩
  | cons token ts ih =>
      obtain ⟨ps, p, hts, happend⟩ := ih
      cases token with
      | joint spelling =>
          refine ⟨[] :: ps, p, by rw [pieces, hts, List.cons_append], fun ts' q qs h => ?_⟩
          rw [List.cons_append, pieces, happend ts' q qs h, List.cons_append]
      | character c =>
          cases ps with
          | nil =>
              refine ⟨[], c :: p, by rw [pieces, hts]; rfl, fun ts' q qs h => ?_⟩
              rw [List.cons_append, pieces, happend ts' q qs h]
              rfl
          | cons first ps =>
              refine ⟨(c :: first) :: ps, p, by rw [pieces, hts]; rfl, fun ts' q qs h => ?_⟩
              rw [List.cons_append, pieces, happend ts' q qs h]
              rfl

@[simp] theorem joints_append (ts ts' : List Token) :
    joints (ts ++ ts') = joints ts ++ joints ts' := by
  induction ts with
  | nil => rfl
  | cons token ts ih => cases token <;> simp [joints, ih]

theorem joints_characters (u : Text) (ts : List Token) :
    joints (u.map Token.character ++ ts) = joints ts := by
  induction u with
  | nil => rfl
  | cons c u ih => rw [List.map_cons, List.cons_append, joints, ih]

/-! ## filters put together -/

/-- A filter behind the character `before`: whole pieces, and between them the words that join
them, each read outside quoted values. -/
inductive Splits : Option Char → List Text → List (Connective × Text) → Text → Prop where
  | one {before : Option Char} {u : Text} : Whole (.outside none) before u → Splits before [u] [] u
  | more {before last : Option Char} {u m t : Text} {op : Connective} {us : List Text}
      {ms : List (Connective × Text)} : Whole (.outside none) before u →
      run (.outside none) u = .outside last →
      op.keyword.Stands (u.getLast?.or before) m t.head? → Splits m.getLast? us ms t →
      Splits before (u :: us) ((op, m) :: ms) (u ++ (m ++ t))

/-- There is one piece more than joining words. -/
theorem length_of_splits {before : Option Char} {us : List Text} {ms : List (Connective × Text)}
    {t : Text} (h : Splits before us ms t) : us.length = ms.length + 1 := by
  induction h with
  | one _ => rfl
  | more _ _ _ _ ih => rw [List.length_cons, List.length_cons, ih]

/-- What a filter is put together from is what it is split into. -/
theorem pieces_of_splits {before : Option Char} {us : List Text} {ms : List (Connective × Text)}
    {t : Text} (h : Splits before us ms t) :
    pieces (tokensFrom 0 (.outside none) before t) = us ∧
      joints (tokensFrom 0 (.outside none) before t) = ms.map Prod.snd := by
  induction h with
  | @one before u hu =>
      have ht := tokensFrom_whole (v := []) hu (.inr rfl)
      rw [List.append_nil] at ht
      rw [ht, tokensFrom, joints_characters, pieces_characters u [] [] [] rfl, List.append_nil]
      exact ⟨rfl, rfl⟩
  | @more before last u m t op us ms hu hrun hm _ ih =>
      have hb : Text.Breaks u (m ++ t) := by
        left
        exact hm.of_or_before.2.1
      rw [tokensFrom_whole hu hb, hrun, tokensFrom_joint hm, joints_characters,
        pieces_characters u _ [] us (by rw [pieces, ih.1]), List.append_nil, joints, ih.2]
      exact ⟨rfl, rfl⟩

/-- A text is whole, or the first joining word read in it divides it. -/
theorem whole_or_divided (state : ReadingState) (before : Option Char) (t : Text) :
    Whole state before t ∨ ∃ (op : Connective) (last : Option Char) (u m v : Text),
      t = u ++ (m ++ v) ∧ Whole state before u ∧ run state u = .outside last ∧
        op.keyword.Stands (u.getLast?.or before) m v.head? := by
  induction t generalizing state before with
  | nil => exact .inl trivial
  | cons c t ih =>
      by_cases hj : ∀ last, state = .outside last → jointLength? before (c :: t) = none
      · rcases ih (next state c) (some c) with hw | ⟨op, last, u, m, v, rfl, hw, hr, hm⟩
        · exact .inl ⟨hj, hw⟩
        · rw [← getLast?_cons_or before] at hm
          refine .inr ⟨op, last, c :: u, m, v, rfl, ⟨fun l hl => ?_, hw⟩, hr, hm⟩
          have hb : Text.Breaks (c :: u) (m ++ v) := .inl hm.of_or_before.2.1
          rw [jointLength?_eq_none_iff]
          intro op'
          rw [← matchLength?_append_eq_none_iff (secondWord_keyword op') (by simp) hb]
          exact jointLength?_eq_none_iff.1 (hj l hl) op'
      · rw [not_forall] at hj
        obtain ⟨last, hj⟩ := hj
        rw [Classical.not_imp] at hj
        obtain ⟨n, hn⟩ := Option.ne_none_iff_exists'.1 hj.2
        obtain ⟨op, m, v, ht, hm⟩ := exists_of_jointLength? hn
        exact .inr ⟨op, last, [], m, v, ht, trivial, hj.1, hm⟩

/-- Every filter is put together from whole pieces. -/
theorem exists_splits (before : Option Char) (t : Text) : ∃ us ms, Splits before us ms t := by
  induction hn : t.length using Nat.strongRecOn generalizing before t with
  | ind n ih =>
    rcases whole_or_divided (.outside none) before t with h | ⟨op, last, u, m, v, rfl, hu, hr, hm⟩
    · exact ⟨[t], [], .one h⟩
    · have hl := List.length_pos_iff.2 hm.1.ne_nil
      rw [List.length_append, List.length_append] at hn
      obtain ⟨us, ms, hv⟩ := ih v.length (by omega) m.getLast? v rfl
      exact ⟨u :: us, (op, m) :: ms, .more hu hr hm hv⟩

/-- A keyword that joins no conditions stands in a filter when it stands in a piece. -/
theorem absent_iff_of_splits {k : Keyword} {before : Option Char} {us : List Text}
    {ms : List (Connective × Text)} {t : Text} (h : Splits before us ms t)
    (hk : k ∉ Keyword.connectives) : k.Absent t ↔ ∀ u ∈ us, k.Absent u := by
  induction h with
  | one _ => rw [List.forall_mem_singleton]
  | @more before last u m t op us ms _ _ hm _ ih =>
      have hop : k ≠ op.keyword := fun he => hk (he ▸ keyword_mem_connectives op)
      rw [Keyword.absent_join_iff hm.of_or_before hop, ih, List.forall_mem_cons]

/-- A spelling of one letter. -/
theorem eq_or_eq_of_sameLetters {l : Char} {ls m : Text} (h : SameLetters (l :: ls) m)
    (hl : l.isUpper = true) (hI : l ≠ 'I') (hS : l ≠ 'S') :
    ∃ m', (m = l :: m' ∨ m = Char.ofNat (l.toNat + 32) :: m') ∧ SameLetters ls m' := by
  obtain ⟨c, m', hc, hm', rfl⟩ := List.forall₂_cons_left_iff.1 h
  rw [upper_of_isUpper hl] at hc
  refine ⟨m', ?_, hm'⟩
  rcases eq_or_eq_of_upper_eq hl hI hS hc with rfl | rfl
  · exact .inl rfl
  · exact .inr rfl

/-- A joining word in lower case is the name of its connective. -/
theorem toLower_of_spelled {op : Connective} {m : Text} (h : op.keyword.Spelled m) :
    Text.toLower m = op.name := by
  rw [Keyword.spelled_iff_of_secondWord (secondWord_keyword op)] at h
  cases op with
  | and =>
      obtain ⟨m₁, h₁, h⟩ := eq_or_eq_of_sameLetters h (by decide) (by decide) (by decide)
      obtain ⟨m₂, h₂, h⟩ := eq_or_eq_of_sameLetters h (by decide) (by decide) (by decide)
      obtain ⟨m₃, h₃, h⟩ := eq_or_eq_of_sameLetters h (by decide) (by decide) (by decide)
      cases h
      rcases h₃ with rfl | rfl <;> rcases h₂ with rfl | rfl <;> rcases h₁ with rfl | rfl <;> decide
  | or =>
      obtain ⟨m₁, h₁, h⟩ := eq_or_eq_of_sameLetters h (by decide) (by decide) (by decide)
      obtain ⟨m₂, h₂, h⟩ := eq_or_eq_of_sameLetters h (by decide) (by decide) (by decide)
      cases h
      rcases h₂ with rfl | rfl <;> rcases h₁ with rfl | rfl <;> decide

/-- The joining words of a filter in lower case are the names of its connectives. -/
theorem map_toLower_of_splits {before : Option Char} {us : List Text}
    {ms : List (Connective × Text)} {t : Text} (h : Splits before us ms t) :
    (ms.map Prod.snd).map Text.toLower = ms.map fun m => m.1.name := by
  induction h with
  | one _ => rfl
  | more _ _ hm _ ih =>
      rw [List.map_cons, List.map_cons, List.map_cons, ih, toLower_of_spelled hm.1]

/-- A filter is split into the trimmed pieces and the names of the connectives between them. -/
theorem split_of_splits {us : List Text} {ms : List (Connective × Text)} {t : Text}
    (h : Splits none us ms t) : split t = (us.map Text.trim, ms.map fun m => m.1.name) := by
  obtain ⟨hp, hj⟩ := pieces_of_splits h
  rw [split, tokens, hp, hj, map_toLower_of_splits h]

/-! ## reading a filter -/

@[simp] theorem readConnective_name (op : Connective) : readConnective op.name = .ok op := by
  cases op <;> rfl

/-- The connectives of a filter are read from their names. -/
theorem readConnectives_iff {ms : List (Connective × Text)} {connectives : List Connective} :
    List.Forall₂ (fun m op => readConnective m.1.name = .ok op) ms connectives ↔
      connectives = ms.map Prod.fst := by
  constructor
  · intro h
    induction h with
    | nil => rfl
    | cons hm _ ih =>
        rw [readConnective_name] at hm
        cases hm
        rw [ih, List.map_cons]
  · intro h
    rw [h, List.forall₂_map_right_iff, List.forall₂_same]
    exact fun m _ => readConnective_name m.1

/-- The words between the conditions are names of connectives. -/
theorem exists_connectives (t : Text) :
    ∃ ops : List Connective, (split t).2 = ops.map Connective.name := by
  obtain ⟨us, ms, hs⟩ := exists_splits none t
  exact ⟨ms.map Prod.fst, by simp [split_of_splits hs]⟩

theorem mapM_readConnective_names (ops : List Connective) :
    (ops.map Connective.name).mapM readConnective = .ok ops := by
  rw [mapM_eq_ok_iff, List.forall₂_map_left_iff, List.forall₂_same]
  exact fun op _ => readConnective_name op

/-- The conditions and connectives of a filter are read piece by piece. -/
theorem parse_eq_ok_iff {options : Options} {us : List Text} {ms : List (Connective × Text)}
    {t : Text} {conditions : List Condition} {connectives : List Connective}
    (h : Splits none us ms t) (ht : t ≠ []) :
    parse options t = .ok (conditions, connectives) ↔
      List.Forall₂ (fun u c => Condition.parse options u = .ok c) us conditions ∧
        connectives = ms.map Prod.fst := by
  rw [parse, if_neg ht, split_of_splits h]
  simp only [bind_eq_ok_iff, mapM_eq_ok_iff, List.forall₂_map_left_iff,
    Condition.parse_trim_eq_ok_iff, readConnectives_iff]
  constructor
  · intro h
    obtain ⟨cs, hcs, ops, hops, hp⟩ := h
    cases hp
    exact ⟨hcs, hops⟩
  · intro h
    exact ⟨conditions, h.1, connectives, h.2, rfl⟩

end Filter

namespace Query

/-- A query without a filter has no conditions; another has those of its filter. -/
theorem parseFilter_eq_ok {options : Options} {segment : Option Text}
    {conditions : List Condition} {connectives : List Connective}
    (h : parseFilter options segment = .ok (conditions, connectives)) :
    segment = none ∧ conditions = [] ∧ connectives = [] ∨
      ∃ t us ms, segment = some t ∧ t ≠ [] ∧ Filter.Splits none us ms t ∧
        List.Forall₂ (fun u c => Condition.parse options u = .ok c) us conditions ∧
        connectives = ms.map Prod.fst := by
  cases segment with
  | none =>
      cases h
      exact .inl ⟨rfl, rfl, rfl⟩
  | some t =>
      obtain ⟨us, ms, hs⟩ := Filter.exists_splits none t
      by_cases ht : t = []
      · rw [parseFilter, Filter.parse, if_pos ht] at h
        cases h
      · exact .inr ⟨t, us, ms, rfl, ht, hs, (Filter.parse_eq_ok_iff hs ht).1 h⟩

end Query

end FlatQuery
