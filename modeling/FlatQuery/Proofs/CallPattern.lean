import FlatQuery.Proofs.Aggregate

/-!
# FlatQuery.Proofs.CallPattern

The pattern that calls are recognised by.

A pattern matches the front of a text in several ways.  They come in an order of preference: a
repetition takes as many characters as it can or as few as it can, gives way one character at a time
when what follows has no match, and the first way is the match.

* `Pattern.first_seq_of_append` — the first way of a sequence, behind ways that lead nowhere;
* `Pattern.captures?_call` — the pattern of calls captures the name and the trimmed argument of what
  is read as a call, and matches nothing else;
* `Aggregate.parse_render_iff_callable` — the aggregates that are read from their own text.
-/

namespace FlatQuery

namespace Call

/-! ## kinds of characters -/

theorem isNameChar_of_isNameStart {c : Char} (h : isNameStart c = true) : isNameChar c = true := by
  rw [isNameStart, Bool.or_eq_true] at h
  rw [isNameChar, Char.isAlphanum, Bool.or_eq_true, Bool.or_eq_true]
  exact h.imp_left .inl

theorem all_of_isBlankText {t : Text} (h : Text.isBlankText t = true) :
    t.all (!isParenthesis ·) = true := by
  rw [Text.isBlankText, List.all_eq_true] at h
  rw [List.all_eq_true]
  intro c hc
  rw [Bool.not_eq_true', Bool.eq_false_iff]
  intro hp
  rw [isParenthesis, Bool.or_eq_true, beq_iff_eq, beq_iff_eq] at hp
  rcases hp with rfl | rfl
  · exact absurd (h _ hc) (by decide)
  · exact absurd (h _ hc) (by decide)

end Call

/-! ## patterns -/

/-- A pattern of texts: the two ends, a character of a kind, its repetitions (`most` prefers more
characters, `least` fewer), groups whose text is captured, and sequences. -/
inductive Pattern where
  | start
  | stop
  | one (p : Char → Bool)
  | most (p : Char → Bool)
  | least (p : Char → Bool)
  | group (r : Pattern)
  | seq (r s : Pattern)

namespace Pattern

/-- A way to match the front of a text: what the groups capture, what is taken and what is left. -/
structure Way where
  captures : List Text
  taken : Text
  rest : Text

/-- One way, and another behind it. -/
def Way.append (w w' : Way) : Way := ⟨w.captures ++ w'.captures, w.taken ++ w'.taken, w'.rest⟩

/-- A way that takes a character in front. -/
def Way.cons (c : Char) (w : Way) : Way := { w with taken := c :: w.taken }

/-- A way whose text is captured. -/
def Way.capture (w : Way) : Way := { w with captures := w.taken :: w.captures }

/-- The ways to take characters of a kind off the front of a text, the shortest first. -/
def runs (p : Char → Bool) : Text → List Way
  | [] => [⟨[], [], []⟩]
  | c :: t => ⟨[], [], c :: t⟩ :: if p c then (runs p t).map (Way.cons c) else []

/-- The ways to match the front of a text, the preferred ones first.  `atStart` tells whether the
text starts there. -/
def ways : Pattern → (atStart : Bool) → Text → List Way
  | start, atStart, t => if atStart then [⟨[], [], t⟩] else []
  | stop, _, t => if t = [] then [⟨[], [], t⟩] else []
  | one _, _, [] => []
  | one p, _, c :: t => if p c then [⟨[], [c], t⟩] else []
  | most p, _, t => (runs p t).reverse
  | least p, _, t => runs p t
  | group r, atStart, t => (r.ways atStart t).map Way.capture
  | seq r s, atStart, t =>
      (r.ways atStart t).flatMap fun w => (s.ways (atStart && w.taken.isEmpty) w.rest).map w.append

/-- The match in a text, the one that starts first, in its preferred way. -/
def search (r : Pattern) : (atStart : Bool) → Text → Option Way
  | atStart, [] => (r.ways atStart []).head?
  | atStart, c :: t => (r.ways atStart (c :: t)).head?.or (r.search false t)

/-- What the groups capture in a text, if it has a match. -/
def captures? (r : Pattern) (t : Text) : Option (List Text) := (r.search true t).map Way.captures

/-- The name of a call: `[A-Za-z_][A-Za-z0-9_]*`. -/
def name : Pattern := seq (one Call.isNameStart) (most Call.isNameChar)

/-- What closes a call: `\s*\)$`. -/
def closing : Pattern := seq (most isBlank) (seq (one (· == ')')) stop)

/-- What follows the opening parenthesis of a call: `\s*([^()]*?)\s*\)$`. -/
def argument : Pattern :=
  seq (most isBlank) (seq (group (least (!Call.isParenthesis ·))) closing)

/-- The pattern of calls: `^([A-Za-z_][A-Za-z0-9_]*)\s*\(\s*([^()]*?)\s*\)$`. -/
def call : Pattern :=
  seq start (seq (group name) (seq (most isBlank) (seq (one (· == '(')) argument)))

/-! ## all ways -/

variable {p : Char → Bool} {r s : Pattern} {b : Bool} {t : Text} {w w' : Way}

/-- A run takes characters of the kind, and leaves the others. -/
theorem eq_append_of_mem_runs (h : w ∈ runs p t) :
    t = w.taken ++ w.rest ∧ w.taken.all p = true := by
  induction t generalizing w with
  | nil =>
      obtain rfl := List.mem_singleton.1 h
      exact ⟨rfl, rfl⟩
  | cons c t ih =>
      rcases List.mem_cons.1 h with rfl | h
      · exact ⟨rfl, rfl⟩
      · split at h
        · next hc =>
            obtain ⟨v, hv, rfl⟩ := List.mem_map.1 h
            obtain ⟨ht, hp⟩ := ih hv
            exact ⟨congrArg (c :: ·) ht, by simp [Way.cons, hc, hp]⟩
        · cases h

/-- The ways of a repetition are runs, in which order it may be. -/
theorem mem_most_iff : w ∈ (most p).ways b t ↔ w ∈ runs p t := List.mem_reverse

theorem mem_one_iff : w ∈ (one p).ways b t ↔ ∃ c v, t = c :: v ∧ p c = true ∧ w = ⟨[], [c], v⟩ := by
  cases t with
  | nil => simp [ways]
  | cons c v =>
      rw [ways]
      split <;> simp_all

/-- A sequence is matched by a way of its first part, and one of the other behind that. -/
theorem mem_seq_iff : w ∈ (seq r s).ways b t ↔ ∃ v ∈ r.ways b t,
    ∃ v' ∈ s.ways (b && v.taken.isEmpty) v.rest, v.append v' = w := by
  simp [ways, List.mem_flatMap]

/-- A call is closed by blanks and a parenthesis that ends the text. -/
theorem exists_of_mem_closing (h : w ∈ closing.ways b t) :
    ∃ g, Text.isBlankText g = true ∧ t = g ++ [')'] := by
  obtain ⟨v, hv, v', hv', -⟩ := mem_seq_iff.1 h
  obtain ⟨ht, hg⟩ := eq_append_of_mem_runs (mem_most_iff.1 hv)
  obtain ⟨u, hu, u', hu', -⟩ := mem_seq_iff.1 hv'
  obtain ⟨c, rest, hrest, hc, rfl⟩ := mem_one_iff.1 hu
  have hend : rest = [] := by
    by_contra hne
    simp [ways, hne] at hu'
  rw [beq_iff_eq] at hc
  exact ⟨v.taken, hg, by rw [ht, hrest, hc, hend]⟩

/-- What follows the opening parenthesis holds no other, and ends in a closing one. -/
theorem exists_of_mem_argument (h : w ∈ argument.ways b t) :
    ∃ inner, inner.all (!Call.isParenthesis ·) = true ∧ t = inner ++ [')'] := by
  obtain ⟨v, hv, v', hv', -⟩ := mem_seq_iff.1 h
  obtain ⟨ht, hg⟩ := eq_append_of_mem_runs (mem_most_iff.1 hv)
  obtain ⟨u, hu, u', hu', -⟩ := mem_seq_iff.1 hv'
  obtain ⟨a, ha, rfl⟩ := List.mem_map.1 hu
  obtain ⟨hrest, ha⟩ := eq_append_of_mem_runs ha
  obtain ⟨g', hg', hclosing⟩ := exists_of_mem_closing hu'
  refine ⟨v.taken ++ (a.taken ++ g'), ?_, ?_⟩
  · rw [List.all_append, List.all_append, Call.all_of_isBlankText hg, ha,
      Call.all_of_isBlankText hg']
    rfl
  · rw [ht, hrest, show a.rest = g' ++ [')'] from hclosing]
    simp

/-- A name is taken off the front of a text. -/
theorem eq_append_of_mem_name (h : w ∈ name.ways b t) : t = w.taken ++ w.rest ∧
    w.taken.head?.any Call.isNameStart = true ∧ w.taken.all Call.isNameChar = true := by
  obtain ⟨v, hv, v', hv', rfl⟩ := mem_seq_iff.1 h
  obtain ⟨c, rest, rfl, hc, rfl⟩ := mem_one_iff.1 hv
  obtain ⟨ht, hp⟩ := eq_append_of_mem_runs (mem_most_iff.1 hv')
  exact ⟨congrArg (c :: ·) ht, hc, by simp [Way.append, hp, Call.isNameChar_of_isNameStart hc]⟩

/-- A text that the pattern of calls matches is put together so. -/
theorem exists_of_mem_call (h : w ∈ call.ways b t) : ∃ name gap inner,
    t = name ++ (gap ++ '(' :: (inner ++ [')'])) ∧ name.head?.any Call.isNameStart = true ∧
      name.all Call.isNameChar = true ∧ Text.isBlankText gap = true ∧
      inner.all (!Call.isParenthesis ·) = true := by
  obtain ⟨v, hv, v', hv', -⟩ := mem_seq_iff.1 h
  have hstart : v.rest = t := by
    rw [ways] at hv
    split at hv
    · rw [List.mem_singleton.1 hv]
    · cases hv
  obtain ⟨m, hm, m', hm', -⟩ := mem_seq_iff.1 hv'
  obtain ⟨n, hn, rfl⟩ := List.mem_map.1 hm
  obtain ⟨ht, hs, hname⟩ := eq_append_of_mem_name hn
  obtain ⟨g, hg, g', hg', -⟩ := mem_seq_iff.1 hm'
  obtain ⟨hrest, hgap⟩ := eq_append_of_mem_runs (mem_most_iff.1 hg)
  obtain ⟨u, hu, u', hu', -⟩ := mem_seq_iff.1 hg'
  obtain ⟨c, rest, hopen, hc, rfl⟩ := mem_one_iff.1 hu
  obtain ⟨inner, hinner, rfl⟩ := exists_of_mem_argument hu'
  rw [beq_iff_eq] at hc
  refine ⟨n.taken, g.taken, inner, ?_, hs, hname, hgap, hinner⟩
  rw [← hstart, ht, show n.rest = g.taken ++ g.rest from hrest, hopen, hc]

/-! ## the first way -/

/-- The first way of a sequence, when those before it lead nowhere. -/
theorem first_seq_of_append {before after : List Way}
    (hr : r.ways b t = before ++ w :: after)
    (hbefore : ∀ v ∈ before, s.ways (b && v.taken.isEmpty) v.rest = [])
    (hs : (s.ways (b && w.taken.isEmpty) w.rest).head? = some w') :
    ((seq r s).ways b t).head? = some (w.append w') := by
  have hnone : (before.flatMap fun v =>
      (s.ways (b && v.taken.isEmpty) v.rest).map v.append) = [] := by
    rw [List.flatMap_eq_nil_iff]
    intro v hv
    rw [hbefore v hv, List.map_nil]
  rw [ways, hr, List.flatMap_append, hnone, List.nil_append, List.flatMap_cons, List.head?_append,
    List.head?_map, hs]
  rfl

/-- The first way of a sequence, when the first way of its first part leads on. -/
theorem first_seq (hr : (r.ways b t).head? = some w)
    (hs : (s.ways (b && w.taken.isEmpty) w.rest).head? = some w') :
    ((seq r s).ways b t).head? = some (w.append w') := by
  obtain ⟨after, hr⟩ := List.head?_eq_some_iff.1 hr
  have hways : r.ways b t = [] ++ w :: after := hr
  exact first_seq_of_append hways (fun _ hv => nomatch hv) hs

/-- The longest run ends where no character of the kind follows. -/
theorem first_most {g v : Text} (hg : g.all p = true) (hv : v.head?.any p = false) :
    ((most p).ways b (g ++ v)).head? = some ⟨[], g, v⟩ := by
  rw [ways, List.head?_reverse]
  induction g with
  | nil =>
      cases v with
      | nil => rfl
      | cons c v =>
          have hc : p c = false := hv
          simp [runs, hc]
  | cons c g ih =>
      rw [List.all_cons, Bool.and_eq_true] at hg
      simp [runs, hg.1, ih hg.2, Way.cons, List.getLast?_cons, List.getLast?_map]

/-- Among the runs is one that ends at any place up to which there are characters of the kind, and
shorter ones stand before it. -/
theorem exists_runs_append {a : Text} (ha : a.all p = true) (t : Text) : ∃ before after,
    runs p (a ++ t) = before ++ ⟨[], a, t⟩ :: after ∧
      ∀ v ∈ before, ∃ d, d ≠ [] ∧ d <:+ a ∧ v.rest = d ++ t := by
  induction a with
  | nil => cases t <;> exact ⟨[], _, rfl, fun _ hv => nomatch hv⟩
  | cons c a ih =>
      rw [List.all_cons, Bool.and_eq_true] at ha
      obtain ⟨before, after, hruns, hbefore⟩ := ih ha.2
      refine ⟨⟨[], [], c :: (a ++ t)⟩ :: before.map (Way.cons c), after.map (Way.cons c), ?_, ?_⟩
      · simp [runs, ha.1, hruns, Way.cons]
      · intro v hv
        rcases List.mem_cons.1 hv with rfl | hv
        · exact ⟨c :: a, List.cons_ne_nil _ _, List.suffix_rfl, rfl⟩
        · obtain ⟨v', hv', rfl⟩ := List.mem_map.1 hv
          obtain ⟨d, hd, hs, hrest⟩ := hbefore v' hv'
          exact ⟨d, hd, hs.trans (List.suffix_cons c a), hrest⟩

/-- The closing parenthesis ends a call, and nothing but blanks stands in front of it. -/
theorem first_closing {g : Text} (hg : Text.isBlankText g = true) :
    (closing.ways b (g ++ [')'])).head? = some ⟨[], g ++ [')'], []⟩ := by
  have hend : ((seq (one (· == ')')) stop).ways (b && g.isEmpty) [')']).head? =
      some ⟨[], [')'], []⟩ := rfl
  exact first_seq (first_most hg rfl) hend

/-- A call is not closed in front of a character that is no blank. -/
theorem closing_ways_eq_nil {v d : Text} (hv : v.getLast?.any isBlank = false) (hs : d <:+ v)
    (hd : d ≠ []) (u : Text) : closing.ways b (d ++ (u ++ [')'])) = [] := by
  rw [List.eq_nil_iff_forall_not_mem]
  intro w hw
  obtain ⟨g, hg, hclosing⟩ := exists_of_mem_closing hw
  have hdu : d ++ u = g := List.append_cancel_right (by rw [List.append_assoc]; exact hclosing)
  rw [← hdu, Text.isBlankText_append, Bool.and_eq_true, Text.isBlankText, List.all_eq_true] at hg
  obtain ⟨e, rfl⟩ := hs
  rw [List.getLast?_append_of_ne_nil _ hd, List.getLast?_eq_some_getLast hd, Option.any_some,
    hg.1 _ (List.getLast_mem hd)] at hv
  cases hv

/-- What follows the opening parenthesis of a call is matched with the trimmed argument captured. -/
theorem first_argument {inner : Text} (h : inner.all (!Call.isParenthesis ·) = true) :
    (argument.ways b (inner ++ [')'])).head? =
      some ⟨[Text.trim inner], inner ++ [')'], []⟩ := by
  obtain ⟨g, rest, hg, hrest, rfl⟩ := Text.exists_blanks inner
  obtain ⟨g', hg', hend⟩ := Text.exists_trimEnd_append rest
  have htrim : Text.trim (g ++ rest) = Text.trimEnd rest := by
    rw [Text.trim, Text.trimStart_append hg, Text.trimStart_of_head? hrest]
  have hwhole : Text.trimEnd rest ++ (g' ++ [')']) = rest ++ [')'] := by
    rw [← List.append_assoc, ← hend]
  have hlead : (rest ++ [')']).head?.any isBlank = false := by
    cases rest with
    | nil => rfl
    | cons c rest => exact hrest
  have hall : (Text.trimEnd rest).all (!Call.isParenthesis ·) = true := by
    rw [List.all_append, Bool.and_eq_true, hend, List.all_append, Bool.and_eq_true] at h
    exact h.2.1
  -- the shorter runs are given up, since characters that are no blanks would have to close the call
  obtain ⟨before, after, hruns, hbefore⟩ := exists_runs_append hall (g' ++ [')'])
  have hshort : ∀ v ∈ before.map Way.capture,
      closing.ways (b && g.isEmpty && v.taken.isEmpty) v.rest = [] := by
    intro v hv
    obtain ⟨v', hv', rfl⟩ := List.mem_map.1 hv
    obtain ⟨d, hd, hs, hdrest⟩ := hbefore v' hv'
    rw [show v'.capture.rest = d ++ (g' ++ [')']) from hdrest]
    exact closing_ways_eq_nil (Text.getLast?_trimEnd rest) hs hd g'
  have hgroup : (group (least (!Call.isParenthesis ·))).ways (b && g.isEmpty) (rest ++ [')']) =
      before.map Way.capture ++ ⟨[Text.trimEnd rest], Text.trimEnd rest, g' ++ [')']⟩ ::
        after.map Way.capture := by
    rw [← hwhole, ways, ways, hruns, List.map_append, List.map_cons]
    rfl
  have hmatch := first_seq (first_most hg hlead)
    (first_seq_of_append hgroup hshort (first_closing hg'))
  rw [htrim, List.append_assoc, argument, hmatch]
  simp [Way.append, hwhole]

/-- A name is matched when no character of names follows it. -/
theorem first_name {n v : Text} (hs : n.head?.any Call.isNameStart = true)
    (hn : n.all Call.isNameChar = true) (hv : v.head?.any Call.isNameChar = false) :
    (name.ways b (n ++ v)).head? = some ⟨[], n, v⟩ := by
  cases n with
  | nil => cases hs
  | cons c n =>
      rw [List.all_cons, Bool.and_eq_true] at hn
      have hone : ((one Call.isNameStart).ways b (c :: (n ++ v))).head? =
          some ⟨[], [c], n ++ v⟩ := by
        rw [ways, if_pos (show Call.isNameStart c = true from hs)]
        rfl
      exact first_seq hone (first_most hn.2 hv)

/-- The text of a call is matched as a whole, with its name and its trimmed argument captured. -/
theorem first_call {n gap inner : Text} (hs : n.head?.any Call.isNameStart = true)
    (hn : n.all Call.isNameChar = true) (hg : Text.isBlankText gap = true)
    (hi : inner.all (!Call.isParenthesis ·) = true) :
    (call.ways true (n ++ (gap ++ '(' :: (inner ++ [')'])))).head? =
      some ⟨[n, Text.trim inner], n ++ (gap ++ '(' :: (inner ++ [')'])), []⟩ := by
  have hstart : (start.ways true (n ++ (gap ++ '(' :: (inner ++ [')'])))).head? =
      some ⟨[], [], n ++ (gap ++ '(' :: (inner ++ [')']))⟩ := rfl
  have hname : ((group name).ways true (n ++ (gap ++ '(' :: (inner ++ [')'])))).head? =
      some ⟨[n], n, gap ++ '(' :: (inner ++ [')'])⟩ := by
    rw [ways, List.head?_map, first_name hs hn (Call.head?_gap hg _)]
    rfl
  have hopen : ((one (· == '(')).ways (true && n.isEmpty && gap.isEmpty)
      ('(' :: (inner ++ [')']))).head? = some ⟨[], ['('], inner ++ [')']⟩ := rfl
  have hmatch := first_seq hstart (first_seq hname (first_seq (first_most hg rfl)
    (first_seq hopen (first_argument hi))))
  rw [call, hmatch]
  simp [Way.append]

/-! ## what the pattern captures -/

/-- A pattern that begins at the start of a text is not searched for anywhere else. -/
theorem search_start (t : Text) :
    (seq start s).search true t = ((seq start s).ways true t).head? := by
  have hlater : ∀ t : Text, (seq start s).search false t = none := by
    intro t
    induction t with
    | nil => rfl
    | cons c t ih =>
        rw [search, ih]
        rfl
  cases t with
  | nil => rfl
  | cons c t => rw [search, hlater, Option.or_none]

/-- The pattern captures the name and the trimmed argument of what is read as a call, and it matches
nothing else. -/
theorem captures?_call (t : Text) : call.captures? (Text.trim t) =
    (Call.ofText? t).map fun c => [c.name, c.argument] := by
  rw [captures?, call, search_start, ← call]
  cases hc : Call.ofText? t with
  | none =>
      rw [Option.map_none, Option.map_eq_none_iff, List.head?_eq_none_iff,
        List.eq_nil_iff_forall_not_mem]
      intro w hw
      obtain ⟨n, gap, inner, ht, hs, hn, hg, hi⟩ := exists_of_mem_call hw
      have hsome := Call.ofText?_eq_some_iff.2 ⟨gap, inner, ht, hs, hn, hg, hi, rfl⟩
      rw [hc] at hsome
      cases hsome
  | some c =>
      obtain ⟨n, a⟩ := c
      obtain ⟨gap, inner, ht, hs, hn, hg, hi, rfl⟩ := Call.ofText?_eq_some_iff.1 hc
      rw [ht, first_call hs hn hg hi]
      rfl

example : call.captures? "max (  a, b )".toList = some ["max".toList, "a, b".toList] := by decide

end Pattern

namespace Aggregate

/-- An aggregate whose field can stand between the parentheses of a call. -/
structure Callable (a : Aggregate) : Prop where
  ne_nil : a.field ≠ []
  trimmed : Text.Trimmed a.field
  free : a.field.all (!Call.isParenthesis ·) = true

/-- What is read as an aggregate can stand between the parentheses of a call. -/
theorem callable_of_parse {t : Text} {a : Aggregate} (h : parse t = .ok (some a)) : a.Callable := by
  obtain ⟨ht, hp, hn, -⟩ := exists_cut_of_parse h
  exact ⟨hn, ht, hp⟩

/-- Calls are told by their pattern: an aggregate is read from its own text when its field is not
empty, trimmed and without parentheses, and only then; and such are all that are read. -/
theorem parse_render_iff_callable :
    (∀ t, Pattern.call.captures? (Text.trim t) =
      (Call.ofText? t).map fun call => [call.name, call.argument]) ∧
    (∀ a : Aggregate, parse a.render = .ok (some a) ↔ a.Callable) ∧
    ∀ t a, parse t = .ok (some a) → a.Callable ∧ parse a.render = .ok (some a) := by
  refine ⟨Pattern.captures?_call, fun a => ⟨callable_of_parse, fun h => ?_⟩, fun t a h => ?_⟩
  · exact parse_render h.trimmed h.free h.ne_nil
  · have hc := callable_of_parse h
    exact ⟨hc, parse_render hc.trimmed hc.free hc.ne_nil⟩

end Aggregate

end FlatQuery
