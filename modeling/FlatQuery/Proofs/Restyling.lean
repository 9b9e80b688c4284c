import FlatQuery.Proofs.Alike
import FlatQuery.Proofs.Tiling

/-!
# FlatQuery.Proofs.Restyling

Queries that differ in the spelling of their keywords and in the blanks next to them.

A query is what stands before `select`, and then links: each is a keyword, a clause keyword or a
joining word of the filter, with the text up to the next one (`Layout.links`).  A restyled query has
the same links with keywords in another case and with other runs of blanks.

* `Layout.text_links` — the links make up the query;
* `Pieces.Restyled.valid` — the keywords of a restyled query are found in their places;
* `Query.parse_restyled` — what is read from a restyled query is the same.
-/

namespace FlatQuery

/-! ## the links of a query -/

/-- The links of a clause: those of a filter, or one. -/
def Keyword.links (k : Keyword) (word gap : Text) : List Link :=
  match k with
  | .filter => Filter.links word gap
  | _ => [⟨word, gap⟩]

namespace Layout

/-- The links of some keywords, up to the end of the text. -/
def linksFrom (t : Text) : List (Keyword × Span) → List Link
  | [] => []
  | (k, w) :: rest =>
      k.links (t.slice w.start w.stop) (t.slice w.stop (nextStart t rest)) ++ linksFrom t rest

def links (l : Layout) (t : Text) : List Link := linksFrom t l.words

/-- `t'` is `t` with its keywords in other spellings, and with other runs of blanks next to them and
at its ends. -/
def Restyled (l : Layout) (t t' : Text) : Prop :=
  ∃ lead links, Reblanked (t.take l.selectWord.start) lead ∧
    List.Forall₂ Link.Restyled (l.links t) links ∧ t' = lead ++ links.flatMap Link.text

end Layout

/-- The links of a clause make it up. -/
@[simp] theorem Keyword.text_links (k : Keyword) (word gap : Text) :
    (k.links word gap).flatMap Link.text = word ++ gap := by
  cases k
  case filter => exact Filter.text_links word gap
  all_goals simp [links]

/-! ## restyled clauses -/

/-- A clause in another style: its body is alike, and what is read of it is the same. -/
structure ClausePiece.Restyled (k : Keyword) (c c' : ClausePiece) : Prop where
  word : Respelled c.word c'.word
  alike : Alike c.body c'.body
  trim_eq : k ≠ .filter → Text.trim c'.body = Text.trim c.body
  split_eq : k = .filter → Filter.split c'.body = Filter.split c.body

namespace Pieces

def clauseLinks (k : Keyword) (clause : Option ClausePiece) : List Link :=
  (clause.map fun c => k.links c.word c.body).getD []

@[simp] theorem text_clauseLinks (k : Keyword) (clause : Option ClausePiece) :
    (clauseLinks k clause).flatMap Link.text = clauseText clause := by
  cases clause with
  | none => rfl
  | some c => exact k.text_links c.word c.body

/-- Links of a clause in another style make up a restyled clause. -/
theorem exists_clause {k : Keyword} {clause : Option ClausePiece} {ys : List Link}
    (h : List.Forall₂ Link.Restyled (clauseLinks k clause) ys) :
    ∃ clause', ys.flatMap Link.text = clauseText clause' ∧
      Option.Rel (ClausePiece.Restyled k) clause clause' := by
  cases clause with
  | none =>
      rw [List.forall₂_nil_left_iff.1 h]
      exact ⟨none, rfl, .none⟩
  | some c =>
      rw [clauseLinks, Option.map_some, Option.getD_some] at h
      by_cases hk : k = .filter
      · rw [hk] at h
        obtain ⟨word, body, htext, hword, halike, hsplit⟩ := Filter.split_of_restyled h
        exact ⟨some ⟨word, body⟩, htext,
          .some ⟨hword, halike, fun hn => absurd hk hn, fun _ => hsplit⟩⟩
      · have hlinks : k.links c.word c.body = [⟨c.word, c.body⟩] := by
          cases k <;> first | rfl | exact absurd rfl hk
        rw [hlinks] at h
        obtain ⟨y, ys, hy, hys, rfl⟩ := List.forall₂_cons_left_iff.1 h
        rw [List.forall₂_nil_left_iff.1 hys]
        exact ⟨some ⟨y.word, y.gap⟩, by simp [Link.text],
          .some ⟨hy.word, hy.gap.alike, fun _ => hy.gap.trim_eq, fun he => absurd he hk⟩⟩

/-! ## restyled pieces -/

/-- The pieces of a restyled query. -/
structure Restyled (p p' : Pieces) : Prop where
  lead : Reblanked p.lead p'.lead
  selectWord : Respelled p.selectWord p'.selectWord
  selected : Reblanked p.selected p'.selected
  fromWord : Respelled p.fromWord p'.fromWord
  gap : BlankRuns p.gap p'.gap
  source : p'.source = p.source
  rest : BlankRuns p.rest p'.rest
  filter : Option.Rel (ClausePiece.Restyled .filter) p.filter p'.filter
  groupBy : Option.Rel (ClausePiece.Restyled .groupBy) p.groupBy p'.groupBy
  orderBy : Option.Rel (ClausePiece.Restyled .orderBy) p.orderBy p'.orderBy

section First

variable {k : Keyword} {u u' after after' : Text} {clause clause' : Option ClausePiece}
  (h : First k u clause after) (hc : Option.Rel (ClausePiece.Restyled k) clause clause')
include h hc

theorem First.sameEdges : SameEdges (clauseText clause) (clauseText clause') := by
  cases hc with
  | none => exact .refl []
  | some hr => exact (h.2.1.sameEdges (h.2.1.respelled hr.word)).append hr.alike.toSameEdges

/-- What comes before a clause is alike with it. -/
theorem First.alike (hu : Alike u u') :
    Alike (u ++ clauseText clause) (u' ++ clauseText clause') := by
  cases hc with
  | none => simpa using hu
  | some hr =>
      have hs := h.2
      rw [List.head?_append] at hs
      exact hu.join hr.alike hs.of_or_after (h.2.1.respelled hr.word)

/-- A restyled clause is the first place of its keyword. -/
theorem First.restyled (hu : Alike u u') (ha : SameEdges after after')
    (ht : Alike (u ++ (clauseText clause ++ after)) (u' ++ (clauseText clause' ++ after'))) :
    First k u' clause' after' := by
  cases hc with
  | none => exact (ht.absent k).1 h
  | some hr =>
      exact ⟨(hu.absent k).1 h.1,
        hu.stands (hr.alike.append ha) h.2 (h.2.1.respelled hr.word)⟩

end First

namespace Restyled

variable {p p' : Pieces}

theorem beforeGroupBy (r : p.Restyled p') (h : p.Valid) : Alike p.beforeGroupBy p'.beforeGroupBy :=
  h.filter_first.alike r.filter r.rest.alike

theorem beforeOrderBy (r : p.Restyled p') (h : p.Valid) : Alike p.beforeOrderBy p'.beforeOrderBy :=
  h.groupBy_first.alike r.groupBy (r.beforeGroupBy h)

theorem tail (r : p.Restyled p') (h : p.Valid) : Alike p.tail p'.tail :=
  h.orderBy_first.alike r.orderBy (r.beforeOrderBy h)

/-- Every keyword of a restyled query stands where a search comes upon it first. -/
theorem valid (r : p.Restyled p') (h : p.Valid) : p'.Valid where
  select_absent := (r.lead.alike.absent .select).1 h.select_absent
  select_stands := r.lead.sameEdges.stands
    (r.selected.sameEdges.append (h.from_stands.1.sameEdges (h.from_stands.1.respelled r.fromWord)))
    h.select_stands (h.select_stands.1.respelled r.selectWord)
  from_absent := (r.selected.alike.absent .source).1 h.from_absent
  from_stands := by
    rw [r.source]
    exact r.selected.sameEdges.stands (r.gap.sameEdges.append (.refl p.source)) h.from_stands
      (h.from_stands.1.respelled r.fromWord)
  gap_blank := r.gap.right
  source_ne_nil := by
    rw [r.source]
    exact h.source_ne_nil
  source_run := by
    rw [r.source]
    exact h.source_run
  source_free := by
    rw [r.source]
    exact h.source_free
  rest_blank := r.rest.right
  tail_head := (r.tail h).all_head?.symm.trans h.tail_head
  filter_first := by
    have ht := r.tail h
    rw [tail_eq_filter, tail_eq_filter] at ht
    exact h.filter_first.restyled r.filter r.rest.alike
      ((h.groupBy_first.sameEdges r.groupBy).append (h.orderBy_first.sameEdges r.orderBy)) ht
  groupBy_first := by
    have ht := r.tail h
    rw [tail_eq_groupBy, tail_eq_groupBy] at ht
    exact h.groupBy_first.restyled r.groupBy (r.beforeGroupBy h)
      (h.orderBy_first.sameEdges r.orderBy) ht
  orderBy_first := by
    have ht := r.tail h
    rw [tail_eq_orderBy, tail_eq_orderBy] at ht
    exact h.orderBy_first.restyled r.orderBy (r.beforeOrderBy h) (.refl []) ht

/-- The list of a restyled clause is read from the same text. -/
theorem trim_body {k : Keyword} {clause clause' : Option ClausePiece} (hk : k ≠ .filter)
    (hc : Option.Rel (ClausePiece.Restyled k) clause clause') :
    clause'.map (Text.trim ·.body) = clause.map (Text.trim ·.body) := by
  cases hc with
  | none => rfl
  | some hr => rw [Option.map_some, Option.map_some, hr.trim_eq hk]

/-- A restyled query is read as it was. -/
theorem reads {options : Options} {q : Query} (r : p.Restyled p') (h : p.Reads options q) :
    p'.Reads options { q with text := p'.text } where
  text_eq := rfl
  source_eq := by
    rw [r.source]
    exact h.source_eq
  selected := by
    rw [selectedTokens, r.selected.trim_eq]
    exact h.selected
  filter := by
    have hf := h.filter
    have hr := r.filter
    revert hf hr
    cases p.filter <;> cases p'.filter <;> intro hf hr <;> cases hr
    · exact hf
    · next hr =>
        refine Filter.parse_of_split_eq ?_ hf
        rw [Filter.split_trim, Filter.split_trim, hr.split_eq rfl]
  groupBy := by
    rw [trim_body (by decide) r.groupBy]
    exact h.groupBy
  orderBy := by
    rw [trim_body (by decide) r.orderBy]
    exact h.orderBy

end Restyled

/-! ## the links of pieces -/

/-- Keywords with what stands behind them. -/
def parts (p : Pieces) : List (Keyword × ClausePiece) :=
  (.select, ⟨p.selectWord, p.selected⟩) :: (.source, ⟨p.fromWord, p.gap ++ p.source ++ p.rest⟩) ::
    [(Keyword.filter, p.filter), (.groupBy, p.groupBy), (.orderBy, p.orderBy)].filterMap
      fun x => x.2.map (x.1, ·)

/-- The text of keywords with what stands behind them. -/
def partsText (parts : List (Keyword × ClausePiece)) : Text :=
  parts.flatMap fun x => x.2.word ++ x.2.body

/-- Where keywords stand behind `u`. -/
def placed (u : Text) : List (Keyword × ClausePiece) → List (Keyword × Span)
  | [] => []
  | (k, c) :: rest => (k, .after u c.word) :: placed (u ++ c.word ++ c.body) rest

/-- The first keyword stands right behind `u`. -/
@[simp] theorem nextStart_placed (u : Text) (parts : List (Keyword × ClausePiece)) :
    Layout.nextStart (u ++ partsText parts) (placed u parts) = u.length := by
  cases parts with
  | nil => simp [placed, partsText]
  | cons x rest => rfl

/-- The links of keywords are what stands behind each of them. -/
theorem linksFrom_placed (u : Text) (parts : List (Keyword × ClausePiece)) :
    Layout.linksFrom (u ++ partsText parts) (placed u parts) =
      parts.flatMap fun x => x.1.links x.2.word x.2.body := by
  induction parts generalizing u with
  | nil => rfl
  | cons x rest ih =>
      obtain ⟨k, word, body⟩ := x
      have htext : u ++ partsText ((k, ⟨word, body⟩) :: rest) =
          u ++ word ++ body ++ partsText rest := by
        simp [partsText]
      have hword : (u ++ word ++ body ++ partsText rest).slice (Span.after u word).start
          (Span.after u word).stop = word := by
        simp
      have hbody : (u ++ word ++ body ++ partsText rest).slice (Span.after u word).stop
          (u ++ word ++ body).length = body := by
        have hs := Text.slice_append_mid (u ++ word) body (partsText rest)
        simpa only [Span.stop_after, List.length_append, List.append_assoc, Nat.add_assoc] using hs
      rw [htext, placed, Layout.linksFrom, hword, nextStart_placed, hbody, ih, List.flatMap_cons]

/-- The keywords of a layout stand where the parts do. -/
theorem words_layout (p : Pieces) : p.layout.words = placed p.lead p.parts := by
  cases hf : p.filter <;> cases hg : p.groupBy <;> cases ho : p.orderBy <;>
    simp [Layout.words, Layout.optionalWords_eq, parts, placed, head, beforeSource, beforeFrom,
      beforeOrderBy, beforeGroupBy, hf, hg, ho]

theorem text_eq_partsText (p : Pieces) : p.text = p.lead ++ partsText p.parts := by
  rw [text_eq, tail_eq_filter, parts]
  cases p.filter <;> cases p.groupBy <;> cases p.orderBy <;> simp [partsText]

/-- The links of a query, piece by piece. -/
theorem links_layout (p : Pieces) : p.layout.links p.text =
    ⟨p.selectWord, p.selected⟩ :: ⟨p.fromWord, p.gap ++ p.source ++ p.rest⟩ ::
      (clauseLinks .filter p.filter ++ (clauseLinks .groupBy p.groupBy ++
        clauseLinks .orderBy p.orderBy)) := by
  rw [Layout.links, words_layout, text_eq_partsText, linksFrom_placed]
  simp only [parts]
  cases p.filter <;> cases p.groupBy <;> cases p.orderBy <;>
    simp [clauseLinks, Keyword.links]

/-- A restyled text is put together from restyled pieces. -/
theorem exists_restyled {p : Pieces} {t' : Text} (h : p.Valid)
    (hr : p.layout.Restyled p.text t') : ∃ p', p'.text = t' ∧ p.Restyled p' := by
  obtain ⟨lead, links, hlead, hlinks, rfl⟩ := hr
  rw [text_eq_partsText, show p.layout.selectWord.start = p.lead.length from rfl,
    List.take_left] at hlead
  rw [links_layout] at hlinks
  obtain ⟨x, xs, hx, hxs, rfl⟩ := List.forall₂_cons_left_iff.1 hlinks
  obtain ⟨y, ys, hy, hys, rfl⟩ := List.forall₂_cons_left_iff.1 hxs
  obtain ⟨fs, zs, rfl, hfs, hzs⟩ := exists_append_of_forall₂ hys
  obtain ⟨gs, os, rfl, hgs, hos⟩ := exists_append_of_forall₂ hzs
  have hsource : Text.trim y.gap = p.source := by
    rw [hy.gap.trim_eq, h.trimmed_source.trim_pad h.gap_blank h.rest_blank]
  obtain ⟨gap, rest, hgap, rgap, rrest⟩ :=
    hy.gap.sameEdges.exists_runs hsource h.gap_blank h.rest_blank h.source_ne_nil
  obtain ⟨filter, hft, hf⟩ := exists_clause hfs
  obtain ⟨groupBy, hgt, hg⟩ := exists_clause hgs
  obtain ⟨orderBy, hot, ho⟩ := exists_clause hos
  refine ⟨⟨lead, x.word, x.gap, y.word, gap, p.source, rest, filter, groupBy, orderBy⟩, ?_,
    hlead, hx.word, hx.gap, hy.word, rgap, rfl, rrest, hf, hg, ho⟩
  simp [text_eq, tail_eq_filter, Link.text, hgap, hft, hgt, hot]

end Pieces

/-- The links of a query make it up, together with what stands before `select`. -/
theorem Layout.text_links {t : Text} {l : Layout} (h : locate t = .ok l) :
    t.take l.selectWord.start ++ (l.links t).flatMap Link.text = t := by
  obtain ⟨p, hp, rfl, rfl⟩ := Pieces.exists_of_locate h
  have hlead : p.text.take p.layout.selectWord.start = p.lead := by
    rw [Pieces.text_eq_partsText]
    exact List.take_left
  rw [hlead, Pieces.links_layout]
  simp [Pieces.text_eq, Pieces.tail_eq_filter]

namespace Query

/-! ## reading a restyled query -/

/-- A query that is accepted is accepted in every other style, with the same result but for its
text: neither the spelling of its keywords matters, nor which blanks stand in them, next to them and
at its ends. -/
theorem parse_restyled {options : Options} {t t' : Text} {q : Query} {l : Layout}
    (h : parse options t = .ok q) (hl : Layout.locate t = .ok l) (hr : l.Restyled t t') :
    parse options t' = .ok { q with text := t' } := by
  obtain ⟨p, hp, rfl, rfl⟩ := Pieces.exists_of_locate hl
  obtain ⟨p', rfl, r⟩ := Pieces.exists_restyled hp hr
  exact (Pieces.parse_text_eq_ok_iff (r.valid hp)).2
    (r.reads ((Pieces.parse_text_eq_ok_iff hp).1 h))

/-- Such as a query with its keywords in other cases and other blanks at both ends, in `group by`
and around `and`; the `and` in quotes is part of a condition and stays as it is. -/
theorem parse_restyled_quoted_and : ∃ q l,
    parse {} " select a from t where n='x and y' and m>2 group by c ".toList = .ok q ∧
    Layout.locate " select a from t where n='x and y' and m>2 group by c ".toList = .ok l ∧
    l.Restyled " select a from t where n='x and y' and m>2 group by c ".toList
      "\n\tSeLECT  a\tFROM\tt\n WHERE n='x and y'\tAND\tm>2\nGROUP \t by  c\n".toList ∧
    parse {} "\n\tSeLECT  a\tFROM\tt\n WHERE n='x and y'\tAND\tm>2\nGROUP \t by  c\n".toList =
      .ok { q with
        text := "\n\tSeLECT  a\tFROM\tt\n WHERE n='x and y'\tAND\tm>2\nGROUP \t by  c\n".toList } := by
  have hq : parse {} " select a from t where n='x and y' and m>2 group by c ".toList =
      .ok ⟨" select a from t where n='x and y' and m>2 group by c ".toList, ['t'], [['a']], [],
        [⟨['n'], .eq, "'x and y'".toList⟩, ⟨['m'], .gt, ['2']⟩], [.and], [['c']], []⟩ := by
    decide +kernel
  have hl : Layout.locate " select a from t where n='x and y' and m>2 group by c ".toList =
      .ok ⟨⟨1, 7⟩, ⟨10, 14⟩, ⟨15, 16⟩, some ⟨17, 22⟩, some ⟨43, 51⟩, none⟩ := by decide +kernel
  have hlinks : Layout.links ⟨⟨1, 7⟩, ⟨10, 14⟩, ⟨15, 16⟩, some ⟨17, 22⟩, some ⟨43, 51⟩, none⟩
      " select a from t where n='x and y' and m>2 group by c ".toList =
      [⟨"select".toList, " a ".toList⟩, ⟨"from".toList, " t ".toList⟩,
        ⟨"where".toList, " n='x and y' ".toList⟩, ⟨"and".toList, " m>2 ".toList⟩,
        ⟨"group by".toList, " c ".toList⟩] := by
    decide +kernel
  -- the two words of a keyword and the run between them are given as the parts they are
  have hgroup : Respelled ("group".toList ++ " ".toList ++ "by".toList)
      ("GROUP".toList ++ " \t ".toList ++ "by".toList) :=
    .mk (by decide) ⟨by decide, by decide, by decide⟩ (by decide)
  have hr : Layout.Restyled ⟨⟨1, 7⟩, ⟨10, 14⟩, ⟨15, 16⟩, some ⟨17, 22⟩, some ⟨43, 51⟩, none⟩
      " select a from t where n='x and y' and m>2 group by c ".toList
      "\n\tSeLECT  a\tFROM\tt\n WHERE n='x and y'\tAND\tm>2\nGROUP \t by  c\n".toList := by
    refine ⟨"\n\t".toList, [⟨"SeLECT".toList, "  a\t".toList⟩, ⟨"FROM".toList, "\tt\n ".toList⟩,
      ⟨"WHERE".toList, " n='x and y'\t".toList⟩, ⟨"AND".toList, "\tm>2\n".toList⟩,
      ⟨"GROUP \t by".toList, "  c\n".toList⟩], by decide, ?_, by decide⟩
    rw [hlinks]
    exact .cons ⟨.of_recased (by decide), by decide⟩ <|
      .cons ⟨.of_recased (by decide), by decide⟩ <|
      .cons ⟨.of_recased (by decide), by decide⟩ <|
      .cons ⟨.of_recased (by decide), by decide⟩ <|
      .cons ⟨hgroup, by decide⟩ .nil
  exact ⟨_, _, hq, hl, hr, parse_restyled hq hl hr⟩

end Query

end FlatQuery
