import FlatQuery.Proofs.JsonText
import FlatQuery.Proofs.Outcome
import FlatQuery.Record.OfJson
import FlatQuery.Record.OfText

/-!
# FlatQuery.Proofs.Restoring

What is stored is read back, by readers of JSON values and by readers of JSON text.

`LawfulReading` asks of a kind of reader that each way to build a reader reads back what is stored
for it.  A record is read back from the object of its fields.

* `JsonReader.fillMembers_members` — the members of an object are filled in, in any order;
* `JsonReader.record_error` — and a member that cannot be read is the error;
* `TextReader.fillMembers_renderEntries` — the members of a text are filled in one by one;
* the instances of `LawfulReading` for `JsonReader` and for `TextReader`.
-/

namespace FlatQuery

/-! ## fields and what they are filled in from -/

/-- A field of a record, the value that is stored for it, and what filling it in does. -/
structure Filling (ρ : Type → Type) (σ : Type) where
  slot : Slot ρ σ
  value : Json
  set : σ → σ

namespace Filling

variable {ρ : Type → Type} {σ : Type}

def member (f : Filling ρ σ) : Text × Json := (f.slot.key, f.value)

/-- The record after some of its fields have been filled in. -/
def apply (fillings : List (Filling ρ σ)) (record : σ) : σ :=
  fillings.foldl (fun record f => f.set record) record

/-- No field is filled in twice, and the order does not matter. -/
structure Independent (fillings : List (Filling ρ σ)) : Prop where
  nodup : (fillings.map (·.slot.key)).Nodup
  commute : fillings.Pairwise fun f g => ∀ record, f.set (g.set record) = g.set (f.set record)

/-- A slot is found by its key. -/
theorem find?_slot {fillings : List (Filling ρ σ)} {f : Filling ρ σ}
    (hd : (fillings.map (·.slot.key)).Nodup) (hf : f ∈ fillings) :
    (fillings.map slot).find? (fun slot => slot.key == f.slot.key) = some f.slot := by
  induction fillings with
  | nil => cases hf
  | cons g fillings ih =>
      rw [List.map_cons, List.nodup_cons] at hd
      rcases List.mem_cons.1 hf with rfl | hf
      · simp
      · have hne : g.slot.key ≠ f.slot.key := fun he =>
          hd.1 (he ▸ List.mem_map_of_mem hf)
        rw [List.map_cons, List.find?_cons_of_neg (by simpa using hne)]
        exact ih hd.2 hf

/-- Fields may be filled in in any order. -/
theorem apply_perm {fillings fillings' : List (Filling ρ σ)} (hp : fillings'.Perm fillings)
    (hi : Independent fillings) (record : σ) : apply fillings' record = apply fillings record := by
  refine hp.foldl_eq' (fun f hf g hg record => ?_) record
  have hc := List.Pairwise.forall_of_forall_of_flip (fun _ _ _ => rfl) hi.commute
    (hi.commute.imp fun h record => (h record).symm)
  exact (hc (hp.subset hf) (hp.subset hg) record).symm

end Filling

/-- Kinds of readers that read back what is stored. -/
class LawfulReading (ρ : Type → Type) [Reading ρ] where
  /-- The reader reads a value from what is stored for it. -/
  Restores {α : Type} : ρ α → Json → α → Prop
  restores_map {α β : Type} {reader : ρ α} {json : Json} {a : α} (f : α → β) :
    Restores reader json a → Restores (Reading.map f reader) json (f a)
  restores_text (t : Text) : Restores Reading.text (.string t) t
  restores_list {α : Type} {reader : ρ α} {items : List Json} {as : List α} :
    List.Forall₂ (Restores reader) items as → Restores (Reading.list reader) (.array items) as
  restores_choice {α : Type} {choice : Choice α} {a : α} :
    choice.find? (choice.name a) = some a →
      Restores (Reading.choice choice) (.string (choice.name a)) a
  restores_record {α σ : Type} {fillings : List (Filling ρ σ)} {blank : σ}
    {check : σ → Except QueryError α} {a : α} (title : Text) : Filling.Independent fillings →
      (∀ f ∈ fillings, Restores f.slot.fill f.value f.set) →
      check (Filling.apply fillings blank) = .ok a →
      Restores (Reading.record title (fillings.map Filling.slot) blank check)
        (.object (fillings.map Filling.member)) a

/-! ## readers of JSON values -/

namespace Json

/-- Members are put in the order of their keys. -/
theorem exists_insert_eq {f : ε → Text × Json} {e : ε} {es : List ε}
    (h : (f e).1 ∉ es.map fun d => (f d).1) :
    ∃ es' : List ε, insert (f e).1 (f e).2 (es.map f) = es'.map f ∧ es'.Perm (e :: es) := by
  induction es with
  | nil => exact ⟨[e], rfl, .refl _⟩
  | cons d es ih =>
      rw [List.map_cons, List.mem_cons, not_or] at h
      obtain ⟨es', he, hp⟩ := ih h.2
      rw [List.map_cons, insert]
      by_cases hl : (f e).1 < (f d).1
      · exact ⟨e :: d :: es, by simp [hl], .refl _⟩
      · refine ⟨d :: es', by simp [hl, h.1, he], ?_⟩
        exact (hp.cons d).trans (.swap e d es)

/-- The members of an object whose keys differ are its fields in another order. -/
theorem exists_members_eq {f : ε → Text × Json} {es : List ε}
    (h : (es.map fun d => (f d).1).Nodup) :
    ∃ es' : List ε, members (es.map f) = es'.map f ∧ es'.Perm es := by
  have hgeneral : ∀ sorted : List ε, ((sorted ++ es).map fun d => (f d).1).Nodup →
      ∃ es' : List ε, (es.map f).foldl (fun sorted m => insert m.1 m.2 sorted) (sorted.map f) =
        es'.map f ∧ es'.Perm (sorted ++ es) := by
    clear h
    induction es with
    | nil =>
        intro sorted _
        exact ⟨sorted, rfl, by rw [List.append_nil]⟩
    | cons e es ih =>
        intro sorted h
        have hp : (sorted ++ e :: es).Perm (e :: sorted ++ es) := List.perm_middle
        have hn := (hp.map fun d => (f d).1).nodup_iff.1 h
        have he : (f e).1 ∉ sorted.map fun d => (f d).1 := by
          rw [List.cons_append, List.map_cons, List.nodup_cons, List.map_append] at hn
          exact fun hm => hn.1 (List.mem_append_left _ hm)
        obtain ⟨sorted', hs, hps⟩ := exists_insert_eq he
        have hps' : (sorted' ++ es).Perm (e :: sorted ++ es) := hps.append_right es
        obtain ⟨es', hes, hpes⟩ := ih sorted' ((hps'.map fun d => (f d).1).nodup_iff.2 hn)
        rw [List.map_cons, List.foldl_cons]
        refine ⟨es', ?_, hpes.trans (hps'.trans hp.symm)⟩
        rw [← hes, ← hs]
  exact hgeneral [] h

end Json

namespace JsonReader

variable {σ : Type}

/-- Members are filled in one by one. -/
theorem foldlM_fillMember {fillings rest : List (Filling JsonReader σ)}
    (hd : (fillings.map (·.slot.key)).Nodup)
    (hf : ∀ f ∈ fillings, f.slot.fill f.value = .ok f.set) (hr : rest ⊆ fillings) (record : σ) :
    (rest.map Filling.member).foldlM (fillMember (fillings.map Filling.slot)) record =
      .ok (Filling.apply rest record) := by
  induction rest generalizing record with
  | nil => rfl
  | cons f rest ih =>
      have hm : f ∈ fillings := hr (by simp)
      have hstep : fillMember (fillings.map Filling.slot) record f.member =
          .ok (f.set record) := by
        rw [fillMember, Filling.member, Filling.find?_slot hd hm]
        simp [hf f hm, Except.map]
      rw [List.map_cons, List.foldlM_cons, hstep, ok_bind]
      exact ih (fun g hg => hr (by simp [hg])) (f.set record)

/-- The members of an object are filled in, in any order. -/
theorem fillMembers_members {fillings : List (Filling JsonReader σ)} (blank : σ)
    (hi : Filling.Independent fillings)
    (hf : ∀ f ∈ fillings, f.slot.fill f.value = .ok f.set) :
    fillMembers (fillings.map Filling.slot) blank (Json.members (fillings.map Filling.member)) =
      .ok (Filling.apply fillings blank) := by
  obtain ⟨sorted, hs, hp⟩ := Json.exists_members_eq (f := Filling.member) hi.nodup
  have hmissing : (fillings.map Filling.slot).find?
      (fun slot => !(sorted.map Filling.member).any fun member => member.1 == slot.key) = none := by
    rw [List.find?_eq_none]
    intro slot hm
    obtain ⟨f, hf, rfl⟩ := List.mem_map.1 hm
    rw [Bool.not_eq_true, Bool.not_eq_false', List.any_eq_true]
    exact ⟨f.member, List.mem_map_of_mem (hp.mem_iff.2 hf), by simp [Filling.member]⟩
  rw [hs, fillMembers, foldlM_fillMember hi.nodup hf hp.subset, ok_bind, hmissing,
    Filling.apply_perm hp hi]
  rfl

/-- A record is read from the object of its fields when it passes the check. -/
theorem record_members {fillings : List (Filling JsonReader σ)} {blank : σ}
    {check : σ → Except QueryError α} (title : Text) (hi : Filling.Independent fillings)
    (hf : ∀ f ∈ fillings, f.slot.fill f.value = .ok f.set) :
    record title (fillings.map Filling.slot) blank check
        (.object (fillings.map Filling.member)) =
      (check (Filling.apply fillings blank)).mapError .broken := by
  rw [record, fillMembers_members _ hi hf, ok_bind]
  dsimp only
  cases check (Filling.apply fillings blank) <;> rfl

/-- What cannot be read cannot be read and changed. -/
theorem map_error {reader : JsonReader α} {json : Json} {e : DecodeError} (f : α → β)
    (h : reader json = .error e) : map f reader json = .error e := by
  rw [map, h]
  rfl

/-- A field that cannot be read is the error, whichever fields are read before it. -/
theorem foldlM_fillMember_error {fillings rest : List (Filling JsonReader σ)}
    {bad : Filling JsonReader σ} {e : DecodeError} (hd : (fillings.map (·.slot.key)).Nodup)
    (hbad : bad.slot.fill bad.value = .error e)
    (hf : ∀ f ∈ fillings, f = bad ∨ f.slot.fill f.value = .ok f.set) (hr : rest ⊆ fillings)
    (hb : bad ∈ rest) (record : σ) :
    (rest.map Filling.member).foldlM (fillMember (fillings.map Filling.slot)) record =
      .error e := by
  induction rest generalizing record with
  | nil => cases hb
  | cons f rest ih =>
      have hm : f ∈ fillings := hr (by simp)
      have hstep : fillMember (fillings.map Filling.slot) record f.member =
          (f.slot.fill f.value).map fun set => set record := by
        rw [fillMember, Filling.member, Filling.find?_slot hd hm]
      rw [List.map_cons, List.foldlM_cons, hstep]
      rcases hf f hm with rfl | hok
      · rw [hbad]
        rfl
      · rcases List.mem_cons.1 hb with rfl | hb
        · rw [hbad] at hok
          cases hok
        · rw [hok]
          exact ih (fun g hg => hr (by simp [hg])) hb (f.set record)

/-- A record with a field that cannot be read is not read. -/
theorem record_error {fillings : List (Filling JsonReader σ)} {bad : Filling JsonReader σ}
    {e : DecodeError} {blank : σ} {check : σ → Except QueryError α} (title : Text)
    (hi : Filling.Independent fillings) (hb : bad ∈ fillings)
    (hbad : bad.slot.fill bad.value = .error e)
    (hf : ∀ f ∈ fillings, f = bad ∨ f.slot.fill f.value = .ok f.set) :
    record title (fillings.map Filling.slot) blank check
      (.object (fillings.map Filling.member)) = .error e := by
  obtain ⟨sorted, hs, hp⟩ := Json.exists_members_eq (f := Filling.member) hi.nodup
  rw [record, hs, fillMembers, foldlM_fillMember_error hi.nodup hbad hf hp.subset
    (hp.mem_iff.2 hb)]
  rfl

instance : LawfulReading JsonReader where
  Restores reader json a := reader json = .ok a
  restores_map f h := by
    show Except.map f _ = _
    rw [h]
    rfl
  restores_text t := rfl
  restores_list h := mapM_eq_ok_iff.2 h
  restores_choice h := by
    show named _ _ = _
    rw [named, h]
  restores_record title hi hf hc := by
    show record title _ _ _ _ = _
    rw [record_members title hi hf, hc]
    rfl

end JsonReader

/-! ## readers of JSON text -/

namespace TextReader

open Json (Opens lead)

/-- The reader reads a value from a text, whatever follows. -/
def Reads (reader : TextReader α) (t : Text) (a : α) : Prop :=
  Opens t ∧ ∀ rest, reader (t ++ rest) = .ok (a, rest)

/-- A string starts with its quote. -/
@[simp] theorem skipGap_string (t rest : Text) : Json.skipGap ((Json.string t).render ++ rest) =
    '"' :: (t.flatMap Json.escape ++ '"' :: rest) := by
  simp [Json.render, Json.renderString, Json.skipGap_cons (c := '"') rfl]

/-- An item is read, and then the others. -/
theorem items_lead {reader : TextReader α} {fuel : Nat} {t rest rest' : Text} {a : α}
    {as : List α} (first : Bool) (h : Reads reader t a)
    (hmore : items reader fuel false rest = .ok (as, rest')) :
    items reader (fuel + 1) first (lead first (t ++ rest)) = .ok (a :: as, rest') := by
  rw [items, Json.next_lead (.inl rfl) (h.1.append rest)]
  simp [h.2 rest, hmore]

@[simp] theorem items_close (reader : TextReader α) (fuel : Nat) (first : Bool) (rest : Text) :
    items reader (fuel + 1) first (']' :: rest) = .ok ([], rest) := by
  rw [items, Json.next_close (.inl rfl)]
  rfl

/-- The items of an array are read one by one. -/
theorem items_renderEntries {reader : TextReader α} {js : List Json} {as : List α} {fuel : Nat}
    (h : List.Forall₂ (fun j a => Reads reader j.render a) js as) (hl : js.length < fuel)
    (first : Bool) (rest : Text) :
    items reader fuel first (Json.renderEntries first (js.map Json.render) ++ ']' :: rest) =
      .ok (as, rest) := by
  obtain ⟨fuel, rfl⟩ := Nat.exists_eq_succ_of_ne_zero (by omega : fuel ≠ 0)
  induction h generalizing first fuel with
  | nil => exact items_close reader fuel first rest
  | @cons j a js as hj _ ih =>
      rw [List.length_cons] at hl
      obtain ⟨fuel, rfl⟩ := Nat.exists_eq_succ_of_ne_zero (by omega : fuel ≠ 0)
      rw [List.map_cons, Json.renderEntries, List.append_assoc, Json.lead_append]
      exact items_lead first hj (ih false fuel (by omega))

/-- An array is read item by item. -/
theorem reads_list {reader : TextReader α} {js : List Json} {as : List α}
    (h : List.Forall₂ (fun j a => Reads reader j.render a) js as) :
    Reads (list reader) (Json.array js).render as := by
  refine ⟨⟨'[', _, rfl, rfl, by decide, by decide⟩, fun rest => ?_⟩
  have hskip : Json.skipGap ((Json.array js).render ++ rest) =
      '[' :: (Json.renderEntries true (js.map Json.render) ++ ']' :: rest) := by
    simp [Json.render, Json.renderItems_eq, Json.skipGap_cons (c := '[') rfl]
  have hl := Json.length_le_length_renderEntries_succ true (js.map Json.render)
  simp only [list, hskip]
  refine items_renderEntries h ?_ true rest
  simp only [List.length_map, List.length_append, List.length_cons] at hl ⊢
  omega

/-! ## members -/

/-- A member is filled in, and then the others. -/
theorem fillMembers_lead {σ : Type} {slots : List (Slot TextReader σ)} {f : Filling TextReader σ}
    {seen : List Text} (fuel : Nat) (first : Bool) (record : σ) (rest : Text)
    (hs : slots.find? (fun slot => slot.key == f.slot.key) = some f.slot)
    (hn : f.slot.key ∉ seen) (hf : Reads f.slot.fill f.value.render f.set) :
    fillMembers slots (fuel + 1) first seen record
        (lead first (Json.renderMember f.member ++ rest)) =
      fillMembers slots fuel false (f.slot.key :: seen) (f.set record) rest := by
  have hkey : Json.renderMember f.member ++ rest = '"' :: (f.slot.key.flatMap Json.escape ++
      '"' :: ':' :: (f.value.render ++ rest)) := by
    simp [Json.renderMember, Json.renderString, Filling.member]
  rw [fillMembers, Json.next_lead (.inr rfl) ((Json.opens_renderMember _).append rest), hkey,
    ok_bind]
  simp [Json.openKey, hs, hn, Json.dropColon, Json.skipGap_cons (c := ':') rfl, hf.2 rest]

/-- The members of an object are filled in one by one: those of `todo` are left, and the keys of the
others have been seen. -/
theorem fillMembers_renderEntries {σ : Type} {fillings todo : List (Filling TextReader σ)}
    (hd : (fillings.map (·.slot.key)).Nodup)
    (hf : ∀ f ∈ fillings, Reads f.slot.fill f.value.render f.set)
    (hsub : todo.Sublist fillings) {seen : List Text} (hnew : ∀ f ∈ todo, f.slot.key ∉ seen)
    (hall : ∀ f ∈ fillings, f.slot.key ∈ seen ∨ f ∈ todo) {fuel : Nat} (hl : todo.length < fuel)
    (first : Bool) (record : σ) (rest : Text) :
    fillMembers (fillings.map Filling.slot) fuel first seen record
        (Json.renderEntries first (todo.map fun f => Json.renderMember f.member) ++
          '\x7d' :: rest) =
      .ok (Filling.apply todo record, rest) := by
  obtain ⟨fuel, rfl⟩ := Nat.exists_eq_succ_of_ne_zero (by omega : fuel ≠ 0)
  -- on the fields that are left: the key of the one that is filled in joins `seen`
  induction todo generalizing fuel first seen record with
  | nil =>
      have hseen : (fillings.map Filling.slot).all (fun slot => seen.contains slot.key) = true := by
        simpa using hall
      rw [List.map_nil, Json.renderEntries, List.nil_append, fillMembers,
        Json.next_close (.inr rfl), ok_bind]
      simp only [hseen, if_true]
      rfl
  | cons f todo ih =>
      have hm : f ∈ fillings := hsub.subset List.mem_cons_self
      have hkeys := (hsub.map (·.slot.key)).nodup hd
      rw [List.map_cons, List.nodup_cons] at hkeys
      rw [List.length_cons] at hl
      obtain ⟨fuel, rfl⟩ := Nat.exists_eq_succ_of_ne_zero (by omega : fuel ≠ 0)
      rw [List.map_cons, Json.renderEntries, List.append_assoc, Json.lead_append,
        fillMembers_lead _ first record _ (Filling.find?_slot hd hm) (hnew f List.mem_cons_self)
          (hf f hm)]
      refine ih ((List.sublist_cons_self f todo).trans hsub) ?_ ?_ false (f.set record) fuel
        (by omega)
      · intro g hg
        rw [List.mem_cons, not_or]
        refine ⟨fun he => hkeys.1 ?_, hnew g (List.mem_cons_of_mem _ hg)⟩
        rw [← he]
        exact List.mem_map_of_mem hg
      · intro g hg
        by_cases hgf : g = f
        · simp [hgf]
        · have hg := hall g hg
          simp only [List.mem_cons, hgf, false_or] at hg ⊢
          exact hg.imp_left .inr

/-- A record is read from the object of its fields. -/
theorem reads_record {σ : Type} {fillings : List (Filling TextReader σ)} {blank : σ}
    {check : σ → Except QueryError α} {a : α} (hi : Filling.Independent fillings)
    (hf : ∀ f ∈ fillings, Reads f.slot.fill f.value.render f.set)
    (hc : check (Filling.apply fillings blank) = .ok a) :
    Reads (record (fillings.map Filling.slot) blank check)
      (Json.object (fillings.map Filling.member)).render a := by
  refine ⟨⟨'\x7b', _, rfl, rfl, by decide, by decide⟩, fun rest => ?_⟩
  have hskip : Json.skipGap ((Json.object (fillings.map Filling.member)).render ++ rest) =
      '\x7b' :: (Json.renderEntries true (fillings.map fun f => Json.renderMember f.member) ++
        '\x7d' :: rest) := by
    simp [Json.render, Json.renderMembers_eq, Json.skipGap_cons (c := '\x7b') rfl,
      Function.comp_def]
  have hl := Json.length_le_length_renderEntries_succ true
    (fillings.map fun f => Json.renderMember f.member)
  rw [List.length_map] at hl
  simp only [record, hskip]
  rw [fillMembers_renderEntries hi.nodup hf (.refl fillings) (fun f _ => List.not_mem_nil)
    (fun f hf => .inr hf) ?_ true blank rest, ok_bind]
  · simp only [hc]
    rfl
  · simp only [List.length_append, List.length_cons]
    omega

instance : LawfulReading TextReader where
  Restores reader json a := Reads reader json.render a
  restores_map f h := by
    refine ⟨h.1, fun rest => ?_⟩
    show Except.map _ _ = _
    rw [h.2 rest]
    rfl
  restores_text t := by
    refine ⟨⟨'"', _, rfl, rfl, by decide, by decide⟩, fun rest => ?_⟩
    show text _ = _
    simp only [text, skipGap_string, Json.readString_flatMap_escape]
  restores_list h := reads_list h
  restores_choice h := by
    refine ⟨⟨'"', _, rfl, rfl, by decide, by decide⟩, fun rest => ?_⟩
    show choice _ _ = _
    simp only [choice, skipGap_string, if_true, Json.readString_flatMap_escape, ok_bind, named, h]
    rfl
  restores_record _ hi hf hc := reads_record hi hf hc

end TextReader

end FlatQuery
