import FlatQuery.Proofs.Admission

/-!
# FlatQuery.Proofs.StoredLists

What the lists of a stored query keep of their entries.

A list is taken over as it is stored.  Of its entries the check asks no more than a character that
is no blank, so blanks around an entry are kept, while the texts of conditions and aggregates have
to be trimmed.

* `JsonReader.Fills.record` — a part of a record is what one of its fields is read as;
* `Query.ListsFrom` — the lists are the stored ones, none of their entries is blank, and blanks
  around the entries make no difference;
* `Query.lists_of_ofJson` — the lists of any query that is read are such.
-/

namespace FlatQuery

/-- What is stored for a field: the member of its key in an object, or the item at its place in an
array. -/
def Json.Holds (json : Json) (index : Nat) (key : Text) (value : Json) : Prop :=
  match json with
  | .object fields => (key, value) ∈ members fields
  | .array items => items[index]? = some value
  | _ => False

/-! ## parts of records -/

namespace JsonReader

variable {σ : Type} {slot : Slot JsonReader σ} {before after : List (Slot JsonReader σ)} {s s' : σ}

/-- A field of another key leaves a part of the record as it is. -/
structure Spares (part : σ → α) (key : Text) (other : Slot JsonReader σ) : Prop where
  key_ne : other.key ≠ key
  part_eq : ∀ json set, other.fill json = .ok set → ∀ s, part (set s) = part s

/-- A part of a record is what the reader reads for a field, and the other fields leave it as it
is. -/
structure Fills (part : σ → α) (reader : JsonReader α) (slot : Slot JsonReader σ)
    (others : List (Slot JsonReader σ)) : Prop where
  reads : ∀ json set, slot.fill json = .ok set → ∀ s, reader json = .ok (part (set s))
  spares : ∀ other ∈ others, Spares part slot.key other

section

variable {part : σ → α} {reader : JsonReader α}

/-- A member of the field's key fills the part in, and another one leaves it as it is. -/
theorem Fills.fillMember (h : Fills part reader slot (before ++ after)) {member : Text × Json}
    (hs : fillMember (before ++ slot :: after) s member = .ok s') :
    member.1 = slot.key ∧ reader member.2 = .ok (part s') ∨
      member.1 ≠ slot.key ∧ part s' = part s := by
  obtain ⟨hunknown, rfl⟩ | ⟨other, hm, hkey, set, hset, rfl⟩ := fillMember_eq_ok hs
  · exact .inr ⟨(hunknown slot (by simp)).symm, rfl⟩
  · by_cases ho : other ∈ before ++ after
    · have hspares := h.spares other ho
      exact .inr ⟨hkey ▸ hspares.key_ne, hspares.part_eq _ set hset s⟩
    · obtain rfl : other = slot := by
        simp only [List.mem_append, List.mem_cons] at hm ho
        tauto
      exact .inl ⟨hkey.symm, h.reads _ set hset s⟩

/-- So the members fill it in with one of theirs, or leave it as it is when none has its key. -/
theorem Fills.foldlM_fillMember (h : Fills part reader slot (before ++ after))
    {members : List (Text × Json)}
    (hs : members.foldlM (JsonReader.fillMember (before ++ slot :: after)) s = .ok s') :
    (∃ value, (slot.key, value) ∈ members ∧ reader value = .ok (part s')) ∨
      (∀ member ∈ members, member.1 ≠ slot.key) ∧ part s' = part s := by
  induction members generalizing s with
  | nil =>
      cases hs
      exact .inr ⟨by simp, rfl⟩
  | cons member members ih =>
      rw [List.foldlM_cons] at hs
      obtain ⟨s₁, h₁, hs⟩ := bind_eq_ok_iff.1 hs
      obtain ⟨value, hm, hv⟩ | ⟨hnone, hpart⟩ := ih hs
      · exact .inl ⟨value, List.mem_cons_of_mem _ hm, hv⟩
      · obtain ⟨hkey, hv⟩ | ⟨hkey, hpart₁⟩ := h.fillMember h₁
        · rw [← hpart] at hv
          exact .inl ⟨member.2, hkey ▸ List.mem_cons_self, hv⟩
        · exact .inr ⟨List.forall_mem_cons.2 ⟨hkey, hnone⟩, hpart.trans hpart₁⟩

/-- The item at the field's place fills it in. -/
theorem Fills.fillItems (h : Fills part reader slot (before ++ after)) {title : Text}
    {fields length : Nat} {items : List Json}
    (hs : fillItems title fields length (before ++ slot :: after) s items = .ok s') :
    ∃ value, items[before.length]? = some value ∧ reader value = .ok (part s') := by
  induction before generalizing s items with
  | nil =>
      cases items with
      | nil => cases hs
      | cons item items =>
          obtain ⟨set, hset, hs⟩ := bind_eq_ok_iff.1 hs
          have hkept : Kept (fun s => reader item = .ok (part s)) after := by
            intro other hm json set hset s hr
            rwa [(h.spares other hm).part_eq json set hset s]
          exact ⟨item, rfl, hkept.fillItems hs (h.reads item set hset s)⟩
  | cons other before ih =>
      cases items with
      | nil => cases hs
      | cons item items =>
          obtain ⟨set, -, hs⟩ := bind_eq_ok_iff.1 hs
          exact ih ⟨h.reads, fun other hm => h.spares other (List.mem_cons_of_mem _ hm)⟩ hs

/-- A part of a record is what the value that is stored for its field is read as. -/
theorem Fills.record (h : Fills part reader slot (before ++ after)) {title : Text}
    {check : σ → Except QueryError α'} {json : Json} {a : α'}
    (hr : record title (before ++ slot :: after) s check json = .ok a) :
    ∃ filled value, check filled = .ok a ∧ json.Holds before.length slot.key value ∧
      reader value = .ok (part filled) := by
  obtain ⟨filled, hc, ⟨fields, rfl, hf⟩ | ⟨items, rfl, hf⟩⟩ := record_eq_ok hr
  · obtain ⟨hfold, hall⟩ := fillMembers_eq_ok hf
    obtain ⟨value, hm, hv⟩ | ⟨hnone, -⟩ := h.foldlM_fillMember hfold
    · exact ⟨filled, value, hc, hm, hv⟩
    · obtain ⟨member, hm, hkey⟩ := hall slot (by simp)
      exact absurd hkey (hnone member hm)
  · obtain ⟨value, hv, hr⟩ := h.fillItems hf
    exact ⟨filled, value, hc, hv, hr⟩

end

/-- A field that is set to what is read fills in the part that it sets. -/
theorem fills_of {part : σ → α} {key : String} {reader : JsonReader α} {set : α → σ → σ}
    {others : List (Slot JsonReader σ)} (hpart : ∀ a s, part (set a s) = a)
    (h : ∀ other ∈ others, Spares part key.toList other) :
    Fills part reader (.of key reader set) others where
  reads json f hf s := by
    obtain ⟨a, ha, rfl⟩ := map_eq_ok_iff.1 hf
    rw [ha, hpart]
  spares := h

/-- It spares the parts that it does not set. -/
theorem spares_of {part : σ → α} {key key' : String} {reader : JsonReader β} {set : β → σ → σ}
    (hk : key'.toList ≠ key.toList) (hpart : ∀ b s, part (set b s) = part s) :
    Spares part key.toList (.of key' reader set) where
  key_ne := hk
  part_eq json f hf s := by
    obtain ⟨b, -, rfl⟩ := map_eq_ok_iff.1 hf
    exact hpart b s

/-- Texts are read from an array of strings, as they are. -/
theorem list_text_eq_ok_iff {json : Json} {ts : List Text} :
    list text json = .ok ts ↔ json = Json.ofTexts ts := by
  have htext {json : Json} {t : Text} : text json = .ok t ↔ json = .string t := by
    cases json <;> simp [text]
  constructor
  · intro h
    cases json with
    | array items =>
        have hitems : List.Forall₂ (fun json t => json = .string t) items ts :=
          (mapM_eq_ok_iff.1 h).imp fun _ _ => htext.1
        rw [← List.forall₂_map_right_iff, List.forall₂_eq_eq_eq] at hitems
        exact congrArg Json.array hitems
    | _ => cases h
  · rintro rfl
    refine mapM_eq_ok_iff.2 ?_
    rw [List.forall₂_map_left_iff, List.forall₂_same]
    exact fun t _ => rfl

end JsonReader

namespace Query

/-! ## lists -/

/-- The entries differ in the blanks around them. -/
def Repadded (fields fields' : List Text) : Prop :=
  List.Forall₂ (fun f f' => Text.trim f = Text.trim f') fields fields'

/-- Blanks around entries make none of them blank. -/
theorem Repadded.not_blank {fields fields' : List Text} (h : Repadded fields fields')
    (hf : ∀ f ∈ fields, Text.isBlankText f = false) :
    ∀ f ∈ fields', Text.isBlankText f = false := by
  refine forall_of_forall₂ h fun f hm f' ht => ?_
  have hne := hf f hm
  rw [← Text.trim_ne_nil_iff] at hne ⊢
  rwa [← ht]

/-- A query stays admissible when its lists are padded. -/
theorem Admissible.repad {q : Query} (h : q.Admissible) {fields groupBy orderBy : List Text}
    (hf : Repadded q.fields fields) (hg : Repadded q.groupBy groupBy)
    (ho : Repadded q.orderBy orderBy) :
    Admissible { q with fields := fields, groupBy := groupBy, orderBy := orderBy } where
  __ := h
  selected := by
    refine h.selected.imp_left fun hne hnil => hne ?_
    obtain rfl : fields = [] := hnil
    exact List.forall₂_nil_right_iff.1 hf
  fields := hf.not_blank h.fields
  groupBy := hg.not_blank h.groupBy
  orderBy := ho.not_blank h.orderBy

/-- A list of a query is taken over as it is stored. -/
theorem holds_of_ofJson (part : Query → List Text) {set : List Text → Query → Query} {key : String}
    (before : List (Slot JsonReader Query)) {after : List (Slot JsonReader Query)} {json : Json}
    {q : Query} (h : ofJson json = .ok q)
    (hslots : (schema : JsonReader Query) = JsonReader.record "ParsedQueryRecord".toList
      (before ++ .of key (Reading.list Reading.text) set :: after) ⟨[], [], [], [], [], [], [], []⟩
      check)
    (hpart : ∀ ts q, part (set ts q) = ts)
    (hspares : ∀ other ∈ before ++ after, JsonReader.Spares part key.toList other) :
    json.Holds before.length key.toList (Json.ofTexts (part q)) := by
  unfold ofJson at h
  rw [hslots] at h
  obtain ⟨filled, value, hc, hv, hr⟩ := (JsonReader.fills_of hpart hspares).record h
  obtain rfl := eq_of_check hc
  rw [← JsonReader.list_text_eq_ok_iff.1 hr]
  exact hv

/-- The query has the lists of the JSON value, entry by entry.  No entry is blank; more is not asked
of them: with other blanks around their entries the lists are read as well, and as they are. -/
structure ListsFrom (q : Query) (json : Json) : Prop where
  fields : json.Holds 2 "fields".toList (Json.ofTexts q.fields)
  groupBy : json.Holds 6 "group_by_fields".toList (Json.ofTexts q.groupBy)
  orderBy : json.Holds 7 "order_by_fields".toList (Json.ofTexts q.orderBy)
  not_blank : ∀ f ∈ q.fields ++ q.groupBy ++ q.orderBy, Text.isBlankText f = false
  repadded : ∀ fields groupBy orderBy, Repadded q.fields fields → Repadded q.groupBy groupBy →
    Repadded q.orderBy orderBy →
      ofJson (toJson { q with fields := fields, groupBy := groupBy, orderBy := orderBy }) =
        .ok { q with fields := fields, groupBy := groupBy, orderBy := orderBy }

/-- The lists of a query that is read are the stored ones. -/
theorem lists_of_ofJson {json : Json} {q : Query} (h : ofJson json = .ok q) :
    q.ListsFrom json := by
  have hq := storable_iff.1 (storable_of_ofJson h)
  refine ⟨holds_of_ofJson Query.fields [_, _] h rfl (fun _ _ => rfl) ?_,
    holds_of_ofJson Query.groupBy [_, _, _, _, _, _] h rfl (fun _ _ => rfl) ?_,
    holds_of_ofJson Query.orderBy [_, _, _, _, _, _, _] h rfl (fun _ _ => rfl) ?_, ?_,
    fun fields groupBy orderBy hf hg ho => ofJson_toJson_iff.2 (hq.repad hf hg ho)⟩
  rotate_right
  · simp only [List.mem_append]
    rintro f ((hf | hf) | hf)
    · exact hq.fields f hf
    · exact hq.groupBy f hf
    · exact hq.orderBy f hf
  -- none of the other seven fields has the key of the list, and none sets it
  all_goals
    simp only [List.cons_append, List.nil_append, List.forall_mem_cons]
    refine ⟨?_, ?_, ?_, ?_, ?_, ?_, ?_, by simp⟩ <;>
      exact JsonReader.spares_of (by decide) fun _ _ => rfl

/-- Such as those of a query from an array, with a blank in front of a field. -/
theorem lists_with_padded_field : ∃ json q, ofJson json = .ok q ∧ q.ListsFrom json :=
  ⟨.array [.string [], .string ['t'], Json.ofTexts [" a".toList], .array [], .array [], .array [],
    Json.ofTexts [['b']], Json.ofTexts []], exists_ok_and (by decide +kernel) fun _ h =>
      lists_of_ofJson h⟩

/-- Blanks around a field are kept: the field of a query that is read need not be trimmed. -/
theorem exists_untrimmed_field :
    let q : Query := ⟨[], ['t'], [" a ".toList], [], [], [], [], []⟩
    ofJson q.toJson = .ok q ∧ ∃ f ∈ q.fields, ¬ Text.Trimmed f := by
  refine ⟨ofJson_toJson_iff.2 ?_, by decide⟩
  constructor
  case source_run => exact List.forall_mem_singleton.2 rfl
  all_goals decide

end Query

end FlatQuery
