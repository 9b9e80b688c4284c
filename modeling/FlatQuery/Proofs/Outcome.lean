import Mathlib.Data.List.Forall2

/-!
# FlatQuery.Proofs.Outcome

Steps that may fail, one after another.

* `bind_eq_ok_iff` — two steps succeed when both do;
* `mapM_eq_ok_iff` — a list is read when each of its items is;
* `foldlM_invariant` — what each step keeps is kept by all of them;
* `errorOf?_mapM` — and otherwise fails as the first of its items that fails.
-/

namespace FlatQuery

@[simp]
theorem ok_bind (a : α) (f : α → Except ε β) : (Except.ok a : Except ε α) >>= f = f a := rfl

/-- Two steps succeed when the first does and the second does on its result. -/
theorem bind_eq_ok_iff {x : Except ε α} {f : α → Except ε β} {b : β} :
    x >>= f = .ok b ↔ ∃ a, x = .ok a ∧ f a = .ok b := by
  cases x with
  | error e =>
      constructor
      · intro h
        cases h
      · rintro ⟨a, h, -⟩
        cases h
  | ok a =>
      constructor
      · intro h
        exact ⟨a, rfl, h⟩
      · rintro ⟨a', h, hf⟩
        cases h
        exact hf

@[simp] theorem map_eq_ok_iff {x : Except ε α} {f : α → β} {b : β} :
    x.map f = .ok b ↔ ∃ a, x = .ok a ∧ f a = b := by
  cases x <;> simp [Except.map]

/-- What comes behind a guard succeeds when the guard lets it. -/
@[simp] theorem ite_error_eq_ok_iff {p : Prop} [Decidable p] {e : ε} {x : Except ε α} {a : α} :
    (if p then .error e else x) = .ok a ↔ ¬ p ∧ x = .ok a := by
  split <;> simp [*]

/-- A step that has a result succeeds. -/
theorem exists_ok_of_isSome {x : Except ε α} (h : x.toOption.isSome = true) :
    ∃ a, x = .ok a := by
  cases x with
  | error e => cases h
  | ok a => exact ⟨a, rfl⟩

/-- What holds of any result holds of the one there is. -/
theorem exists_ok_and {x : Except ε α} {P : α → Prop} (hx : x.toOption.isSome = true)
    (h : ∀ a, x = .ok a → P a) : ∃ a, x = .ok a ∧ P a := by
  obtain ⟨a, ha⟩ := exists_ok_of_isSome hx
  exact ⟨a, ha, h a ha⟩

/-- A list is read item by item. -/
theorem mapM_eq_ok_iff {f : α → Except ε β} {as : List α} {bs : List β} :
    as.mapM f = .ok bs ↔ List.Forall₂ (fun a b => f a = .ok b) as bs := by
  induction as generalizing bs with
  | nil =>
      rw [List.mapM_nil, List.forall₂_nil_left_iff]
      constructor
      · intro h
        cases h
        rfl
      · rintro rfl
        rfl
  | cons a as ih =>
      rw [List.mapM_cons, bind_eq_ok_iff]
      constructor
      · rintro ⟨b, hb, h⟩
        obtain ⟨bs', hbs, h⟩ := bind_eq_ok_iff.1 h
        cases h
        exact .cons hb (ih.1 hbs)
      · rintro (_ | ⟨hb, hbs⟩)
        exact ⟨_, hb, bind_eq_ok_iff.2 ⟨_, ih.2 hbs, rfl⟩⟩

/-- Items that are changed after they have been read. -/
theorem mapM_except_map {f : α → Except ε β} {g : β → γ} (as : List α) :
    (as.mapM fun a => (f a).map g) = (as.mapM f).map (List.map g) := by
  induction as with
  | nil => rfl
  | cons a as ih =>
      rw [List.mapM_cons, List.mapM_cons, ih]
      cases f a with
      | error e => rfl
      | ok b => cases as.mapM f <;> rfl

/-- What each step keeps is kept by all of them. -/
theorem foldlM_invariant {f : σ → α → Except ε σ} {Inv : σ → Prop}
    (h : ∀ s a s', f s a = .ok s' → Inv s → Inv s') {as : List α} {s s' : σ}
    (hf : as.foldlM f s = .ok s') (hs : Inv s) : Inv s' := by
  induction as generalizing s with
  | nil =>
      cases hf
      exact hs
  | cons a as ih =>
      rw [List.foldlM_cons] at hf
      obtain ⟨s₁, h₁, hf⟩ := bind_eq_ok_iff.1 hf
      exact ih hf (h s a s₁ h₁ hs)

/-! ## errors -/

/-- The error of a step that fails. -/
def errorOf? : Except ε α → Option ε
  | .ok _ => none
  | .error e => some e

@[simp]
theorem errorOf?_ok (a : α) : errorOf? (.ok a : Except ε α) = none := rfl

@[simp]
theorem errorOf?_error (e : ε) : errorOf? (.error e : Except ε α) = some e := rfl

theorem errorOf?_eq_some_iff {x : Except ε α} {e : ε} : errorOf? x = some e ↔ x = .error e := by
  cases x <;> simp

theorem errorOf?_eq_none_iff {x : Except ε α} : errorOf? x = none ↔ ∃ a, x = .ok a := by
  cases x <;> simp

/-- A step fails as before when its result is changed. -/
@[simp]
theorem errorOf?_map (f : α → β) (x : Except ε α) : errorOf? (f <$> x) = errorOf? x := by
  cases x <;> rfl

/-- Two steps of which none depends on the other fail as the first does, or else as the second. -/
theorem errorOf?_bind {x : Except ε α} {f : α → Except ε β} {second : Option ε}
    (h : ∀ a, errorOf? (f a) = second) : errorOf? (x >>= f) = (errorOf? x).or second := by
  cases x with
  | error e => rfl
  | ok a => rw [ok_bind, h, errorOf?_ok, Option.none_or]

/-- A list fails as the first of its items that fails. -/
theorem errorOf?_mapM (f : α → Except ε β) (as : List α) :
    errorOf? (as.mapM f) = as.findSome? fun a => errorOf? (f a) := by
  induction as with
  | nil => rfl
  | cons a as ih =>
      rw [List.mapM_cons, List.findSome?_cons]
      cases hf : f a with
      | error e => rfl
      | ok b =>
          rw [ok_bind, errorOf?_ok, ← ih]
          cases as.mapM f <;> rfl

/-- The first item with a property, and what is made of it. -/
theorem findSome?_eq_map_find? {p : α → Bool} {f : α → β} {g : α → Option β} {as : List α}
    (h : ∀ a ∈ as, g a = if p a then some (f a) else none) :
    as.findSome? g = (as.find? p).map f := by
  induction as with
  | nil => rfl
  | cons a as ih =>
      have hrest := ih fun b hb => h b (List.mem_cons_of_mem a hb)
      rw [List.findSome?_cons, h a List.mem_cons_self, hrest]
      cases ha : p a <;> simp [ha]

end FlatQuery
