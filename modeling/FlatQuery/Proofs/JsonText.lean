import FlatQuery.Json.Read
import FlatQuery.Json.Write

/-!
# FlatQuery.Proofs.JsonText

JSON text as it is written, read again.

* `Json.readString_flatMap_escape` — a string is read from its text;
* `Json.next_lead`, `Json.next_close` — the entries of arrays and objects are found one by one;
* `Json.renderItems_eq`, `Json.renderMembers_eq` — arrays and objects are written entry by entry.
-/

namespace FlatQuery

namespace Json

/-! ## strings -/

/-- The value of a digit is the number it is written for. -/
theorem hexValue?_hexDigit : ∀ n < 16, hexValue? (hexDigit n) = some n := by decide

/-- The digits of a number below 256 stand for it. -/
theorem hex4?_hexDigit {n : Nat} (h : n < 256) :
    hex4? '0' '0' (hexDigit (n / 16)) (hexDigit (n % 16)) = some n := by
  have h0 : hexValue? '0' = some 0 := rfl
  have hhigh := hexValue?_hexDigit (n / 16) (by omega)
  have hlow := hexValue?_hexDigit (n % 16) (by omega)
  have hn : ((0 * 16 + 0) * 16 + n / 16) * 16 + n % 16 = n := by omega
  simp only [hex4?, h0, hhigh, hlow, Option.bind_eq_bind, Option.bind_some, Option.pure_def, hn]

/-- A written character is read as the character. -/
@[simp] theorem readString_escape (c : Char) (t : Text) :
    readString (escape c ++ t) = consString c (readString t) := by
  by_cases hq : c = '"' ∨ c = '\\'
  · rcases hq with rfl | rfl <;> rfl
  by_cases hs : c = '\x08' ∨ c = '\t' ∨ c = '\n' ∨ c = '\x0c' ∨ c = '\r'
  · rcases hs with rfl | rfl | rfl | rfl | rfl <;> rfl
  simp only [not_or] at hq hs
  obtain ⟨h₁, h₂⟩ := hq
  obtain ⟨h₃, h₄, h₅, h₆, h₇⟩ := hs
  by_cases hc : c.toNat < 32
  · have hu : unescape? 'u' = none := rfl
    have hl : isLeading c.toNat = false := by simp [isLeading]; omega
    have ht : isTrailing c.toNat = false := by simp [isTrailing]; omega
    have hx := hex4?_hexDigit (n := c.toNat) (by omega)
    have he : escape c =
        ['\\', 'u', '0', '0', hexDigit (c.toNat / 16), hexDigit (c.toNat % 16)] := by
      simp [escape, h₁, h₂, h₃, h₄, h₅, h₆, h₇, hc]
    rw [he]
    simp only [List.cons_append, List.nil_append]
    rw [readString.eq_def]
    simp [hu, hx, ht, hl, Char.ofNat_toNat]
  · have he : escape c = [c] := by simp [escape, h₁, h₂, h₃, h₄, h₅, h₆, h₇, hc]
    rw [he, List.cons_append, List.nil_append, readString.eq_def]
    simp [h₁, h₂, hc]

/-- A string is read from its text. -/
@[simp] theorem readString_flatMap_escape (t rest : Text) :
    readString (t.flatMap escape ++ '"' :: rest) = .ok (t, rest) := by
  induction t with
  | nil =>
      rw [List.flatMap_nil, List.nil_append, readString.eq_def]
      rfl
  | cons c t ih => rw [List.flatMap_cons, List.append_assoc, readString_escape, ih, consString]

/-! ## entries -/

/-- A text that starts as values do. -/
def Opens (t : Text) : Prop := ∃ c rest, t = c :: rest ∧ isGap c = false ∧ c ≠ ']' ∧ c ≠ '\x7d'

/-- An entry, behind a comma unless it is the first. -/
def lead (first : Bool) (t : Text) : Text := if first then t else ',' :: t

@[simp] theorem lead_true (t : Text) : lead true t = t := rfl

@[simp] theorem lead_false (t : Text) : lead false t = ',' :: t := rfl

theorem Opens.append {t : Text} (h : Opens t) (rest : Text) : Opens (t ++ rest) := by
  obtain ⟨c, u, rfl, hc⟩ := h
  exact ⟨c, u ++ rest, rfl, hc⟩

/-- What follows an entry does not matter to the comma in front. -/
theorem lead_append (first : Bool) (t rest : Text) :
    lead first t ++ rest = lead first (t ++ rest) := by
  cases first <;> rfl

/-- Nothing comes off a text that starts with no blank. -/
theorem skipGap_cons {c : Char} (h : isGap c = false) (rest : Text) :
    skipGap (c :: rest) = c :: rest := by
  simp [skipGap, h]

/-- The next entry is found. -/
theorem next_lead {close : Char} {first : Bool} {t : Text} (hc : close = ']' ∨ close = '\x7d')
    (ht : Opens t) : next close first (lead first t) = .ok (.entry t) := by
  obtain ⟨c, rest, rfl, hg, hb, hm⟩ := ht
  have hne : c ≠ close := by rcases hc with rfl | rfl <;> assumption
  have hcomma : ',' ≠ close := by rcases hc with rfl | rfl <;> decide
  cases first with
  | true => simp [next, skipGap_cons hg, hne]
  | false =>
      have hs : skipGap (',' :: c :: rest) = ',' :: c :: rest := skipGap_cons rfl _
      simp [next, hs, hcomma, skipGap_cons hg, hne]

theorem next_close {close : Char} (hc : close = ']' ∨ close = '\x7d') (first : Bool) (t : Text) :
    next close first (close :: t) = .ok (.closed t) := by
  have hg : isGap close = false := by rcases hc with rfl | rfl <;> rfl
  simp [next, skipGap_cons hg]

/-! ## arrays and objects -/

/-- Entries with commas between them; a comma comes before the first one if it is not the first of
all. -/
def renderEntries (first : Bool) : List Text → Text
  | [] => []
  | t :: ts => lead first t ++ renderEntries false ts

@[simp] theorem renderEntries_nil (first : Bool) : renderEntries first [] = [] := rfl

@[simp] theorem renderEntries_cons (first : Bool) (t : Text) (ts : List Text) :
    renderEntries first (t :: ts) = lead first t ++ renderEntries false ts := rfl

/-- There are no more commas than characters. -/
theorem length_le_length_renderEntries (ts : List Text) :
    ts.length ≤ (renderEntries false ts).length := by
  induction ts with
  | nil => simp
  | cons t ts ih =>
      simp
      omega

/-- There is at most one entry more than commas. -/
theorem length_le_length_renderEntries_succ (first : Bool) (ts : List Text) :
    ts.length ≤ (renderEntries first ts).length + 1 := by
  cases ts with
  | nil => simp
  | cons t ts =>
      have hl := length_le_length_renderEntries ts
      simp
      omega

/-- The items of an array are its entries. -/
theorem renderItems_eq (items : List Json) :
    renderItems items = renderEntries true (items.map render) := by
  induction items with
  | nil => rfl
  | cons item items ih =>
      cases items with
      | nil => simp [renderItems]
      | cons next items => simp [renderItems, ih]

def renderMember (member : Text × Json) : Text :=
  renderString member.1 ++ ':' :: render member.2

theorem renderMembers_eq (members : List (Text × Json)) :
    renderMembers members = renderEntries true (members.map renderMember) := by
  induction members with
  | nil => rfl
  | cons member members ih =>
      obtain ⟨key, value⟩ := member
      cases members with
      | nil => simp [renderMembers, renderMember]
      | cons next members =>
          rw [renderMembers, ih]
          · simp [renderMember]
          · simp

theorem opens_renderMember (member : Text × Json) : Opens (renderMember member) :=
  ⟨'"', _, rfl, rfl, by decide, by decide⟩

end Json

end FlatQuery
