/-!
# FlatQuery.Text.Basic

Query text as a list of characters, blank characters, and the cutting and trimming that the
readers of clauses share.

* `Text.trim` takes the blanks off both ends;
* `Text.slice` cuts out a range of positions;
* `Text.entries` reads a comma-separated list;
* `Text.cut` divides a text at the first occurrence of another, and loses nothing
  (`Text.eq_of_cut`).
-/

namespace FlatQuery

/-- Query text: a list of characters, addressed by position. -/
abbrev Text := List Char

/-! ## character tables -/

/-- Whether `n` lies in one of the closed ranges of a table in increasing order. -/
def inRanges : List (Nat × Nat) → Nat → Bool
  | [], _ => false
  | (first, last) :: rest, n => if n < first then false else n ≤ last || inRanges rest n

/-- A number found in a table lies in one of its ranges. -/
theorem exists_range_of_inRanges {table : List (Nat × Nat)} {n : Nat}
    (h : inRanges table n = true) : ∃ r ∈ table, r.1 ≤ n ∧ n ≤ r.2 := by
  induction table with
  | nil => simp [inRanges] at h
  | cons r rest ih =>
      obtain ⟨first, last⟩ := r
      simp only [inRanges] at h
      split at h
      · simp at h
      · rcases Bool.or_eq_true_iff.1 h with h' | h'
        · exact ⟨(first, last), List.mem_cons_self, by omega, by simpa using h'⟩
        · obtain ⟨q, hq, hn⟩ := ih h'
          exact ⟨q, List.mem_cons_of_mem _ hq, hn⟩

/-- The code points of blank characters (the property `White_Space`). -/
def blankRanges : List (Nat × Nat) := [
  (0x9, 0xD), (0x20, 0x20), (0x85, 0x85), (0xA0, 0xA0), (0x1680, 0x1680), (0x2000, 0x200A),
  (0x2028, 0x2029), (0x202F, 0x202F), (0x205F, 0x205F), (0x3000, 0x3000)]

/-- Blank characters separate words and are trimmed. -/
def isBlank (c : Char) : Bool := inRanges blankRanges c.toNat

namespace Text

/-! ## trimming -/

/-- The text without its leading blanks. -/
def trimStart (t : Text) : Text := t.dropWhile isBlank

/-- The text without its trailing blanks. -/
def trimEnd (t : Text) : Text := (t.reverse.dropWhile isBlank).reverse

/-- The text without blanks at either end. -/
def trim (t : Text) : Text := trimEnd (trimStart t)

/-- What comes off the front of a text and what stays make up the text. -/
@[simp] theorem takeWhile_append_trimStart (t : Text) : t.takeWhile isBlank ++ trimStart t = t :=
  List.takeWhile_append_dropWhile

/-- What stays of a text and what comes off its end make up the text. -/
@[simp] theorem trimEnd_append (t : Text) :
    trimEnd t ++ (t.reverse.takeWhile isBlank).reverse = t := by
  rw [trimEnd, ← List.reverse_append, List.takeWhile_append_dropWhile, List.reverse_reverse]

/-- A text with no blank at either end. -/
def Trimmed (t : Text) : Prop := trim t = t

instance : DecidablePred Trimmed := fun t => inferInstanceAs (Decidable (trim t = t))

/-- A text with no character but blanks. -/
def isBlankText (t : Text) : Bool := t.all isBlank

/-! ## cutting -/

/-- The characters from position `start` up to, but not including, position `stop`. -/
def slice (t : Text) (start stop : Nat) : Text := (t.take stop).drop start

/-- A slice is as long as the part of its range that lies in the text. -/
@[simp] theorem length_slice (t : Text) (start stop : Nat) :
    (slice t start stop).length = min stop t.length - start := by
  rw [slice, List.length_drop, List.length_take]

/-- The pieces of a text between the occurrences of `separator`, empty ones included. -/
def splitOn (separator : Char) : Text → List Text
  | [] => [[]]
  | c :: rest =>
      if c = separator then [] :: splitOn separator rest
      else match splitOn separator rest with
        | [] => [[c]]
        | piece :: pieces => (c :: piece) :: pieces

@[simp] theorem splitOn_ne_nil (separator : Char) (t : Text) : splitOn separator t ≠ [] := by
  cases t with
  | nil => simp [splitOn]
  | cons c rest =>
      rw [splitOn]
      split
      · simp
      · split <;> simp

/-- The entries of a comma-separated list, each trimmed; empty entries are kept. -/
def entries (t : Text) : List Text := (splitOn ',' t).map trim

/-- What stands before and after the first occurrence of `needle`. -/
def cut (needle : Text) : Text → Option (Text × Text)
  | [] => if needle = [] then some ([], []) else none
  | c :: rest =>
      if needle.isPrefixOf (c :: rest) then some ([], (c :: rest).drop needle.length)
      else (cut needle rest).map fun (before, after) => (c :: before, after)

/-- The text is what comes before the occurrence, the occurrence and what comes after it. -/
theorem eq_of_cut {needle t before after : Text} (h : cut needle t = some (before, after)) :
    t = before ++ needle ++ after := by
  induction t generalizing before with
  | nil =>
      simp only [cut] at h
      split at h
      · simp_all
      · simp at h
  | cons c rest ih =>
      simp only [cut] at h
      split at h
      · next hp =>
          obtain ⟨tail, ht⟩ := List.isPrefixOf_iff_prefix.1 hp
          simp only [Option.some.injEq, Prod.mk.injEq] at h
          obtain ⟨rfl, rfl⟩ := h
          rw [← ht]
          simp
      · obtain ⟨⟨b, a⟩, hr, he⟩ := Option.map_eq_some_iff.1 h
        simp only [Prod.mk.injEq] at he
        obtain ⟨rfl, rfl⟩ := he
        rw [ih hr]
        simp

/-- Whether `needle` occurs in the text. -/
def contains (needle t : Text) : Bool := (cut needle t).isSome

/-- The parts one after another with `separator` between neighbours. -/
def join (separator : Text) (parts : List Text) : Text := separator.intercalate parts

def toAsciiLower (t : Text) : Text := t.map Char.toLower

end Text

end FlatQuery
