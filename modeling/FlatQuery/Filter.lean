import FlatQuery.Condition
import FlatQuery.Connective

/-!
# FlatQuery.Filter

The body of a `where` clause: conditions joined by `and` and `or`.

The body is read into tokens, one for each joining word and one for each other character.  A quote
opens a quoted value when the last character before it, blanks aside, is one that symbols of
comparisons are made of.  The value runs to the next quote of its kind and hides any joining word in
it.

* `Filter.tokens` reads the tokens, and loses no character (`Filter.flatMap_text_tokens`);
* `Filter.split` gives the trimmed conditions and the joining words between them, one condition more
  than words (`Filter.length_split`);
* `Filter.parse` reads the conditions and the connectives.
-/

namespace FlatQuery

namespace Filter

/-- A piece of a filter: a character of a condition, or a word that joins two conditions. -/
inductive Token where
  | character (c : Char)
  | joint (spelling : Text)
deriving DecidableEq

def Token.text : Token → Text
  | character c => [c]
  | joint spelling => spelling

@[simp] theorem text_character (c : Char) : (Token.character c).text = [c] := rfl

@[simp] theorem text_joint (spelling : Text) : (Token.joint spelling).text = spelling := rfl

/-- Where reading stands: outside quoted values, with the last character of the condition so far
that is no blank, or inside a value that `quote` opened. -/
inductive ReadingState where
  | outside (last : Option Char)
  | inside (quote : Char)
deriving DecidableEq

/-- The length of the joining word at the start of `t`, after the character `before`. -/
def jointLength? (before : Option Char) (t : Text) : Option Nat :=
  Keyword.connectives.findSome? fun k => k.word.matchLength? before t

/-- A joining word has a character at least. -/
theorem one_le_jointLength? {before : Option Char} {t : Text} {n : Nat}
    (h : jointLength? before t = some n) : 1 ≤ n := by
  obtain ⟨k, _, hk⟩ := List.exists_of_findSome?_eq_some h
  have hl := (Word.le_matchLength? hk).1
  have hk : 1 ≤ k.word.letters.length := by cases k <;> decide
  omega

/-- The tokens of a text that follows `before`.  Its first `skip` characters belong to a joining
word already given. -/
def tokensFrom (skip : Nat) (state : ReadingState) (before : Option Char) : Text → List Token
  | [] => []
  | c :: rest =>
      match skip with
      | skip + 1 => tokensFrom skip state (some c) rest
      | 0 =>
          match state with
          | .inside quote =>
              let next := if c = quote then .outside (some c) else .inside quote
              .character c :: tokensFrom 0 next (some c) rest
          | .outside last =>
              if isQuote c && last.any Comparison.isSymbolChar then
                .character c :: tokensFrom 0 (.inside c) (some c) rest
              else match jointLength? before (c :: rest) with
                | some n =>
                    .joint ((c :: rest).take n) :: tokensFrom (n - 1) (.outside none) (some c) rest
                | none =>
                    .character c
                      :: tokensFrom 0 (.outside (if isBlank c then last else some c)) (some c) rest

/-- The tokens of a filter. -/
def tokens (t : Text) : List Token := tokensFrom 0 (.outside none) none t

/-- The texts of the tokens make up the text, less what was skipped. -/
@[simp] theorem flatMap_text_tokensFrom (skip : Nat) (state : ReadingState) (before : Option Char)
    (t : Text) : (tokensFrom skip state before t).flatMap Token.text = t.drop skip := by
  induction t generalizing skip state before with
  | nil => simp [tokensFrom]
  | cons c rest ih =>
      cases skip with
      | succ skip => simp [tokensFrom, ih]
      | zero =>
          cases state with
          | inside quote => simp [tokensFrom, ih]
          | outside last =>
              rw [tokensFrom]
              split
              · simp [ih]
              · split
                · next n hn =>
                    obtain ⟨m, rfl⟩ : ∃ m, n = m + 1 := ⟨n - 1, by
                      have := one_le_jointLength? hn
                      omega⟩
                    simp [ih]
                · simp [ih]

/-- The texts of the tokens make up the filter. -/
@[simp] theorem flatMap_text_tokens (t : Text) : (tokens t).flatMap Token.text = t :=
  flatMap_text_tokensFrom 0 (.outside none) none t

/-- The texts between the joining words, untrimmed. -/
def pieces : List Token → List Text
  | [] => [[]]
  | .joint _ :: rest => [] :: pieces rest
  | .character c :: rest =>
      match pieces rest with
      | [] => [[c]]
      | piece :: more => (c :: piece) :: more

/-- The joining words, as they are spelled. -/
def joints : List Token → List Text
  | [] => []
  | .joint spelling :: rest => spelling :: joints rest
  | .character _ :: rest => joints rest

/-- There is one piece more than joining words. -/
@[simp] theorem length_pieces (ts : List Token) : (pieces ts).length = (joints ts).length + 1 := by
  induction ts with
  | nil => rfl
  | cons token rest ih =>
      cases token with
      | joint spelling => simp [pieces, joints, ih]
      | character c =>
          rw [pieces, joints, ← ih]
          split
          · next h => simp [h] at ih
          · next h => simp [h]

/-- The trimmed conditions of a filter and the joining words between them in lower case. -/
def split (t : Text) : List Text × List Text :=
  ((pieces (tokens t)).map Text.trim, (joints (tokens t)).map Text.toLower)

@[simp] theorem length_split (t : Text) : (split t).1.length = (split t).2.length + 1 := by
  rw [split, List.length_map, List.length_map, length_pieces]

def readConnective (word : Text) : Except QueryError Connective :=
  match Connective.ofText? word with
  | some c => .ok c
  | none => .error (.unknownConnective word)

/-- Reads the conditions of a filter, then what joins them. -/
def parse (options : Options) (t : Text) : Except QueryError (List Condition × List Connective) :=
  if t = [] then .error (.malformedCondition [] .emptyFilter)
  else do
    let conditions ← (split t).1.mapM (Condition.parse options)
    let connectives ← (split t).2.mapM readConnective
    return (conditions, connectives)

end Filter

end FlatQuery
