import FlatQuery.Text.Alphanumeric
import FlatQuery.Text.Uppercase
import FlatQuery.Text.Lowercase

/-!
# FlatQuery.Word

Words that are looked for in a text, whatever their case, where they stand alone: no name character
touches them on either side, so `from_date` does not hold the word `from`.

* `Word.endAt?` matches a word at one position;
* `Word.find?` finds the first place where it stands alone;
* `Word.findAll` finds all of them, one after another;
* `Word.le_matchLength?` — a match takes a character for every letter, and stays in the text.
-/

namespace FlatQuery

/-- The characters of a text from position `start` up to, but not including, position `stop`. -/
structure Span where
  start : Nat
  stop : Nat
deriving DecidableEq

/-- The character before a position, if there is one. -/
def Text.charBefore? (t : Text) (position : Nat) : Option Char :=
  if position = 0 then none else t[position - 1]?

/-- A word to look for, held in upper case.  A space in it stands for a run of blanks. -/
structure Word where
  letters : Text
deriving DecidableEq

namespace Word

/-- The word written as `t`, in any case. -/
def ofText (t : Text) : Word := ⟨t.toUpper⟩

def text (w : Word) : Text := Text.toLower w.letters

/-- What is left of a text after the letters of a word. -/
def dropLetters? : Text → Text → Option Text
  | [], t => some t
  | _ :: _, [] => none
  | letter :: letters, c :: rest =>
      if letter = ' ' then
        if isBlank c then dropLetters? letters (rest.dropWhile isBlank) else none
      else if upper c = upper letter then dropLetters? letters rest
      else none

/-- Every letter takes a character at least. -/
theorem length_of_dropLetters? {letters t rest : Text} (h : dropLetters? letters t = some rest) :
    letters.length + rest.length ≤ t.length := by
  fun_induction dropLetters? letters t with
  | case1 t => simp_all
  | case2 => simp at h
  | case3 letters c tail _ ih =>
      have hr := ih h
      have hd := (List.dropWhile_sublist isBlank (l := tail)).length_le
      simp only [List.length_cons]
      omega
  | case4 => simp at h
  | case5 letter letters c tail _ _ ih =>
      have hr := ih h
      simp only [List.length_cons]
      omega
  | case6 => simp at h

/-- How many characters the word takes at the start of `t`, when it stands alone there and comes
after the character `before`. -/
def matchLength? (w : Word) (before : Option Char) (t : Text) : Option Nat :=
  match dropLetters? w.letters t with
  | none => none
  | some rest =>
      if before.any isWordChar || rest.head?.any isWordChar then none
      else some (t.length - rest.length)

/-- A match takes a character for every letter, and stays in the text. -/
theorem le_matchLength? {w : Word} {before : Option Char} {t : Text} {n : Nat}
    (h : w.matchLength? before t = some n) : w.letters.length ≤ n ∧ n ≤ t.length := by
  simp only [matchLength?] at h
  split at h
  · simp at h
  · next rest hr =>
      have hl := length_of_dropLetters? hr
      split at h
      · simp at h
      · simp only [Option.some.injEq] at h
        omega

/-- Where the word ends, when it stands alone at `position`. -/
def endAt? (w : Word) (t : Text) (position : Nat) : Option Nat :=
  (w.matchLength? (t.charBefore? position) (t.drop position)).map (position + ·)

/-! ## searching -/

/-- The first place where the word stands alone in a text that starts at `position`, after the
character `before`. -/
def findFrom? (w : Word) (before : Option Char) (position : Nat) : Text → Option Span
  | [] => none
  | c :: rest =>
      match w.matchLength? before (c :: rest) with
      | some n => some ⟨position, position + n⟩
      | none => findFrom? w (some c) (position + 1) rest

/-- The first place at or after position `start` where the word stands alone. -/
def find? (w : Word) (t : Text) (start : Nat) : Option Span :=
  w.findFrom? (t.charBefore? start) start (t.drop start)

/-- The places in a text that starts at `position` where the word stands alone; none is looked for
before position `resume`. -/
def findAllFrom (w : Word) (resume : Nat) (before : Option Char) (position : Nat) :
    Text → List Span
  | [] => []
  | c :: rest =>
      match if position < resume then none else w.matchLength? before (c :: rest) with
      | some n =>
          ⟨position, position + n⟩
            :: findAllFrom w (max (position + n) (position + 1)) (some c) (position + 1) rest
      | none => findAllFrom w resume (some c) (position + 1) rest

/-- The places at or after position `start` where the word stands alone, each looked for after the
end of the one before it and at least one character on. -/
def findAll (w : Word) (t : Text) (start : Nat) : List Span :=
  w.findAllFrom start (t.charBefore? start) start (t.drop start)

end Word

end FlatQuery
