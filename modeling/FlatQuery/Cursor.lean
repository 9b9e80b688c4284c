import FlatQuery.Keyword

/-!
# FlatQuery.Cursor

A place in a query text.  A cursor may stand past the end of the text, where it sees nothing.
-/

namespace FlatQuery

namespace Text

/-- The first position at or after `position` that holds no blank. -/
def skipBlanks (t : Text) (position : Nat) : Nat :=
  position + ((t.drop position).takeWhile isBlank).length

/-- The first position at or after `position` that holds a blank, or the end of the text. -/
def skipRun (t : Text) (position : Nat) : Nat :=
  position + ((t.drop position).takeWhile (!isBlank ·)).length

end Text

/-- A text and a position in it. -/
structure Cursor where
  text : Text
  position : Nat
deriving DecidableEq

namespace Cursor

def start (text : Text) : Cursor := ⟨text, 0⟩

def atEnd (c : Cursor) : Bool := c.text.length ≤ c.position

/-- The character at a position, NUL where there is none. -/
def charAt (c : Cursor) (position : Nat) : Char := c.text[position]?.getD '\x00'

def current (c : Cursor) : Char := c.charAt c.position

/-- One position further on, also past the end. -/
def next (c : Cursor) : Cursor := { c with position := c.position + 1 }

/-- Past the blanks under the cursor. -/
def nextNonBlank (c : Cursor) : Cursor := { c with position := c.text.skipBlanks c.position }

/-- At the given position, or at the end of the text when that comes first. -/
def jumpTo (c : Cursor) (position : Nat) : Cursor :=
  { c with position := min position c.text.length }

/-- The text from `pivot` up to the cursor. -/
def sincePivot (c : Cursor) (pivot : Nat) : Text := c.text.slice pivot c.position

/-- Where a word ends that stands alone under the cursor. -/
def endOf? (c : Cursor) (w : Word) : Option Nat := w.endAt? c.text c.position

end Cursor

end FlatQuery
