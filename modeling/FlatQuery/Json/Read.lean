import FlatQuery.Json.Number

/-!
# FlatQuery.Json.Read

Reading JSON text from left to right.  The first problem met is the fault that is answered.

* `Json.readString` reads a string after its opening quote;
* `Json.readValue` reads a value of any kind, strictly or, to skip it, with no more than its form
  checked;
* `Json.parse` reads a whole text.
-/

namespace FlatQuery

namespace Json

/-! ## blanks and words -/

/-- The blanks between the parts of a JSON text. -/
def isGap (c : Char) : Bool := c == ' ' || c == '\n' || c == '\t' || c == '\r'

/-- The text without the blanks in front. -/
def skipGap (t : Text) : Text := t.dropWhile isGap

/-- What follows the given letters. -/
def dropWord : Text → Text → Except Fault Text
  | [], t => .ok t
  | _ :: _, [] => .error .truncated
  | letter :: letters, c :: rest =>
      if c = letter then dropWord letters rest else .error .malformed

/-! ## strings -/

/-- The character that a letter after a backslash stands for. -/
def unescape? (c : Char) : Option Char :=
  if c = '"' || c = '\\' || c = '/' then some c
  else if c = 'b' then some '\x08'
  else if c = 'f' then some '\x0c'
  else if c = 'n' then some '\n'
  else if c = 'r' then some '\r'
  else if c = 't' then some '\t'
  else none

def hexValue? (c : Char) : Option Nat :=
  if c.isDigit then some (c.toNat - 48)
  else if 'a' ≤ c ∧ c ≤ 'f' then some (c.toNat - 87)
  else if 'A' ≤ c ∧ c ≤ 'F' then some (c.toNat - 55)
  else none

def hex4? (a b c d : Char) : Option Nat := do
  let a ← hexValue? a
  let b ← hexValue? b
  let c ← hexValue? c
  let d ← hexValue? d
  return ((a * 16 + b) * 16 + c) * 16 + d

/-- Where four digits belong and fewer characters are left, the text ends too early when what is
left has fewer than four bytes. -/
def shortCode (t : Text) : Fault :=
  if t.foldl (fun n c => n + c.utf8Size) 0 < 4 then .truncated else .malformed

/-- Puts a character in front of a string that has been read. -/
def consString (c : Char) : Except Fault (Text × Text) → Except Fault (Text × Text)
  | .ok (t, rest) => .ok (c :: t, rest)
  | .error fault => .error fault

/-- The first half of a pair of units that stand for one character. -/
def isLeading (n : Nat) : Bool := 0xD800 ≤ n && n < 0xDC00

/-- The second half of a pair of units that stand for one character. -/
def isTrailing (n : Nat) : Bool := 0xDC00 ≤ n && n < 0xE000

/-- The character that two units stand for. -/
def pair (first second : Nat) : Char :=
  Char.ofNat (0x10000 + (first - 0xD800) * 0x400 + (second - 0xDC00))

/-- The string that follows an opening quote, and what follows its closing quote.  Units of a pair
have to come together. -/
def readString : Text → Except Fault (Text × Text)
  | [] => .error .truncated
  | c :: rest =>
      if c = '"' then .ok ([], rest)
      else if c = '\\' then
        match rest with
        | [] => .error .truncated
        | e :: rest =>
            match unescape? e with
            | some c => consString c (readString rest)
            | none =>
                if e ≠ 'u' then .error .malformed
                else match rest with
                  | h1 :: h2 :: h3 :: h4 :: rest =>
                      match hex4? h1 h2 h3 h4 with
                      | none => .error .malformed
                      | some n =>
                          if isTrailing n then .error .malformed
                          else if !isLeading n then consString (Char.ofNat n) (readString rest)
                          else match rest with
                            | [] => .error .truncated
                            | b :: rest =>
                                if b ≠ '\\' then .error .malformed
                                else match rest with
                                  | [] => .error .truncated
                                  | u :: rest =>
                                      if u ≠ 'u' then .error .malformed
                                      else match rest with
                                        | g1 :: g2 :: g3 :: g4 :: rest =>
                                            match hex4? g1 g2 g3 g4 with
                                            | none => .error .malformed
                                            | some m =>
                                                if isTrailing m then
                                                  consString (pair n m) (readString rest)
                                                else .error .malformed
                                        | short => .error (shortCode short)
                  | short => .error (shortCode short)
      else if c.toNat < 32 then .error .malformed
      else consString c (readString rest)

/-- What follows the closing quote of a string whose content does not matter. -/
def skipString : Text → Except Fault Text
  | [] => .error .truncated
  | c :: rest =>
      if c = '"' then .ok rest
      else if c = '\\' then
        match rest with
        | [] => .error .truncated
        | e :: rest =>
            if (unescape? e).isSome then skipString rest
            else if e ≠ 'u' then .error .malformed
            else match rest with
              | h1 :: h2 :: h3 :: h4 :: rest =>
                  if (hex4? h1 h2 h3 h4).isSome then skipString rest else .error .malformed
              | short => .error (shortCode short)
      else if c.toNat < 32 then .error .malformed
      else skipString rest

/-! ## numbers -/

/-- A number and what follows it. -/
def readNumber (t : Text) : Except Fault (Number × Text) := do
  let (literal, rest) ← NumberLiteral.read t
  match literal.value? with
  | some value => return (value, rest)
  | none => .error .malformed

/-- What follows a number whose value does not matter; any problem with it is one of form. -/
def skipNumber (t : Text) : Except Fault Text :=
  match NumberLiteral.read t with
  | .ok (_, rest) => .ok rest
  | .error _ => .error .malformed

/-! ## arrays and objects -/

/-- What comes next in an array or an object: its end, or an entry. -/
inductive Next where
  | closed (rest : Text)
  | entry (rest : Text)

/-- Looks for the next entry, past the comma that comes before all but the first. -/
def next (close : Char) (first : Bool) (t : Text) : Except Fault Next :=
  match skipGap t with
  | [] => .error .truncated
  | c :: rest =>
      if c = close then .ok (.closed rest)
      else if first then .ok (.entry (c :: rest))
      else if c = ',' then
        match skipGap rest with
        | [] => .error .truncated
        | d :: rest => if d = close then .error .malformed else .ok (.entry (d :: rest))
      else .error .malformed

/-- What follows the opening quote of a key. -/
def openKey : Text → Except Fault Text
  | '"' :: rest => .ok rest
  | _ => .error .malformed

/-- What follows the colon after a key. -/
def dropColon (t : Text) : Except Fault Text :=
  match skipGap t with
  | [] => .error .truncated
  | c :: rest => if c = ':' then .ok rest else .error .malformed

/-- How the strings and the numbers inside a value are read. -/
structure Leaves where
  string : Text → Except Fault (Text × Text)
  number : Text → Except Fault (Number × Text)

/-- Reads strings and numbers as they are. -/
def Leaves.strict : Leaves := ⟨readString, readNumber⟩

/-- Looks at no more than the form of strings and numbers. -/
def Leaves.skipped : Leaves where
  string t := return ([], ← skipString t)
  number t := return (.integer 0, ← skipNumber t)

mutual

/-- A value and what follows it. -/
def readValue (leaves : Leaves) : Nat → Text → Except Fault (Json × Text)
  | 0, _ => .error .truncated
  | fuel + 1, t =>
      match skipGap t with
      | [] => .error .truncated
      | c :: rest =>
          if c = 'n' then return (.null, ← dropWord "ull".toList rest)
          else if c = 't' then return (.bool true, ← dropWord "rue".toList rest)
          else if c = 'f' then return (.bool false, ← dropWord "alse".toList rest)
          else if c = '"' then do
            let (value, rest) ← leaves.string rest
            return (.string value, rest)
          else if c = '-' || c.isDigit then do
            let (value, rest) ← leaves.number (c :: rest)
            return (.number value, rest)
          else if c = '[' then do
            let (items, rest) ← readItems leaves fuel true rest
            return (.array items, rest)
          else if c = '\x7b' then do
            let (fields, rest) ← readMembers leaves fuel true rest
            return (.object fields, rest)
          else .error .malformed

/-- The values up to the end of an array. -/
def readItems (leaves : Leaves) : Nat → Bool → Text → Except Fault (List Json × Text)
  | 0, _, _ => .error .truncated
  | fuel + 1, first, t => do
      match ← next ']' first t with
      | .closed rest => return ([], rest)
      | .entry rest =>
          let (item, rest) ← readValue leaves fuel rest
          let (items, rest) ← readItems leaves fuel false rest
          return (item :: items, rest)

/-- The members up to the end of an object. -/
def readMembers (leaves : Leaves) : Nat → Bool → Text → Except Fault (List (Text × Json) × Text)
  | 0, _, _ => .error .truncated
  | fuel + 1, first, t => do
      match ← next '\x7d' first t with
      | .closed rest => return ([], rest)
      | .entry rest =>
          let (key, rest) ← leaves.string (← openKey rest)
          let (value, rest) ← readValue leaves fuel (← dropColon rest)
          let (fields, rest) ← readMembers leaves fuel false rest
          return ((key, value) :: fields, rest)

end

/-- Steps enough to read any value at the start of a text. -/
def fuelFor (t : Text) : Nat := 2 * t.length + 2

/-- What follows a value that does not matter. -/
def skipValue (t : Text) : Except Fault Text :=
  return (← readValue .skipped (fuelFor t) t).2

/-- Nothing but blanks may follow a value. -/
def finish (rest : Text) (value : α) : Except Fault α :=
  if skipGap rest = [] then .ok value else .error .malformed

/-- The value that a whole text holds. -/
def parse (t : Text) : Except Fault Json := do
  let (value, rest) ← readValue .strict (fuelFor t) t
  finish rest value

end Json

end FlatQuery
