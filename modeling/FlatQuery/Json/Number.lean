import FlatQuery.Decimal.Shortest
import FlatQuery.Json.Basic

/-!
# FlatQuery.Json.Number

The text of JSON numbers, and the numbers that JSON texts stand for.

* `NumberLiteral.read` reads the text of a number;
* `NumberLiteral.value?` finds its value: an integer when it is written as one and fits 64 bits, and
  otherwise a float;
* `Number.render` writes a number.
-/

namespace FlatQuery

namespace Json

/-- The text of a number, taken apart. -/
structure NumberLiteral where
  negative : Bool
  whole : Text
  /-- The digits after the point, if there is one. -/
  fraction : Option Text
  /-- Whether the exponent is negative, and its digits. -/
  exponent : Option (Bool × Text)

namespace NumberLiteral

/-! ## reading -/

/-- One digit or more. -/
def readDigits (t : Text) : Except Fault (Text × Text) :=
  match t with
  | [] => .error .truncated
  | c :: _ => if c.isDigit then .ok (t.takeWhile Char.isDigit, t.dropWhile Char.isDigit)
      else .error .malformed

/-- The digits before the point; a zero stands alone. -/
def readWhole (t : Text) : Except Fault (Text × Text) := do
  let (digits, rest) ← readDigits t
  if digits.head? = some '0' && digits.length ≠ 1 then .error .malformed else .ok (digits, rest)

/-- The point and the digits after it. -/
def readFraction : Text → Except Fault (Option Text × Text)
  | '.' :: rest => do
      let (digits, rest) ← readDigits rest
      return (some digits, rest)
  | t => .ok (none, t)

/-- The sign of an exponent, and what follows. -/
def readSign : Text → Bool × Text
  | '-' :: rest => (true, rest)
  | '+' :: rest => (false, rest)
  | t => (false, t)

def readExponent : Text → Except Fault (Option (Bool × Text) × Text)
  | [] => .ok (none, [])
  | c :: rest =>
      if c = 'e' || c = 'E' then do
        let (negative, rest) := readSign rest
        let (digits, rest) ← readDigits rest
        return (some (negative, digits), rest)
      else .ok (none, c :: rest)

/-- A number at the start of a text. -/
def read (t : Text) : Except Fault (NumberLiteral × Text) := do
  let (negative, rest) := match t with
    | '-' :: rest => (true, rest)
    | t => (false, t)
  let (whole, rest) ← readWhole rest
  let (fraction, rest) ← readFraction rest
  let (exponent, rest) ← readExponent rest
  return (⟨negative, whole, fraction, exponent⟩, rest)

/-! ## values -/

def digit (c : Char) : Nat := c.toNat - '0'.toNat

/-- The number that a row of digits stands for. -/
def ofDigits (t : Text) : Nat := t.foldl (fun n c => 10 * n + digit c) 0

/-- Appends digits to `n` as long as the result fits 64 bits; the count is of the digits left
out. -/
def append (n : Nat) : Text → Nat × Nat
  | [] => (n, 0)
  | c :: rest => if 10 * n + digit c < Nat.pow 2 64 then append (10 * n + digit c) rest
      else (n, rest.length + 1)

/-- The float next to `x · 10^exponent`, with one division or multiplication; numbers too small
are scaled in `fuel` steps at most.  `none` stands for numbers too large. -/
def scale : Nat → Float → Int → Option Float
  | 0, _, _ => some 0
  | fuel + 1, x, exponent =>
      if exponent.natAbs ≤ 308 then
        let power := Float.ofScientific 1 false exponent.natAbs
        if 0 ≤ exponent then
          if (x * power).isInf then none else some (x * power)
        else some (x / power)
      else if x == 0 then some x
      else if 0 ≤ exponent then none
      else scale fuel (x / Float.ofScientific 1 false 308) (exponent + 308)

/-- The value of a number with a fraction or an exponent, or of one too long for 64 bits. -/
def floatValue? (l : NumberLiteral) : Option Float :=
  let (whole, dropped) := append 0 l.whole
  let (significand, unread) := append whole (l.fraction.getD [])
  let places := (l.fraction.getD []).length - unread
  let power : Int := match l.exponent with
    | none => 0
    | some (negative, digits) => if negative then -(ofDigits digits : Int) else ofDigits digits
  (scale 4 significand.toUInt64.toFloat ((dropped : Int) - places + power)).map fun x =>
    if l.negative then -x else x

/-- The value of a number; `none` stands for numbers too large. -/
def value? (l : NumberLiteral) : Option Number :=
  let n := ofDigits l.whole
  if l.fraction.isSome || l.exponent.isSome || Nat.pow 2 64 ≤ n then l.floatValue?.map .float
  else if !l.negative then some (.integer n)
  else if n = 0 || Nat.pow 2 63 < n then some (.float (-n.toUInt64.toFloat))
  else some (.integer (-n))

end NumberLiteral

namespace Number

/-! ## writing -/

/-- An exponent with its sign. -/
def exponentText (exponent : Int) : Text :=
  'e' :: (if exponent < 0 then '-' else '+') :: Nat.toDigits 10 exponent.natAbs

/-- Digits with the point after the first `point` of them, or with an exponent where the point is
more than four places before them or more than sixteen places on. -/
def layOut (digits : Text) (point : Int) : Text :=
  let length : Int := digits.length
  if length ≤ point ∧ point ≤ 16 then
    digits ++ List.replicate (point - length).toNat '0' ++ ['.', '0']
  else if 0 < point ∧ point ≤ 16 then
    digits.take point.toNat ++ ['.'] ++ digits.drop point.toNat
  else if -5 < point ∧ point ≤ 0 then
    ['0', '.'] ++ List.replicate (-point).toNat '0' ++ digits
  else
    digits.take 1 ++ (if length = 1 then [] else '.' :: digits.drop 1) ++ exponentText (point - 1)

/-- A float in the fewest digits that read back. -/
def renderFloat (x : Float) : Text :=
  let sign : Text := if Nat.pow 2 63 ≤ x.toBits.toNat then ['-'] else []
  if x == 0 then sign ++ ['0', '.', '0']
  else
    let d := Decimal.ofFloat x
    let digits := Nat.toDigits 10 d.digits
    sign ++ layOut digits (digits.length + d.exponent)

def render : Number → Text
  | integer value => (toString value).toList
  | float value => renderFloat value

end Number

end Json

end FlatQuery
