import StatementBundler.Decimal.Numeral

/-!
# The shortest decimal of a binary number

When a number is quoted in a message it is written with the fewest digits whose nearest binary
number it is, and of those with the digits nearest to it; of two equally near decimals the
greater is taken.

A binary number `m · 2^q` is the nearest one for the decimals of an interval around it; the ends
of the interval belong to it when `m` is even.  For one digit, two digits and so on, the two
neighbours of the number on that decimal grid are tested, and the first grid with a neighbour in
the interval gives the digits.
-/

namespace StatementBundler.Decimal

/-- The ends of the interval of values whose nearest binary number is the given one. -/
def Binary.interval (b : Binary) : Ratio × Ratio :=
  let unit := b.exponent - 2
  let gapBelow := if b.significand = Nat.pow 2 52 ∧ -1074 < b.exponent then 1 else 2
  (.scaled (4 * b.significand - gapBelow) 2 unit, .scaled (4 * b.significand + 2) 2 unit)

/-- Whether a value's nearest binary number is the given one. -/
def Binary.covers (b : Binary) (x : Ratio) : Bool :=
  let (low, high) := b.interval
  if b.significand % 2 = 0 then !x.below low && !high.below x else low.below x && x.below high

/-- The neighbour of a binary number on the grid of multiples of `10^exponent` that reads back as
the number; of two the nearer one, and of two equally near ones the greater. -/
def Binary.onGrid? (b : Binary) (exponent : Int) : Option Nat :=
  let value := b.value
  let gridPoint (n : Nat) : Ratio := .scaled n 10 exponent
  let low := (value.divBy (.scaled 1 10 exponent)).floor
  match b.covers (gridPoint low), b.covers (gridPoint (low + 1)) with
  | true, true =>
    if (value.distance (gridPoint low)).below (value.distance (gridPoint (low + 1))) then some low
    else some (low + 1)
  | true, false => some low
  | false, true => some (low + 1)
  | false, false => none

/-- The number of decimal digits of a natural number. -/
def digitCount (n : Nat) : Nat :=
  (Nat.toDigits 10 n).length

/-- The same value without zeros at the end of its digits; at most `bound` of them are dropped. -/
def withoutTrailingZeros : (bound : Nat) → Nat → Int → Nat × Int
  | 0, digits, exponent => (digits, exponent)
  | bound + 1, digits, exponent =>
    if digits % 10 = 0 then withoutTrailingZeros bound (digits / 10) (exponent + 1)
    else (digits, exponent)

/-- The shortest decimal that reads back as a binary number: its digits and their exponent.  The
next higher power of ten is met as a neighbour too, hence the zeros that are dropped. -/
def Binary.shortest (b : Binary) : Nat × Int :=
  if b.significand = 0 then (0, 0)
  else
    let value := b.value
    let magnitude := value.logFrom 10 ((digitCount value.num : Int) - digitCount value.den)
    ((List.range 17).findSome? fun (k : Nat) =>
      (b.onGrid? (magnitude - k)).map fun digits =>
        withoutTrailingZeros (k + 1) digits (magnitude - k)).getD (0, 0)

/-- Digits and exponent in positional notation, always with a point. -/
def positional (digits : Nat) (exponent : Int) : List Char :=
  let figures := Nat.toDigits 10 digits
  if 0 ≤ exponent then figures ++ List.replicate exponent.toNat '0' ++ ['.', '0']
  else
    let places := (-exponent).toNat
    let padded := List.replicate (places + 1 - figures.length) '0' ++ figures
    padded.take (padded.length - places) ++ '.' :: padded.drop (padded.length - places)

/-- The shortest text in positional notation that stands for what a numeral is read as; there is
none for a numeral that is too large. -/
def Numeral.shortestText? (n : Numeral) : Option String := do
  let (digits, exponent) := (← n.binary?).shortest
  let text := positional digits exponent
  return String.ofList (if n.negative then '-' :: text else text)

end StatementBundler.Decimal
