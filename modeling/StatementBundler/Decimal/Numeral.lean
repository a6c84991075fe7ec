import StatementBundler.Decimal.Binary

/-!
# Reading decimal numerals

A decimal numeral is read in rounded steps.  Its digits make up a whole number as long as that
fits 64 bits; the digits behind are worth a zero each.  The whole number is rounded to a binary
number and scaled by a power of ten, which is rounded too, with a rounded result.  For numerals of
up to fifteen digits and small exponents this is the nearest binary number.
-/

namespace StatementBundler.Decimal

/-- The value `digits · 10^exponent`, or its negative. -/
structure Numeral where
  negative : Bool
  digits : Nat
  exponent : Int
deriving Repr, DecidableEq

/-- Appends decimal digits to a number while the result fits 64 bits.  Gives the digits that are
left, too. -/
def appendDigits (value : Nat) : List Char → Nat × List Char
  | [] => (value, [])
  | c :: cs =>
    let longer := 10 * value + (c.toNat - '0'.toNat)
    if longer < Nat.pow 2 64 then appendDigits longer cs else (value, c :: cs)

/-- The numeral that is written by a sign, a whole part, a fraction and an exponent. -/
def Numeral.ofParts (negative : Bool) (whole fraction : List Char) (exponent : Int) : Numeral :=
  let (value, ignored) := appendDigits 0 whole
  let (digits, rest) := appendDigits value fraction
  ⟨negative, digits, exponent + ignored.length - (fraction.length - rest.length : Nat)⟩

/-- Scales a binary number by a power of ten, unless the result is too large.  A power below
`10^-308` is taken in several steps; a number below `2^64` vanishes within three of them. -/
def Binary.timesPowerOfTen : (steps : Nat) → Binary → (exponent : Int) → Option Binary
  | 0, b, _ => some b
  | steps + 1, b, exponent =>
    if exponent.natAbs ≤ 308 then do
      let power ← Binary.nearest? (.scaled 1 10 exponent.natAbs)
      if 0 ≤ exponent then Binary.nearest? (b.value.times power.value)
      else Binary.nearest? (b.value.divBy power.value)
    else if b.significand = 0 then some b
    else if 0 ≤ exponent then none
    else do
      let power ← Binary.nearest? (.scaled 1 10 308)
      timesPowerOfTen steps (← Binary.nearest? (b.value.divBy power.value)) (exponent + 308)

/-- The binary number that a numeral without its sign is read as, unless it is too large. -/
def Numeral.binary? (n : Numeral) : Option Binary := do
  Binary.timesPowerOfTen 4 (← Binary.nearest? (.scaled n.digits 10 0)) n.exponent

end StatementBundler.Decimal
