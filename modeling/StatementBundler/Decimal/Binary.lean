/-!
# Binary numbers

A number with a point or an exponent is kept as a binary number `m · 2^q`, with a significand `m`
below `2^53` and an exponent `q` from `-1074` to `971`.  `Binary.nearest?` rounds a value to the
nearest of them; of two equally near ones it takes the one with the even significand.

All of this is exact arithmetic on quotients of natural numbers.
-/

namespace StatementBundler.Decimal

/-- A quotient of natural numbers with a positive denominator. -/
structure Ratio where
  num : Nat
  den : Nat
deriving Repr, DecidableEq

namespace Ratio

/-- The number `n · base^exponent`. -/
def scaled (n base : Nat) (exponent : Int) : Ratio :=
  if 0 ≤ exponent then ⟨n * Nat.pow base exponent.toNat, 1⟩
  else ⟨n, Nat.pow base (-exponent).toNat⟩

/-- The product of two ratios. -/
def times (x y : Ratio) : Ratio :=
  ⟨x.num * y.num, x.den * y.den⟩

/-- The quotient of two ratios. -/
def divBy (x y : Ratio) : Ratio :=
  ⟨x.num * y.den, x.den * y.num⟩

/-- Whether one ratio is below another. -/
def below (x y : Ratio) : Bool :=
  x.num * y.den < y.num * x.den

/-- The distance of two ratios. -/
def distance (x y : Ratio) : Ratio :=
  ⟨(x.num * y.den - y.num * x.den) + (y.num * x.den - x.num * y.den), x.den * y.den⟩

/-- The greatest natural number that is not above. -/
def floor (x : Ratio) : Nat :=
  x.num / x.den

/-- The nearest natural number; of two equally near ones the even one. -/
def round (x : Ratio) : Nat :=
  let whole := x.num / x.den
  let rest := 2 * (x.num % x.den)
  if x.den < rest ∨ (rest = x.den ∧ whole % 2 = 1) then whole + 1 else whole

/-- The greatest `e` with `base^e ≤ x`, for a positive `x` and an estimate that is at most one
too high. -/
def logFrom (x : Ratio) (base : Nat) (estimate : Int) : Int :=
  if x.below (scaled 1 base estimate) then estimate - 1 else estimate

end Ratio

/-- The number `significand · 2^exponent`. -/
structure Binary where
  significand : Nat
  exponent : Int
deriving Repr, DecidableEq

/-- The value of a binary number. -/
def Binary.value (b : Binary) : Ratio :=
  .scaled b.significand 2 b.exponent

/-- The nearest binary number of a value, unless it is too large for one. -/
def Binary.nearest? (x : Ratio) : Option Binary :=
  if x.num = 0 then some ⟨0, -1074⟩
  else
    let magnitude := x.logFrom 2 ((x.num.log2 : Int) - x.den.log2)
    let exponent := max (magnitude - 52) (-1074)
    let significand := (x.divBy (.scaled 1 2 exponent)).round
    let (significand, exponent) :=
      if significand = Nat.pow 2 53 then (Nat.pow 2 52, exponent + 1) else (significand, exponent)
    if 971 < exponent then none else some ⟨significand, exponent⟩

end StatementBundler.Decimal
