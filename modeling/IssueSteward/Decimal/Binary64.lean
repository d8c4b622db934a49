/-!
# Numbers of double precision

The finite numbers of the binary64 format without their signs, computed exactly: a number is a
mantissa times a power of two, and `round` gives the one nearest to a fraction, of two equally near
ones that with the even mantissa. Multiplication and division round the exact result, and `none`
stands for a result beyond the largest finite number.

`ofDecimal` reads a decimal significand and exponent by one conversion and one scaling, each
rounded, so that its result may differ from the nearest number in the last place.
-/

namespace IssueSteward.Decimal

/-- The finite number `mantissa * 2 ^ exponent`. -/
structure Binary64 where
  /-- The mantissa, below `2 ^ 53`. -/
  mantissa : Nat
  /-- The power of two. -/
  exponent : Int
deriving DecidableEq, Repr

namespace Binary64

/-- The least exponent of the format. -/
def leastExponent : Int := -1074

/-- The greatest exponent of the format. -/
def greatestExponent : Int := 971

/-- The numerator of the value. -/
def num (x : Binary64) : Nat := x.mantissa * Nat.pow 2 x.exponent.toNat

/-- The denominator of the value. -/
def den (x : Binary64) : Nat := Nat.pow 2 (-x.exponent).toNat

/-- The whole number nearest to `p / q`, of two equally near ones the even one. -/
def nearest (p q : Nat) : Nat :=
  let m := p / q
  let twice := 2 * (p % q)
  if twice < q ∨ (twice = q ∧ m % 2 = 0) then m else m + 1

/-- The exponent at which the mantissa of `p / q` has 53 bits, or the least one of the format. -/
def exponentOf (p q : Nat) : Int :=
  -- The logarithms leave two candidates.
  let e : Int := (p.log2 : Int) - q.log2 - 53
  let e := if p * Nat.pow 2 (-e).toNat ≥ Nat.pow 2 53 * (q * Nat.pow 2 e.toNat) then e + 1 else e
  max e leastExponent

/-- The number nearest to `p / q`, for a positive `q`, unless it is too large. -/
def round (p q : Nat) : Option Binary64 :=
  if p = 0 then some ⟨0, 0⟩
  else
    let e := exponentOf p q
    let m := nearest (p * Nat.pow 2 (-e).toNat) (q * Nat.pow 2 e.toNat)
    -- Rounding up may reach the next power of two.
    let x : Binary64 := if m = Nat.pow 2 53 then ⟨Nat.pow 2 52, e + 1⟩ else ⟨m, e⟩
    if x.exponent ≤ greatestExponent then some x else none

/-- The number nearest to a natural number. -/
def ofNat (n : Nat) : Option Binary64 := round n 1

/-- The rounded product. -/
def mul (x y : Binary64) : Option Binary64 := round (x.num * y.num) (x.den * y.den)

/-- The rounded quotient by a number other than zero. -/
def div (x y : Binary64) : Option Binary64 := round (x.num * y.den) (x.den * y.num)

/-- The largest power of ten that scales a number at once. -/
def greatestPower : Nat := 308

/-- A number divided by `10 ^ k`, in steps of the largest power. -/
def scaleDown (x : Binary64) (k : Nat) : Option Binary64 :=
  if k ≤ greatestPower then do div x (← ofNat (Nat.pow 10 k))
  else if x.mantissa = 0 then some x
  else do scaleDown (← div x (← ofNat (Nat.pow 10 greatestPower))) (k - greatestPower)
termination_by k
decreasing_by simp only [greatestPower] at *; omega

/-- A whole number times `10 ^ k`. -/
def scaleUp (x : Binary64) (k : Nat) : Option Binary64 :=
  if k ≤ greatestPower then do mul x (← ofNat (Nat.pow 10 k))
  else if x.mantissa = 0 then some x
  -- Even one times this power is too large.
  else none

/-- The number that `significand * 10 ^ exponent` is read as, unless it is too large. -/
def ofDecimal (significand : Nat) (exponent : Int) : Option Binary64 := do
  let x ← ofNat significand
  if 0 ≤ exponent then scaleUp x exponent.toNat else scaleDown x (-exponent).toNat

end Binary64

end IssueSteward.Decimal
