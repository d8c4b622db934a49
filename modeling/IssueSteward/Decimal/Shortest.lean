import IssueSteward.Decimal.Binary64
import IssueSteward.Decimal.Numeral

/-!
# The shortest decimal of a number of double precision

Of the decimals that round to a number, `shortest` takes one with the fewest digits, and of those
the nearest. The decimals that round to a number fill an interval around it, whose ends belong to it
when the mantissa is even; on the grid of the decimals with `n` digits, only the two neighbours of
the number can be nearest, so that it is enough to look at these for `n` from 1 to 17.

A `Layout` says where such a decimal is written positionally.
-/

namespace IssueSteward.Decimal

/-- Whether `p / q` lies in the interval of the decimals that round to a number. -/
def Binary64.covers (x : Binary64) (p q : Nat) : Bool :=
  -- quarters of a unit in the last place
  let unit := Nat.pow 2 x.exponent.toNat
  -- Below a power of two the numbers are twice as dense.
  let below := if x.mantissa = Nat.pow 2 52 ∧ leastExponent < x.exponent then 1 else 2
  let value := 4 * p * x.den
  let low := (4 * x.mantissa - below) * unit * q
  let high := (4 * x.mantissa + 2) * unit * q
  if x.mantissa % 2 = 0 then low ≤ value && value ≤ high else low < value && value < high

/-- The exponent of the leading decimal digit of `p / q`. -/
def leadingExponent (p q : Nat) : Int :=
  let e : Int := (Nat.toDigits 10 p).length - (Nat.toDigits 10 q).length
  if p * Nat.pow 10 (-e).toNat ≥ q * Nat.pow 10 e.toNat then e else e - 1

/-- The nearest of the decimals with a given exponent that round to a number, if there is one. -/
def Binary64.onGrid (x : Binary64) (e : Int) : Option Nat :=
  let p := x.num * Nat.pow 10 (-e).toNat
  let q := x.den * Nat.pow 10 e.toNat
  let hit (m : Nat) : Bool := x.covers (m * Nat.pow 10 e.toNat) (Nat.pow 10 (-e).toNat)
  let low := p / q
  -- If any point of the grid is in the interval, one of the two neighbours of the number is.
  match hit low, hit (low + 1) with
  | true, true => some (nearest p q)
  | true, false => some low
  | false, true => some (low + 1)
  | false, false => none

/-- The shortest decimal that rounds to a number other than zero, as its digits and exponent. -/
def Binary64.shortest (x : Binary64) : Nat × Int :=
  let top := leadingExponent x.num x.den
  let found := (List.range 17).findSome? fun (n : Nat) =>
    (x.onGrid (top - n)).map fun m => (m, top - (n : Int))
  -- Seventeen digits always suffice, so the default is never taken.
  found.getD (x.num, 0)

/-- A number's digits without the zeros at its end, and the exponent that makes up for them. -/
def dropZeros (digits : List Char) (e : Int) : List Char × Int :=
  let kept := (digits.reverse.dropWhile (· == '0')).reverse
  (kept, e + (digits.length - kept.length : Nat))

/-- How decimals are laid out: the least and the greatest exponent of the leading digit for which
they are written positionally. -/
structure Layout where
  /-- The least exponent that is written positionally. -/
  leastFixed : Int
  /-- The greatest exponent that is written positionally. -/
  greatestFixed : Int

/-- Digits with a point after the first `k`, with a zero on the side where none is left. -/
def positional (digits : List Char) (k : Int) : List Char :=
  if k ≤ 0 then '0' :: '.' :: (List.replicate (-k).toNat '0' ++ digits)
  else if digits.length ≤ k.toNat then
    digits ++ List.replicate (k.toNat - digits.length) '0' ++ ['.', '0']
  else digits.take k.toNat ++ '.' :: digits.drop k.toNat

/-- A written exponent: its sign, which is never left out, and its digits. -/
def exponentText (e : Int) : List Char :=
  (if 0 ≤ e then '+' else '-') :: Nat.toDigits 10 e.natAbs

/-- Digits in scientific notation. -/
def scientific (digits : List Char) (e : Int) : List Char :=
  let mantissa := match digits with
    | d :: rest@(_ :: _) => d :: '.' :: rest
    | digits => digits
  mantissa ++ 'e' :: exponentText e

/-- The text of a number, given whether it is negative. -/
def Layout.write (l : Layout) (negative : Bool) (x : Binary64) : String :=
  let body :=
    if x.mantissa = 0 then "0.0".toList
    else
      let (m, e) := x.shortest
      let (digits, e) := dropZeros (Nat.toDigits 10 m) e
      let leading : Int := e + digits.length - 1
      if l.leastFixed ≤ leading ∧ leading ≤ l.greatestFixed then positional digits (leading + 1)
      else scientific digits leading
  String.ofList (if negative then '-' :: body else body)

end IssueSteward.Decimal
