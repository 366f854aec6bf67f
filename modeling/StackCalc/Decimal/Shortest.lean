import StackCalc.Decimal.Binary64

/-!
# Shortest decimal digits that read back

A finite positive binary64 value `m · 2 ^ q` is written with the fewest significant digits
of a decimal that lies in its rounding interval, so that reading the decimal back gives the
same value. Of the decimals with that many digits in the interval, the one nearest the value
is taken, and of two at equal distance the upper one.

The search is exact arithmetic: for `n = 1, 2, …, 17` digits the grid `10 ^ (e - n + 1)`,
with `e` the exponent of the leading digit, has two points around the value, and the first
grid with one of them inside the interval decides. If any point of a grid lies in the
interval then one of these two does, and seventeen digits always suffice for binary64.
-/

namespace StackCalc.Decimal

/-- A decimal number `significand · 10 ^ exponent`. -/
structure Digits where
  /-- The significant digits as one number. -/
  significand : Nat
  /-- The power of ten of the last digit. -/
  exponent : Int
  deriving Repr, DecidableEq, Inhabited

/-- The number of decimal digits of `n`, one for zero. -/
def digitCount (n : Nat) : Nat :=
  (Nat.toDigits 10 n).length

namespace Digits

/-- The digits as characters, the leading one first. -/
def chars (d : Digits) : List Char :=
  Nat.toDigits 10 d.significand

/-- The power of ten of the leading digit. -/
def leadingExponent (d : Digits) : Int :=
  d.exponent + digitCount d.significand - 1

/-- Removes trailing zeros of the significand and raises the exponent to match. -/
def normalize (d : Digits) : Digits :=
  if h : d.significand ≠ 0 ∧ d.significand % 10 = 0 then
    normalize ⟨d.significand / 10, d.exponent + 1⟩
  else d
termination_by d.significand
decreasing_by exact Nat.div_lt_self (Nat.pos_of_ne_zero h.1) (by decide)

end Digits

/-- Clears the denominators of a comparison of `x · 2 ^ p` with `c · 10 ^ s`: for the pair
`(a, b)` returned, the first is below the second exactly when `x * a < c * b`. -/
def crossScale (p s : Int) : Nat × Nat :=
  (Nat.pow 2 p.toNat * Nat.pow 10 (-s).toNat, Nat.pow 2 (-p).toNat * Nat.pow 10 s.toNat)

/-- The power of ten of the leading digit of `m · 2 ^ q`, for `m > 0`. Below one the value is
first scaled by `10 ^ 400`, which brings every binary64 value above one. -/
def leadingExponent (m : Nat) (q : Int) : Int :=
  if 0 ≤ q then (digitCount (m * Nat.pow 2 q.toNat) : Int) - 1
  else (digitCount (m * Nat.pow 10 400 / Nat.pow 2 (-q).toNat) : Int) - 401

/-- The rounding interval of a finite positive value in units of `2 ^ unit`: the value is
`value`, the ends are `low` and `high`, and `closed` says whether the ends belong to it. -/
structure Interval where
  low : Nat
  value : Nat
  high : Nat
  closed : Bool
  unit : Int
  deriving Repr

namespace Interval

/-- The interval of `m · 2 ^ q` in units of `2 ^ (q - 2)`: the value is `4m`, the ends lie
halfway to the neighbours, and they are included when `m` is even (a tie reads back to the
even significand). -/
def ofFinite (m : Nat) (q : Int) (narrowBelow : Bool) : Interval :=
  ⟨if narrowBelow then 4 * m - 1 else 4 * m - 2, 4 * m, 4 * m + 2, m % 2 == 0, q - 2⟩

/-- Whether `c · 10 ^ s` lies in the interval. -/
def contains (r : Interval) (c : Nat) (s : Int) : Bool :=
  let (a, b) := crossScale r.unit s
  if r.closed then r.low * a ≤ c * b && c * b ≤ r.high * a
  else r.low * a < c * b && c * b < r.high * a

/-- The point of the grid `10 ^ s` nearest the value among the two around it that lie in the
interval, the upper one on a tie; `none` when neither does. -/
def nearestOnGrid (r : Interval) (s : Int) : Option Nat :=
  let (a, b) := crossScale r.unit s
  let v := r.value * a
  let below := v / b
  let above := if below * b = v then below else below + 1
  match r.contains below s, r.contains above s with
  | true, true => some (if above * b - v ≤ v - below * b then above else below)
  | true, false => some below
  | false, true => some above
  | false, false => none

end Interval

/-- The shortest digits of `m · 2 ^ q` (`m > 0`) that read back as it, nearest of those. -/
def shortest (m : Nat) (q : Int) (narrowBelow : Bool) : Digits :=
  let r := Interval.ofFinite m q narrowBelow
  let e := leadingExponent m q
  let found := (List.range 17).findSome? fun (i : Nat) =>
    (r.nearestOnGrid (e - i)).map fun c => Digits.mk c (e - i)
  let (a, b) := crossScale r.unit (e - 16)
  (found.getD ⟨r.value * a / b, e - 16⟩).normalize

end StackCalc.Decimal
