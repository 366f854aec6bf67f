/-!
# Reading a decimal as the nearest binary64 value

The value of a decimal is a ratio of natural numbers; it is read as the binary64 value
nearest that ratio, a tie going to the even significand, and as infinity once it rounds to
`2 ^ 1024` or more. The significand is found by exact division at the one binary exponent
that gives it fifty-three bits (fewer below the least normal exponent), so no rounding
happens twice.
-/

namespace StackCalc.Decimal

/-- The bit pattern of the positive binary64 value nearest `num / den`, for `den > 0`. -/
def nearestBits (num den : Nat) : Nat :=
  if num = 0 then 0
  else
    -- `num / den` lies in `[2 ^ (l - 1), 2 ^ (l + 1))`, so `e` or `e - 1` gives 53 bits
    let l : Int := (Nat.log2 num : Int) - Nat.log2 den
    let scaled (e : Int) := num * Nat.pow 2 (-e).toNat / (den * Nat.pow 2 e.toNat)
    let e0 := l - 52
    let e1 := if scaled e0 < Nat.pow 2 52 then e0 - 1 else e0
    let e := max e1 (-1074)
    let t := roundHalfEvenRatio (num * Nat.pow 2 (-e).toNat) (den * Nat.pow 2 e.toNat)
    let (t, e) := if t = Nat.pow 2 53 then (Nat.pow 2 52, e + 1) else (t, e)
    if 971 < e then 2047 * Nat.pow 2 52
    else if t < Nat.pow 2 52 then t
    else (e + 1075).toNat * Nat.pow 2 52 + (t - Nat.pow 2 52)
where
  /-- `a / b` rounded to nearest, a tie to the even integer. -/
  roundHalfEvenRatio (a b : Nat) : Nat :=
    let q := a / b
    let r := a % b
    if 2 * r < b then q else if b < 2 * r then q + 1 else if q % 2 = 0 then q else q + 1

/-- The binary64 value nearest `(-1) ^ negative · num / den`. -/
def nearestFloat (negative : Bool) (num den : Nat) : Float :=
  Float.ofBits (UInt64.ofNat (nearestBits num den + if negative then Nat.pow 2 63 else 0))

/-- Reads digits with at most one point, `d… [. d…]`, as the nearest binary64 value; `none`
when a character is neither a digit nor the one point, or when the value is infinite. -/
def readLiteral? (cs : List Char) : Option Float :=
  go cs 0 none
where
  /-- `acc` holds the digits read so far; `frac` the number after the point, once seen. -/
  go : List Char → Nat → Option Nat → Option Float
    | [], acc, frac =>
      let x := nearestFloat false acc (Nat.pow 10 (frac.getD 0))
      if x.isInf then none else some x
    | c :: cs, acc, frac =>
      if c.isDigit then go cs (10 * acc + (c.toNat - '0'.toNat)) (frac.map (· + 1))
      else if c = '.' ∧ frac.isNone then go cs acc (some 0)
      else none

end StackCalc.Decimal
