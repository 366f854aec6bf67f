import StackCalc.Decimal.Binary64

/-!
# Fixed places

A value written with a fixed number of places is its exact binary value scaled by a power
of ten and rounded to the nearest integer, a tie going to the even neighbour. The sign of a
negative value is kept also when the rounded digits are all zero.
-/

namespace StackCalc.Decimal

/-- `num / den` rounded to the nearest integer, a tie to the even one. -/
def roundHalfEven (num den : Nat) : Nat :=
  let q := num / den
  let r := num % den
  if 2 * r < den then q
  else if den < 2 * r then q + 1
  else if q % 2 = 0 then q else q + 1

/-- How a value is written with fixed places. -/
structure FixedNotation where
  /-- Digits after the point. -/
  places : Nat
  /-- The text of a NaN. -/
  nan : String
  /-- The text of positive infinity; negative infinity has a minus sign in front. -/
  infinity : String
  deriving Repr

/-- The digits of `m · 2 ^ q` with `places` digits after the point. -/
def fixedDigits (m : Nat) (q : Int) (places : Nat) : String :=
  let n := roundHalfEven (m * Nat.pow 10 places * Nat.pow 2 q.toNat) (Nat.pow 2 (-q).toNat)
  let ds := Nat.toDigits 10 n
  let ds := List.replicate (places + 1 - ds.length) '0' ++ ds
  let whole := ds.take (ds.length - places)
  let frac := ds.drop (ds.length - places)
  if places = 0 then String.ofList whole
  else String.ofList whole ++ "." ++ String.ofList frac

namespace FixedNotation

/-- Writes a value. -/
def render (f : FixedNotation) (x : Float) : String :=
  match Binary64.ofFloat x with
  | .nan => f.nan
  | .infinity negative => (if negative then "-" else "") ++ f.infinity
  | .finite negative m q _ => (if negative then "-" else "") ++ fixedDigits m q f.places

end FixedNotation

end StackCalc.Decimal
