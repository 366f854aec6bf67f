import StackCalc.Decimal.Shortest

/-!
# Writing a value with its shortest digits

A notation decides where the shortest digits of a value go: positionally, with the point
moved and zeros added, for a range of leading exponents, and otherwise as one leading digit,
the rest after a point, then an exponent mark, a sign and at least a given number of exponent
digits. NaN, the infinities and the two zeros have texts of their own.
-/

namespace StackCalc.Decimal

/-- How a value is written from its shortest digits. -/
structure Notation where
  /-- Leading exponents `e` with `positionalFrom ≤ e` and `e < positionalBelow` are written
  positionally. -/
  positionalFrom : Int
  positionalBelow : Int
  /-- Separates mantissa and exponent. -/
  exponentMark : String
  /-- Stands before an exponent that is not negative. -/
  exponentPlus : String
  /-- The exponent is padded with zeros to this many digits. -/
  exponentDigits : Nat
  nan : String
  infinity : String
  negativeInfinity : String
  zero : String
  negativeZero : String
  deriving Repr

namespace Notation

/-- Digits `d₁ d₂ …` with leading exponent `e`, the point placed after the digit of `10 ^ 0`. -/
def positional (ds : List Char) (e : Int) : String :=
  if e < 0 then
    "0." ++ String.ofList (List.replicate ((-e).toNat - 1) '0' ++ ds)
  else
    let whole := e.toNat + 1
    let ds := ds ++ List.replicate (whole - ds.length) '0'
    let frac := ds.drop whole
    if frac.isEmpty then String.ofList (ds.take whole)
    else String.ofList (ds.take whole) ++ "." ++ String.ofList frac

/-- Digits `d₁ d₂ …` as `d₁.d₂…` followed by the exponent `e`. -/
def scientific (n : Notation) (ds : List Char) (e : Int) : String :=
  let mantissa := match ds with
    | [] => "0"
    | [d] => String.singleton d
    | d :: rest => String.singleton d ++ "." ++ String.ofList rest
  let ex := Nat.toDigits 10 e.natAbs
  let ex := List.replicate (n.exponentDigits - ex.length) '0' ++ ex
  mantissa ++ n.exponentMark ++ (if e < 0 then "-" else n.exponentPlus) ++ String.ofList ex

/-- Writes a positive finite value `m · 2 ^ q`, `m > 0`. -/
def magnitude (n : Notation) (m : Nat) (q : Int) (narrowBelow : Bool) : String :=
  let d := shortest m q narrowBelow
  let e := d.leadingExponent
  if n.positionalFrom ≤ e ∧ e < n.positionalBelow then positional d.chars e
  else n.scientific d.chars e

/-- Writes a value. -/
def render (n : Notation) (x : Float) : String :=
  match Binary64.ofFloat x with
  | .nan => n.nan
  | .infinity negative => if negative then n.negativeInfinity else n.infinity
  | .finite negative m q narrowBelow =>
    if m = 0 then (if negative then n.negativeZero else n.zero)
    else (if negative then "-" else "") ++ n.magnitude m q narrowBelow

end Notation

end StackCalc.Decimal
