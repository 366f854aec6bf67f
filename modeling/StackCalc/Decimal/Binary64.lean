/-!
# Binary64 values as integers times a power of two

A binary64 bit pattern is a NaN, an infinity, or a finite value `± m · 2 ^ q` with a
significand `m < 2 ^ 53`. Decoding reads sign, significand and exponent off the bits, so
that every later computation on the value is exact arithmetic on `Nat` and `Int`.

The rounding interval of a finite value, the reals that read back as it, reaches halfway to
the two neighbouring values. The neighbour below is half as far as the one above exactly
when the significand is a power of two and the exponent field is not the least normal one.
-/

namespace StackCalc.Decimal

/-- What a binary64 bit pattern stands for. -/
inductive Binary64 where
  /-- Not a number. -/
  | nan
  /-- An infinity, negative or positive. -/
  | infinity (negative : Bool)
  /-- The value `± mantissa · 2 ^ exponent`; `narrowBelow` holds when the next value down
  is half as far away as the next value up. -/
  | finite (negative : Bool) (mantissa : Nat) (exponent : Int) (narrowBelow : Bool)
  deriving Repr, DecidableEq, Inhabited

namespace Binary64

/-- Decodes a bit pattern: sign bit, eleven exponent bits, fifty-two fraction bits. -/
def ofBits (bits : UInt64) : Binary64 :=
  let b := bits.toNat
  let negative := b / Nat.pow 2 63 % 2 == 1
  let field : Nat := b / Nat.pow 2 52 % Nat.pow 2 11
  let fraction : Nat := b % Nat.pow 2 52
  if field = 2047 then
    if fraction = 0 then .infinity negative else .nan
  else if field = 0 then
    .finite negative fraction (-1074) false
  else
    .finite negative (fraction + Nat.pow 2 52) ((field : Int) - 1075) (fraction == 0 && field > 1)

/-- Decodes a float through its bit pattern. -/
def ofFloat (x : Float) : Binary64 :=
  ofBits x.toBits

end Binary64

end StackCalc.Decimal
