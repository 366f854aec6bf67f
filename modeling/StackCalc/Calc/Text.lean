import StackCalc.Calc.Stack
import StackCalc.Decimal.Notation

/-!
# How the calculator writes values

A value is written with its shortest digits that read back: positionally while its leading
digit stands for `10 ^ -4` up to `10 ^ 5`, otherwise as a mantissa, `e`, a sign and at least
two exponent digits (`1.5e-05`, `1e+21`). A stack is written bottom first between brackets.
-/

namespace StackCalc.Calc

/-- The calculator's notation: positional for leading exponents `-4 … 5`, else `d.ddde±dd`;
`NaN`, `+Inf`, `-Inf`, and `0` or `-0` for the zeros. -/
def valueNotation : Decimal.Notation where
  positionalFrom := -4
  positionalBelow := 6
  exponentMark := "e"
  exponentPlus := "+"
  exponentDigits := 2
  nan := "NaN"
  infinity := "+Inf"
  negativeInfinity := "-Inf"
  zero := "0"
  negativeZero := "-0"

/-- The text of a value. -/
def formatValue (x : Float) : String :=
  valueNotation.render x

/-- The text of a stack: its values bottom first, separated by spaces, between brackets. -/
def Stack.render (s : Stack) : String :=
  "[" ++ " ".intercalate (s.toList.map formatValue) ++ "]"

end StackCalc.Calc
