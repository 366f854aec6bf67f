import StackCalc.Calc.Token

/-!
# Faults of evaluation

Each fault is local: evaluation stops at the first one, and the stack keeps what it had
reached. The two lexical faults arise while reading the text, before any stack access.
-/

namespace StackCalc.Calc

/-- Why an exponentiation is refused. -/
inductive PowerFault where
  /-- Both base and exponent are zero. -/
  | zeroToZero
  /-- A negative base with an exponent that is not a whole number. -/
  | negativeFractional
  deriving Repr, DecidableEq, Inhabited

/-- The faults of reading and evaluating postfix text. -/
inductive CalcError where
  /-- A character outside the grammar, at a byte offset of the text. -/
  | unexpectedChar (ch : Char) (position : Nat)
  /-- A literal whose value is too large for a finite binary64 value. -/
  | invalidNumber (literal : String)
  /-- Too few values on the stack; the operator, or none for a bare pop. -/
  | underflow (op : Option Operator)
  /-- A division whose divisor is zero. -/
  | divisionByZero
  /-- A refused exponentiation, with its two operands. -/
  | invalidPower (base exponent : Float) (fault : PowerFault)
  deriving Repr, Inhabited

namespace PowerFault

/-- The text of the fault. -/
def message : PowerFault → String
  | .zeroToZero => "cannot raise 0 to the power of 0"
  | .negativeFractional => "cannot raise a negative number to a fractional exponent"

end PowerFault

namespace CalcError

/-- The text of the fault. -/
def message : CalcError → String
  | .unexpectedChar ch position =>
    "unexpected character: " ++ String.singleton ch ++ " (at position " ++ toString position ++ ")"
  | .invalidNumber literal => "invalid number: " ++ literal
  | .underflow (some _) => "not enough elements in the stack"
  | .underflow none => "stack is empty"
  | .divisionByZero => "cannot divide by 0"
  | .invalidPower _ _ fault => fault.message

/-- Whether the fault arose while reading the text. -/
def isLexical : CalcError → Bool
  | .unexpectedChar .. => true
  | .invalidNumber _ => true
  | _ => false

end CalcError

end StackCalc.Calc
