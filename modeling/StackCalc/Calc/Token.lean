/-!
# Operators and tokens of postfix text

Postfix text is a sequence of number literals and the five operator symbols `+ - * / ^`.
An operator takes two operands, the left one pushed first.
-/

namespace StackCalc.Calc

/-- The binary operators of the calculator. -/
inductive Operator where
  | add
  | sub
  | mul
  | div
  | pow
  deriving Repr, DecidableEq, Inhabited

namespace Operator

/-- The symbol that stands for the operator in postfix text. -/
def symbol : Operator → Char
  | .add => '+'
  | .sub => '-'
  | .mul => '*'
  | .div => '/'
  | .pow => '^'

/-- The operator a symbol stands for. -/
def ofChar? : Char → Option Operator
  | '+' => some .add
  | '-' => some .sub
  | '*' => some .mul
  | '/' => some .div
  | '^' => some .pow
  | _ => none

theorem ofChar?_symbol (op : Operator) : ofChar? op.symbol = some op := by
  cases op <;> rfl

theorem symbol_of_ofChar? {c : Char} {op : Operator} (h : ofChar? c = some op) :
    op.symbol = c := by
  unfold ofChar? at h
  split at h <;> first | (cases h; rfl) | cases h

end Operator

/-- A token of postfix text: a number, or an operator. -/
inductive Token where
  | number (value : Float)
  | operator (op : Operator)
  deriving Repr, Inhabited

end StackCalc.Calc
