import StackCalc.Calc.Error

/-!
# The value stack

The stack holds binary64 values. A binary operator pops its right operand first, then its
left one, and pushes the result. Operations are not atomic: an operand popped before a
fault is gone, so a division by zero loses the divisor, an underflow loses the one value
there was, and a refused power loses both operands.
-/

namespace StackCalc.Calc

/-- The fractional part `x - trunc x`; NaN for an infinity or a NaN. -/
def fractionalPart (x : Float) : Float :=
  x - (if x < 0 then x.ceil else x.floor)

namespace Operator

/-- The value of `lhs op rhs`, or the fault that refuses it. A zero divisor is refused,
`0 ^ 0` is refused, and so is a negative base with an exponent that is not whole. -/
def eval (op : Operator) (lhs rhs : Float) : Except CalcError Float :=
  match op with
  | .add => .ok (lhs + rhs)
  | .sub => .ok (lhs - rhs)
  | .mul => .ok (lhs * rhs)
  | .div => if rhs == 0 then .error .divisionByZero else .ok (lhs / rhs)
  | .pow =>
    if lhs == 0 && rhs == 0 then .error (.invalidPower lhs rhs .zeroToZero)
    else if lhs < 0 && !(fractionalPart rhs == 0) then
      .error (.invalidPower lhs rhs .negativeFractional)
    else .ok (lhs.pow rhs)

/-- Whether the operator refuses a right operand before it looks at the left one: a
division by zero. -/
def refusesRight (op : Operator) (rhs : Float) : Bool :=
  op == .div && rhs == 0

end Operator

/-- A stack of values. -/
structure Stack where
  /-- The values, the top one first. -/
  items : List Float
  deriving Repr, Inhabited

namespace Stack

/-- The empty stack. -/
def empty : Stack := ⟨[]⟩

/-- The stack holding the values of a list, the last one on top. -/
def ofList (values : List Float) : Stack := ⟨values.reverse⟩

/-- The values, the bottom one first. -/
def toList (s : Stack) : List Float := s.items.reverse

/-- The number of values. -/
def size (s : Stack) : Nat := s.items.length

/-- Whether the stack holds no value. -/
def isEmpty (s : Stack) : Bool := s.items.isEmpty

/-- Puts a value on top. -/
def push (s : Stack) (v : Float) : Stack := ⟨v :: s.items⟩

/-- The top value, if any. -/
def peek? (s : Stack) : Option Float := s.items.head?

/-- Takes the top value off; an empty stack underflows with no operator named. -/
def pop (s : Stack) : Stack × Except CalcError Float :=
  match s.items with
  | [] => (s, .error (.underflow none))
  | v :: rest => (⟨rest⟩, .ok v)

/-- Applies a binary operator to the two top values. -/
def apply (s : Stack) (op : Operator) : Stack × Except CalcError Unit :=
  match s.items with
  | [] => (s, .error (.underflow (some op)))
  | rhs :: rest =>
    if op.refusesRight rhs then (⟨rest⟩, .error .divisionByZero)
    else
      match rest with
      | [] => (⟨[]⟩, .error (.underflow (some op)))
      | lhs :: below =>
        match op.eval lhs rhs with
        | .ok v => (⟨v :: below⟩, .ok ())
        | .error e => (⟨below⟩, .error e)

/-- Applies one token: a number is pushed, an operator applied. -/
def step (s : Stack) : Token → Stack × Except CalcError Unit
  | .number v => (s.push v, .ok ())
  | .operator op => s.apply op

@[simp] theorem toList_ofList (values : List Float) : (ofList values).toList = values := by
  simp [ofList, toList]

@[simp] theorem toList_push (s : Stack) (v : Float) : (s.push v).toList = s.toList ++ [v] := by
  simp [push, toList]

end Stack

end StackCalc.Calc
