import StackCalc.Proofs.Expressions

/-!
# What one operation does to the stack

The exact effect of applying an operator, and of popping, on every stack, written with the
stack listed bottom first (`Stack.ofList`, the top value last). An operator pops its right
operand, then its left one, so a fault leaves the stack as far as the operator had got:

* an empty stack underflows and stays empty;
* a single value is popped before the underflow is seen, and a zero divisor before that;
* a zero divisor under at least one more value loses only the divisor;
* a refused power loses both operands, zero to the power zero checked first;
* otherwise the two operands are replaced by the result.

Popping an empty stack underflows with no operator named and changes nothing; otherwise it
takes off the top value and returns it.

Main statement: `apply_pop_effects`, assembled from one lemma per shape of the stack.
-/

namespace StackCalc.Calc

namespace Stack

theorem items_ofList_concat (w : List Float) (y : Float) :
    (ofList (w ++ [y])).items = y :: (ofList w).items := by
  simp [ofList]

/-- An empty stack underflows, naming the operator, and stays empty. -/
theorem apply_nil (op : Operator) :
    (ofList []).apply op = (ofList [], .error (.underflow (some op))) :=
  rfl

/-- A single value is popped; a zero divisor is reported before the missing left operand. -/
theorem apply_singleton (op : Operator) (y : Float) :
    (ofList [y]).apply op =
      (ofList [],
        .error (if op = .div ∧ y == 0 then .divisionByZero else .underflow (some op))) := by
  by_cases hright : op.refusesRight y = true
  · obtain ⟨rfl, hzero⟩ : op = .div ∧ (y == 0) = true := by
      simpa [Operator.refusesRight] using hright
    simp [apply, ofList, Operator.refusesRight, hzero]
  · have hcond : ¬(op = .div ∧ (y == 0) = true) := by
      rintro ⟨rfl, hzero⟩
      simp [Operator.refusesRight, hzero] at hright
    simp [apply, ofList, hright, hcond]

/-- Two values or more: the right operand is popped and checked first, then the left one is
popped and the operator checks both. -/
theorem apply_ofList_pair (w : List Float) (x y : Float) (op : Operator) :
    (ofList (w ++ [x, y])).apply op =
      if op.refusesRight y then (ofList (w ++ [x]), .error .divisionByZero)
      else match op.refusal? x y with
        | some e => (ofList w, .error e)
        | none => (ofList (w ++ [op.result x y]), .ok ()) := by
  have hitems : (ofList (w ++ [x, y])).items = y :: x :: (ofList w).items := by
    simp [ofList]
  simp only [apply, hitems]
  split
  · simp [ofList]
  · rw [op.eval_eq]
    cases op.refusal? x y with
    | some e => rfl
    | none => simp [ofList]

/-- Two values or more: a zero divisor loses only itself, a refused power loses both
operands (zero to the power zero checked before a negative base), and otherwise the operands
are replaced by the result. -/
theorem apply_concat_pair (w : List Float) (x y : Float) (op : Operator) :
    (ofList (w ++ [x, y])).apply op =
      if op = .div ∧ y == 0 then (ofList (w ++ [x]), .error .divisionByZero)
      else if op = .pow ∧ (x == 0 && y == 0) then
        (ofList w, .error (.invalidPower x y .zeroToZero))
      else if op = .pow ∧ (x < 0 && fractionalPart y != 0) then
        (ofList w, .error (.invalidPower x y .negativeFractional))
      else (ofList (w ++ [op.result x y]), .ok ()) := by
  rw [apply_ofList_pair]
  cases op with
  | add | sub | mul => rfl
  | div =>
    by_cases hzero : (y == 0) = true
    · simp [Operator.refusesRight, hzero]
    · simp [Operator.refusesRight, Operator.refusal?, hzero]
  | pow =>
    -- a power is checked only once both operands are off the stack, zero to the power zero
    -- first
    have hright : Operator.refusesRight .pow y = false := rfl
    simp only [hright, Operator.refusal?, bne, reduceCtorEq, false_and, true_and, if_false,
      Bool.false_eq_true]
    by_cases h0 : (x == 0 && y == 0) = true
    · rw [if_pos h0, if_pos h0]
    · rw [if_neg h0, if_neg h0]
      by_cases hn : (decide (x < 0) && !(fractionalPart y == 0)) = true
      · rw [if_pos hn, if_pos hn]
      · rw [if_neg hn, if_neg hn]

/-- Popping an empty stack underflows with no operator named and changes nothing. -/
theorem pop_nil : (ofList []).pop = (ofList [], .error (.underflow none)) := rfl

/-- Popping takes off the top value and returns it. -/
theorem pop_concat (w : List Float) (y : Float) : (ofList (w ++ [y])).pop = (ofList w, .ok y) := by
  simp [pop, items_ofList_concat]

end Stack

/-- Applying an operator to a stack `v`, the top value last: an empty stack underflows and
stays empty; a single value is lost, with a division by zero reported when it is a zero
divisor and an underflow otherwise; on `w ++ [x, y]` a zero divisor `y` leaves `w ++ [x]`, a
power `0 ^ 0` or a negative `x` to an exponent with a fractional part leaves `w` and reports
both operands, and otherwise `x op y` replaces them. Popping an empty stack underflows with
no operator named and leaves it empty; otherwise it takes off and returns the top value. -/
theorem apply_pop_effects :
    (∀ op, (Stack.ofList []).apply op = (Stack.ofList [], .error (.underflow (some op)))) ∧
    (∀ op y, (Stack.ofList [y]).apply op =
      (Stack.ofList [],
        .error (if op = .div ∧ y == 0 then .divisionByZero else .underflow (some op)))) ∧
    (∀ w x y op, (Stack.ofList (w ++ [x, y])).apply op =
      if op = .div ∧ y == 0 then (Stack.ofList (w ++ [x]), .error .divisionByZero)
      else if op = .pow ∧ (x == 0 && y == 0) then
        (Stack.ofList w, .error (.invalidPower x y .zeroToZero))
      else if op = .pow ∧ (x < 0 && fractionalPart y != 0) then
        (Stack.ofList w, .error (.invalidPower x y .negativeFractional))
      else (Stack.ofList (w ++ [op.result x y]), .ok ())) ∧
    (Stack.ofList []).pop = (Stack.ofList [], .error (.underflow none)) ∧
    (∀ w y, (Stack.ofList (w ++ [y])).pop = (Stack.ofList w, .ok y)) :=
  ⟨Stack.apply_nil, Stack.apply_singleton, Stack.apply_concat_pair, Stack.pop_nil,
    Stack.pop_concat⟩

end StackCalc.Calc
