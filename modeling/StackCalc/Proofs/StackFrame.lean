import StackCalc.Calc.Eval
import StackCalc.Proofs.Lexing

/-!
# Evaluation touches only the top of the stack

Values lying below the part of the stack that an evaluation works on are never read: run on
a stack with more values underneath, the evaluation ends with the same values underneath and
the same outcome, unless it underflowed, the one fault that reads how many values there are.
Faults that pop before they stop are covered too: a division by zero loses its divisor and a
refused power both operands, above the values underneath in either run.

Main statement (`evaluate_frame`). It rests on the step lemma `Stack.step_onTopOf`, one case
for each way an operator ends, and the run lemma `Stack.run_onTopOf`, by induction on the items.
-/

namespace StackCalc.Calc

namespace Stack

/-- The values of `s` on top of those of `p`. -/
def onTopOf (s p : Stack) : Stack := ⟨s.items ++ p.items⟩

@[simp] theorem toList_onTopOf (s p : Stack) : (s.onTopOf p).toList = p.toList ++ s.toList := by
  simp [onTopOf, toList]

variable {s s' : Stack} {r : Except CalcError Unit}

/-- An operator that does not underflow ends the same way on a stack with more values below. -/
theorem apply_onTopOf {op : Operator} (h : s.apply op = (s', r))
    (hr : ∀ o, r ≠ .error (.underflow o)) (p : Stack) :
    (s.onTopOf p).apply op = (s'.onTopOf p, r) := by
  obtain ⟨items⟩ := s
  -- `apply` pops the right operand, may refuse it, then pops the left one
  rcases items with _ | ⟨rhs, rest⟩
  · simp only [apply, Prod.mk.injEq] at h
    exact absurd h.2.symm (hr _)
  · by_cases hright : op.refusesRight rhs = true
    · simp only [apply, hright, if_true, Prod.mk.injEq] at h
      obtain ⟨rfl, rfl⟩ := h
      simp [apply, onTopOf, hright]
    · rcases rest with _ | ⟨lhs, below⟩
      · simp only [apply, hright, Bool.false_eq_true, if_false, Prod.mk.injEq] at h
        exact absurd h.2.symm (hr _)
      · simp only [apply, hright, Bool.false_eq_true, if_false] at h
        cases he : op.eval lhs rhs with
        | ok v =>
          rw [he] at h
          cases h
          simp [apply, onTopOf, hright, he]
        | error e =>
          rw [he] at h
          cases h
          simp [apply, onTopOf, hright, he]

theorem step_onTopOf {t : Token} (h : s.step t = (s', r)) (hr : ∀ o, r ≠ .error (.underflow o))
    (p : Stack) : (s.onTopOf p).step t = (s'.onTopOf p, r) := by
  cases t with
  | number v =>
    simp only [step, Prod.mk.injEq] at h
    obtain ⟨rfl, rfl⟩ := h
    rfl
  | operator op => exact apply_onTopOf h hr p

/-- A run of items that does not underflow ends the same way on a stack with more values
below, and leaves them in place. -/
theorem run_onTopOf {items : List Item} (h : s.run items = (s', r))
    (hr : ∀ o, r ≠ .error (.underflow o)) (p : Stack) :
    (s.onTopOf p).run items = (s'.onTopOf p, r) := by
  induction items generalizing s with
  | nil =>
    simp only [run, Prod.mk.injEq] at h
    obtain ⟨rfl, rfl⟩ := h
    rfl
  | cons item rest ih =>
    cases item with
    | error e =>
      simp only [run, Prod.mk.injEq] at h
      obtain ⟨rfl, rfl⟩ := h
      rfl
    | ok t =>
      -- the step either goes on, and the rest of the run carries the frame, or stops the run
      cases hs : s.step t with
      | mk s₁ r₁ =>
        cases r₁ with
        | ok u =>
          have hstep := step_onTopOf hs (fun o he => by cases he) p
          simp only [run, hs] at h
          simp only [run, hstep]
          exact ih h
        | error e =>
          simp only [run, hs, Prod.mk.injEq] at h
          obtain ⟨rfl, rfl⟩ := h
          simp only [run, step_onTopOf hs hr p]

end Stack

/-- An evaluation that does not underflow reads nothing below the values it works on: on a
stack with more values underneath it returns the same outcome and leaves the same stack on
top of those values, also when it stops at a lexical or arithmetic fault. -/
theorem evaluate_frame {p s s' : Stack} {e : String} {r : Except CalcError Unit}
    (h : s.evaluate e = (s', r)) (hr : ∀ o, r ≠ .error (.underflow o)) :
    (s.onTopOf p).evaluate e = (s'.onTopOf p, r) :=
  Stack.run_onTopOf h hr p

/-- A text of one operator's symbol reads as that operator alone. -/
theorem scan_of_symbol {e : String} {op : Operator} (he : e.toList = [op.symbol]) :
    scan e = [.ok (.operator op)] := by
  rw [scan, he, scanFrom_operator [] 0 (Operator.ofChar?_symbol op), scanFrom_eq]
  rfl

/-- Two runs over a value underneath that they never read. A sum of the two top values goes
through. A division whose divisor is zero is refused after the divisor is taken off, and
leaves the dividend. Whether the divisor is zero is an IEEE comparison, which the kernel does
not evaluate, so the division is stated for either outcome of it; IEEE gives the first. -/
theorem evaluate_frame_sum_division :
    (Stack.ofList [1, 2]).evaluate "+" = (Stack.ofList [1 + 2], .ok ()) ∧
      ((Stack.ofList [1, 2]).onTopOf (Stack.ofList [7])).evaluate "+" =
        ((Stack.ofList [1 + 2]).onTopOf (Stack.ofList [7]), .ok ()) ∧
      (Stack.ofList [1, 0]).evaluate "/" =
        (if (0 : Float) == 0 then (Stack.ofList [1], .error .divisionByZero)
          else (Stack.ofList [1 / 0], .ok ())) ∧
      ((Stack.ofList [1, 0]).onTopOf (Stack.ofList [7])).evaluate "/" =
        (if (0 : Float) == 0 then
          ((Stack.ofList [1]).onTopOf (Stack.ofList [7]), .error .divisionByZero)
          else ((Stack.ofList [1 / 0]).onTopOf (Stack.ofList [7]), .ok ())) := by
  have hplus : scan "+" = [.ok (.operator .add)] := scan_of_symbol rfl
  have hslash : scan "/" = [.ok (.operator .div)] := scan_of_symbol rfl
  have hsum : (Stack.ofList [1, 2]).evaluate "+" = (Stack.ofList [1 + 2], .ok ()) := by
    rw [Stack.evaluate, hplus]
    rfl
  refine ⟨hsum, evaluate_frame hsum (fun o he => by cases he), ?_⟩
  cases hzero : ((0 : Float) == 0) with
  | true =>
    -- the divisor is refused: the fault, with the dividend left
    have hdiv : (Stack.ofList [1, 0]).evaluate "/" = (Stack.ofList [1], .error .divisionByZero) := by
      rw [Stack.evaluate, hslash]
      simp [Stack.run, Stack.step, Stack.apply, Operator.refusesRight, hzero, Stack.ofList]
    rw [if_pos rfl, if_pos rfl]
    exact ⟨hdiv, evaluate_frame hdiv (fun o he => by cases he)⟩
  | false =>
    have hdiv : (Stack.ofList [1, 0]).evaluate "/" = (Stack.ofList [1 / 0], .ok ()) := by
      rw [Stack.evaluate, hslash]
      simp [Stack.run, Stack.step, Stack.apply, Operator.refusesRight, Operator.eval, hzero,
        Stack.ofList]
    rw [if_neg Bool.false_ne_true, if_neg Bool.false_ne_true]
    exact ⟨hdiv, evaluate_frame hdiv (fun o he => by cases he)⟩

end StackCalc.Calc
