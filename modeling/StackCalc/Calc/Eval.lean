import StackCalc.Calc.Scan
import StackCalc.Calc.Stack

/-!
# Evaluating postfix text

Evaluation applies the items of a text to a stack in order and stops at the first fault:
a lexical fault leaves the stack as the items before it made it, an arithmetic fault as the
failed operation left it. Because the text is read lazily, nothing after the first fault
has any effect.
-/

namespace StackCalc.Calc

namespace Stack

/-- Applies items in order until the first fault. -/
def run (s : Stack) : List Item → Stack × Except CalcError Unit
  | [] => (s, .ok ())
  | .error e :: _ => (s, .error e)
  | .ok t :: rest =>
    match s.step t with
    | (s', .ok ()) => s'.run rest
    | (s', .error e) => (s', .error e)

/-- Evaluates a text on the stack. -/
def evaluate (s : Stack) (text : String) : Stack × Except CalcError Unit :=
  s.run (scan text)

end Stack

end StackCalc.Calc
