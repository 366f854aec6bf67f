/-!
# Machine words

Positions, widths and counts are held in machine words of 64 bits, and screen coordinates in
words of 16 bits. A sum that does not fit its word overflows, a difference below zero does
too, and an overflow stops the program with the fault's message. `addWithin` is a sum that
either fits or overflows, `subWithin` a difference; `addWithin_eq_ok` and `subWithin_eq_ok`
say which.
-/

namespace StackCalc

/-- An arithmetic fault that stops the program. -/
inductive Overflow where
  /-- A sum did not fit its word. -/
  | add
  /-- A difference went below zero. -/
  | sub
  deriving Repr, DecidableEq, Inhabited

/-- The message the program stops with. -/
def Overflow.message : Overflow → String
  | .add => "attempt to add with overflow"
  | .sub => "attempt to subtract with overflow"

/-- The numbers a position word holds are those below this bound. -/
def wordBound : Nat := Nat.pow 2 64

/-- The numbers a screen coordinate holds are those below this bound. -/
def coordinateBound : Nat := Nat.pow 2 16

/-- The sum of two numbers in a word that holds the numbers below `bound`. -/
def addWithin (bound a b : Nat) : Except Overflow Nat :=
  if a + b < bound then .ok (a + b) else .error .add

/-- A sum in a word is the plain sum exactly when the plain sum fits. -/
theorem addWithin_eq_ok {bound a b n : Nat} :
    addWithin bound a b = .ok n ↔ a + b < bound ∧ a + b = n := by
  unfold addWithin
  by_cases h : a + b < bound
  · simp only [h, if_true, true_and]
    exact ⟨fun e => by cases e; rfl, fun e => by rw [e]⟩
  · simp only [h, if_false, false_and, iff_false]
    intro e
    cases e

/-- The difference of two numbers in a word: it overflows below zero. -/
def subWithin (a b : Nat) : Except Overflow Nat :=
  if b ≤ a then .ok (a - b) else .error .sub

/-- A difference in a word is the plain difference exactly when it does not go below zero. -/
theorem subWithin_eq_ok {a b n : Nat} :
    subWithin a b = .ok n ↔ b ≤ a ∧ a - b = n := by
  unfold subWithin
  by_cases h : b ≤ a
  · simp only [h, if_true, true_and]
    exact ⟨fun e => by cases e; rfl, fun e => by rw [e]⟩
  · simp only [h, if_false, false_and, iff_false]
    intro e
    cases e

/-- A computation that may overflow, once it has a value, goes on with it. -/
theorem ok_bind {α β : Type} (a : α) (f : α → Except Overflow β) :
    (Except.ok a >>= f) = f a := rfl

/-- A computation that has overflowed stays so. -/
theorem error_bind {α β : Type} (e : Overflow) (f : α → Except Overflow β) :
    (Except.error e >>= f) = Except.error e := rfl

/-- A computation that ends with a value had a value at each step. -/
theorem bind_eq_ok {ε α β : Type} {x : Except ε α} {f : α → Except ε β} {b : β} :
    (x >>= f) = .ok b ↔ ∃ a, x = .ok a ∧ f a = .ok b := by
  cases x with
  | error e =>
    constructor
    · intro h
      cases h
    · rintro ⟨_, h, _⟩
      cases h
  | ok a =>
    constructor
    · intro h
      exact ⟨a, rfl, h⟩
    · rintro ⟨_, ha, h⟩
      cases ha
      exact h

end StackCalc
