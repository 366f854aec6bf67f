import StackCalc.Proofs.Lexing
import StackCalc.Calc.Eval

/-!
# Evaluating joined texts

The reader keeps one thing from one item to the next: a literal it is still reading. Where two
texts meet so that no literal can run across the seam (`SeparateAt`: the second text does not
start with a digit or a point, or the first does not end with one), the items of the joined
text are those of the first text, then those of the second, the byte offsets of the second's
unexpected characters moved on by the first's size in bytes. Evaluation then runs the first
text and, only if that succeeds, the second on the stack it left.

Main statement (`evaluate_append`). The reading half joins two derivations of the grammar
`Lexes` (`Lexes.append`, by induction on the first, the second taken in at its end) and moves
a derivation to a later start (`Lexes.shift`). The seam matters in one rule only: a literal
that ends the first text stays the longest one (`LongestLiteral.append`). The evaluation half
is `run` over a joined list of items (`Stack.run_append`, `Stack.run_shift`).
-/

namespace StackCalc.Calc

open Text.Utf8 (byteSize byteSize_toList)

/-! ## The seam -/

/-- Whether a character can go on a literal: a digit or a point. -/
def continuesLiteral (c : Char) : Bool := c.isDigit || c == '.'

/-- No literal runs across the seam between `a` and `b`: `b` is empty or starts with a
character that cannot go on a literal, or `a` is empty or ends with one. -/
def SeparateAt (a b : List Char) : Prop :=
  (b.head?.all fun c => !continuesLiteral c) ∨ (a.getLast?.all fun c => !continuesLiteral c)

instance (a b : List Char) : Decidable (SeparateAt a b) :=
  inferInstanceAs (Decidable (_ ∨ _))

/-- A seam stays one when characters are taken off the front of the first text. -/
theorem SeparateAt.of_append {x y b : List Char} (h : SeparateAt (x ++ y) b) : SeparateAt y b := by
  unfold SeparateAt at h ⊢
  rw [List.getLast?_append] at h
  -- the last character of the joined text is that of `y`, unless `y` is empty
  cases hy : y.getLast? with
  | none => exact .inr rfl
  | some c => rwa [hy, Option.some_or] at h

theorem SeparateAt.of_cons {c : Char} {cs b : List Char} (h : SeparateAt (c :: cs) b) :
    SeparateAt cs b :=
  @SeparateAt.of_append [c] cs b h

/-- Every character of a literal can go on a literal. -/
theorem IsLiteral.all_continuesLiteral {lit : List Char} (h : IsLiteral lit) :
    ∀ c ∈ lit, continuesLiteral c := by
  obtain ⟨-, hall, -⟩ := h.shape
  intro c hc
  rcases hall c hc with hd | rfl
  · simp [continuesLiteral, hd]
  · rfl

/-- A literal that is the longest one before a character cannot take that character. -/
theorem LongestLiteral.blocked {lit r : List Char} {c : Char} (h : LongestLiteral lit (c :: r)) :
    c.isDigit = false ∧ (c = '.' → lit.count '.' = 1) := by
  have hnot : ¬IsLiteral (lit ++ [c]) := by
    have := h.2 (lit.length + 1) (Nat.lt_succ_self _) (by simp)
    rwa [List.take_length_add_append, List.take_succ_cons, List.take_zero] at this
  refine ⟨?_, ?_⟩
  · cases hd : c.isDigit
    · rfl
    · exact absurd (h.1.append_digit hd) hnot
  · rintro rfl
    -- a literal holds at most one point, and one with none would take this one
    obtain ⟨-, -, hcount⟩ := h.1.shape
    cases hz : lit.count '.' with
    | zero => exact absurd (h.1.append_point hz) hnot
    | succ n => omega

/-- A longest literal stays the longest one when more text follows, provided the seam keeps
the text after it from going on it. -/
theorem LongestLiteral.append {lit rest b : List Char} (h : LongestLiteral lit rest)
    (hseam : SeparateAt (lit ++ rest) b) : LongestLiteral lit (rest ++ b) := by
  cases rest with
  | cons c r =>
    -- a character already stops the literal before the seam
    obtain ⟨hd, hpoint⟩ := h.blocked
    exact longestLiteral_of_blocked h.1 hd hpoint
  | nil =>
    -- the literal ends the first text, so the second must not start with a digit or point
    obtain ⟨⟨d, ds, hcons, -⟩, -, -⟩ := h.1.shape
    have hlast : (lit.getLast?.all fun c => !continuesLiteral c) = false := by
      have hne : lit ≠ [] := by simp [hcons]
      rw [List.getLast?_eq_some_getLast hne]
      simp [h.1.all_continuesLiteral _ (List.getLast_mem hne)]
    rw [List.append_nil] at hseam
    rcases hseam with hb | hb
    · cases b with
      | nil => exact h
      | cons c r =>
        have hc : c.isDigit = false ∧ c ≠ '.' := by
          simpa [continuesLiteral] using hb
        exact longestLiteral_of_blocked h.1 hc.1 (fun he => absurd he hc.2)
    · rw [hlast] at hb
      cases hb

/-! ## Reading joined texts -/

/-- A fault as it stands in a text with `k` more bytes in front: an unexpected character is
`k` bytes further on, and the other faults carry no offset. -/
def CalcError.shift (k : Nat) : CalcError → CalcError
  | .unexpectedChar ch position => .unexpectedChar ch (position + k)
  | e => e

/-- The items of a text with `k` more bytes in front. -/
def shiftItems (k : Nat) (items : List Item) : List Item :=
  items.map (Except.mapError (CalcError.shift k))

/-- The rules give a text the same items at a later start, with the offsets of its unexpected
characters moved on. -/
theorem Lexes.shift {cs : List Char} {pos : Nat} {items : List Item} (h : Lexes cs pos items)
    (k : Nat) : Lexes cs (pos + k) (shiftItems k items) := by
  induction h with
  | nil pos => exact .nil _
  | skip hs _ ih =>
    rw [Nat.add_right_comm] at ih
    exact .skip hs ih
  | number hlong hv _ ih =>
    rw [Nat.add_right_comm] at ih
    exact .number hlong hv ih
  | invalidNumber hlong hv _ ih =>
    rw [Nat.add_right_comm] at ih
    exact .invalidNumber hlong hv ih
  | operator ho _ ih =>
    rw [Nat.add_right_comm] at ih
    exact .operator ho ih
  | unexpected hs hd ho _ ih =>
    rw [Nat.add_right_comm] at ih
    exact .unexpected hs hd ho ih

/-- Two texts that meet at a seam: the rules give the joined text the items of the first,
then those of the second read from where the first ends. -/
theorem Lexes.append {a : List Char} {pos : Nat} {ia : List Item} (h : Lexes a pos ia)
    {b : List Char} {ib : List Item} (hseam : SeparateAt a b)
    (hb : Lexes b (pos + byteSize a) ib) : Lexes (a ++ b) pos (ia ++ ib) := by
  -- the offset where `b` starts is written in terms of what the rule has left of `a`
  induction h with
  | nil pos => simpa using hb
  | skip hs _ ih =>
    rw [Text.Utf8.byteSize_cons, ← Nat.add_assoc] at hb
    exact .skip hs (ih (hseam.of_cons) hb)
  | number hlong hv _ ih =>
    rw [Text.Utf8.byteSize_append, ← Nat.add_assoc] at hb
    rw [List.append_assoc]
    exact .number (hlong.append hseam) hv (ih (SeparateAt.of_append hseam) hb)
  | invalidNumber hlong hv _ ih =>
    rw [Text.Utf8.byteSize_append, ← Nat.add_assoc] at hb
    rw [List.append_assoc]
    exact .invalidNumber (hlong.append hseam) hv (ih (SeparateAt.of_append hseam) hb)
  | operator ho _ ih =>
    rw [Text.Utf8.byteSize_cons, ← Nat.add_assoc] at hb
    exact .operator ho (ih (hseam.of_cons) hb)
  | unexpected hs hd ho _ ih =>
    rw [Text.Utf8.byteSize_cons, ← Nat.add_assoc] at hb
    exact .unexpected hs hd ho (ih (hseam.of_cons) hb)

/-- The items of two texts joined at a seam are the items of the first, then those of the
second with its unexpected characters moved on by the first's size in bytes. -/
theorem scan_append {a b : String} (hseam : SeparateAt a.toList b.toList) :
    scan (a ++ b) = scan a ++ shiftItems a.utf8ByteSize (scan b) := by
  have hb : Lexes b.toList (0 + byteSize a.toList) (shiftItems a.utf8ByteSize (scan b)) := by
    have h := (lexes_scanFrom b.toList 0).shift a.utf8ByteSize
    rw [Nat.zero_add] at h
    rwa [Nat.zero_add, byteSize_toList]
  rw [scan, String.toList_append]
  exact scanFrom_of_lexes ((lexes_scanFrom a.toList 0).append hseam hb)

/-! ## Evaluating joined texts -/

/-- A fault with no offset stays put when text comes in front. -/
theorem CalcError.shift_of_isLexical {e : CalcError} (h : e.isLexical = false) (k : Nat) :
    e.shift k = e := by
  cases e with
  | unexpectedChar ch position => cases h
  | _ => rfl

/-- The faults of an operator are arithmetic ones. -/
theorem Operator.isLexical_of_eval {op : Operator} {lhs rhs : Float} {e : CalcError}
    (h : op.eval lhs rhs = .error e) : e.isLexical = false := by
  cases op with
  | add | sub | mul => cases h
  | div =>
    simp only [Operator.eval] at h
    split at h <;> cases h
    rfl
  | pow =>
    simp only [Operator.eval] at h
    split at h
    · cases h
      rfl
    · split at h <;> cases h
      rfl

/-- The faults of applying a token to a stack are arithmetic ones. -/
theorem Stack.isLexical_of_step {s s' : Stack} {t : Token} {e : CalcError}
    (h : s.step t = (s', .error e)) : e.isLexical = false := by
  cases t with
  | number v => cases h
  | operator op =>
    simp only [step, apply] at h
    -- `apply` fails by an underflow, a zero divisor, or its operator's refusal
    split at h
    · cases h
      rfl
    · split at h
      · cases h
        rfl
      · split at h
        · cases h
          rfl
        · split at h
          · cases h
          · next he =>
            cases h
            exact Operator.isLexical_of_eval he

/-- Running joined lists of items runs the first and, if it succeeds, the second. -/
theorem Stack.run_append (s : Stack) (xs ys : List Item) :
    s.run (xs ++ ys) = match s.run xs with
      | (s', .ok ()) => s'.run ys
      | (s', .error e) => (s', .error e) := by
  induction xs generalizing s with
  | nil => rfl
  | cons item xs ih =>
    cases item with
    | error e => rfl
    | ok t =>
      simp only [List.cons_append, run]
      -- after a step that succeeds both sides go on with the rest of the first list
      cases s.step t with
      | mk s₁ r₁ =>
        cases r₁ with
        | ok u => exact ih s₁
        | error e => rfl

/-- Items with their unexpected characters moved on run as the items do, the fault moved on. -/
theorem Stack.run_shift (s : Stack) (k : Nat) (items : List Item) :
    s.run (shiftItems k items) = ((s.run items).1, (s.run items).2.mapError (CalcError.shift k)) := by
  induction items generalizing s with
  | nil => rfl
  | cons item items ih =>
    cases item with
    | error e => rfl
    | ok t =>
      -- an item that is no fault is not moved
      change s.run (.ok t :: shiftItems k items) = _
      simp only [run]
      cases hs : s.step t with
      | mk s₁ r₁ =>
        cases r₁ with
        | ok u => exact ih s₁
        | error e =>
          -- a step's fault is arithmetic, so it has no offset to move
          have hshift := CalcError.shift_of_isLexical (Stack.isLexical_of_step hs) k
          simp only
          exact congrArg _ (congrArg Except.error hshift.symm)

/-- Two texts joined at a seam across which no literal runs: the joined text reads as the
first text's items, then the second's with the byte offsets of its unexpected characters
moved on by the first's size in bytes. Evaluating it on any stack evaluates the first text
and, only if that succeeds, the second on the stack it left; the outcome is the first's
fault, or the second's outcome with an unexpected character's offset moved on. -/
theorem evaluate_append {a b : String} (hseam : SeparateAt a.toList b.toList) :
    scan (a ++ b) = scan a ++ shiftItems a.utf8ByteSize (scan b) ∧
      ∀ s : Stack, s.evaluate (a ++ b) = match s.evaluate a with
        | (s', .ok ()) =>
          ((s'.evaluate b).1, (s'.evaluate b).2.mapError (CalcError.shift a.utf8ByteSize))
        | (s', .error e) => (s', .error e) := by
  refine ⟨scan_append hseam, fun s => ?_⟩
  simp only [Stack.evaluate]
  rw [scan_append hseam, Stack.run_append]
  cases s.run (scan a) with
  | mk s' r =>
    cases r with
    | ok u => exact Stack.run_shift s' _ _
    | error e => rfl

/-- The lines `1 2` and `+` of a session, joined: `+` cannot go on the literal `2`. -/
theorem evaluate_append_session :
    SeparateAt "1 2".toList "+".toList ∧
      (scan ("1 2" ++ "+") = scan "1 2" ++ shiftItems ("1 2").utf8ByteSize (scan "+") ∧
        ∀ s : Stack, s.evaluate ("1 2" ++ "+") = match s.evaluate "1 2" with
          | (s', .ok ()) =>
            ((s'.evaluate "+").1, (s'.evaluate "+").2.mapError (CalcError.shift ("1 2").utf8ByteSize))
          | (s', .error e) => (s', .error e)) :=
  ⟨by decide, evaluate_append (by decide)⟩

end StackCalc.Calc
