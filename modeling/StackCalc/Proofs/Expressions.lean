import StackCalc.Calc.Eval
import StackCalc.Proofs.Lexing

/-!
# Postfix text computes expression trees

An expression tree has number literals at its leaves and binary operators at its inner
nodes. Its postfix text lists the leaves and the operator symbols in post-order, joined by
single spaces. The value of a node is its operator applied to the values of its children,
the left child giving the left operand; a node whose operator refuses those values (a zero
divisor, zero to the power zero, a negative base with an exponent that is not whole) is a
refusal.

Main statement (`evaluate_expr_text`): evaluating the postfix text of a tree on any stack
pushes the tree's value when no node is a refusal; otherwise it fails with the refusal of
the first refusing node in post-order, and the values below the tree's are still in place.

The proof has two halves. Reading the postfix text gives the tokens of the words in order
(`scan_text`): a literal followed by a space is the longest literal there. Applying the
tokens of a tree computes it (`run_postOrder`), by induction on the tree with the stack and
the items after the tree's own generalised; each node applies its operator to the two
values its children left on top (`apply_push_push`).
-/

namespace StackCalc.Calc

open Text.Utf8 (byteSize)

/-- A number literal of postfix text: text of the literal grammar whose value is finite. -/
structure Literal where
  chars : List Char
  isLiteral : IsLiteral chars
  value : Float
  reads : Decimal.readLiteral? chars = some value

/-- Expression trees over number literals and the binary operators. -/
inductive Expr where
  | literal (lit : Literal)
  | node (op : Operator) (lhs rhs : Expr)

namespace Operator

/-- The operation on two values, the left operand first. -/
def result : Operator → Float → Float → Float
  | .add, lhs, rhs => lhs + rhs
  | .sub, lhs, rhs => lhs - rhs
  | .mul, lhs, rhs => lhs * rhs
  | .div, lhs, rhs => lhs / rhs
  | .pow, lhs, rhs => lhs.pow rhs

/-- The fault with which the operator refuses two values: a division by zero, zero to the
power zero, or a negative base with an exponent that is not whole. -/
def refusal? : Operator → Float → Float → Option CalcError
  | .div, _, rhs => if rhs == 0 then some .divisionByZero else none
  | .pow, lhs, rhs =>
    if lhs == 0 && rhs == 0 then some (.invalidPower lhs rhs .zeroToZero)
    else if lhs < 0 && !(fractionalPart rhs == 0) then
      some (.invalidPower lhs rhs .negativeFractional)
    else none
  | _, _, _ => none

/-- Evaluating an operator is its refusal if it refuses, and its result otherwise. -/
theorem eval_eq (op : Operator) (lhs rhs : Float) :
    op.eval lhs rhs = match op.refusal? lhs rhs with
      | some e => .error e
      | none => .ok (op.result lhs rhs) := by
  cases op with
  | add => rfl
  | sub => rfl
  | mul => rfl
  | div => by_cases h : (rhs == 0) = true <;> simp [eval, refusal?, result, h]
  | pow =>
    dsimp only [eval, refusal?]
    by_cases h0 : (lhs == 0 && rhs == 0) = true
    · rw [if_pos h0, if_pos h0]
    · rw [if_neg h0, if_neg h0]
      by_cases hn : (decide (lhs < 0) && !(fractionalPart rhs == 0)) = true
      · rw [if_pos hn, if_pos hn]
      · rw [if_neg hn, if_neg hn]
        rfl

end Operator

namespace Expr

/-- The value of a tree: each node is its operator's result on its children's values. -/
def value : Expr → Float
  | .literal lit => lit.value
  | .node op lhs rhs => op.result lhs.value rhs.value

/-- The refusal of the first node, in post-order, whose operator refuses its children's
values. -/
def firstRefusal? : Expr → Option CalcError
  | .literal _ => none
  | .node op lhs rhs =>
    lhs.firstRefusal?.or (rhs.firstRefusal?.or (op.refusal? lhs.value rhs.value))

/-- The words of the postfix text in post-order, each with the token it stands for. -/
def words : Expr → List (List Char × Token)
  | .literal lit => [(lit.chars, .number lit.value)]
  | .node op lhs rhs => lhs.words ++ rhs.words ++ [([op.symbol], .operator op)]

/-- The postfix text of a tree: the leaves and operator symbols in post-order, joined by
single spaces. -/
def text (t : Expr) : String :=
  String.ofList ([' '].intercalate (t.words.map Prod.fst))

/-- The items the text of a tree stands for. -/
def items (t : Expr) : List Item :=
  t.words.map fun w => .ok w.2

end Expr

/-! ## Reading the postfix text -/

/-- A word of postfix text stands for a token: a literal for its value, an operator symbol
for its operator. -/
def StandsFor (w : List Char) (tok : Token) : Prop :=
  (∃ lit : Literal, w = lit.chars ∧ tok = .number lit.value) ∨
    ∃ op : Operator, w = [op.symbol] ∧ tok = .operator op

theorem Expr.standsFor_words (t : Expr) : ∀ w ∈ t.words, StandsFor w.1 w.2 := by
  induction t with
  | literal lit =>
    intro w hw
    rw [words, List.mem_singleton] at hw
    exact .inl ⟨lit, by rw [hw], by rw [hw]⟩
  | node op lhs rhs ihl ihr =>
    intro w hw
    rw [words, List.mem_append, List.mem_append, List.mem_singleton] at hw
    rcases hw with (hw | hw) | hw
    · exact ihl w hw
    · exact ihr w hw
    · exact .inr ⟨op, by rw [hw], by rw [hw]⟩

theorem isSeparator_space : isSeparator ' ' := by decide

/-- A word followed by a space reads as its token, and reading goes on after the space. -/
theorem scanFrom_word_space {w : List Char} {tok : Token} (h : StandsFor w tok)
    (rest : List Char) (pos : Nat) :
    scanFrom (w ++ ' ' :: rest) pos = .ok tok :: scanFrom rest (pos + byteSize w + 1) := by
  rcases h with ⟨lit, rfl, rfl⟩ | ⟨op, rfl, rfl⟩
  · -- a space cannot extend a literal
    have hlong : LongestLiteral lit.chars (' ' :: rest) :=
      longestLiteral_of_blocked lit.isLiteral (by decide) (by intro h; cases h)
    rw [scanFrom_literal pos hlong, literalItem, lit.reads, scanFrom_skip rest _ isSeparator_space]
    rfl
  · have hop := Operator.ofChar?_symbol op
    have hsize : byteSize [op.symbol] = op.symbol.utf8Size := by simp
    rw [List.singleton_append, scanFrom_operator _ pos hop,
      scanFrom_skip rest _ isSeparator_space, hsize]
    rfl

/-- A word at the end of the text reads as its token alone. -/
theorem scanFrom_word {w : List Char} {tok : Token} (h : StandsFor w tok) (pos : Nat) :
    scanFrom w pos = [.ok tok] := by
  rcases h with ⟨lit, rfl, rfl⟩ | ⟨op, rfl, rfl⟩
  · have hlong : LongestLiteral lit.chars [] :=
      ⟨lit.isLiteral, fun k hlt hle => by simp at hle; omega⟩
    have h := scanFrom_literal pos hlong
    rw [List.append_nil] at h
    rw [h, literalItem, lit.reads, scanFrom_eq]
    rfl
  · rw [scanFrom_operator [] pos (Operator.ofChar?_symbol op), scanFrom_eq]
    rfl

/-- Words joined by single spaces read as their tokens, in order. -/
theorem scanFrom_intercalate (ws : List (List Char × Token)) (hws : ∀ w ∈ ws, StandsFor w.1 w.2)
    (pos : Nat) : scanFrom ([' '].intercalate (ws.map Prod.fst)) pos = ws.map fun w => .ok w.2 := by
  induction ws generalizing pos with
  | nil => rw [List.map_nil, List.intercalate_nil, scanFrom_eq]; rfl
  | cons w ws ih =>
    have hw := hws w (List.mem_cons_self ..)
    have hrest : ∀ w' ∈ ws, StandsFor w'.1 w'.2 := fun w' h => hws w' (List.mem_cons_of_mem w h)
    -- only a word with another after it is followed by a space
    cases ws with
    | nil => simp [scanFrom_word hw]
    | cons w' ws =>
      rw [List.map_cons, List.map_cons, List.intercalate_cons_cons, List.append_assoc,
        List.singleton_append, scanFrom_word_space hw, ← List.map_cons, ih hrest]
      rfl

theorem Expr.scan_text (t : Expr) : scan t.text = t.items := by
  rw [scan, text, String.toList_ofList]
  exact scanFrom_intercalate t.words t.standsFor_words 0

/-! ## Applying the tokens of a tree -/

/-- An operator applied to the two values on top of a stack replaces them with its result,
or fails with its refusal, the values below them still in place. -/
theorem Stack.apply_push_push (s : Stack) (op : Operator) (lhs rhs : Float) :
    match op.refusal? lhs rhs with
    | none => ((s.push lhs).push rhs).apply op = (s.push (op.result lhs rhs), .ok ())
    | some e => ∃ s', ((s.push lhs).push rhs).apply op = (s', .error e) ∧
        s.toList <+: s'.toList := by
  have heval := op.eval_eq lhs rhs
  by_cases hright : op.refusesRight rhs = true
  · -- only a division refuses before it looks at its left operand
    obtain ⟨rfl, hzero⟩ : op = .div ∧ (rhs == 0) = true := by
      simpa [Operator.refusesRight] using hright
    simp only [Operator.refusal?, hzero, if_true]
    refine ⟨s.push lhs, ?_, by simp⟩
    simp [Stack.apply, Stack.push, Operator.refusesRight, hzero]
  · cases hr : op.refusal? lhs rhs with
    | none =>
      rw [hr] at heval
      simp [Stack.apply, Stack.push, hright, heval]
    | some e =>
      rw [hr] at heval
      refine ⟨s, ?_, List.prefix_refl _⟩
      simp [Stack.apply, Stack.push, hright, heval]

/-- Applying the tokens of a tree, then more items, pushes the tree's value and goes on,
or fails with the tree's first refusal and leaves the values below the tree's in place. -/
theorem Stack.run_postOrder (t : Expr) (s : Stack) (rest : List Item) :
    match t.firstRefusal? with
    | none => s.run (t.items ++ rest) = (s.push t.value).run rest
    | some e => ∃ s', s.run (t.items ++ rest) = (s', .error e) ∧ s.toList <+: s'.toList := by
  induction t generalizing s rest with
  | literal lit => rfl
  | node op lhs rhs ihl ihr =>
    -- the tree's items are those of the left child, of the right child, then the operator
    have hitems : (Expr.node op lhs rhs).items ++ rest =
        lhs.items ++ (rhs.items ++ (.ok (.operator op) :: rest)) := by
      simp [Expr.items, Expr.words]
    rw [hitems]
    have hl := ihl s (rhs.items ++ (.ok (.operator op) :: rest))
    cases hlr : lhs.firstRefusal? with
    | some e =>
      rw [hlr] at hl
      simpa [Expr.firstRefusal?, hlr] using hl
    | none =>
      rw [hlr] at hl
      rw [hl]
      have hr := ihr (s.push lhs.value) (.ok (.operator op) :: rest)
      cases hrr : rhs.firstRefusal? with
      | some e =>
        rw [hrr] at hr
        obtain ⟨s', hrun, hpre⟩ := hr
        -- the left child's value lies between the stack and the right child's failure
        simp only [Expr.firstRefusal?, hlr, hrr, Option.none_or, Option.some_or]
        exact ⟨s', hrun, (List.prefix_append _ _).trans (by simpa using hpre)⟩
      | none =>
        rw [hrr] at hr
        rw [hr]
        have happly := s.apply_push_push op lhs.value rhs.value
        simp only [Expr.firstRefusal?, hlr, hrr, Option.none_or]
        cases hop : op.refusal? lhs.value rhs.value with
        | none =>
          rw [hop] at happly
          simp [Stack.run, Stack.step, happly, Expr.value]
        | some e =>
          rw [hop] at happly
          obtain ⟨s', happ, hpre⟩ := happly
          exact ⟨s', by simp [Stack.run, Stack.step, happ], hpre⟩

/-- Evaluating the postfix text of a tree on a stack pushes the tree's value when no node
refuses its operands. Otherwise it fails with the refusal of the first refusing node in
post-order, and the stack it started from is still at the bottom of the stack it leaves. -/
theorem evaluate_expr_text (s : Stack) (t : Expr) :
    match t.firstRefusal? with
    | none => s.evaluate t.text = (s.push t.value, .ok ())
    | some e => ∃ s', s.evaluate t.text = (s', .error e) ∧ s.toList <+: s'.toList := by
  have h := Stack.run_postOrder t s []
  rw [List.append_nil] at h
  rw [Stack.evaluate, t.scan_text]
  cases hf : t.firstRefusal? with
  | none =>
    rw [hf] at h
    rw [h]
    rfl
  | some e =>
    rw [hf] at h
    exact h

end StackCalc.Calc
