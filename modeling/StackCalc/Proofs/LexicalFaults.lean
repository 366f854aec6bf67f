import StackCalc.Proofs.Concatenation

/-!
# A lexical fault keeps the work before it

When evaluation stops at an unexpected character, the offset it reports is a character
boundary of the text, the character stands there, and evaluating only the text before it
succeeds and leaves exactly the stack the whole evaluation left. When it stops at a literal
too large for a finite value, the literal stands in the text where the reader starts a
literal token, and evaluating the text before that point again leaves the same stack. In
both cases the items of the text are those of the text before the fault, then the fault,
then the items read on from after it. Main statement: `lexical_fault_keeps_prefix`.

The proof follows the outcome back to the items, then the items back to the text:

* a run that ends in a lexical fault ran the items before it successfully, since applying a
  token never gives a lexical fault (`Stack.run_eq_lexical`);
* the grammar's derivation of a text splits at any item boundary into derivations of a front
  part and of the rest (`Lexes.split`); a literal that was the longest one stays so when the
  text after it is cut short (`LongestLiteral.take`);
* a derivation whose first item is a fault starts, after separators, with the text of that
  fault (`Lexes.unexpected_front`, `Lexes.invalidNumber_front`), and the separators go on the
  front part without changing its items (`Lexes.append_separators`).

The case of a second point ending a literal needs nothing of its own: the cut falls after the
literal, which stays the longest one at the end of the front part.
-/

namespace StackCalc.Calc

open Text.Utf8 (byteSize)

/-! ## The run up to a lexical fault -/

/-- A run that ends in a lexical fault met it as an item: the items before it all ran. -/
theorem Stack.run_eq_lexical {s s' : Stack} {items : List Item} {e : CalcError}
    (h : s.run items = (s', .error e)) (hlex : e.isLexical) :
    ∃ xs ys, items = xs ++ .error e :: ys ∧ s.run xs = (s', .ok ()) := by
  induction items generalizing s with
  | nil => cases h
  | cons item items ih =>
    cases item with
    | error e' =>
      obtain ⟨rfl, rfl⟩ : s = s' ∧ e' = e := by simpa [run] using h
      exact ⟨[], items, rfl, rfl⟩
    | ok t =>
      simp only [run] at h
      cases hstep : s.step t with
      | mk s₁ r =>
        rw [hstep] at h
        cases r with
        | ok u =>
          obtain ⟨xs, ys, rfl, hxs⟩ := ih h
          exact ⟨.ok t :: xs, ys, rfl, by simp [run, hstep, hxs]⟩
        | error e' =>
          -- a token's own fault is arithmetic, so it cannot be the lexical one
          obtain ⟨-, rfl⟩ : s₁ = s' ∧ e' = e := by simpa using h
          rw [Stack.isLexical_of_step hstep] at hlex
          cases hlex

/-! ## Cutting a derivation at an item boundary -/

/-- A longest literal stays the longest one when the text after it is cut short. -/
theorem LongestLiteral.take {lit a b : List Char} (h : LongestLiteral lit (a ++ b)) :
    LongestLiteral lit a := by
  refine ⟨h.1, fun k hlt hle => ?_⟩
  have hnot := h.2 k hlt (by simp only [List.length_append] at hle ⊢; omega)
  rwa [← List.append_assoc, List.take_append_of_le_length (by simpa using hle)] at hnot

/-- The derivation of a text splits after its first item and any number of items after it:
a front part of the text gives those items, and the rest, from its byte offset on, the items
after them. -/
theorem Lexes.split_cons {cs : List Char} {pos : Nat} {items : List Item} (h : Lexes cs pos items) :
    ∀ x xs ys, items = x :: (xs ++ ys) →
      ∃ a b, cs = a ++ b ∧ Lexes a pos (x :: xs) ∧ Lexes b (pos + byteSize a) ys := by
  -- each rule that gives an item either ends the front part there or hands on to the rest
  induction h with
  | nil => exact fun _ _ _ h => by cases h
  | skip hs _ ih =>
    intro x xs ys hitems
    obtain ⟨a, b, rfl, ha, hb⟩ := ih x xs ys hitems
    exact ⟨_ :: a, b, rfl, .skip hs ha, by rwa [Text.Utf8.byteSize_cons, ← Nat.add_assoc]⟩
  | @number lit rest pos items v hlong hv hrest ih =>
    intro x xs ys hitems
    obtain ⟨rfl, rfl⟩ := List.cons.inj hitems
    cases xs with
    | nil =>
      have hone : Lexes lit pos [.ok (.number v)] := by
        simpa using Lexes.number (@LongestLiteral.take lit [] rest hlong) hv (.nil _)
      exact ⟨lit, rest, rfl, hone, hrest⟩
    | cons x' xs =>
      obtain ⟨a, b, rfl, ha, hb⟩ := ih x' xs ys rfl
      refine ⟨lit ++ a, b, (List.append_assoc _ _ _).symm, .number hlong.take hv ha, ?_⟩
      rwa [Text.Utf8.byteSize_append, ← Nat.add_assoc]
  | @invalidNumber lit rest pos items hlong hv hrest ih =>
    intro x xs ys hitems
    obtain ⟨rfl, rfl⟩ := List.cons.inj hitems
    cases xs with
    | nil =>
      have hone : Lexes lit pos [.error (.invalidNumber (String.ofList lit))] := by
        simpa using Lexes.invalidNumber (@LongestLiteral.take lit [] rest hlong) hv (.nil _)
      exact ⟨lit, rest, rfl, hone, hrest⟩
    | cons x' xs =>
      obtain ⟨a, b, rfl, ha, hb⟩ := ih x' xs ys rfl
      refine ⟨lit ++ a, b, (List.append_assoc _ _ _).symm, .invalidNumber hlong.take hv ha, ?_⟩
      rwa [Text.Utf8.byteSize_append, ← Nat.add_assoc]
  | @operator c cs pos items op ho hrest ih =>
    intro x xs ys hitems
    obtain ⟨rfl, rfl⟩ := List.cons.inj hitems
    cases xs with
    | nil => exact ⟨[c], cs, rfl, .operator ho (.nil _), by simpa using hrest⟩
    | cons x' xs =>
      obtain ⟨a, b, rfl, ha, hb⟩ := ih x' xs ys rfl
      exact ⟨c :: a, b, rfl, .operator ho ha,
        by rwa [Text.Utf8.byteSize_cons, ← Nat.add_assoc]⟩
  | @unexpected c cs pos items hs hd ho hrest ih =>
    intro x xs ys hitems
    obtain ⟨rfl, rfl⟩ := List.cons.inj hitems
    cases xs with
    | nil => exact ⟨[c], cs, rfl, .unexpected hs hd ho (.nil _), by simpa using hrest⟩
    | cons x' xs =>
      obtain ⟨a, b, rfl, ha, hb⟩ := ih x' xs ys rfl
      exact ⟨c :: a, b, rfl, .unexpected hs hd ho ha,
        by rwa [Text.Utf8.byteSize_cons, ← Nat.add_assoc]⟩

/-- The derivation of a text splits at any item boundary. -/
theorem Lexes.split {cs : List Char} {pos : Nat} {xs ys : List Item} (h : Lexes cs pos (xs ++ ys)) :
    ∃ a b, cs = a ++ b ∧ Lexes a pos xs ∧ Lexes b (pos + byteSize a) ys := by
  cases xs with
  | nil => exact ⟨[], cs, rfl, .nil pos, by simpa using h⟩
  | cons x xs => exact h.split_cons x xs ys rfl

/-! ## The text of a fault at the front -/

/-- A separator cannot go on a literal. -/
theorem continuesLiteral_of_isSeparator {c : Char} (h : isSeparator c) :
    continuesLiteral c = false := by
  simp only [isSeparator, Bool.or_eq_true, beq_iff_eq] at h
  rcases h with ((rfl | rfl) | rfl) | rfl <;> rfl

/-- Separators give no item. -/
theorem lexes_separators {seps : List Char} (h : ∀ c ∈ seps, isSeparator c) (pos : Nat) :
    Lexes seps pos [] := by
  induction seps generalizing pos with
  | nil => exact .nil pos
  | cons c cs ih =>
    exact .skip (h c (List.mem_cons_self ..)) (ih (fun d hd => h d (List.mem_cons_of_mem c hd)) _)

/-- Separators after a text add no item to it. -/
theorem Lexes.append_separators {a : List Char} {pos : Nat} {xs : List Item} (ha : Lexes a pos xs)
    {seps : List Char} (h : ∀ c ∈ seps, isSeparator c) : Lexes (a ++ seps) pos xs := by
  -- a separator cannot go on a literal that ends `a`
  have hseam : SeparateAt a seps := by
    left
    cases seps with
    | nil => rfl
    | cons c cs => simp [continuesLiteral_of_isSeparator (h c (List.mem_cons_self ..))]
  simpa using ha.append hseam (lexes_separators h _)

/-- A derivation whose first item is an unexpected character starts, after separators, with
that character, at the offset the fault names. -/
theorem Lexes.unexpected_front {b : List Char} {q : Nat} {items : List Item} (h : Lexes b q items)
    {ch : Char} {p : Nat} {ys : List Item} (hitems : items = .error (.unexpectedChar ch p) :: ys) :
    ∃ seps post, b = seps ++ ch :: post ∧ (∀ c ∈ seps, isSeparator c) ∧
      p = q + byteSize seps ∧ Lexes post (p + ch.utf8Size) ys := by
  induction h with
  | nil => cases hitems
  | skip hs _ ih =>
    obtain ⟨seps, post, rfl, hseps, rfl, hpost⟩ := ih hitems
    refine ⟨_ :: seps, post, rfl, ?_, by rw [Text.Utf8.byteSize_cons, Nat.add_assoc], hpost⟩
    intro c hc
    rcases List.mem_cons.mp hc with rfl | hc
    · exact hs
    · exact hseps c hc
  | number => cases hitems
  | invalidNumber => cases hitems
  | operator => cases hitems
  | @unexpected c cs pos items hs hd ho hrest =>
    cases hitems
    exact ⟨[], cs, rfl, by simp, rfl, hrest⟩

/-- A derivation whose first item is an invalid literal starts, after separators, with that
literal, the longest one there. -/
theorem Lexes.invalidNumber_front {b : List Char} {q : Nat} {items : List Item}
    (h : Lexes b q items) {literal : String} {ys : List Item}
    (hitems : items = .error (.invalidNumber literal) :: ys) :
    ∃ seps rest, b = seps ++ (literal.toList ++ rest) ∧ (∀ c ∈ seps, isSeparator c) ∧
      LongestLiteral literal.toList rest ∧
      Lexes rest (q + byteSize (seps ++ literal.toList)) ys := by
  induction h with
  | nil => cases hitems
  | skip hs _ ih =>
    obtain ⟨seps, rest, rfl, hseps, hlong, hrest⟩ := ih hitems
    refine ⟨_ :: seps, rest, rfl, ?_, hlong, ?_⟩
    · intro c hc
      rcases List.mem_cons.mp hc with rfl | hc
      · exact hs
      · exact hseps c hc
    · rwa [List.cons_append, Text.Utf8.byteSize_cons, ← Nat.add_assoc]
  | number => cases hitems
  | @invalidNumber lit rest pos items hlong hv hrest =>
    cases hitems
    rw [String.toList_ofList]
    exact ⟨[], rest, rfl, by simp, hlong, by simpa using hrest⟩
  | operator => cases hitems
  | unexpected => cases hitems

/-! ## Evaluating the text before the fault -/

/-- The items of a text that a derivation splits at a fault, read back as the text before
it, the fault, and the text after it. -/
theorem scan_of_split {e : String} {pre post : List Char} {xs ys : List Item} {f : Item}
    {pos : Nat} (hscan : scan e = xs ++ f :: ys) (hpre : Lexes pre 0 xs)
    (hpost : Lexes post pos ys) :
    scan e = scan (String.ofList pre) ++ f :: scanFrom post pos := by
  rw [hscan, scan, String.toList_ofList, scanFrom_of_lexes hpre, scanFrom_of_lexes hpost]

/-- Evaluation stopped by an unexpected character: the offset is the byte size of the text
before the character, and that text evaluates to the same stack. -/
theorem evaluate_unexpectedChar_prefix {s s' : Stack} {e : String} {ch : Char} {p : Nat}
    (h : s.evaluate e = (s', .error (.unexpectedChar ch p))) :
    ∃ pre post, e.toList = pre ++ ch :: post ∧ byteSize pre = p ∧
      scan e = scan (String.ofList pre) ++ .error (.unexpectedChar ch p) ::
        scanFrom post (p + ch.utf8Size) ∧
      s.evaluate (String.ofList pre) = (s', .ok ()) := by
  obtain ⟨xs, ys, hscan, hrun⟩ := Stack.run_eq_lexical h rfl
  have hlex := lexes_scanFrom e.toList 0
  rw [← scan, hscan] at hlex
  -- cut the text before the fault's item, then move the separators before it to the front
  obtain ⟨a, b, hab, ha, hb⟩ := hlex.split
  obtain ⟨seps, post, rfl, hseps, hp, hpost⟩ := hb.unexpected_front rfl
  have hpre := ha.append_separators hseps
  have hscan' := scan_of_split hscan hpre hpost
  refine ⟨a ++ seps, post, by rw [hab, List.append_assoc], ?_, hscan', ?_⟩
  · rw [hp, Text.Utf8.byteSize_append, Nat.zero_add]
  · rw [Stack.evaluate, scan, String.toList_ofList, scanFrom_of_lexes hpre, hrun]

/-- Evaluation stopped by a literal too large for a finite value: the literal is the longest
one where a token of the text starts, and the text before it evaluates to the same stack. -/
theorem evaluate_invalidNumber_prefix {s s' : Stack} {e : String} {literal : String}
    (h : s.evaluate e = (s', .error (.invalidNumber literal))) :
    ∃ pre post, e.toList = pre ++ literal.toList ++ post ∧
      LongestLiteral literal.toList post ∧
      scan e = scan (String.ofList pre) ++ .error (.invalidNumber literal) ::
        scanFrom post (byteSize (pre ++ literal.toList)) ∧
      s.evaluate (String.ofList pre) = (s', .ok ()) := by
  obtain ⟨xs, ys, hscan, hrun⟩ := Stack.run_eq_lexical h rfl
  have hlex := lexes_scanFrom e.toList 0
  rw [← scan, hscan] at hlex
  obtain ⟨a, b, hab, ha, hb⟩ := hlex.split
  obtain ⟨seps, post, rfl, hseps, hlong, hpost⟩ := hb.invalidNumber_front rfl
  have hpre := ha.append_separators hseps
  have hpos : 0 + byteSize a + byteSize (seps ++ literal.toList) =
      byteSize (a ++ seps ++ literal.toList) := by
    simp
  rw [hpos] at hpost
  refine ⟨a ++ seps, post, by rw [hab, List.append_assoc, List.append_assoc], hlong,
    scan_of_split hscan hpre hpost, ?_⟩
  rw [Stack.evaluate, scan, String.toList_ofList, scanFrom_of_lexes hpre, hrun]

/-- A lexical fault keeps exactly the work of the text before it. When evaluating `e` on `s`
stops at an unexpected character `ch` at offset `p`, `p` is the byte size of the characters
before it, so a character boundary, and `ch` stands there; when it stops at an invalid
literal, that literal stands where the reader starts a token, as the longest literal there.
Either way the items of `e` are those of the text before the fault, the fault, and the items
read from after it, and evaluating the text before the fault succeeds and leaves exactly the
stack that evaluating `e` left. -/
theorem lexical_fault_keeps_prefix (s : Stack) (e : String) :
    match s.evaluate e with
    | (s', .error (.unexpectedChar ch p)) =>
      ∃ pre post, e.toList = pre ++ ch :: post ∧ byteSize pre = p ∧
        scan e = scan (String.ofList pre) ++ .error (.unexpectedChar ch p) ::
          scanFrom post (p + ch.utf8Size) ∧
        s.evaluate (String.ofList pre) = (s', .ok ())
    | (s', .error (.invalidNumber literal)) =>
      ∃ pre post, e.toList = pre ++ literal.toList ++ post ∧
        LongestLiteral literal.toList post ∧
        scan e = scan (String.ofList pre) ++ .error (.invalidNumber literal) ::
          scanFrom post (byteSize (pre ++ literal.toList)) ∧
        s.evaluate (String.ofList pre) = (s', .ok ())
    | _ => True := by
  split
  · next h => exact evaluate_unexpectedChar_prefix h
  · next h => exact evaluate_invalidNumber_prefix h
  · trivial

end StackCalc.Calc
