import StackCalc.Proofs.Lexing

/-!
# The reader moves on at every call, and stays done

A `Scanner` is read one call at a time. A call that gives an item reads the separators in
front of it and then at least the item's first character, which is not a separator: a
literal reads the digit it starts with, an operator or an unexpected character reads that
character. So every such call makes the text shorter by a character that is not a separator
(`Scanner.next_reads_nonSeparator`), and a text gives at most as many items as it has such
characters (`length_scanFrom_le`).

The `i`-th call gives the `i`-th item of the text and nothing once the items are used up
(`Scanner.next_after`): a reader never gives an item again after it has given nothing. The
main statement, `Scanner.new_calls_progress_exhausted`, puts these together for a reader that
starts at the beginning of a text.
-/

namespace StackCalc.Calc

/-! ## One reading step -/

/-- A reading step that gives an item reads a front part of the text that holds a character
which is not a separator: the item's first character. -/
theorem next?_reads_nonSeparator {cs rest : List Char} {pos pos' : Nat} {item : Item}
    (h : next? cs pos = some (item, rest, pos')) :
    ∃ pre, cs = pre ++ rest ∧ ∃ c ∈ pre, isSeparator c = false := by
  -- separators in front are read one by one, so the induction is on the text
  induction cs generalizing pos with
  | nil => simp [next?] at h
  | cons c cs ih =>
    by_cases hs : isSeparator c
    · rw [next?_skip cs pos hs] at h
      obtain ⟨pre, rfl, d, hd, hsep⟩ := ih h
      exact ⟨c :: pre, rfl, d, List.mem_cons_of_mem c hd, hsep⟩
    · have hs' : isSeparator c = false := by simpa using hs
      -- the step reads `c`, and after a digit the rest of its literal
      obtain ⟨lit, hlit⟩ : ∃ lit, cs = lit ++ rest := by
        simp only [next?, hs', Bool.false_eq_true, if_false] at h
        split at h
        · obtain ⟨-, rfl, -⟩ := Prod.mk.inj (Option.some.inj h)
          exact ⟨_, (literalSpan_append cs false).symm⟩
        · obtain ⟨-, rfl, -⟩ := Prod.mk.inj (Option.some.inj h)
          exact ⟨[], rfl⟩
      exact ⟨c :: lit, by rw [hlit, List.cons_append], c, List.mem_cons_self .., hs'⟩

/-- A reading step that gives an item leaves fewer characters that are not separators. -/
theorem countP_nonSeparator_lt_of_next? {cs rest : List Char} {pos pos' : Nat} {item : Item}
    (h : next? cs pos = some (item, rest, pos')) :
    rest.countP (fun c => !isSeparator c) < cs.countP (fun c => !isSeparator c) := by
  obtain ⟨pre, rfl, c, hc, hsep⟩ := next?_reads_nonSeparator h
  have hpre : 0 < pre.countP (fun c => !isSeparator c) :=
    List.countP_pos_iff.mpr ⟨c, hc, by simp [hsep]⟩
  rw [List.countP_append]
  omega

/-- A text gives at most one item for each of its characters that is not a separator. -/
theorem length_scanFrom_le (cs : List Char) (pos : Nat) :
    (scanFrom cs pos).length ≤ cs.countP (fun c => !isSeparator c) := by
  fun_induction scanFrom cs pos with
  | case1 => simp
  | case2 cs pos item rest pos' h _ ih =>
    have hlt := countP_nonSeparator_lt_of_next? h
    rw [List.length_cons]
    omega

/-! ## Calls of the reader -/

namespace Scanner

/-- A call that gives an item reads a front part of the text not read yet, and that part
holds a character which is not a separator. -/
theorem next_reads_nonSeparator {s : Scanner} {item : Item} (h : s.next.1 = some item) :
    ∃ pre, s.rest = pre ++ s.next.2.rest ∧ ∃ c ∈ pre, isSeparator c = false := by
  cases hn : next? s.rest s.pos with
  | none => simp [next, hn] at h
  | some r =>
    obtain ⟨item', rest, pos⟩ := r
    simp only [next, hn]
    exact next?_reads_nonSeparator hn

/-- A call gives the first of the items the reader has left. -/
theorem next_fst (s : Scanner) : s.next.1 = (scanFrom s.rest s.pos).head? := by
  rw [scanFrom_eq]
  cases hn : next? s.rest s.pos with
  | none => simp [next, hn]
  | some r =>
    obtain ⟨item, rest, pos⟩ := r
    simp [next, hn]

/-- After a call the reader has the other items left; after a call that gave nothing it has
none left. -/
theorem scanFrom_next (s : Scanner) :
    scanFrom s.next.2.rest s.next.2.pos = (scanFrom s.rest s.pos).tail := by
  conv => rhs; rw [scanFrom_eq]
  cases hn : next? s.rest s.pos with
  | none => simp [next, hn, scanFrom_nil]
  | some r =>
    obtain ⟨item, rest, pos⟩ := r
    simp [next, hn]

/-- The reader after `n` calls. -/
def after (s : Scanner) : Nat → Scanner
  | 0 => s
  | n + 1 => s.next.2.after n

/-- The reader after `n + 1` calls is the reader after `n` calls, called once more. -/
theorem after_succ_eq_next (s : Scanner) (n : Nat) : s.after (n + 1) = (s.after n).next.2 := by
  induction n generalizing s with
  | zero => rfl
  | succ n ih => rw [after, ih, after]

/-- The `i`-th call gives the `i`-th item the reader had left, and nothing once they are used
up. -/
theorem next_after (s : Scanner) (i : Nat) :
    (s.after i).next.1 = (scanFrom s.rest s.pos)[i]? := by
  -- each call takes the head of the items left and leaves their tail
  induction i generalizing s with
  | zero => rw [after, next_fst, List.head?_eq_getElem?]
  | succ i ih => rw [after, ih, scanFrom_next, List.getElem?_tail]

/-- A reader that has given nothing gives nothing on every later call. -/
theorem next_after_eq_none_of_le (s : Scanner) {i j : Nat} (hij : i ≤ j)
    (h : (s.after i).next.1 = none) : (s.after j).next.1 = none := by
  rw [next_after, List.getElem?_eq_none_iff] at h ⊢
  omega

/-- `1..` is the literal `1.` and then the point it left, which the second call reads as a
fault; every later call gives nothing. -/
example : ((Scanner.new "1..").after 1).next.1.isSome ∧ ((Scanner.new "1..").after 2).next.1 = none ∧
    ((Scanner.new "1..").after 3).next.1 = none := by
  decide

/-- Reading a text one call at a time: every call that gives an item reads a front part of the
text left that holds a character which is not a separator; the calls give the items of the
text in order and then nothing; there are at most as many items as characters that are not
separators; and once a call gives nothing, so does every later call. -/
theorem new_calls_progress_exhausted (e : String) :
    (∀ i item, ((Scanner.new e).after i).next.1 = some item →
      ∃ pre, ((Scanner.new e).after i).rest = pre ++ ((Scanner.new e).after (i + 1)).rest ∧
        ∃ c ∈ pre, isSeparator c = false) ∧
    (∀ i, ((Scanner.new e).after i).next.1 = (scan e)[i]?) ∧
    (scan e).length ≤ e.toList.countP (fun c => !isSeparator c) ∧
    (∀ i j, i ≤ j → ((Scanner.new e).after i).next.1 = none →
      ((Scanner.new e).after j).next.1 = none) := by
  refine ⟨?_, fun i => next_after (Scanner.new e) i, length_scanFrom_le e.toList 0, ?_⟩
  · intro i item h
    rw [after_succ_eq_next]
    exact next_reads_nonSeparator h
  · intro i j hij h
    exact next_after_eq_none_of_le (Scanner.new e) hij h

end Scanner

end StackCalc.Calc
