import Mathlib.Algebra.GroupWithZero.Nat
import StackCalc.Screen.Frame

/-!
# The stack strip shows the longest suffix that fits

Under the input line the full-screen editor shows the stack as a strip: each value with two
places between brackets, oldest first, one space between. When the strip is too wide for its
columns the oldest values give way to `...`. The loop that builds it walks the values from the
newest, keeping each while the kept parts, joined, still leave room for `...` and a space,
and stops at the first that does not fit.

Main statement (`stackStrip_longest_suffix`): the strip of an empty stack is `EMPTY`, and only
of an empty stack; otherwise it is the longest suffix of the stack whose joined parts take at
most the width less four columns (the empty suffix when no single part does), with `...` in
front exactly when values were left out, and a space after it when some are shown. So the
strip never takes more than the width or three columns, and the whole stack is shown exactly
when its joined parts and four more columns fit.

The loop is `stripParts`; `stripParts_eq` says what it keeps, by induction on the parts with
the kept ones as accumulator. The rest moves between the newest-first parts of the loop and
the suffixes of the stack.
-/

namespace StackCalc.Screen

/-- A value as the stack strip shows it: two places between brackets. -/
def stripPart (x : Float) : String := "[" ++ stripNotation.render x ++ "]"

/-- Values as the stack strip shows them, oldest first, one space between. -/
def stripJoin (vs : List Float) : String := " ".intercalate (vs.map stripPart)

/-- Texts joined by single spaces take their own lengths and one column between each two. -/
theorem length_intercalate_space (l : List String) :
    (" ".intercalate l).length = (l.map String.length).sum + (l.length - 1) := by
  induction l with
  | nil => simp
  | cons a l ih =>
    cases l with
    | nil => simp
    | cons b l =>
      rw [String.intercalate_cons_cons, String.length_append, String.length_append, ih]
      simp only [List.map_cons, List.sum_cons, List.length_cons]
      have hspace : " ".length = 1 := rfl
      omega

/-- One more text at the end adds its length, and a column before it unless it is the first. -/
theorem length_intercalate_concat (acc : List String) (p : String) :
    (" ".intercalate (acc ++ [p])).length =
      (" ".intercalate acc).length + p.length + (if acc.isEmpty then 0 else 1) := by
  rw [length_intercalate_space, length_intercalate_space]
  cases acc with
  | nil => simp
  | cons a acc =>
    simp
    omega

/-- Joined in the other order, texts take as many columns. -/
theorem length_intercalate_reverse (l : List String) :
    (" ".intercalate l.reverse).length = (" ".intercalate l).length := by
  rw [length_intercalate_space, length_intercalate_space, List.map_reverse, List.sum_reverse,
    List.length_reverse]

/-- Texts joined after more texts take at least as many columns. -/
theorem length_intercalate_le_append (t l : List String) :
    (" ".intercalate l).length ≤ (" ".intercalate (t ++ l)).length := by
  rw [length_intercalate_space, length_intercalate_space, List.map_append, List.sum_append,
    List.length_append]
  omega

/-- The loop keeps parts while they fit with room for the ellipsis: of the parts `ps` after
the kept parts `acc` it keeps the first `k`, which fit when there are any, and it stops at the
end of the parts or at one that does not fit. -/
theorem stripParts_eq (w : Nat) (ps acc : List String) :
    ∃ k ≤ ps.length,
      stripParts w ps (" ".intercalate acc).length acc =
        (acc ++ ps.take k, decide (k < ps.length)) ∧
      (0 < k → (" ".intercalate (acc ++ ps.take k)).length + 4 ≤ w) ∧
      (k < ps.length → w < (" ".intercalate (acc ++ ps.take (k + 1))).length + 4) := by
  induction ps generalizing acc with
  | nil => exact ⟨0, Nat.le_refl _, by simp [stripParts], by omega, by simp⟩
  | cons p rest ih =>
    -- the loop's running count is the width of the kept parts joined
    have hneeded := length_intercalate_concat acc p
    have hell : ellipsis.length = 3 := rfl
    rw [stripParts, ← hneeded, hell]
    have htake (i : Nat) : acc ++ (p :: rest).take (i + 1) = acc ++ [p] ++ rest.take i := by
      rw [List.take_succ_cons, List.append_assoc, List.singleton_append]
    split
    · next hstop =>
      refine ⟨0, Nat.zero_le _, by simp, by omega, fun _ => ?_⟩
      rw [htake, List.take_zero, List.append_nil]
      omega
    · next hkeep =>
      obtain ⟨k, hk, heq, hfits, hnext⟩ := ih (acc ++ [p])
      refine ⟨k + 1, by simp; omega, ?_, ?_, ?_⟩
      · rw [heq, htake, List.length_cons]
        congr 1
        exact decide_eq_decide.mpr (by omega)
      · intro _
        rw [htake]
        cases k with
        | zero =>
          rw [List.take_zero, List.append_nil]
          omega
        | succ k => exact hfits (by omega)
      · intro hlt
        rw [List.length_cons] at hlt
        rw [htake]
        exact hnext (by omega)

/-- The newest `k` parts, newest first, are the parts of the last `k` values reversed. -/
theorem take_reverse_parts (v : List Float) (k : Nat) :
    (v.reverse.map stripPart).take k = ((v.drop (v.length - k)).map stripPart).reverse := by
  rw [← List.map_take, List.take_reverse, List.map_reverse]

/-- The newest `k` parts, joined, take the columns of the last `k` values' strip. -/
theorem length_take_reverse_parts (v : List Float) (k : Nat) :
    (" ".intercalate ([] ++ (v.reverse.map stripPart).take k)).length =
      (stripJoin (v.drop (v.length - k))).length := by
  rw [List.nil_append, take_reverse_parts, length_intercalate_reverse]
  rfl

/-- A longer suffix of the stack takes at least as many columns. -/
theorem length_stripJoin_drop_le (v : List Float) {i i' : Nat} (h : i ≤ i') :
    (stripJoin (v.drop i')).length ≤ (stripJoin (v.drop i)).length := by
  have hdrop : (v.drop i).drop (i' - i) = v.drop i' := by
    rw [List.drop_drop, Nat.add_sub_cancel' h]
  have hsplit : v.drop i = (v.drop i).take (i' - i) ++ v.drop i' := by
    rw [← hdrop, List.take_append_drop]
  unfold stripJoin
  rw [hsplit, List.map_append]
  exact length_intercalate_le_append _ _

/-- The strip of some values opens with the bracket of the oldest. -/
theorem stripJoin_cons (x : Float) (xs : List Float) : ∃ t, stripJoin (x :: xs) = "[" ++ t := by
  unfold stripJoin
  cases xs with
  | nil => exact ⟨stripNotation.render x ++ "]", by simp [stripPart, String.append_assoc]⟩
  | cons y ys =>
    refine ⟨stripNotation.render x ++ "]" ++ " " ++ " ".intercalate ((y :: ys).map stripPart), ?_⟩
    rw [List.map_cons, List.map_cons, String.intercalate_cons_cons, stripPart]
    simp only [String.append_assoc]

/-- The strip of some values opens with a bracket. -/
theorem head_stripJoin (x : Float) (xs : List Float) :
    (stripJoin (x :: xs)).toList.head? = some '[' := by
  obtain ⟨t, ht⟩ := stripJoin_cons x xs
  rw [ht, String.toList_append]
  rfl

/-- The strip of a stack with values, from the loop: the values from some index `j` on, after
`...` when `j` is not zero; they fit unless none is shown, and the value before them did not
fit with them. -/
theorem stackStrip_of_ne_nil {v : List Float} (hv : v ≠ []) (w : Nat) :
    ∃ j ≤ v.length,
      stackStrip v w =
        (if j = 0 then "" else if j = v.length then ellipsis else ellipsis ++ " ") ++
          stripJoin (v.drop j) ∧
      (j < v.length → (stripJoin (v.drop j)).length + 4 ≤ w) ∧
      (0 < j → w < (stripJoin (v.drop (j - 1))).length + 4) := by
  have hlen : (v.reverse.map stripPart).length = v.length := by simp
  obtain ⟨k, hk, heq, hfits, hnext⟩ := stripParts_eq w (v.reverse.map stripPart) []
  rw [hlen] at hk heq hnext
  have hpos : 0 < v.length := List.length_pos_iff.mpr hv
  refine ⟨v.length - k, by omega, ?_, ?_, ?_⟩
  · unfold stackStrip
    rw [if_neg (by simpa using hv)]
    rw [String.intercalate_nil, String.length_empty] at heq
    have hparts : stripParts w (v.reverse.map fun x => "[" ++ stripNotation.render x ++ "]") 0 [] =
        ([] ++ (v.reverse.map stripPart).take k, decide (k < v.length)) := heq
    simp only [hparts]
    rw [List.nil_append, take_reverse_parts]
    by_cases hkn : k < v.length
    · -- values were left out: the ellipsis goes in front of the newest `k`
      rw [if_pos (decide_eq_true hkn), List.reverse_concat, List.reverse_reverse,
        if_neg (by omega : v.length - k ≠ 0)]
      by_cases hk0 : k = 0
      · subst hk0
        rw [Nat.sub_zero, List.drop_length, if_pos rfl]
        rfl
      · have hshown : (v.drop (v.length - k)).map stripPart ≠ [] := by
          simp only [ne_eq, List.map_eq_nil_iff, List.drop_eq_nil_iff]
          omega
        rw [String.intercalate_cons_of_ne_nil hshown, if_neg (by omega)]
        rfl
    · -- every value is shown
      have hall : k = v.length := by omega
      rw [if_neg (by simpa using hkn), List.reverse_reverse, hall, Nat.sub_self, if_pos rfl,
        String.empty_append]
      rfl
  · intro hlt
    have := hfits (by omega)
    rwa [length_take_reverse_parts] at this
  · intro hlt
    have := hnext (by omega)
    rwa [length_take_reverse_parts, show v.length - (k + 1) = v.length - k - 1 by omega] at this

/-- A strip of values is never `EMPTY`: it opens with a bracket or a point, `EMPTY` with a
letter. -/
theorem stackStrip_ne_empty {v : List Float} (hv : v ≠ []) (w : Nat) :
    stackStrip v w ≠ emptyStackText := by
  obtain ⟨j, -, hstrip, -, -⟩ := stackStrip_of_ne_nil hv w
  intro h
  have hhead : ((if j = 0 then "" else if j = v.length then ellipsis else ellipsis ++ " ") ++
      stripJoin (v.drop j)).toList.head? = emptyStackText.toList.head? :=
    congrArg (fun s => s.toList.head?) (hstrip.symm.trans h)
  have hE : emptyStackText.toList.head? = some 'E' := rfl
  have hdot (s : String) : (ellipsis ++ s).toList.head? = some '.' := by
    rw [String.toList_append]
    rfl
  obtain ⟨x, xs, rfl⟩ := List.exists_cons_of_ne_nil hv
  by_cases hj0 : j = 0
  · rw [if_pos hj0, hj0, List.drop_zero, String.empty_append, head_stripJoin, hE] at hhead
    cases hhead
  · rw [if_neg hj0] at hhead
    split at hhead
    · rw [hdot, hE] at hhead
      cases hhead
    · rw [String.append_assoc, hdot, hE] at hhead
      cases hhead

/-- A strip of values takes at most the width, or the three columns of `...` when no value
fits. -/
theorem length_stackStrip_le {v : List Float} (hv : v ≠ []) (w : Nat) :
    (stackStrip v w).length ≤ max w 3 := by
  obtain ⟨j, hj, hstrip, hfits, -⟩ := stackStrip_of_ne_nil hv w
  have hpos : 0 < v.length := List.length_pos_iff.mpr hv
  have hell : ellipsis.length = 3 := rfl
  rw [hstrip]
  split
  · next hj0 =>
      -- the whole stack is shown, and it fits
      have hfit := hfits (by omega)
      rw [String.empty_append]
      omega
  · split
    · next hjn =>
        -- nothing is shown but `...`
        have hnone : stripJoin [] = "" := String.intercalate_nil
        rw [String.length_append, hell, hjn, List.drop_length, hnone, String.length_empty]
        omega
    · next hj0 hjn =>
        -- `... ` and a suffix that fits in the width less four columns
        have hfit := hfits (by omega)
        rw [String.length_append, String.length_append, hell]
        have hspace : " ".length = 1 := rfl
        omega

/-- The strip of a stack in `w` columns: `EMPTY` for an empty stack only; otherwise, for the
first shown index `j`, the values from `j` on joined by spaces, after `...` when `j` is not
zero and a space when some value is shown. The shown suffix fits in the width less four
columns unless it is empty, no longer suffix does, the whole stack is shown exactly when it
fits, and the strip takes at most the width or three columns. -/
theorem stackStrip_longest_suffix (v : List Float) (w : Nat) :
    (stackStrip v w = emptyStackText ↔ v = []) ∧
      (v ≠ [] → ∃ j ≤ v.length,
        stackStrip v w =
          (if j = 0 then "" else if j = v.length then ellipsis else ellipsis ++ " ") ++
            stripJoin (v.drop j) ∧
        (j = v.length ∨ (stripJoin (v.drop j)).length + 4 ≤ w) ∧
        (∀ i ≤ v.length, (stripJoin (v.drop i)).length + 4 ≤ w → j ≤ i) ∧
        (j = 0 ↔ (stripJoin v).length + 4 ≤ w) ∧
        (stackStrip v w).length ≤ max w 3) := by
  refine ⟨⟨fun h => ?_, fun h => by rw [h]; rfl⟩, fun hv => ?_⟩
  · by_cases hv : v = []
    · exact hv
    · exact absurd h (stackStrip_ne_empty hv w)
  · obtain ⟨j, hj, hstrip, hfits, hnext⟩ := stackStrip_of_ne_nil hv w
    have hpos : 0 < v.length := List.length_pos_iff.mpr hv
    -- a suffix longer than the shown one holds the first value left out, which did not fit
    have hlongest : ∀ i ≤ v.length, (stripJoin (v.drop i)).length + 4 ≤ w → j ≤ i := by
      intro i _ hfit
      by_cases hji : j ≤ i
      · exact hji
      · have hwide := hnext (by omega)
        have hmono := length_stripJoin_drop_le v (show i ≤ j - 1 by omega)
        omega
    refine ⟨j, hj, hstrip, ?_, hlongest, ?_, length_stackStrip_le hv w⟩
    · by_cases hjn : j = v.length
      · exact Or.inl hjn
      · exact Or.inr (hfits (by omega))
    · constructor
      · intro h0
        have hfit := hfits (by omega)
        rwa [h0, List.drop_zero] at hfit
      · intro hfit
        have := hlongest 0 (Nat.zero_le _) (by rwa [List.drop_zero])
        omega

end StackCalc.Screen
