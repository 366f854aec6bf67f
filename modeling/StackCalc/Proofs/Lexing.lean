import StackCalc.Calc.Scan
import StackCalc.Text.Utf8

/-!
# The grammar of postfix text

Reading a text splits it, from the left and with nothing left over, into separators and
items. A separator (space, tab, line feed, comma) gives nothing. A digit starts a literal,
the longest stretch of the text that matches `[0-9]+ ('.' [0-9]*)?`; it gives its number,
or an invalid-number fault when the number is too large for a finite binary64 value. An
operator symbol gives its operator. Any other character gives an unexpected-character fault
at its byte offset, and reading goes on after every fault.

`Lexes` states these rules as a relation between a text and its items, without reference to
how the text is read. The main statement, `scan_eq_iff_lexes`, says that the items `scan`
gives are exactly those the rules give; in particular the rules give each text one list of
items.

The proof has two halves. One reading step is one rule (`lexes_cons_of_next?`), so a whole
reading follows the rules (`lexes_scanFrom`, by induction along `scanFrom`). Conversely each
rule fixes the next step of the reading (`scanFrom_skip`, `scanFrom_literal`, ...), so a
derivation of the rules computes `scanFrom` (`scanFrom_of_lexes`). For literals this rests on
`literalSpan` reading the longest literal, and on the longest literal being unique.
-/

namespace StackCalc.Calc

open Text.Utf8 (byteSize)

/-! ## Literals -/

/-- Text of the literal grammar `[0-9]+ ('.' [0-9]*)?`: a whole part of digits, then
possibly a point and a fraction part of digits. -/
def IsLiteral (cs : List Char) : Prop :=
  ∃ whole, whole ≠ [] ∧ (∀ d ∈ whole, d.isDigit) ∧
    (cs = whole ∨ ∃ frac, (∀ d ∈ frac, d.isDigit) ∧ cs = whole ++ '.' :: frac)

/-- `lit` is a literal and no longer front part of `lit ++ rest` is one. -/
def LongestLiteral (lit rest : List Char) : Prop :=
  IsLiteral lit ∧
    ∀ k, lit.length < k → k ≤ lit.length + rest.length → ¬IsLiteral ((lit ++ rest).take k)

theorem point_not_isDigit : ('.' : Char).isDigit = false := by decide

theorem ne_point_of_isDigit {c : Char} (h : c.isDigit) : c ≠ '.' := by
  rintro rfl
  simp [point_not_isDigit] at h

theorem count_point_eq_zero {cs : List Char} (h : ∀ d ∈ cs, d.isDigit) : cs.count '.' = 0 :=
  List.count_eq_zero.mpr fun hp => ne_point_of_isDigit (h _ hp) rfl

/-- A literal starts with a digit, has only digits and points, and at most one point. -/
theorem IsLiteral.shape {cs : List Char} (h : IsLiteral cs) :
    (∃ d ds, cs = d :: ds ∧ d.isDigit) ∧ (∀ c ∈ cs, c.isDigit ∨ c = '.') ∧ cs.count '.' ≤ 1 := by
  obtain ⟨whole, hne, hwhole, hcs⟩ := h
  obtain ⟨d, ds, rfl⟩ := List.exists_cons_of_ne_nil hne
  have hd : d.isDigit := hwhole d (List.mem_cons_self ..)
  rcases hcs with rfl | ⟨frac, hfrac, rfl⟩
  · refine ⟨⟨d, ds, rfl, hd⟩, fun c hc => .inl (hwhole c hc), ?_⟩
    have hw := count_point_eq_zero hwhole
    omega
  · refine ⟨⟨d, ds ++ '.' :: frac, rfl, hd⟩, ?_, ?_⟩
    · intro c hc
      rcases List.mem_append.mp hc with hc | hc
      · exact .inl (hwhole c hc)
      · rcases List.mem_cons.mp hc with rfl | hc
        · exact .inr rfl
        · exact .inl (hfrac c hc)
    · -- the one point is between the whole part and the fraction part
      have hw := count_point_eq_zero hwhole
      have hf := count_point_eq_zero hfrac
      simp only [List.count_append, List.count_cons_self]
      omega

theorem isLiteral_digit {d : Char} (hd : d.isDigit) : IsLiteral [d] :=
  ⟨[d], by simp, by simpa using hd, .inl rfl⟩

/-- A literal followed by a digit is a literal. -/
theorem IsLiteral.append_digit {pre : List Char} {c : Char} (h : IsLiteral pre)
    (hc : c.isDigit) : IsLiteral (pre ++ [c]) := by
  obtain ⟨whole, hne, hwhole, hpre | ⟨frac, hfrac, hpre⟩⟩ := h <;> rw [hpre]
  · refine ⟨whole ++ [c], by simp, ?_, .inl rfl⟩
    intro d hd
    rcases List.mem_append.mp hd with hd | hd
    · exact hwhole d hd
    · rw [List.mem_singleton.mp hd]
      exact hc
  · refine ⟨whole, hne, hwhole, .inr ⟨frac ++ [c], ?_, by simp⟩⟩
    intro d hd
    rcases List.mem_append.mp hd with hd | hd
    · exact hfrac d hd
    · rw [List.mem_singleton.mp hd]
      exact hc

/-- A literal without a point followed by a point is a literal. -/
theorem IsLiteral.append_point {pre : List Char} (h : IsLiteral pre)
    (hpoint : pre.count '.' = 0) : IsLiteral (pre ++ ['.']) := by
  obtain ⟨whole, hne, hwhole, hpre | ⟨frac, -, hpre⟩⟩ := h <;> rw [hpre] at hpoint ⊢
  · exact ⟨whole, hne, hwhole, .inr ⟨[], by simp, rfl⟩⟩
  · simp at hpoint

theorem count_point_append_digit (pre : List Char) {c : Char} (hc : c.isDigit) :
    (pre ++ [c]).count '.' = pre.count '.' := by
  simp [ne_point_of_isDigit hc]

/-- A literal, then a character that is neither a digit nor a point it may still take, is
no literal, whatever follows. -/
theorem not_isLiteral_append_cons {pre more : List Char} {c : Char} (hc : c.isDigit = false)
    (hpoint : c = '.' → pre.count '.' = 1) : ¬IsLiteral (pre ++ c :: more) := by
  intro h
  obtain ⟨-, hall, hcount⟩ := h.shape
  rcases hall c (by simp) with h | rfl
  · simp [hc] at h
  · have := hpoint rfl
    simp at hcount
    omega

/-- A literal followed by a character it cannot take is the longest literal there. -/
theorem longestLiteral_of_blocked {lit rest : List Char} {c : Char} (h : IsLiteral lit)
    (hc : c.isDigit = false) (hpoint : c = '.' → lit.count '.' = 1) :
    LongestLiteral lit (c :: rest) := by
  refine ⟨h, ?_⟩
  intro k hlt hle
  -- a longer front part runs into `c`
  obtain ⟨j, rfl⟩ : ∃ j, k = lit.length + (j + 1) := ⟨k - lit.length - 1, by omega⟩
  rw [List.take_length_add_append, List.take_succ_cons]
  exact not_isLiteral_append_cons hc hpoint

/-- Reading the rest of a literal after its first digit, with the points already read
counted, reads the longest literal. -/
theorem longestLiteral_literalSpan (pre cs : List Char) (seenPoint : Bool)
    (hpre : IsLiteral pre) (hseen : pre.count '.' = if seenPoint then 1 else 0) :
    LongestLiteral (pre ++ (literalSpan cs seenPoint).1) (literalSpan cs seenPoint).2 := by
  -- `pre` is the part of the literal read so far; its points are counted by `seenPoint`
  induction cs generalizing pre seenPoint with
  | nil =>
    refine ⟨by simpa [literalSpan] using hpre, ?_⟩
    intro k hlt hle
    simp [literalSpan] at hlt hle
    omega
  | cons c cs ih =>
    unfold literalSpan
    split
    · -- a digit extends the literal
      next hc =>
      have h := ih (pre ++ [c]) seenPoint (hpre.append_digit hc)
        (by rw [count_point_append_digit pre hc, hseen])
      simpa using h
    · split
      · -- so does the first point
        next hc =>
        simp only [Bool.and_eq_true, beq_iff_eq, Bool.not_eq_true'] at hc
        obtain ⟨rfl, rfl⟩ := hc
        have h := ih (pre ++ ['.']) true (hpre.append_point (by simpa using hseen))
          (by simpa using hseen)
        simpa using h
      · -- anything else ends it
        next hdigit hpoint =>
        rw [List.append_nil]
        apply longestLiteral_of_blocked hpre (by simpa using hdigit)
        rintro rfl
        cases seenPoint
        · simp at hpoint
        · simpa using hseen

/-- Two longest literals at the front of one text are the same. -/
theorem LongestLiteral.unique {a r a' r' : List Char} (h : LongestLiteral a r)
    (h' : LongestLiteral a' r') (he : a ++ r = a' ++ r') : a = a' ∧ r = r' := by
  have hlen : a.length + r.length = a'.length + r'.length := by
    simpa using congrArg List.length he
  -- neither is shorter: the other would then be a longer literal at the front
  have hle : a.length ≤ a'.length := by
    apply Nat.le_of_not_lt
    intro hlt
    apply h'.2 a.length hlt (by omega)
    rw [← he, List.take_left' rfl]
    exact h.1
  have hge : a'.length ≤ a.length := by
    apply Nat.le_of_not_lt
    intro hlt
    apply h.2 a'.length hlt (by omega)
    rw [he, List.take_left' rfl]
    exact h'.1
  exact List.append_inj he (by omega)

/-- After the first digit of a longest literal, `literalSpan` reads the rest of it. -/
theorem literalSpan_of_longestLiteral {d : Char} {tl rest : List Char}
    (h : LongestLiteral (d :: tl) rest) : literalSpan (tl ++ rest) false = (tl, rest) := by
  obtain ⟨⟨d', ds, hcons, hd⟩, -, -⟩ := h.1.shape
  obtain ⟨rfl, -⟩ := List.cons.inj hcons
  have hspan := longestLiteral_literalSpan [d] (tl ++ rest) false (isLiteral_digit hd)
    (by simp [ne_point_of_isDigit hd])
  have hsplit := literalSpan_append (tl ++ rest) false
  obtain ⟨h1, h2⟩ := LongestLiteral.unique hspan h (by simp [hsplit])
  exact Prod.ext (List.cons.inj h1).2 h2

/-! ## One reading step -/

theorem utf8Size_of_isDigit {c : Char} (h : c.isDigit) : c.utf8Size = 1 := by
  rw [Char.utf8Size_eq_one_iff, UInt32.le_iff_toNat_le, Char.toNat_val]
  have h9 : c.toNat ≤ '9'.toNat := (Char.isDigit_iff_toNat.mp h).2
  have : ('9' : Char).toNat = 57 := rfl
  have : (127 : UInt32).toNat = 127 := rfl
  omega

/-- A literal is ASCII: it takes one byte a character. -/
theorem byteSize_of_isLiteral {lit : List Char} (h : IsLiteral lit) : byteSize lit = lit.length := by
  obtain ⟨-, hall, -⟩ := h.shape
  clear h
  induction lit with
  | nil => rfl
  | cons c cs ih =>
    have hc : c.utf8Size = 1 := by
      rcases hall c (List.mem_cons_self ..) with hc | rfl
      · exact utf8Size_of_isDigit hc
      · rfl
    rw [Text.Utf8.byteSize_cons, hc, ih (fun d hd => hall d (List.mem_cons_of_mem c hd)),
      List.length_cons, Nat.add_comm]

theorem isSeparator_eq_false_of_isDigit {c : Char} (h : c.isDigit) : isSeparator c = false := by
  simp only [isSeparator, Bool.or_eq_false_iff, beq_eq_false_iff_ne]
  refine ⟨⟨⟨?_, ?_⟩, ?_⟩, ?_⟩ <;> rintro rfl <;> simp at h

/-- An operator symbol is neither a separator nor a digit, and takes one byte. -/
theorem Operator.symbol_class {c : Char} {op : Operator} (h : Operator.ofChar? c = some op) :
    isSeparator c = false ∧ c.isDigit = false ∧ c.utf8Size = 1 := by
  rw [← Operator.symbol_of_ofChar? h]
  cases op <;> decide

theorem next?_skip {c : Char} (cs : List Char) (pos : Nat) (h : isSeparator c) :
    next? (c :: cs) pos = next? cs (pos + c.utf8Size) := by
  simp [next?, h]

/-- A longest literal is read as one item, its value or its fault. -/
theorem next?_literal {lit rest : List Char} (pos : Nat) (h : LongestLiteral lit rest) :
    next? (lit ++ rest) pos = some (literalItem lit, rest, pos + byteSize lit) := by
  obtain ⟨⟨d, tl, rfl, hd⟩, -, -⟩ := h.1.shape
  rw [byteSize_of_isLiteral h.1, List.cons_append]
  simp only [next?, isSeparator_eq_false_of_isDigit hd, hd, literalSpan_of_longestLiteral h]
  simp only [Bool.false_eq_true, if_false, if_true, List.length_cons]
  rw [Nat.add_assoc, Nat.add_comm 1]

theorem next?_operator {c : Char} {op : Operator} (cs : List Char) (pos : Nat)
    (h : Operator.ofChar? c = some op) :
    next? (c :: cs) pos = some (.ok (.operator op), cs, pos + c.utf8Size) := by
  obtain ⟨hs, hd, -⟩ := Operator.symbol_class h
  simp [next?, hs, hd, h]

theorem next?_unexpected {c : Char} (cs : List Char) (pos : Nat) (hs : isSeparator c = false)
    (hd : c.isDigit = false) (ho : Operator.ofChar? c = none) :
    next? (c :: cs) pos = some (.error (.unexpectedChar c pos), cs, pos + c.utf8Size) := by
  simp [next?, hs, hd, ho]

/-- Reading is one step, then reading the rest. -/
theorem scanFrom_eq (cs : List Char) (pos : Nat) :
    scanFrom cs pos = match next? cs pos with
      | none => []
      | some (item, rest, pos') => item :: scanFrom rest pos' := by
  rw [scanFrom]
  split
  · next h => rw [h]
  · next item rest pos' h => simp only [h]

theorem scanFrom_nil (pos : Nat) : scanFrom [] pos = [] := by
  rw [scanFrom_eq]
  rfl

theorem scanFrom_skip {c : Char} (cs : List Char) (pos : Nat) (h : isSeparator c) :
    scanFrom (c :: cs) pos = scanFrom cs (pos + c.utf8Size) := by
  rw [scanFrom_eq, next?_skip cs pos h, ← scanFrom_eq]

theorem scanFrom_literal {lit rest : List Char} (pos : Nat) (h : LongestLiteral lit rest) :
    scanFrom (lit ++ rest) pos = literalItem lit :: scanFrom rest (pos + byteSize lit) := by
  rw [scanFrom_eq, next?_literal pos h]

theorem scanFrom_operator {c : Char} {op : Operator} (cs : List Char) (pos : Nat)
    (h : Operator.ofChar? c = some op) :
    scanFrom (c :: cs) pos = .ok (.operator op) :: scanFrom cs (pos + c.utf8Size) := by
  rw [scanFrom_eq, next?_operator cs pos h]

theorem scanFrom_unexpected {c : Char} (cs : List Char) (pos : Nat) (hs : isSeparator c = false)
    (hd : c.isDigit = false) (ho : Operator.ofChar? c = none) :
    scanFrom (c :: cs) pos = .error (.unexpectedChar c pos) :: scanFrom cs (pos + c.utf8Size) := by
  rw [scanFrom_eq, next?_unexpected cs pos hs hd ho]

/-! ## The grammar -/

/-- The items the rules of the grammar give a text that starts at byte offset `pos` of the
whole text; each rule takes a front part of the text and hands the rest, and the byte offset
after the part, to the next. -/
inductive Lexes : List Char → Nat → List Item → Prop
  /-- The end of the text gives no item. -/
  | nil (pos : Nat) : Lexes [] pos []
  /-- A separator gives nothing. -/
  | skip {c : Char} {cs : List Char} {pos : Nat} {items : List Item} :
      isSeparator c → Lexes cs (pos + c.utf8Size) items → Lexes (c :: cs) pos items
  /-- The longest literal gives its value when that is finite. -/
  | number {lit rest : List Char} {pos : Nat} {items : List Item} {v : Float} :
      LongestLiteral lit rest → Decimal.readLiteral? lit = some v →
      Lexes rest (pos + byteSize lit) items → Lexes (lit ++ rest) pos (.ok (.number v) :: items)
  /-- The longest literal gives a fault when its value is too large. -/
  | invalidNumber {lit rest : List Char} {pos : Nat} {items : List Item} :
      LongestLiteral lit rest → Decimal.readLiteral? lit = none →
      Lexes rest (pos + byteSize lit) items →
      Lexes (lit ++ rest) pos (.error (.invalidNumber (String.ofList lit)) :: items)
  /-- An operator symbol gives its operator. -/
  | operator {c : Char} {cs : List Char} {pos : Nat} {items : List Item} {op : Operator} :
      Operator.ofChar? c = some op → Lexes cs (pos + c.utf8Size) items →
      Lexes (c :: cs) pos (.ok (.operator op) :: items)
  /-- Any other character gives a fault at its byte offset. -/
  | unexpected {c : Char} {cs : List Char} {pos : Nat} {items : List Item} :
      isSeparator c = false → c.isDigit = false → Operator.ofChar? c = none →
      Lexes cs (pos + c.utf8Size) items →
      Lexes (c :: cs) pos (.error (.unexpectedChar c pos) :: items)

/-- The item `literalItem` gives a longest literal is the one the rules give it. -/
theorem lexes_literal {lit rest : List Char} {pos : Nat} {items : List Item}
    (h : LongestLiteral lit rest) (hrest : Lexes rest (pos + byteSize lit) items) :
    Lexes (lit ++ rest) pos (literalItem lit :: items) := by
  unfold literalItem
  split
  · next v hv => exact .number h hv hrest
  · next hv => exact .invalidNumber h hv hrest

/-- One reading step that finds nothing: the rest of the text is separators. -/
theorem lexes_of_next?_eq_none {cs : List Char} {pos : Nat} (h : next? cs pos = none) :
    Lexes cs pos [] := by
  induction cs generalizing pos with
  | nil => exact .nil pos
  | cons c cs ih =>
    by_cases hs : isSeparator c
    · rw [next?_skip cs pos hs] at h
      exact .skip hs (ih h)
    · -- any other character is read as an item
      simp only [next?, Bool.eq_false_iff.mpr hs, Bool.false_eq_true, if_false] at h
      split at h <;> simp at h

/-- One reading step is one rule of the grammar. -/
theorem lexes_cons_of_next? {cs rest : List Char} {pos pos' : Nat} {item : Item}
    {items : List Item} (h : next? cs pos = some (item, rest, pos'))
    (hrest : Lexes rest pos' items) : Lexes cs pos (item :: items) := by
  -- the cases follow those of `next?`: separators are skipped, so the induction is on the text
  induction cs generalizing pos with
  | nil => simp [next?] at h
  | cons c cs ih =>
    by_cases hs : isSeparator c
    · rw [next?_skip cs pos hs] at h
      exact .skip hs (ih h)
    · by_cases hd : c.isDigit
      · -- the literal `literalSpan` reads is the longest one
        have hlong := longestLiteral_literalSpan [c] cs false (isLiteral_digit hd)
          (by simp [ne_point_of_isDigit hd])
        have hsplit : c :: cs = ([c] ++ (literalSpan cs false).1) ++ (literalSpan cs false).2 := by
          simp [literalSpan_append]
        rw [hsplit, next?_literal pos hlong] at h
        obtain ⟨rfl, rfl, rfl⟩ : _ = item ∧ _ = rest ∧ _ = pos' := by simpa using h
        rw [hsplit]
        exact lexes_literal hlong hrest
      · cases ho : Operator.ofChar? c with
        | some op =>
          rw [next?_operator cs pos ho] at h
          obtain ⟨rfl, rfl, rfl⟩ : _ = item ∧ _ = rest ∧ _ = pos' := by simpa using h
          exact .operator ho hrest
        | none =>
          rw [next?_unexpected cs pos (by simpa using hs) (by simpa using hd) ho] at h
          obtain ⟨rfl, rfl, rfl⟩ : _ = item ∧ _ = rest ∧ _ = pos' := by simpa using h
          exact .unexpected (by simpa using hs) (by simpa using hd) ho hrest

/-- Reading follows the grammar. -/
theorem lexes_scanFrom (cs : List Char) (pos : Nat) : Lexes cs pos (scanFrom cs pos) := by
  fun_induction scanFrom cs pos with
  | case1 cs pos h => exact lexes_of_next?_eq_none h
  | case2 cs pos item rest pos' h _ ih => exact lexes_cons_of_next? h ih

/-- The grammar gives a text one list of items, the one reading finds. -/
theorem scanFrom_of_lexes {cs : List Char} {pos : Nat} {items : List Item}
    (h : Lexes cs pos items) : scanFrom cs pos = items := by
  -- each rule fixes the next reading step
  induction h with
  | nil pos => exact scanFrom_nil pos
  | skip hs _ ih => rw [scanFrom_skip _ _ hs, ih]
  | number hlong hv _ ih => rw [scanFrom_literal _ hlong, ih, literalItem, hv]
  | invalidNumber hlong hv _ ih => rw [scanFrom_literal _ hlong, ih, literalItem, hv]
  | operator ho _ ih => rw [scanFrom_operator _ _ ho, ih]
  | unexpected hs hd ho _ ih => rw [scanFrom_unexpected _ _ hs hd ho, ih]

/-- The items of a text are exactly those the rules of the grammar give it, reading from
byte offset zero. -/
theorem scan_eq_iff_lexes (text : String) (items : List Item) :
    scan text = items ↔ Lexes text.toList 0 items := by
  constructor
  · rintro rfl
    exact lexes_scanFrom text.toList 0
  · exact scanFrom_of_lexes

end StackCalc.Calc
