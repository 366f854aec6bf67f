/-!
# Byte offsets into UTF-8 text

Text is held in UTF-8, where each character takes one to four bytes. A byte offset that falls
before a character's first byte, or at the end of the text, is a character boundary. The
operations below address text by byte offset: they split the text at the offset, and an
offset that is not a boundary stops the program, which is `none` here. Removing the
character at the end of the text stops it too.

`byteIndex cs k` is the offset of the character at position `k`, or the size of the text in
bytes when it has no character there. It is always a boundary: splitting there gives the
first `k` characters and the rest (`splitAt?_byteIndex`), so each operation at that offset is
the matching edit of the character list.
-/

namespace StackCalc.Text.Utf8

/-- The number of bytes the characters take. -/
def byteSize : List Char → Nat
  | [] => 0
  | c :: cs => c.utf8Size + byteSize cs

/-- Each character with the byte offset it starts at, the first one at `start`. -/
def charIndicesFrom : List Char → Nat → List (Nat × Char)
  | [], _ => []
  | c :: cs, start => (start, c) :: charIndicesFrom cs (start + c.utf8Size)

/-- Each character with the byte offset it starts at. -/
def charIndices (cs : List Char) : List (Nat × Char) := charIndicesFrom cs 0

/-- The byte offset of the character at position `k`, or the size of the text when there is
no character there. -/
def byteIndex (cs : List Char) (k : Nat) : Nat :=
  match (charIndices cs)[k]? with
  | some (i, _) => i
  | none => byteSize cs

/-- Splits the text at a byte offset into the characters before it and those from it on;
`none` when the offset is not a character boundary. -/
def splitAt? : List Char → Nat → Option (List Char × List Char)
  | cs, 0 => some ([], cs)
  | [], _ + 1 => none
  | c :: cs, i + 1 =>
    if c.utf8Size ≤ i + 1 then
      (splitAt? cs (i + 1 - c.utf8Size)).map fun (front, back) => (c :: front, back)
    else none

/-- Inserts text at a byte offset. -/
def insertAt? (cs : List Char) (i : Nat) (t : List Char) : Option (List Char) :=
  (splitAt? cs i).map fun (front, back) => front ++ t ++ back

/-- Removes the character that starts at a byte offset; there is none to remove at the end. -/
def removeAt? (cs : List Char) (i : Nat) : Option (List Char) :=
  match splitAt? cs i with
  | some (front, _ :: back) => some (front ++ back)
  | _ => none

/-- Drops the bytes before an offset. -/
def dropBefore? (cs : List Char) (i : Nat) : Option (List Char) :=
  (splitAt? cs i).map (·.2)

/-- Shortens the text to a number of bytes; a number at least the text's size leaves it. -/
def truncate? (cs : List Char) (i : Nat) : Option (List Char) :=
  if byteSize cs ≤ i then some cs else (splitAt? cs i).map (·.1)

@[simp] theorem byteSize_nil : byteSize [] = 0 := rfl

@[simp] theorem byteSize_cons (c : Char) (cs : List Char) :
    byteSize (c :: cs) = c.utf8Size + byteSize cs := rfl

@[simp] theorem byteSize_append (a b : List Char) : byteSize (a ++ b) = byteSize a + byteSize b := by
  induction a with
  | nil => simp
  | cons c a ih => rw [List.cons_append, byteSize_cons, byteSize_cons, ih, Nat.add_assoc]

theorem utf8ByteSize_ofList (cs : List Char) : (String.ofList cs).utf8ByteSize = byteSize cs := by
  induction cs with
  | nil => rfl
  | cons c cs ih => simp [String.utf8ByteSize_append, String.utf8ByteSize_singleton, ih]

/-- The bytes of a text's characters are the bytes of the text. -/
theorem byteSize_toList (s : String) : byteSize s.toList = s.utf8ByteSize := by
  rw [← utf8ByteSize_ofList, String.ofList_toList]

/-- The character at position `k` starts after the bytes of the `k` characters before it. -/
theorem getElem?_charIndicesFrom (cs : List Char) (start k : Nat) :
    (charIndicesFrom cs start)[k]? = cs[k]?.map fun c => (start + byteSize (cs.take k), c) := by
  induction cs generalizing start k with
  | nil => rfl
  | cons c cs ih =>
    cases k with
    | zero => simp [charIndicesFrom]
    | succ k =>
      simp only [charIndicesFrom, List.getElem?_cons_succ, ih, List.take_succ_cons, byteSize_cons]
      congr
      funext d
      congr 1
      omega

/-- The offset of a position is the size of the text before it, also past the end. -/
theorem byteIndex_eq (cs : List Char) (k : Nat) : byteIndex cs k = byteSize (cs.take k) := by
  unfold byteIndex charIndices
  rw [getElem?_charIndicesFrom]
  cases h : cs[k]? with
  | none =>
    have hk : cs.length ≤ k := List.getElem?_eq_none_iff.mp h
    simp [List.take_of_length_le hk]
  | some c => simp

/-- A character of no more bytes than the offset is kept in front, and the rest is split. -/
theorem splitAt?_cons {c : Char} {i : Nat} (cs : List Char) (h : c.utf8Size ≤ i) :
    splitAt? (c :: cs) i = (splitAt? cs (i - c.utf8Size)).map fun p => (c :: p.1, p.2) := by
  obtain ⟨j, rfl⟩ : ∃ j, i = j + 1 := ⟨i - 1, by have := c.utf8Size_pos; omega⟩
  simp [splitAt?, h]

/-- Splitting after the bytes of a front part gives that part back. -/
theorem splitAt?_byteSize_append (front back : List Char) :
    splitAt? (front ++ back) (byteSize front) = some (front, back) := by
  induction front with
  | nil => cases back <;> rfl
  | cons c front ih =>
    rw [List.cons_append, byteSize_cons, splitAt?_cons _ (Nat.le_add_right _ _),
      Nat.add_sub_cancel_left, ih]
    rfl

/-- The offset of a position is a boundary, with the characters before the position in
front. -/
theorem splitAt?_byteIndex (cs : List Char) (k : Nat) :
    splitAt? cs (byteIndex cs k) = some (cs.take k, cs.drop k) := by
  have h := splitAt?_byteSize_append (cs.take k) (cs.drop k)
  rwa [List.take_append_drop, ← byteIndex_eq] at h

theorem insertAt?_byteIndex (cs : List Char) (k : Nat) (t : List Char) :
    insertAt? cs (byteIndex cs k) t = some (cs.take k ++ t ++ cs.drop k) := by
  simp [insertAt?, splitAt?_byteIndex]

/-- Removing at the offset of a position takes out the character there, and stops the
program when the position is past the last character. -/
theorem removeAt?_byteIndex (cs : List Char) (k : Nat) :
    removeAt? cs (byteIndex cs k) =
      if k < cs.length then some (cs.take k ++ cs.drop (k + 1)) else none := by
  unfold removeAt?
  rw [splitAt?_byteIndex]
  by_cases hk : k < cs.length
  · rw [List.drop_eq_getElem_cons hk, if_pos hk]
  · rw [List.drop_eq_nil_of_le (Nat.le_of_not_lt hk), if_neg hk]

theorem dropBefore?_byteIndex (cs : List Char) (k : Nat) :
    dropBefore? cs (byteIndex cs k) = some (cs.drop k) := by
  simp [dropBefore?, splitAt?_byteIndex]

theorem truncate?_byteIndex (cs : List Char) (k : Nat) :
    truncate? cs (byteIndex cs k) = some (cs.take k) := by
  unfold truncate?
  split
  · next h =>
    rw [byteIndex_eq] at h
    have hsize : byteSize cs = byteSize (cs.take k) + byteSize (cs.drop k) := by
      rw [← byteSize_append, List.take_append_drop]
    -- every character takes a byte, so no bytes after the position means no characters
    have hdrop : cs.drop k = [] := by
      cases hd : cs.drop k with
      | nil => rfl
      | cons d ds =>
        rw [hd, byteSize_cons] at hsize
        have := d.utf8Size_pos
        omega
    rw [← List.take_append_drop k cs, hdrop, List.append_nil, List.take_take, Nat.min_self]
  · simp [splitAt?_byteIndex]

end StackCalc.Text.Utf8
