import StackCalc.Proofs.LineInvariant

/-!
# The line buffer edits its characters

A line buffer holds its line in UTF-8 and edits it at byte offsets. Specified on the line as
a list of characters with a cursor, the edits and cursor moves are the plain list operations
of `CharLine`: insertion at the cursor, deletion on either side of it or to either end,
clearing, and cursor moves clamped to the line.

Main statement (`edits_refine_charLine`): on every reachable buffer, each edit succeeds and
gives exactly the characters and cursor of the list operation, and so does each cursor move,
whatever the characters (multi-byte ones included) and whatever the move (any signed
distance). The byte offset the buffer computes for the cursor is the boundary after the
characters before it (`Text.Utf8.splitAt?_byteIndex`); the cursor stands within the line on
every reachable buffer (`Reachable.invariant`), which backspace and moving back need.
-/

namespace StackCalc.Edit

/-- A line as its characters and a cursor between them. -/
structure CharLine where
  chars : List Char
  cursor : Nat
  deriving DecidableEq, Repr

namespace CharLine

/-- Inserts characters at the cursor and moves the cursor past them. -/
def insert (l : CharLine) (t : List Char) : CharLine :=
  ⟨l.chars.take l.cursor ++ t ++ l.chars.drop l.cursor, l.cursor + t.length⟩

/-- Deletes the character before the cursor, if any. -/
def backspace (l : CharLine) : CharLine :=
  if 0 < l.cursor then ⟨l.chars.take (l.cursor - 1) ++ l.chars.drop l.cursor, l.cursor - 1⟩
  else l

/-- Deletes the character after the cursor, if any. -/
def deleteForward (l : CharLine) : CharLine :=
  if l.cursor < l.chars.length then
    ⟨l.chars.take l.cursor ++ l.chars.drop (l.cursor + 1), l.cursor⟩
  else l

/-- Deletes the characters before the cursor. -/
def deleteToStart (l : CharLine) : CharLine := ⟨l.chars.drop l.cursor, 0⟩

/-- Deletes the characters after the cursor. -/
def deleteToEnd (l : CharLine) : CharLine := ⟨l.chars.take l.cursor, l.cursor⟩

/-- The empty line. -/
def clear : CharLine := ⟨[], 0⟩

/-- Moves the cursor by `delta`, clamped to `[0, length]`. -/
def moveBy (l : CharLine) (delta : Int) : CharLine :=
  ⟨l.chars, min ((l.cursor : Int) + delta).toNat l.chars.length⟩

def moveToStart (l : CharLine) : CharLine := ⟨l.chars, 0⟩

def moveToEnd (l : CharLine) : CharLine := ⟨l.chars, l.chars.length⟩

end CharLine

namespace LineBuffer

/-- The characters and the cursor of a buffer. -/
def line (b : LineBuffer) : CharLine := ⟨b.content, b.cursor⟩

variable {b : LineBuffer}

theorem insert_line (b : LineBuffer) (t : String) :
    (b.insert t).map line = some (b.line.insert t.toList) := by
  rw [insert_eq]
  simp [line, cacheDraft, CharLine.insert, String.length_toList]

theorem backspace_line (h : b.cursor ≤ b.size) : b.backspace.map line = some b.line.backspace := by
  rw [backspace_eq b h]
  by_cases h0 : b.cursor = 0
  · simp [h0, line, cacheDraft, CharLine.backspace]
  · simp [h0, line, cacheDraft, CharLine.backspace, Nat.pos_of_ne_zero h0]

theorem deleteForward_line (b : LineBuffer) : b.deleteForward.map line = some b.line.deleteForward := by
  rw [deleteForward_eq]
  -- both sides test the cursor against the length of the line
  by_cases hk : b.cursor < b.content.length
  · simp [hk, size, line, cacheDraft, CharLine.deleteForward]
  · simp [hk, size, line, cacheDraft, CharLine.deleteForward]

theorem deleteToStart_line (b : LineBuffer) :
    b.deleteToStart.map line = some b.line.deleteToStart := by
  simp [deleteToStart_eq, line, cacheDraft, CharLine.deleteToStart]

theorem deleteToEnd_line (b : LineBuffer) : b.deleteToEnd.map line = some b.line.deleteToEnd := by
  simp [deleteToEnd_eq, line, cacheDraft, CharLine.deleteToEnd]

/-- A move within the line is the clamped sum; moving back stops at the start, moving on at
the end of the line. -/
theorem moveBy_line (h : b.cursor ≤ b.size) (d : Int) : (b.moveBy d).line = b.line.moveBy d := by
  simp only [moveBy, line, CharLine.moveBy, CharLine.mk.injEq, true_and]
  simp only [size] at h ⊢
  split <;> omega

/-- On every reachable buffer, each edit succeeds and gives the characters and cursor of the
list operation, and so does each cursor move, for any inserted text and any distance. -/
theorem edits_refine_charLine {n : Nat} (hb : b.Reachable n) (t : String) (d : Int) :
    (b.insert t).map line = some (b.line.insert t.toList) ∧
      b.backspace.map line = some b.line.backspace ∧
      b.deleteForward.map line = some b.line.deleteForward ∧
      b.deleteToStart.map line = some b.line.deleteToStart ∧
      b.deleteToEnd.map line = some b.line.deleteToEnd ∧
      b.clear.line = CharLine.clear ∧
      (b.moveBy d).line = b.line.moveBy d ∧
      b.moveToStart.line = b.line.moveToStart ∧
      b.moveToEnd.line = b.line.moveToEnd := by
  have hk := hb.invariant.cursor_le
  exact ⟨insert_line b t, backspace_line hk, deleteForward_line b, deleteToStart_line b,
    deleteToEnd_line b, rfl, moveBy_line hk d, rfl, rfl⟩

/-- The theorem at the buffer after typing `2·3`, whose middle character takes two bytes,
inserting `é` and moving back past the start. -/
theorem edits_refine_charLine_after_typing :
    let b := ((LineBuffer.empty 2).insert "2·3").getD (LineBuffer.empty 2)
    b.Reachable 2 ∧
      ((b.insert "é").map line = some (b.line.insert "é".toList) ∧
        b.backspace.map line = some b.line.backspace ∧
        b.deleteForward.map line = some b.line.deleteForward ∧
        b.deleteToStart.map line = some b.line.deleteToStart ∧
        b.deleteToEnd.map line = some b.line.deleteToEnd ∧
        b.clear.line = CharLine.clear ∧
        (b.moveBy (-5)).line = b.line.moveBy (-5) ∧
        b.moveToStart.line = b.line.moveToStart ∧
        b.moveToEnd.line = b.line.moveToEnd) := by
  intro b
  have hstep : (LineBuffer.empty 2).serve? (.insert "2·3") = some b := by
    simp only [b, serve?, insert_eq, Option.getD_some]
  have hb : b.Reachable 2 := Reachable.step Reachable.empty hstep
  exact ⟨hb, edits_refine_charLine hb "é" (-5)⟩

end LineBuffer

end StackCalc.Edit
