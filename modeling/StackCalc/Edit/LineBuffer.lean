import StackCalc.Edit.History
import StackCalc.Edit.Viewport
import StackCalc.Text.Utf8

/-!
# The line being edited

A line buffer holds the characters of one line, a cursor between them, the history of
submitted lines and a window onto the line. It is in one of two modes. While editing, every
change of the text is also cached as the draft. Stepping back into the history shows an
entry, and stepping forward past the newest entry brings the draft back; changing a shown
entry makes it the draft. A request out of range is clamped or does nothing.

The line is held in UTF-8 and the edits that change its text address it by byte offset: the
cursor, a count of characters, is turned into the offset of the character there. An offset
that is not a character boundary would stop the program, so these edits give `none` then.
-/

namespace StackCalc.Edit

/-- Whether the buffer holds the draft or shows a history entry. -/
inductive EditMode where
  | editing
  /-- Shows the history entry at this index. -/
  | browsing (index : Nat)
  deriving Repr, DecidableEq, Inhabited

/-- The visible part of a line and the cursor column in it. -/
structure ViewLine where
  text : String
  /-- The cursor column in `text`; it may equal the length of `text`. -/
  cursor : Nat
  deriving Repr, DecidableEq, Inhabited

/-- The visible characters with a marker at the cursor column, or at the end when the cursor
stands after the last character. -/
def ViewLine.marked (v : ViewLine) (marker : Char) : String :=
  let cs := v.text.toList
  if v.cursor < cs.length then String.ofList (cs.take v.cursor ++ marker :: cs.drop v.cursor)
  else String.ofList (cs ++ [marker])

/-- A line being edited. -/
structure LineBuffer where
  content : List Char
  /-- The number of characters before the cursor. -/
  cursor : Nat
  history : History
  mode : EditMode
  /-- The text being written, kept while history entries are shown. -/
  draft : List Char
  viewport : Viewport
  deriving Repr, Inhabited

namespace LineBuffer

/-- An empty buffer whose history keeps up to `capacity` lines. -/
def empty (capacity : Nat) : LineBuffer :=
  ⟨[], 0, History.empty capacity, .editing, [], Viewport.initial⟩

/-- The number of characters of the line. -/
def size (b : LineBuffer) : Nat := b.content.length

/-- The line as text. -/
def text (b : LineBuffer) : String := String.ofList b.content

/-- Whether history entries are being shown. -/
def isBrowsing (b : LineBuffer) : Bool :=
  b.mode != .editing

/-- The history index the buffer stands at: the shown entry, or one past the newest. -/
def historyPointer (b : LineBuffer) : Nat :=
  match b.mode with
  | .editing => b.history.size
  | .browsing i => i

/-- Records the text as the draft and returns to editing; every change of the text does this. -/
def cacheDraft (b : LineBuffer) : LineBuffer :=
  { b with draft := b.content, mode := .editing }

/-- The byte offset of the character at a position of the line, or the size of the line in
bytes past its end. -/
def byteIndex (b : LineBuffer) (k : Nat) : Nat :=
  Text.Utf8.byteIndex b.content k

/-- Inserts text at the cursor and moves the cursor past it. -/
def insert (b : LineBuffer) (s : String) : Option LineBuffer :=
  (Text.Utf8.insertAt? b.content (b.byteIndex b.cursor) s.toList).map fun content =>
    cacheDraft { b with content, cursor := b.cursor + s.length }

/-- Deletes the character before the cursor. -/
def backspace (b : LineBuffer) : Option LineBuffer :=
  if b.cursor = 0 then some (cacheDraft b)
  else
    (Text.Utf8.removeAt? b.content (b.byteIndex (b.cursor - 1))).map fun content =>
      cacheDraft { b with content, cursor := b.cursor - 1 }

/-- Deletes the character after the cursor. -/
def deleteForward (b : LineBuffer) : Option LineBuffer :=
  if b.cursor < b.size then
    (Text.Utf8.removeAt? b.content (b.byteIndex b.cursor)).map fun content =>
      cacheDraft { b with content }
  else some (cacheDraft b)

/-- Deletes everything before the cursor. -/
def deleteToStart (b : LineBuffer) : Option LineBuffer :=
  (Text.Utf8.dropBefore? b.content (b.byteIndex b.cursor)).map fun content =>
    cacheDraft { b with content, cursor := 0 }

/-- Deletes everything from the cursor on. -/
def deleteToEnd (b : LineBuffer) : Option LineBuffer :=
  (Text.Utf8.truncate? b.content (b.byteIndex b.cursor)).map fun content =>
    cacheDraft { b with content }

/-- Empties the line; the history stays. -/
def clear (b : LineBuffer) : LineBuffer :=
  cacheDraft { b with content := [], cursor := 0 }

/-- Moves the cursor by `delta` characters, stopping at either end of the line. -/
def moveBy (b : LineBuffer) (delta : Int) : LineBuffer :=
  { b with cursor := if delta < 0 then b.cursor - delta.natAbs
                     else min (b.cursor + delta.toNat) b.size }

/-- Moves the cursor before the first character. -/
def moveToStart (b : LineBuffer) : LineBuffer := { b with cursor := 0 }

/-- Moves the cursor after the last character. -/
def moveToEnd (b : LineBuffer) : LineBuffer := { b with cursor := b.size }

/-- Replaces the text and puts the cursor at its end. -/
def load (b : LineBuffer) (cs : List Char) : LineBuffer :=
  { b with content := cs, cursor := cs.length }

/-- Shows the history entry at an index. -/
def showEntry (b : LineBuffer) (i : Nat) : LineBuffer :=
  { b with mode := .browsing i }.load ((b.history.get? i).getD "").toList

/-- Shows the next older history entry; the draft is cached on leaving editing. -/
def historyPrev (b : LineBuffer) : LineBuffer :=
  match b.mode with
  | .editing => if b.history.isEmpty then b else { b with draft := b.content }.showEntry (b.history.size - 1)
  | .browsing 0 => b
  | .browsing (i + 1) => b.showEntry i

/-- Shows the next newer history entry, or the draft past the newest. -/
def historyNext (b : LineBuffer) : LineBuffer :=
  match b.mode with
  | .editing => b
  | .browsing i =>
    if b.history.size ≤ i + 1 then { b with mode := .editing }.load b.draft
    else b.showEntry (i + 1)

/-- Submits the line: it goes into the history, and the buffer is emptied and returns to
editing with an empty draft and window. -/
def commit (b : LineBuffer) : LineBuffer × String :=
  let line := b.text
  ({ content := [], cursor := 0, history := (b.history.push line).1, mode := .editing,
     draft := [], viewport := Viewport.initial }, line)

/-- Scrolls the window so the cursor shows in `width` columns. -/
def recomputeViewport (b : LineBuffer) (width : Nat) : LineBuffer :=
  { b with viewport := b.viewport.scrollIntoView b.cursor b.size width }

/-- Scrolls the window and gives the visible part of the line. -/
def view (b : LineBuffer) (width : Nat) : LineBuffer × ViewLine :=
  let b := b.recomputeViewport width
  let v := b.viewport
  (b, ⟨String.ofList ((b.content.drop v.left).take (v.right - v.left)), b.cursor - v.left⟩)

/-! The edits at byte offsets are the edits of the character list: the offset of the cursor
is a character boundary, with the characters before the cursor in front of it. -/

theorem insert_eq (b : LineBuffer) (s : String) :
    b.insert s = some (cacheDraft { b with
      content := b.content.take b.cursor ++ s.toList ++ b.content.drop b.cursor
      cursor := b.cursor + s.length }) := by
  simp [insert, byteIndex, Text.Utf8.insertAt?_byteIndex]

/-- Backspace takes out the character before the cursor; it stops the program only when the
cursor stands past the end of the line. -/
theorem backspace_eq (b : LineBuffer) (h : b.cursor ≤ b.size) :
    b.backspace = some (if b.cursor = 0 then cacheDraft b else cacheDraft { b with
      content := b.content.take (b.cursor - 1) ++ b.content.drop b.cursor
      cursor := b.cursor - 1 }) := by
  unfold backspace
  split
  · rfl
  · next h0 =>
    have hlt : b.cursor - 1 < b.content.length := by
      unfold size at h
      omega
    rw [byteIndex, Text.Utf8.removeAt?_byteIndex, if_pos hlt, Nat.sub_add_cancel (by omega)]
    rfl

theorem deleteForward_eq (b : LineBuffer) :
    b.deleteForward = some (cacheDraft (if b.cursor < b.size then
      { b with content := b.content.take b.cursor ++ b.content.drop (b.cursor + 1) } else b)) := by
  unfold deleteForward
  split
  · next h =>
    rw [byteIndex, Text.Utf8.removeAt?_byteIndex, if_pos (show b.cursor < b.content.length from h)]
    rfl
  · rfl

theorem deleteToStart_eq (b : LineBuffer) :
    b.deleteToStart = some (cacheDraft { b with content := b.content.drop b.cursor, cursor := 0 }) := by
  simp [deleteToStart, byteIndex, Text.Utf8.dropBefore?_byteIndex]

theorem deleteToEnd_eq (b : LineBuffer) :
    b.deleteToEnd = some (cacheDraft { b with content := b.content.take b.cursor }) := by
  simp [deleteToEnd, byteIndex, Text.Utf8.truncate?_byteIndex]

end LineBuffer

end StackCalc.Edit
