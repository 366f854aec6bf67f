import StackCalc.Text.Blank

/-!
# History of submitted lines

The history keeps submitted lines, oldest first, up to a capacity. A blank line is not kept,
nor a line equal to the newest one; when the history is full the oldest line makes room.
A history of capacity zero keeps nothing.
-/

namespace StackCalc.Edit

/-- The capacity a history has unless one is chosen. -/
def defaultHistoryCapacity : Nat := 50

/-- Submitted lines, oldest first, at most `capacity` of them. -/
structure History where
  entries : List String
  capacity : Nat
  deriving Repr, Inhabited

namespace History

/-- The empty history of a capacity. -/
def empty (capacity : Nat) : History := ⟨[], capacity⟩

/-- The number of lines kept. -/
def size (h : History) : Nat := h.entries.length

/-- Whether no line is kept. -/
def isEmpty (h : History) : Bool := h.entries.isEmpty

/-- The line at an index, oldest first. -/
def get? (h : History) (i : Nat) : Option String := h.entries[i]?

/-- The newest line. -/
def last? (h : History) : Option String := h.entries.getLast?

/-- Whether a line would be kept: it is not blank, the capacity is not zero, and it differs
from the newest line. -/
def accepts (h : History) (line : String) : Bool :=
  !Text.isBlankText line && h.capacity != 0 && h.last? != some line

/-- Submits a line; the flag says whether it was kept. -/
def push (h : History) (line : String) : History × Bool :=
  if h.accepts line then
    let kept := if h.capacity ≤ h.entries.length then h.entries.drop 1 else h.entries
    (⟨kept ++ [line], h.capacity⟩, true)
  else (h, false)

end History

end StackCalc.Edit
