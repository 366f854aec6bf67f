import StackCalc.Screen.Frame

/-!
# Drawing a frame

A frame is drawn as terminal control sequences: hide the cursor, clear the screen, then for
each line move to its row's first column and write it, move the cursor to its place, and
show the cursor again. Rows and columns in the sequences count from one, and are formed as
screen coordinates: a row or column at the last coordinate has no successor, so moving there
stops the drawing. Rows past the last coordinate are taken as the last.
-/

namespace StackCalc.Screen

/-- The escape character. -/
def escape : String := String.singleton (Char.ofNat 27)

/-- The last screen coordinate. -/
def lastCoordinate : Nat := coordinateBound - 1

/-- Moves the cursor to a column and row, counted from zero. -/
def moveTo (column row : Nat) : Except Overflow String := do
  let row ← addWithin coordinateBound row 1
  let column ← addWithin coordinateBound column 1
  return escape ++ "[" ++ toString row ++ ";" ++ toString column ++ "H"

/-- The control sequences that draw a frame. -/
def Frame.draw (f : Frame) : Except Overflow String := do
  let rows := (List.range f.lines.length).zip f.lines
  let body ← rows.mapM fun (i, line) => do
    return (← moveTo 0 (min i lastCoordinate)) ++ line
  return escape ++ "[?25l" ++ escape ++ "[2J" ++ String.join body ++
    (← moveTo f.cursor.1 f.cursor.2) ++ escape ++ "[?25h"

end StackCalc.Screen
