import StackCalc.Decimal.Fixed
import StackCalc.Edit.LineBuffer

/-!
# Frames of the full-screen editor

A frame is the screen as lines of text and a cursor position. Its first line is the prompt
and the visible part of the input, tabs drawn as spaces; then the end of the last output and
the stack strip, both cut to the prompt's length plus the line width; then an empty line and
the help text. The cursor stands on the first line after the prompt, at the cursor column of
the visible input.

The stack strip shows the newest values that fit, oldest first, each with two places
between brackets; when older values are left out, `...` stands in front. Room for the `...`
and its space is always kept.
-/

namespace StackCalc.Screen

/-- The help shown under the stack unless the full help was asked for. -/
def shortHelp : String :=
  "pop:   pop last element from stack\nlist:  show stack\nreset: reset stack\nquit:  quit"

/-- Values in the stack strip: two places, a tie to even; `NaN`, `inf`, `-inf`. -/
def stripNotation : Decimal.FixedNotation := ⟨2, "NaN", "inf"⟩

/-- The text of the strip for an empty stack. -/
def emptyStackText : String := "EMPTY"

/-- Stands for the values left out of the strip. -/
def ellipsis : String := "..."

/-- The screen as lines and a cursor position. -/
structure Frame where
  lines : List String
  /-- Column and row of the cursor. -/
  cursor : Nat × Nat
  deriving Repr, DecidableEq, Inhabited

/-- The last `width` characters of a text. -/
def tailChars (text : String) (width : Nat) : String :=
  let cs := text.toList
  String.ofList (cs.drop (cs.length - width))

/-- The parts of the strip that fit in `width` columns, newest first, and whether some did
not fit; `used` columns are taken by the parts so far. -/
def stripParts (width : Nat) : List String → Nat → List String → List String × Bool
  | [], _, acc => (acc, false)
  | p :: rest, used, acc =>
    let needed := used + p.length + (if acc.isEmpty then 0 else 1)
    if width < needed + ellipsis.length + 1 then (acc, true)
    else stripParts width rest needed (acc ++ [p])

/-- The stack strip of values, the bottom one first, in `width` columns. -/
def stackStrip (values : List Float) (width : Nat) : String :=
  if values.isEmpty then emptyStackText
  else
    let parts := values.reverse.map fun v => "[" ++ stripNotation.render v ++ "]"
    let (shown, truncated) := stripParts width parts 0 []
    let shown := if truncated then shown ++ [ellipsis] else shown
    " ".intercalate shown.reverse

/-- The lines of a text: split at line feeds, a carriage return before a line feed dropped,
and no line after a final line feed. A carriage return that ends the text stays. -/
def textLines (text : String) : List String :=
  let rec go : List String → List String
    | [] => []
    | [""] => []
    | [p] => [p]
    | p :: rest => (if p.endsWith "\r" then String.ofList p.toList.dropLast else p) :: go rest
  go (text.splitOn "\n")

/-- The largest cursor column a frame holds. -/
def maxColumn : Nat := 65535

/-- Composes a frame from the prompt, the visible input, the last output, the stack values
(bottom first), the line width and the help text. -/
def composeFrame (prompt : String) (input : Edit.ViewLine) (output : String)
    (stack : List Float) (width : Nat) (help : String) : Frame :=
  let promptLength := prompt.length
  let inputText := String.ofList (input.text.toList.map fun c => if c = '\t' then ' ' else c)
  let lines := [prompt ++ inputText, tailChars output (promptLength + width),
    stackStrip stack (promptLength + width), ""] ++ textLines help
  ⟨lines, (min (promptLength + input.cursor) maxColumn, 0)⟩

/-- Composes a frame as `composeFrame` does, forming in machine words the prompt's length
plus the width and plus the cursor; a sum that does not fit stops the composing. -/
def composeFrame? (prompt : String) (input : Edit.ViewLine) (output : String)
    (stack : List Float) (width : Nat) (help : String) : Except Overflow Frame := do
  let _ ← addWithin wordBound prompt.length width
  let _ ← addWithin wordBound prompt.length input.cursor
  return composeFrame prompt input output stack width help

end StackCalc.Screen
