/-!
# Blank characters

A character is blank when it has the Unicode White_Space property: the ASCII controls tab
to carriage return, space, next line, no-break space, ogham space mark, the eleven spaces
from en quad to hair space, the line and paragraph separators, narrow no-break space,
medium mathematical space and ideographic space. Trimming removes blank characters at
both ends of a text.
-/

namespace StackCalc.Text

/-- Whether a character has the Unicode White_Space property. -/
def isBlank (c : Char) : Bool :=
  let n := c.toNat
  (9 ≤ n && n ≤ 13) || n == 0x20 || n == 0x85 || n == 0xA0 || n == 0x1680 ||
    (0x2000 ≤ n && n ≤ 0x200A) || n == 0x2028 || n == 0x2029 || n == 0x202F ||
    n == 0x205F || n == 0x3000

/-- The characters with blanks removed at both ends. -/
def trimBlankChars (cs : List Char) : List Char :=
  ((cs.dropWhile isBlank).reverse.dropWhile isBlank).reverse

/-- A text with blanks removed at both ends. -/
def trimBlank (s : String) : String :=
  String.ofList (trimBlankChars s.toList)

/-- Whether a text holds only blank characters. -/
def isBlankText (s : String) : Bool :=
  s.toList.all isBlank

/-- Every character that core calls whitespace is blank. -/
theorem isBlank_of_isWhitespace {c : Char} (h : c.isWhitespace = true) : isBlank c = true := by
  simp only [Char.isWhitespace, Bool.or_eq_true, decide_eq_true_eq] at h
  rcases h with ((h | h) | h) | h <;> subst h <;> decide

end StackCalc.Text
