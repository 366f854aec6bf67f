/-!
# Control characters

A control character is one of the Unicode general category Cc: the C0 controls up to
U+001F, delete, and the C1 controls U+0080 to U+009F.
-/

namespace StackCalc.Text

/-- Whether a character is a control character (category Cc). -/
def isControl (c : Char) : Bool :=
  c.toNat < 0x20 || (0x7F ≤ c.toNat && c.toNat ≤ 0x9F)

end StackCalc.Text
