import StackCalc.Edit.Key

/-!
# Terminal input

A terminal sends keys as characters: printable characters stand for themselves, carriage
return and line feed for enter, tab for tab, delete and backspace for backspace, the
controls `^A` to `^Z` for control letters, and escape sequences for the arrows, home, end,
delete and the page keys. Escape before another character is that character with meta
held; escape alone is the escape key.
-/

namespace StackCalc.Screen

open Edit

/-- The key a control character stands for, if a letter's. -/
def controlLetter? (c : Char) : Option Key :=
  if 1 ≤ c.toNat ∧ c.toNat ≤ 26 then some (.ctrl (Char.ofNat (c.toNat + 0x60))) else none

/-- The key events of the characters a terminal sent. -/
def decodeInput : List Char → List InputEvent
  | [] => []
  | '\x1b' :: '[' :: 'A' :: r => ⟨.up, false, false, false⟩ :: decodeInput r
  | '\x1b' :: '[' :: 'B' :: r => ⟨.down, false, false, false⟩ :: decodeInput r
  | '\x1b' :: '[' :: 'C' :: r => ⟨.right, false, false, false⟩ :: decodeInput r
  | '\x1b' :: '[' :: 'D' :: r => ⟨.left, false, false, false⟩ :: decodeInput r
  | '\x1b' :: '[' :: 'H' :: r => ⟨.home, false, false, false⟩ :: decodeInput r
  | '\x1b' :: '[' :: 'F' :: r => ⟨.end, false, false, false⟩ :: decodeInput r
  | '\x1b' :: '[' :: '3' :: '~' :: r => ⟨.delete, false, false, false⟩ :: decodeInput r
  | '\x1b' :: '[' :: '5' :: '~' :: r => ⟨.pageUp, false, false, false⟩ :: decodeInput r
  | '\x1b' :: '[' :: '6' :: '~' :: r => ⟨.pageDown, false, false, false⟩ :: decodeInput r
  | ['\x1b'] => [⟨.esc, false, false, false⟩]
  | '\x1b' :: c :: r => ⟨.alt c.toLower, false, true, false⟩ :: decodeInput r
  | '\r' :: r => ⟨.enter, false, false, false⟩ :: decodeInput r
  | '\n' :: r => ⟨.enter, false, false, false⟩ :: decodeInput r
  | '\t' :: r => ⟨.tab, false, false, false⟩ :: decodeInput r
  | '\x7f' :: r => ⟨.backspace, false, false, false⟩ :: decodeInput r
  | '\x08' :: r => ⟨.backspace, false, false, false⟩ :: decodeInput r
  | c :: r =>
    match controlLetter? c with
    | some k => ⟨k, false, false, true⟩ :: decodeInput r
    | none => ⟨.char c, false, false, false⟩ :: decodeInput r

end StackCalc.Screen
