import StackCalc.Edit.Key

/-!
# Terminal key codes

A terminal reports a key as a code, modifier flags and whether it was pressed, repeated or
released. Releases are dropped. A character with control alone held is a control key, with
meta alone a meta key (both in ASCII lowercase), and otherwise the character itself; back
tab is tab, and codes without a key of their own (function keys, insert, caps lock, null)
are the null key.
-/

namespace StackCalc.Screen

/-- The key codes a terminal reports. -/
inductive KeyCode where
  | char (c : Char)
  | function (n : Nat)
  | backspace
  | enter
  | left
  | right
  | up
  | down
  | home
  | «end»
  | pageUp
  | pageDown
  | tab
  | backTab
  | delete
  | insert
  | esc
  | null
  | capsLock
  deriving Repr, DecidableEq, Inhabited

/-- Whether a key was pressed, repeated or released. -/
inductive KeyKind where
  | press
  | repeat
  | release
  deriving Repr, DecidableEq, Inhabited

/-- The modifier flags a terminal reports. -/
structure Modifiers where
  shift : Bool := false
  ctrl : Bool := false
  alt : Bool := false
  super : Bool := false
  deriving Repr, DecidableEq, Inhabited

/-- The editor's key for a terminal key code. -/
def KeyCode.toKey (code : KeyCode) (m : Modifiers) : Edit.Key :=
  match code with
  | .char c =>
    if m.ctrl && !m.alt then .ctrl c.toLower
    else if m.alt && !m.ctrl then .alt c.toLower
    else .char c
  | .backspace => .backspace
  | .enter => .enter
  | .left => .left
  | .right => .right
  | .up => .up
  | .down => .down
  | .home => .home
  | .end => .end
  | .pageUp => .pageUp
  | .pageDown => .pageDown
  | .tab => .tab
  | .backTab => .tab
  | .delete => .delete
  | .esc => .esc
  | .function _ => .null
  | .insert => .null
  | .null => .null
  | .capsLock => .null

/-- The editor's event for a terminal key report; none for a release. -/
def keyEvent? (code : KeyCode) (m : Modifiers) (kind : KeyKind) : Option Edit.InputEvent :=
  if kind = .release then none
  else some { key := code.toKey m, shift := m.shift, alt := m.alt, ctrl := m.ctrl }

end StackCalc.Screen
