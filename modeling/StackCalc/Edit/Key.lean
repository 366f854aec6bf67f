import StackCalc.Text.Control

/-!
# Keys and binding notation

A key is a character, possibly with control or meta held, or one of the named keys. Binding
notation writes `^a` or `C-a` for control and `M-a` or `ESC-a` for meta (the letter taken in
ASCII lowercase), a key name in any ASCII case (`Enter`, `RET`, `PgUp`, …), or a single
character for itself. A key event adds the modifier flags, and it inserts a character only
when it is a character key without control or meta and not a control character.
-/

namespace StackCalc.Edit

/-- A key of the keyboard. -/
inductive Key where
  | char (c : Char)
  | ctrl (c : Char)
  | alt (c : Char)
  | esc
  | enter
  | backspace
  | tab
  | delete
  | home
  | «end»
  | pageUp
  | pageDown
  | up
  | down
  | left
  | right
  | null
  deriving Repr, DecidableEq, Inhabited

/-- Why a binding does not take effect. -/
inductive BindingError where
  /-- The key notation names no key. -/
  | unknownKey (text : String)
  /-- The command name names no command. -/
  | unknownCommand (name : String)
  deriving Repr, DecidableEq, Inhabited

/-- The text of a binding error. -/
def BindingError.message : BindingError → String
  | .unknownKey text => "Unknown key: " ++ text
  | .unknownCommand name => "Unknown command: " ++ name

namespace Key

/-- How a key is shown. -/
def display : Key → String
  | .char c => String.singleton c
  | .ctrl c => "C-" ++ String.singleton c
  | .alt c => "M-" ++ String.singleton c
  | .esc => "ESC"
  | .enter => "RET"
  | .backspace => "BS"
  | .tab => "TAB"
  | .delete => "DEL"
  | .home => "Home"
  | .end => "End"
  | .pageUp => "PgUp"
  | .pageDown => "PgDn"
  | .up => "↑"
  | .down => "↓"
  | .left => "←"
  | .right => "→"
  | .null => "NUL"

/-- The character of a text of exactly one character. -/
def single? : List Char → Option Char
  | [c] => some c
  | _ => none

/-- The named key an upper-cased name stands for. -/
def ofName? : String → Option Key
  | "ENTER" | "RET" => some .enter
  | "TAB" => some .tab
  | "BACKSPACE" | "BS" => some .backspace
  | "ESC" => some .esc
  | "DELETE" | "DEL" => some .delete
  | "HOME" => some .home
  | "END" => some .end
  | "PAGEUP" | "PGUP" => some .pageUp
  | "PAGEDOWN" | "PGDN" => some .pageDown
  | "UP" => some .up
  | "DOWN" => some .down
  | "LEFT" => some .left
  | "RIGHT" => some .right
  | "NUL" | "NULL" => some .null
  | _ => none

/-- Reads binding notation: `^c` and `C-c` for control, `M-c` and `ESC-c` for meta, a key
name in any ASCII case, or a single character for itself. -/
def parse (s : String) : Except BindingError Key :=
  let cs := s.toList
  let after (p : List Char) : Option Char :=
    if p.isPrefixOf cs then single? (cs.drop p.length) else none
  let metaChar : Option Char :=
    if ['M', '-'].isPrefixOf cs then single? (cs.drop 2) else after ['E', 'S', 'C', '-']
  match after ['^'] with
  | some c => .ok (.ctrl c.toLower)
  | none =>
    match after ['C', '-'] with
    | some c => .ok (.ctrl c.toLower)
    | none =>
      match metaChar with
      | some c => .ok (.alt c.toLower)
      | none =>
        match ofName? (String.ofList (cs.map Char.toUpper)) with
        | some k => .ok k
        | none =>
          match single? cs with
          | some c => .ok (.char c)
          | none => .error (.unknownKey s)

end Key

/-- A key press with its modifier flags. -/
structure InputEvent where
  key : Key
  shift : Bool := false
  alt : Bool := false
  ctrl : Bool := false
  deriving Repr, DecidableEq, Inhabited

/-- The character an event inserts, if any. -/
def InputEvent.printable? (e : InputEvent) : Option Char :=
  match e.key with
  | .char c => if !e.ctrl && !e.alt && !Text.isControl c then some c else none
  | _ => none

end StackCalc.Edit
