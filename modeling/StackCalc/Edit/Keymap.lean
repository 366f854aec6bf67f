import StackCalc.Edit.Key
import StackCalc.Edit.LineBuffer

/-!
# Keymaps

A keymap binds keys to named editing commands. It is built from binding pairs of key
notation and command name; a pair whose key or command does not read is left out, and of two
pairs for one key the later wins. A key without a binding inserts its character when it has
a printable one, and does nothing otherwise.

Two pairs conflict when they are written differently, read as the same key, and name
different commands: only then does the order of the pairs decide the keymap.
-/

namespace StackCalc.Edit

/-- The editing commands a key can be bound to. -/
inductive LineCommand where
  | backwardChar
  | forwardChar
  | beginningOfLine
  | endOfLine
  | previousHistory
  | nextHistory
  | deletePrevious
  | deleteNext
  | killToBeginning
  | killToEnd
  | clearLine
  | insertTab
  | submit
  | quit
  deriving Repr, DecidableEq, Inhabited

namespace LineCommand

/-- Every command, in the order of this list. -/
def all : List LineCommand :=
  [.backwardChar, .forwardChar, .beginningOfLine, .endOfLine, .previousHistory, .nextHistory,
   .deletePrevious, .deleteNext, .killToBeginning, .killToEnd, .clearLine, .insertTab, .submit,
   .quit]

/-- The name a command is bound by. -/
def name : LineCommand → String
  | .backwardChar => "backward-character"
  | .forwardChar => "forward-character"
  | .beginningOfLine => "beginning-of-line"
  | .endOfLine => "end-of-line"
  | .previousHistory => "previous-history"
  | .nextHistory => "next-history"
  | .deletePrevious => "delete-previous-character"
  | .deleteNext => "delete-next-character"
  | .killToBeginning => "kill-to-beginning-of-line"
  | .killToEnd => "kill-to-end-of-line"
  | .clearLine => "clear-line"
  | .insertTab => "insert-tab"
  | .submit => "submit-line"
  | .quit => "quit"

/-- The command of a name. -/
def parse (s : String) : Except BindingError LineCommand :=
  match all.find? (·.name == s) with
  | some c => .ok c
  | none => .error (.unknownCommand s)

end LineCommand

/-- What the host does after a key. -/
inductive LineEvent where
  /-- Editing goes on. -/
  | continue
  /-- A line was submitted. -/
  | submitted (line : String)
  /-- The session is to end. -/
  | quit
  deriving Repr, DecidableEq, Inhabited

/-- Keys bound to commands; a key appears at most once. -/
structure Keymap where
  bindings : List (Key × LineCommand)
  deriving Repr, Inhabited

namespace Keymap

/-- The keymap that binds nothing. -/
def empty : Keymap := ⟨[]⟩

/-- The command bound to a key. -/
def lookup (m : Keymap) (k : Key) : Option LineCommand :=
  (m.bindings.find? (·.1 == k)).map (·.2)

/-- Binds a key, replacing its former binding. -/
def bind (m : Keymap) (k : Key) (c : LineCommand) : Keymap :=
  ⟨(k, c) :: m.bindings.filter (·.1 != k)⟩

/-- Reads a binding pair of key notation and command name. -/
def readBinding (pair : String × String) : Except BindingError (Key × LineCommand) := do
  let k ← Key.parse pair.1
  let c ← LineCommand.parse pair.2
  return (k, c)

/-- The keymap of binding pairs taken in order: pairs that do not read are left out, and a
later pair for a key replaces an earlier one. -/
def ofPairs (pairs : List (String × String)) : Keymap :=
  pairs.foldl (fun m p => match readBinding p with
    | .ok (k, c) => m.bind k c
    | .error _ => m) empty

/-- Whether two binding pairs conflict: written differently, read as one key, bound to
different commands. -/
def conflicting (p q : String × String) : Bool :=
  match readBinding p, readBinding q with
  | .ok (k, c), .ok (k', c') => p.1 != q.1 && k == k' && c != c'
  | _, _ => false

/-- The key of the first pair that conflicts with an earlier one, if any. -/
def firstConflict? (bindings : List (String × String)) : Option Key :=
  go [] bindings
where
  /-- Scans the pairs after those already seen. -/
  go (seen : List (String × String)) : List (String × String) → Option Key
    | [] => none
    | p :: rest =>
      if seen.any (conflicting p) then (readBinding p).toOption.map (·.1)
      else go (p :: seen) rest

/-- Runs the command bound to the event's key on the buffer, or inserts the event's
character when the key is unbound; `none` when an edit stops the program. -/
def apply (m : Keymap) (b : LineBuffer) (e : InputEvent) : Option (LineBuffer × LineEvent) :=
  match m.lookup e.key with
  | none =>
    match e.printable? with
    | some c => (b.insert (String.singleton c)).map (·, .continue)
    | none => some (b, .continue)
  | some c =>
    match c with
    | .backwardChar => some (b.moveBy (-1), .continue)
    | .forwardChar => some (b.moveBy 1, .continue)
    | .beginningOfLine => some (b.moveToStart, .continue)
    | .endOfLine => some (b.moveToEnd, .continue)
    | .previousHistory => some (b.historyPrev, .continue)
    | .nextHistory => some (b.historyNext, .continue)
    | .deletePrevious => b.backspace.map (·, .continue)
    | .deleteNext => b.deleteForward.map (·, .continue)
    | .killToBeginning => b.deleteToStart.map (·, .continue)
    | .killToEnd => b.deleteToEnd.map (·, .continue)
    | .clearLine => some (b.clear, .continue)
    | .insertTab => (b.insert "\t").map (·, .continue)
    | .submit =>
      let (b', line) := b.commit
      some (b', .submitted line)
    | .quit => some (b, .quit)

end Keymap

end StackCalc.Edit
