import StackCalc.Calc.Eval
import StackCalc.Calc.Text
import StackCalc.Text.Blank
import StackCalc.Text.Lower

/-!
# A calculator session

A session holds the stack. A submitted line is trimmed of blanks and lowercased; it is then
either a command word (`help`, `list`, `pop`, `reset`, `quit`, any prefix of one, or `ls`)
or postfix text evaluated on the stack.
-/

namespace StackCalc

open Calc

/-- The text shown for `help`. -/
def helpText : String :=
  "h: print this help\nq: quit\np: pop and show last element of stack\nr: reset stack\n" ++
  "l: show stack\n\nSupported operations:\n\t+: sum\n\t-: diff\n\t/: div\n\t*: mul\n\t^: pow\n"

/-- The command words of a session. -/
inductive Command where
  | help
  | list
  | pop
  | reset
  | quit
  deriving Repr, DecidableEq, Inhabited

namespace Command

/-- The full word of a command. -/
def name : Command → String
  | .help => "help"
  | .list => "list"
  | .pop => "pop"
  | .reset => "reset"
  | .quit => "quit"

/-- The commands in the order in which a prefix is matched. -/
def all : List Command := [.help, .list, .pop, .reset, .quit]

/-- The command a word names: `ls` for `list`, else the first command whose name starts with
the word; the empty word names none. -/
def parse? (word : String) : Option Command :=
  if word.isEmpty then none
  else if word = "ls" then some .list
  else all.find? fun c => c.name.startsWith word

end Command

/-- What a submitted line produced. -/
inductive Outcome where
  /-- Nothing to show. -/
  | silent
  /-- A line of output. -/
  | output (text : String)
  /-- The help text. -/
  | help
  /-- A fault to report. -/
  | error (e : CalcError)
  /-- The session is to end. -/
  | quit
  deriving Repr, Inhabited

/-- A calculator session: its stack. -/
structure Session where
  stack : Stack
  deriving Repr, Inhabited

namespace Session

/-- The session with an empty stack. -/
def empty : Session := ⟨Stack.empty⟩

/-- The form in which a line is matched and evaluated: blanks trimmed, lowercased. -/
def normalize (line : String) : String :=
  Text.lowercase (Text.trimBlank line)

/-- Runs a command. -/
def runCommand (s : Session) : Command → Session × Outcome
  | .help => (s, .help)
  | .list => (s, .output s.stack.render)
  | .pop =>
    match s.stack.pop with
    | (st, .ok v) => (⟨st⟩, .output (formatValue v))
    | (st, .error e) => (⟨st⟩, .error e)
  | .reset => (empty, .silent)
  | .quit => (s, .quit)

/-- Executes a submitted line. -/
def execute (s : Session) (line : String) : Session × Outcome :=
  let line := normalize line
  match Command.parse? line with
  | some c => s.runCommand c
  | none =>
    match s.stack.evaluate line with
    | (st, .ok ()) => (⟨st⟩, .silent)
    | (st, .error e) => (⟨st⟩, .error e)

end Session

end StackCalc
