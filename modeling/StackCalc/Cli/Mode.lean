import StackCalc.Cli.Options

/-!
# Run modes

The program evaluates one expression and exits, reads lines from its input, or runs a
full-screen editor. An expression decides first, then `--line`, then `--tui`; with none of
them, the full screen is used when both input and output are terminals, else lines.
-/

namespace StackCalc.Cli

/-- How the program runs. -/
inductive RunMode where
  | expression
  | line
  | terminal
  deriving Repr, DecidableEq, Inhabited

/-- The mode the options choose, if they choose one. -/
def Options.chosenMode? (o : Options) : Option RunMode :=
  if o.expression.isSome then some .expression
  else if o.line then some .line
  else if o.tui then some .terminal
  else none

/-- The mode when the options choose none: the full screen when both input and output are
terminals. -/
def detectMode (stdinTerminal stdoutTerminal : Bool) : RunMode :=
  if stdinTerminal && stdoutTerminal then .terminal else .line

/-- The mode of a run. -/
def Options.mode (o : Options) (stdinTerminal stdoutTerminal : Bool) : RunMode :=
  o.chosenMode?.getD (detectMode stdinTerminal stdoutTerminal)

end StackCalc.Cli
