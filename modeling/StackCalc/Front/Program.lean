import StackCalc.Cli.Help
import StackCalc.Cli.Mode
import StackCalc.Config.Defaults
import StackCalc.Config.Files
import StackCalc.Front.LineMode

/-!
# The program

A run reads the command line, picks the mode, and builds the configuration: the defaults,
then the file named by `--config`, then the command-line overrides, then validation. A
refused command line ends the run with status 2 and help with status 0; a configuration
error or a fault of the one expression with status 1 and `error: <message>`. Line mode and
the full screen read their input as it comes, so a run in those modes hands its
configuration back to the caller; line mode over a whole input ends with status 0. A
configuration file that is the standard input uses the input up, and line mode then reads
nothing.
-/

namespace StackCalc.Front

/-- How a run ended: its status and the text of its two streams. -/
structure Exit where
  status : Nat
  stdout : String
  stderr : String
  deriving Repr, DecidableEq, Inhabited

/-- What a run comes to: an exit, or line mode or the full-screen editor with its
configuration, which read their input as it comes. Line mode also records whether reading
the configuration used the input up. -/
inductive Run where
  | exit (e : Exit)
  | lines (c : Config) (inputUsed : Bool)
  | fullScreen (c : Config)
  deriving Inhabited

/-- The text of a refused command line. -/
def usageMessage : Cli.UsageError → String
  | .argumentConflict => "an argument was given twice or conflicts with another"
  | .unknownArgument => "unexpected argument found"
  | .valueValidation => "invalid value for an option"
  | .invalidValue => "a value is required for an option but none was supplied"
  | .tooManyValues => "unexpected value for an option that takes none"
  | .displayHelp => "help requested"

/-- The end of a run with a fault. -/
def failure (message : String) : Run :=
  .exit ⟨1, "", "error: " ++ message ++ "\n"⟩

/-- The configuration of a run: the defaults, the configuration file as `readDocument` reads
it, the overrides. -/
def runConfig (readDocument : String → Option Config.Document) (o : Cli.Options)
    (read : String → Except Config.ReadFault String) : Except Config.ConfigError Config := do
  let c ← match o.config with
    | some path => Config.defaults.mergeFile readDocument read path
    | none => pure Config.defaults
  let c := o.applyTo c
  c.validate
  return c

/-- Runs the program on its arguments (without the program name) and the files `read` gives;
`drawsInput` says which paths read the standard input, and `stdinTerminal` and
`stdoutTerminal` whether the streams are terminals. -/
def runProgram (args : List String) (read : String → Except Config.ReadFault String)
    (drawsInput : String → Bool) (stdinTerminal stdoutTerminal : Bool) : Run :=
  match Cli.parse args with
  | .error .displayHelp => .exit ⟨0, Cli.helpText, ""⟩
  | .error e =>
    .exit ⟨2, "", "error: " ++ usageMessage e ++ "\n\nUsage: rpnline [OPTIONS] [EXPRESSION]\n\n" ++
      "For more information, try '--help'.\n"⟩
  | .ok o =>
    let mode := o.mode stdinTerminal stdoutTerminal
    match runConfig Config.Document.read? o read with
    | .error e => failure e.message
    | .ok c =>
      match mode with
      | .expression =>
        match Calc.Stack.empty.evaluate (o.expression.getD "") with
        | (s, .ok ()) => .exit ⟨0, s.render ++ "\n", ""⟩
        | (_, .error e) => failure e.message
      | .line => .lines c (o.config.any drawsInput)
      | .terminal => .fullScreen c

/-- Runs line mode of a run over its whole input, which then ends with status 0; an input the
configuration used up leaves nothing to read. `none` when a line stops the program. -/
def Run.withInput (r : Run) (input : String) : Option Run :=
  match r with
  | .lines c inputUsed =>
    (runLineMode c (if inputUsed then "" else input)).map fun streams =>
      .exit ⟨0, streams.out, streams.err⟩
  | r => some r

end StackCalc.Front
