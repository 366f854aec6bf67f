/-!
# The help text

What `--help` prints: a line on the program, the usage, the expression and the options,
each with its description in one column.
-/

namespace StackCalc.Cli

/-- The help text. -/
def helpText : String :=
  "Reverse Polish notation calculator\n\n" ++
  "Usage: rpnline [OPTIONS] [EXPRESSION]\n\n" ++
  "Arguments:\n" ++
  "  [EXPRESSION]  Expression to evaluate once; prints the resulting stack and exits\n\n" ++
  "Options:\n" ++
  "      --line                         Force line mode (read lines from stdin)\n" ++
  "      --tui                          Force terminal (TUI) mode\n" ++
  "      --prompt <PROMPT>              Prompt shown before the input line\n" ++
  "      --history-size <HISTORY_SIZE>  Number of submitted lines kept in history\n" ++
  "      --width <WIDTH>                Visible width of the input line, in characters\n" ++
  "      --config <CONFIG>              TOML file with [settings] and [keybindings] tables\n" ++
  "  -v, --verbose                      Enable debug logging\n" ++
  "  -h, --help                         Print help\n"

end StackCalc.Cli
