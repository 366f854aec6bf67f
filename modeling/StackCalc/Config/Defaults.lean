import StackCalc.Config.Basic

/-!
# The built-in configuration

The configuration that holds before any file or option: the prompt `> `, a history of 50
lines, a line 42 characters wide, and the bindings of a readline-style editor.
-/

namespace StackCalc.Config

/-- The built-in key bindings, as key notation and command name. -/
def defaultBindings : List (String × String) :=
  [("Left", "backward-character"), ("Right", "forward-character"),
   ("^B", "backward-character"), ("^F", "forward-character"),
   ("Home", "beginning-of-line"), ("End", "end-of-line"),
   ("^A", "beginning-of-line"), ("^E", "end-of-line"),
   ("Up", "previous-history"), ("Down", "next-history"),
   ("PageUp", "previous-history"), ("PageDown", "next-history"),
   ("^P", "previous-history"), ("^N", "next-history"),
   ("Backspace", "delete-previous-character"), ("Delete", "delete-next-character"),
   ("^D", "delete-next-character"), ("^K", "kill-to-end-of-line"),
   ("^U", "kill-to-beginning-of-line"), ("Esc", "clear-line"),
   ("Tab", "insert-tab"), ("Enter", "submit-line"),
   ("^C", "quit")]

/-- Installs the built-in settings and bindings over a configuration. -/
def withDefaults (c : Config) : Config :=
  let c := ((c.set promptKey (.string defaultPrompt)).set historySizeKey
    (.ofCount defaultHistorySize)).set widthKey (.ofCount defaultWidth)
  defaultBindings.foldl (fun c p => c.bind p.1 p.2) c

/-- The built-in configuration. -/
def defaults : Config := empty.withDefaults

end StackCalc.Config
