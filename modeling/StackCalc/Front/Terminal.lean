import StackCalc.Config.Basic
import StackCalc.Edit.Keymap
import StackCalc.Screen.Frame
import StackCalc.Session

/-!
# The full-screen editor

The full-screen editor edits a line with the keymap of its configuration and executes each
submitted line in its session. The line under the input shows the last output or fault;
asking for help swaps the short help under the stack for the full one until the next line
is submitted. Quitting by key or by command ends the editor.
-/

namespace StackCalc.Front

open Edit

/-- The state of the full-screen editor. -/
structure Editor where
  session : Session
  buffer : LineBuffer
  keymap : Keymap
  prompt : String
  width : Nat
  /-- The text under the input line. -/
  output : String
  /-- Whether the full help is shown. -/
  showHelp : Bool
  quitting : Bool
  deriving Inhabited

namespace Editor

/-- The editor a configuration describes: its bindings (in order of key notation), prompt,
width and history size. -/
def ofConfig (c : Config) : Editor :=
  ⟨Session.empty, LineBuffer.empty c.historySize, Keymap.ofPairs c.bindings, c.prompt, c.width,
   "", false, false⟩

/-- Executes a submitted line. -/
def submit (ed : Editor) (line : String) : Editor :=
  let ed := { ed with showHelp := false }
  let (session, outcome) := ed.session.execute line
  let ed := { ed with session }
  match outcome with
  | .silent => { ed with output := "" }
  | .output text => { ed with output := text }
  | .help => { ed with output := "", showHelp := true }
  | .error e => { ed with output := "error: " ++ e.message }
  | .quit => { ed with output := "", quitting := true }

/-- Handles a key event; the flag says whether the editor is to end. `none` when the edit
stops the program. -/
def handle (ed : Editor) (e : InputEvent) : Option (Editor × Bool) :=
  (ed.keymap.apply ed.buffer e).map fun (buffer, event) =>
    let ed := { ed with buffer }
    let ed := match event with
      | .continue => ed
      | .submitted line => ed.submit line
      | .quit => { ed with quitting := true }
    (ed, ed.quitting)

/-- Handles events in order until the editor is to end: the editor reached and the events left
unread. `none` when an edit stops the program. -/
def handleAll? (ed : Editor) : List InputEvent → Option (Editor × List InputEvent)
  | [] => some (ed, [])
  | e :: es => (ed.handle e).bind fun (ed', quit) => if quit then some (ed', es) else ed'.handleAll? es

/-- Composes the screen; this scrolls the input line to show the cursor. -/
def frame (ed : Editor) : Editor × Screen.Frame :=
  let (buffer, view) := ed.buffer.view ed.width
  let help := if ed.showHelp then helpText else Screen.shortHelp
  ({ ed with buffer },
   Screen.composeFrame ed.prompt view ed.output ed.session.stack.toList ed.width help)

end Editor

end StackCalc.Front
