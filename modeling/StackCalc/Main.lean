import StackCalc.Front.Program
import StackCalc.Front.Terminal
import StackCalc.Screen.Draw
import StackCalc.Screen.Input

/-!
# The command line

Reads the arguments, the configuration file they name and the input, runs the program, and
writes what it writes.
-/

open StackCalc

/-- Reads the configuration file the arguments name, as the program reads files. -/
def readConfigFile (args : List String) : IO (String → Except Config.ReadFault String) := do
  match Cli.parse args with
  | .ok o =>
    match o.config with
    | some path =>
      let fault (e : IO.Error) : Config.ReadFault :=
        match e with
        | .inappropriateType _ code _ => if code == 21 then .isDirectory else .notDirectory
        | .invalidArgument _ 36 _ => .nameTooLong
        | _ => .notFound
      let result ← match Config.pathFault? path with
        | some f => pure (.error f)
        | none => do
          let bytes ← (IO.FS.readBinFile path).toBaseIO
          pure (match bytes with
            | .ok b =>
              match String.fromUTF8? b with
              | some t => .ok t
              | none => .error .invalidUtf8
            | .error e => .error (fault e))
      return fun p => if p == path then result else .error .notFound
    | none => return fun _ => .error .notFound
  | .error _ => return fun _ => .error .notFound

/-- Line mode over the standard streams, a line at a time. -/
partial def lineLoop (prompt : String) (st : Front.LineState) (stdin stdout stderr : IO.FS.Stream) :
    IO Unit := do
  stdout.putStr prompt
  stdout.flush
  let raw ← stdin.getLine
  if raw.isEmpty then return
  match st.step raw with
  | none => throw (IO.userError "a line edit used a byte offset that is not a character boundary")
  | some (st, written, goOn) =>
    stdout.putStr written.out
    stderr.putStr written.err
    if goOn then lineLoop prompt st stdin stdout stderr

/-- The full-screen editor over the standard streams, until it quits or a frame cannot be
drawn. -/
partial def screenLoop (ed : Front.Editor) (stdin stdout : IO.FS.Stream) :
    IO (Option Overflow) := do
  let (ed, frame) := ed.frame
  match frame.draw with
  | .error o => return some o
  | .ok text => stdout.putStr text
  stdout.flush
  let chunk ← stdin.getLine
  if chunk.isEmpty then return none
  let mut ed := ed
  for e in Screen.decodeInput chunk.toList do
    match ed.handle e with
    | none => throw (IO.userError "a line edit used a byte offset that is not a character boundary")
    | some (ed', quit) =>
      ed := ed'
      if quit then return none
  screenLoop ed stdin stdout

def main (args : List String) : IO UInt32 := do
  let stdin ← IO.getStdin
  let stdout ← IO.getStdout
  let stderr ← IO.getStderr
  let read ← readConfigFile args
  match Front.runProgram args read (fun _ => false) (← stdin.isTty) (← stdout.isTty) with
  | .exit e =>
    stdout.putStr e.stdout
    stderr.putStr e.stderr
    return e.status.toUInt32
  | .lines c _ =>
    lineLoop c.prompt (Front.LineState.initial c.historySize) stdin stdout stderr
    stdout.flush
    return 0
  | .fullScreen c =>
    match ← screenLoop (Front.Editor.ofConfig c) stdin stdout with
    | none => return 0
    | some o =>
      stderr.putStrLn o.message
      return 101
