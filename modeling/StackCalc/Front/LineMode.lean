import StackCalc.Config.Basic
import StackCalc.Edit.LineBuffer
import StackCalc.Session

/-!
# Line mode

In line mode the program writes the prompt, reads a line, and executes it, until the input
ends or the session quits. Line breaks and carriage returns at the end of a read line are
dropped, and the line goes through the line buffer, so it also enters the history. Output
and help go to the output stream; faults go to the error stream as `error: <message>`.
-/

namespace StackCalc.Front

/-- The two streams a run writes. -/
structure Streams where
  out : String := ""
  err : String := ""
  deriving Repr, DecidableEq, Inhabited

/-- The lines a reader gets from a text: each with its line break, the last without one if
the text does not end in a line break. -/
def readLines (input : String) : List String :=
  let pieces := (input.toList.splitOn '\n').map String.ofList
  let withBreaks := pieces.dropLast.map (· ++ "\n")
  match pieces.getLast? with
  | some "" => withBreaks
  | some last => withBreaks ++ [last]
  | none => withBreaks

/-- A read line without the line breaks and carriage returns at its end. -/
def chompLine (raw : String) : String :=
  String.ofList (raw.toList.reverse.dropWhile (fun c => c = '\n' ∨ c = '\r')).reverse

/-- Both streams of one text after those of another. -/
def Streams.append (a b : Streams) : Streams :=
  ⟨a.out ++ b.out, a.err ++ b.err⟩

/-- What line mode keeps from one line to the next. -/
structure LineState where
  buffer : Edit.LineBuffer
  session : Session
  deriving Inhabited

/-- The state line mode starts in, with a history of a capacity. -/
def LineState.initial (capacity : Nat) : LineState :=
  ⟨Edit.LineBuffer.empty capacity, Session.empty⟩

/-- Executes one read line: the next state, what the line writes, and whether to go on;
`none` when putting the line into the buffer stops the program. -/
def LineState.step (st : LineState) (raw : String) : Option (LineState × Streams × Bool) :=
  (st.buffer.insert (chompLine raw)).map fun buffer =>
    let (buffer, line) := buffer.commit
    let (session, outcome) := st.session.execute line
    let st := ⟨buffer, session⟩
    match outcome with
    | .silent => (st, {}, true)
    | .output text => (st, { out := text ++ "\n" }, true)
    | .help => (st, { out := helpText }, true)
    | .error e => (st, { err := "error: " ++ e.message ++ "\n" }, true)
    | .quit => (st, {}, false)

/-- What line mode writes for the read lines: a prompt before each read, the end of the
input included, until a line quits; `none` when a line stops the program. -/
def runLines (prompt : String) (st : LineState) : List String → Option Streams
  | [] => some { out := prompt }
  | raw :: rest => do
    let (st, written, goOn) ← st.step raw
    let here := Streams.append { out := prompt } written
    if goOn then return here.append (← runLines prompt st rest) else return here

/-- What line mode has done after reading lines: the state reached, what each executed line
wrote, whether a line quit, and the lines left unread. -/
structure LineRun where
  state : LineState
  written : List Streams
  quit : Bool
  unread : List String

/-- Executes read lines in order until one quits; `none` when a line stops the program. -/
def LineState.runAll? (st : LineState) : List String → Option LineRun
  | [] => some ⟨st, [], false, []⟩
  | raw :: rest => (st.step raw).bind fun (st', written, goOn) =>
    if goOn then (st'.runAll? rest).map fun r => { r with written := written :: r.written }
    else some ⟨st', [written], true, rest⟩

/-- The text line mode writes for a run: a prompt before each executed line and what the line
wrote, and one more prompt when the input ran out before a line quit. -/
def LineRun.streams (prompt : String) (r : LineRun) : Streams :=
  (r.written.map fun w => Streams.append { out := prompt } w).foldr Streams.append
    (if r.quit then {} else { out := prompt })

/-- Line mode writes the text of its run. -/
theorem runLines_eq (prompt : String) (st : LineState) (raws : List String) :
    runLines prompt st raws = (st.runAll? raws).map (·.streams prompt) := by
  induction raws generalizing st with
  | nil => rfl
  | cons raw rest ih =>
    simp only [runLines, LineState.runAll?]
    cases st.step raw with
    | none => rfl
    | some r =>
      obtain ⟨st', written, goOn⟩ := r
      cases goOn with
      | true =>
        -- after a line that goes on, both read the rest from the state it left
        cases hrest : st'.runAll? rest with
        | none => simp [ih, hrest]
        | some r => simp [ih, hrest, LineRun.streams, Streams.append]
      | false => simp [LineRun.streams, Streams.append]

/-- Runs line mode over an input text with a configuration's prompt and history size. -/
def runLineMode (c : Config) (input : String) : Option Streams :=
  runLines c.prompt (LineState.initial c.historySize) (readLines input)

end StackCalc.Front
