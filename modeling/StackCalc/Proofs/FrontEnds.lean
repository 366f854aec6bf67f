import StackCalc.Config.Defaults
import StackCalc.Front.LineMode
import StackCalc.Front.Terminal
import StackCalc.Proofs.HistoryWindow

/-!
# Line mode and the full-screen editor agree

Take lines without control characters other than tab, and the built-in key bindings with any
settings. Line mode reads the lines as one text, each ended by a line break; the full-screen
editor is sent, for each line, the key of every character (the tab key for a tab) and then
Enter. Both execute the same lines in their sessions: the first ones, up to and including the
first that quits (`Session.executeAll`). Line mode stops reading after that line, and the
editor asks to end at its Enter key; both end with the same session and the same history.
For each executed line, line mode writes what the outcome writes (`Outcome.written`: output
and help on the output stream, a fault as `error: <message>` on the error stream) and the
editor shows under the input line what the outcome shows (`Outcome.shown`: the output, or the
fault as `error: <message>`). Main statement: `lineMode_agrees_with_editor`.

The two front ends meet at line boundaries, where each holds an idle buffer over the same
history and the same session. Between two boundaries line mode inserts the whole line and
submits it (`LineState.step_typeable`); the editor inserts it a character at a time, since no
built-in binding is on a character key and no character of the line is a control character,
then submits it on Enter (`Editor.AtRest.handleAll?_keysOf`). Either way the buffer holds the
line just before submission (`LineBuffer.typed`), so the same line goes to the session and
to the history. Whole runs follow by induction on the lines (`LineState.runAll?_typeable`,
`Editor.AtRest.typeLines?`). Reading the text back into lines is splitting it at line breaks
(`readLines_linesText`).
-/

namespace StackCalc

/-! ## What a front end does with a line's outcome -/

namespace Outcome

/-- Whether an outcome ends the session. -/
def isQuit : Outcome → Bool
  | .quit => true
  | _ => false

/-- What line mode writes for a line's outcome: output and help on the output stream, a fault
on the error stream as `error: <message>`, nothing otherwise. -/
def written : Outcome → Front.Streams
  | .output text => { out := text ++ "\n" }
  | .help => { out := helpText }
  | .error e => { err := "error: " ++ e.message ++ "\n" }
  | .silent | .quit => {}

/-- What the full-screen editor shows under the input line after a line's outcome: the
output, or the fault as `error: <message>`; nothing otherwise. -/
def shown : Outcome → String
  | .output text => text
  | .error e => "error: " ++ e.message
  | .silent | .help | .quit => ""

end Outcome

namespace Session

/-- Executes lines in order until one quits: the session reached and the outcome of each
executed line. -/
def executeAll (s : Session) : List String → Session × List Outcome
  | [] => (s, [])
  | line :: rest =>
    let r := s.execute line
    if r.2.isQuit then (r.1, [r.2])
    else ((r.1.executeAll rest).1, r.2 :: (r.1.executeAll rest).2)

theorem executeAll_cons_of_execute {s s' : Session} {line : String} {o : Outcome}
    (hr : s.execute line = (s', o)) (rest : List String) :
    s.executeAll (line :: rest) =
      if o.isQuit then (s', [o]) else ((s'.executeAll rest).1, o :: (s'.executeAll rest).2) := by
  rw [executeAll, hr]

end Session

/-! ## Typing a line -/

namespace Edit

/-- Whether a key is a plain character key. -/
def Key.isChar : Key → Bool
  | .char _ => true
  | _ => false

/-- The keymap of the built-in bindings. -/
def defaultKeymap : Keymap := Keymap.ofPairs Config.defaults.bindings

/-- No built-in binding is on a character key, so a typed character inserts itself. -/
theorem defaultKeymap_lookup_char (c : Char) : defaultKeymap.lookup (.char c) = none := by
  have hall : defaultKeymap.bindings.all (fun p => !p.1.isChar) = true := by decide
  rw [Keymap.lookup, Option.map_eq_none_iff, List.find?_eq_none]
  intro p hp heq
  have hkey : p.1 = .char c := by simpa using heq
  have hnot := List.all_eq_true.mp hall p hp
  rw [hkey] at hnot
  cases hnot

theorem defaultKeymap_lookup_tab : defaultKeymap.lookup .tab = some .insertTab := by decide

theorem defaultKeymap_lookup_enter : defaultKeymap.lookup .enter = some .submit := by decide

namespace LineBuffer

/-- The buffer after typing characters into an idle one: they are the line and the draft, and
the cursor stands after them. -/
def typed (h : History) (cs : List Char) : LineBuffer :=
  ⟨cs, cs.length, h, .editing, cs, Viewport.initial⟩

/-- Typing more text at the end of typed text. -/
theorem typed_insert (h : History) (cs : List Char) (s : String) :
    (typed h cs).insert s = some (typed h (cs ++ s.toList)) := by
  rw [insert_eq]
  simp [typed, cacheDraft, String.length_toList]

/-- Submitting typed text submits it as a line and leaves the buffer idle. -/
theorem typed_commit (h : History) (cs : List Char) :
    (typed h cs).commit = (idle (h.push (String.ofList cs)).1, String.ofList cs) := rfl

end LineBuffer

end Edit

namespace Front

open Edit

/-- Whether a line can be typed key by key: it has no control character other than tab. -/
def Typeable (line : String) : Prop :=
  ∀ c ∈ line.toList, c = '\t' ∨ Text.isControl c = false

-- decided by a check over the characters, which evaluates the same whatever instances are in
-- scope for the quantifier
instance : DecidablePred Typeable := fun line =>
  decidable_of_iff (line.toList.all fun c => c == '\t' || !Text.isControl c)
    (by simp [Typeable, List.all_eq_true])

/-- A line that can be typed holds no line break or carriage return. -/
theorem Typeable.not_break {line : String} (h : Typeable line) {c : Char} (hc : c ∈ line.toList) :
    ¬(c = '\n' ∨ c = '\r') := by
  rintro (rfl | rfl) <;> rcases h _ hc with h | h <;> cases h

/-- The key that types a character: the tab key for a tab, the character's own key otherwise. -/
def keyOf (c : Char) : InputEvent :=
  if c = '\t' then { key := .tab } else { key := .char c }

/-- The Enter key. -/
def enterKey : InputEvent := { key := .enter }

/-- The keys that type a line and submit it. -/
def keysOf (line : String) : List InputEvent :=
  line.toList.map keyOf ++ [enterKey]

/-- The text of lines, each ended by a line break. -/
def linesText (lines : List String) : String :=
  String.join (lines.map (· ++ "\n"))

/-- The key of a character that may be typed inserts it at the end of typed text. -/
theorem apply_keyOf (h : History) (cs : List Char) {c : Char}
    (hc : c = '\t' ∨ Text.isControl c = false) :
    defaultKeymap.apply (LineBuffer.typed h cs) (keyOf c) =
      some (LineBuffer.typed h (cs ++ [c]), .continue) := by
  by_cases htab : c = '\t'
  · -- the tab key is bound to inserting a tab
    subst htab
    simp [keyOf, Keymap.apply, defaultKeymap_lookup_tab, LineBuffer.typed_insert]
  · -- any other character key is unbound, and the character is printable
    have hctl : Text.isControl c = false := hc.resolve_left htab
    simp [keyOf, htab, Keymap.apply, defaultKeymap_lookup_char, InputEvent.printable?, hctl,
      LineBuffer.typed_insert, String.toList_singleton]

/-- Enter submits the typed text. -/
theorem apply_enterKey (h : History) (cs : List Char) :
    defaultKeymap.apply (LineBuffer.typed h cs) enterKey =
      some (LineBuffer.idle (h.push (String.ofList cs)).1, .submitted (String.ofList cs)) := by
  simp [enterKey, Keymap.apply, defaultKeymap_lookup_enter, LineBuffer.typed_commit]

/-! ## Line mode, a line at a time -/

/-- Text of lines, each ended by a line break, splits at the breaks into the lines and an empty
last piece. -/
theorem splitOn_lines (lines : List String) (h : ∀ line ∈ lines, '\n' ∉ line.toList) :
    (lines.flatMap fun line => line.toList ++ ['\n']).splitOn '\n' =
      lines.map String.toList ++ [[]] := by
  induction lines with
  | nil => rfl
  | cons line lines ih =>
    rw [List.flatMap_cons, List.append_assoc, List.singleton_append,
      List.splitOn_append_cons_self_of_not_mem (h line (List.mem_cons_self ..)),
      ih (fun l hl => h l (List.mem_cons_of_mem _ hl)), List.map_cons, List.cons_append]

/-- Reading lines back from text of lines each ended by a line break gives each line with its
break. -/
theorem readLines_linesText (lines : List String) (h : ∀ line ∈ lines, '\n' ∉ line.toList) :
    readLines (linesText lines) = lines.map (· ++ "\n") := by
  have htext : (linesText lines).toList = lines.flatMap fun line => line.toList ++ ['\n'] := by
    simp [linesText, String.toList_join, List.flatMap_map, String.toList_append]
  have hpieces : ((linesText lines).toList.splitOn '\n').map String.ofList =
      lines ++ [""] := by
    rw [htext, splitOn_lines lines h]
    simp [Function.comp_def, String.ofList_toList]
  simp only [readLines, hpieces, List.dropLast_concat, List.getLast?_concat]

/-- A read line that can be typed loses only its line break. -/
theorem chompLine_typeable {line : String} (h : Typeable line) :
    chompLine (line ++ "\n") = line := by
  -- the last character of the line is no break, so dropping stops after the added one
  have hkeep : (line.toList.reverse.dropWhile fun c => decide (c = '\n' ∨ c = '\r')) =
      line.toList.reverse := by
    cases hr : line.toList.reverse with
    | nil => rfl
    | cons c cs =>
      have hc : c ∈ line.toList := by
        rw [← List.mem_reverse, hr]
        exact List.mem_cons_self ..
      rw [List.dropWhile_cons, if_neg (by simpa using h.not_break hc)]
  have hnl : "\n".toList = ['\n'] := rfl
  rw [chompLine, String.toList_append, hnl, List.reverse_append, List.reverse_singleton,
    List.singleton_append, List.dropWhile_cons, if_pos (by decide), hkeep, List.reverse_reverse,
    String.ofList_toList]

/-- One line in line mode, from an idle buffer: the line goes to the session and to the
history, the buffer is idle again, what the outcome writes is written, and reading goes on
unless the line quits. -/
theorem LineState.step_typeable (h : History) (s : Session) {line : String} (hl : Typeable line) :
    (⟨LineBuffer.idle h, s⟩ : LineState).step (line ++ "\n") =
      some (⟨LineBuffer.idle (h.push line).1, (s.execute line).1⟩, (s.execute line).2.written,
        !(s.execute line).2.isQuit) := by
  have hinsert : (LineBuffer.idle h).insert line = some (LineBuffer.typed h line.toList) :=
    LineBuffer.typed_insert h [] line
  simp only [LineState.step, chompLine_typeable hl, hinsert, Option.map_some,
    LineBuffer.typed_commit, String.ofList_toList]
  cases (s.execute line).2 <;> rfl

/-! ## The editor, a line at a time -/

namespace Editor

/-- Submitting a line executes it in the session, shows what the outcome shows, and ends the
editor when it quits; the buffer and keymap stay. -/
theorem submit_fields (ed : Editor) {s : Session} (hs : ed.session = s) (line : String) :
    (ed.submit line).session = (s.execute line).1 ∧
      (ed.submit line).output = (s.execute line).2.shown ∧
      (ed.submit line).quitting = (ed.quitting || (s.execute line).2.isQuit) ∧
      (ed.submit line).buffer = ed.buffer ∧ (ed.submit line).keymap = ed.keymap := by
  subst hs
  simp only [submit]
  cases (ed.session.execute line).2 <;> simp [Outcome.shown, Outcome.isQuit]

/-- One step of the loop over events that does not end the editor goes on with the rest. -/
theorem handleAll?_cons_of_handle {ed ed' : Editor} {e : InputEvent}
    (h : ed.handle e = some (ed', false)) (es : List InputEvent) :
    ed.handleAll? (e :: es) = ed'.handleAll? es := by
  simp [handleAll?, h]

/-- Typing characters one key at a time appends them to the typed text. -/
theorem handleAll?_typing (h : History) (cs : List Char)
    (hcs : ∀ c ∈ cs, c = '\t' ∨ Text.isControl c = false) (rest : List InputEvent) :
    ∀ (ed : Editor) (u : List Char), ed.keymap = defaultKeymap → ed.quitting = false →
      ed.buffer = LineBuffer.typed h u →
      ed.handleAll? (cs.map keyOf ++ rest) =
        { ed with buffer := LineBuffer.typed h (u ++ cs) }.handleAll? rest := by
  induction cs with
  | nil =>
    intro ed u _ _ hb
    rw [List.map_nil, List.nil_append, List.append_nil, ← hb]
  | cons c cs ih =>
    intro ed u hk hq hb
    have hstep : ed.handle (keyOf c) =
        some ({ ed with buffer := LineBuffer.typed h (u ++ [c]) }, false) := by
      simp [handle, hk, hb, apply_keyOf h u (hcs c (List.mem_cons_self ..)), hq]
    rw [List.map_cons, List.cons_append, handleAll?_cons_of_handle hstep,
      ih (fun d hd => hcs d (List.mem_cons_of_mem c hd))
        { ed with buffer := LineBuffer.typed h (u ++ [c]) } (u ++ [c]) hk hq rfl,
      List.append_assoc, List.singleton_append]

/-- The editor between two lines: the built-in keymap, an idle buffer over the history `h`,
the session `s`, and not about to end. -/
structure AtRest (ed : Editor) (h : History) (s : Session) : Prop where
  keymap : ed.keymap = defaultKeymap
  buffer : ed.buffer = LineBuffer.idle h
  session : ed.session = s
  quitting : ed.quitting = false

/-- The editor of a configuration with the built-in bindings starts at rest. -/
theorem atRest_ofConfig (c : Config) (hc : c.bindings = Config.defaults.bindings) :
    (ofConfig c).AtRest (History.empty c.historySize) Session.empty :=
  ⟨by rw [ofConfig, hc]; rfl, rfl, rfl, rfl⟩

variable {ed : Editor} {h : History} {s : Session}

/-- The editor after a submitted line, from one at rest. -/
def AtRest.next (_ : ed.AtRest h s) (line : String) : Editor :=
  ({ ed with buffer := LineBuffer.idle (h.push line).1 }).submit line

/-- The keys of a line, from an editor at rest: the line is typed and submitted, and the editor
goes on with the keys after them unless the line ends it. -/
theorem AtRest.handleAll?_keysOf (hed : ed.AtRest h s) {line : String} (hl : Typeable line)
    (rest : List InputEvent) :
    ed.handleAll? (keysOf line ++ rest) =
      if (hed.next line).quitting then some (hed.next line, rest)
      else (hed.next line).handleAll? rest := by
  have hidle : ed.buffer = LineBuffer.typed h [] := hed.buffer
  have henter : ({ ed with buffer := LineBuffer.typed h line.toList } : Editor).handle enterKey =
      some (hed.next line, (hed.next line).quitting) := by
    simp [handle, hed.keymap, apply_enterKey, AtRest.next, String.ofList_toList]
  rw [keysOf, List.append_assoc, List.singleton_append,
    handleAll?_typing h line.toList hl _ ed [] hed.keymap hed.quitting hidle, List.nil_append,
    handleAll?, henter, Option.bind_some]

/-- After one line from an editor at rest, the editor holds the line's outcome: it shows what
the outcome shows, ends exactly when the line quits, and is otherwise at rest again with the
line in the history. -/
theorem AtRest.next_fields (hed : ed.AtRest h s) (line : String) :
    (hed.next line).output = (s.execute line).2.shown ∧
      (hed.next line).quitting = (s.execute line).2.isQuit ∧
      (hed.next line).session = (s.execute line).1 ∧
      (hed.next line).buffer = LineBuffer.idle (h.push line).1 ∧
      (hed.next line).keymap = defaultKeymap := by
  rw [AtRest.next]
  have hs : ({ ed with buffer := LineBuffer.idle (h.push line).1 } : Editor).session = s :=
    hed.session
  obtain ⟨hsess, hout, hquit, hbuf, hkey⟩ := submit_fields _ hs line
  have hq : ({ ed with buffer := LineBuffer.idle (h.push line).1 } : Editor).quitting = false :=
    hed.quitting
  refine ⟨hout, ?_, hsess, hbuf, hkey.trans hed.keymap⟩
  rw [hquit, hq, Bool.false_or]

/-- The keys of one line leave nothing unread, whether or not the line ends the editor. -/
theorem AtRest.handleAll?_keysOf_one (hed : ed.AtRest h s) {line : String} (hl : Typeable line) :
    ed.handleAll? (keysOf line) = some (hed.next line, []) := by
  have hone := hed.handleAll?_keysOf hl []
  rw [List.append_nil] at hone
  rw [hone]
  split <;> rfl

/-- Types each line and submits it, until the editor is to end: the editor reached, what it
shows after each submitted line, and the lines left untyped. -/
def typeLines? (ed : Editor) : List String → Option (Editor × List String × List String)
  | [] => some (ed, [], [])
  | line :: rest => (ed.handleAll? (keysOf line)).bind fun (ed', _) =>
    if ed'.quitting then some (ed', [ed'.output], rest)
    else (ed'.typeLines? rest).map fun (ed'', shown, unread) => (ed'', ed'.output :: shown, unread)

end Editor

/-! ## Whole runs -/

/-- Line mode over lines that can be typed, from an idle buffer: it executes the lines up to the
first that quits, writes what each outcome writes, submits those lines to the history, and
leaves the rest unread. -/
theorem LineState.runAll?_typeable (h : History) (s : Session) (lines : List String)
    (hlines : ∀ line ∈ lines, Typeable line) :
    (⟨LineBuffer.idle h, s⟩ : LineState).runAll? (lines.map (· ++ "\n")) =
      some ⟨⟨LineBuffer.idle (h.pushAll (lines.take (s.executeAll lines).2.length)),
          (s.executeAll lines).1⟩,
        (s.executeAll lines).2.map Outcome.written, (s.executeAll lines).2.any Outcome.isQuit,
        (lines.drop (s.executeAll lines).2.length).map (· ++ "\n")⟩ := by
  -- the induction is on the lines, the history and session of the idle state generalised
  induction lines generalizing h s with
  | nil => rfl
  | cons line rest ih =>
    obtain ⟨hl, hrest⟩ := List.forall_mem_cons.1 hlines
    -- the line's outcome is kept abstract, so that nothing evaluates the session
    rcases hr : s.execute line with ⟨s', o⟩
    rw [List.map_cons, LineState.runAll?, LineState.step_typeable h s hl, hr, Option.bind_some,
      Session.executeAll_cons_of_execute hr]
    cases hq : o.isQuit with
    | false =>
      simp only [Bool.not_false, if_true, Bool.false_eq_true, if_false]
      rw [ih (h.push line).1 s' hrest]
      simp [History.pushAll_cons, hq]
    | true =>
      simp [History.pushAll, hq]

/-- The editor at rest, sent the keys of lines that can be typed: it executes the lines up to
the first that quits and shows what each outcome shows, submits those lines to the history,
and asks to end at the Enter of a line that quits, leaving the keys after it unread. -/
theorem Editor.AtRest.typeLines? {ed : Editor} {h : History} {s : Session} (hed : ed.AtRest h s)
    (lines : List String) (hlines : ∀ line ∈ lines, Typeable line) :
    ∃ ed', ed.typeLines? lines =
        some (ed', (s.executeAll lines).2.map Outcome.shown,
          lines.drop (s.executeAll lines).2.length) ∧
      ed.handleAll? (lines.flatMap keysOf) =
        some (ed', (lines.drop (s.executeAll lines).2.length).flatMap keysOf) ∧
      ed'.session = (s.executeAll lines).1 ∧
      ed'.buffer = LineBuffer.idle (h.pushAll (lines.take (s.executeAll lines).2.length)) ∧
      ed'.quitting = (s.executeAll lines).2.any Outcome.isQuit := by
  induction lines generalizing ed h s with
  | nil => exact ⟨ed, rfl, rfl, hed.session, hed.buffer, hed.quitting⟩
  | cons line rest ih =>
    obtain ⟨hl, hrest⟩ := List.forall_mem_cons.1 hlines
    obtain ⟨hout, hquit, hsess, hbuf, hkey⟩ := hed.next_fields line
    rcases hr : s.execute line with ⟨s', o⟩
    simp only [hr] at hout hquit hsess
    rw [Session.executeAll_cons_of_execute hr, List.flatMap_cons, hed.handleAll?_keysOf hl,
      Editor.typeLines?, hed.handleAll?_keysOf_one hl, Option.bind_some]
    simp only [hquit]
    cases hq : o.isQuit with
    | true =>
      simp only [if_true]
      refine ⟨hed.next line, ?_, ?_, hsess, ?_, ?_⟩
      · simp [hout]
      · simp
      · simp [hbuf, History.pushAll]
      · simp [hquit, hq]
    | false =>
      simp only [Bool.false_eq_true, if_false]
      obtain ⟨ed', htype, hhandle, hsess', hbuf', hquit'⟩ :=
        ih ⟨hkey, hbuf, hsess, hquit.trans hq⟩ hrest
      refine ⟨ed', ?_, ?_, hsess', ?_, ?_⟩
      · simp [htype, hout]
      · simpa using hhandle
      · simpa [History.pushAll_cons] using hbuf'
      · simp [hquit', hq]

/-- Line mode and the full-screen editor, with the built-in bindings and any settings, on lines
that can be typed. Line mode reads their text; the editor is sent their keys. Both execute the
lines up to and including the first that quits (`Session.executeAll`), and line mode's run `r`
and the editor `ed` they reach agree: the same session, the same history (the executed lines
pushed), and line mode stops reading exactly where the editor asks to end, leaving the same
lines unread. Line mode writes what each outcome writes, the editor shows what it shows, and
the text line mode writes is that of its run. -/
theorem lineMode_agrees_with_editor (c : Config) (hc : c.bindings = Config.defaults.bindings)
    (lines : List String) (hlines : ∀ line ∈ lines, Typeable line) :
    ∃ (r : LineRun) (ed : Editor),
      (LineState.initial c.historySize).runAll? (readLines (linesText lines)) = some r ∧
      runLineMode c (linesText lines) = some (r.streams c.prompt) ∧
      (Editor.ofConfig c).handleAll? (lines.flatMap keysOf) =
        some (ed, (lines.drop r.written.length).flatMap keysOf) ∧
      (Editor.ofConfig c).typeLines? lines =
        some (ed, (Session.empty.executeAll lines).2.map Outcome.shown,
          lines.drop r.written.length) ∧
      r.written = (Session.empty.executeAll lines).2.map Outcome.written ∧
      r.state.session = (Session.empty.executeAll lines).1 ∧ ed.session = r.state.session ∧
      r.state.buffer.history =
        (History.empty c.historySize).pushAll (lines.take r.written.length) ∧
      ed.buffer.history = r.state.buffer.history ∧
      r.quit = (Session.empty.executeAll lines).2.any Outcome.isQuit ∧ ed.quitting = r.quit ∧
      r.unread = (lines.drop r.written.length).map (· ++ "\n") := by
  have hread : readLines (linesText lines) = lines.map (· ++ "\n") :=
    readLines_linesText lines fun line hl hc => (hlines line hl).not_break hc (Or.inl rfl)
  have hinit : LineState.initial c.historySize =
      ⟨LineBuffer.idle (History.empty c.historySize), Session.empty⟩ := by
    rw [LineState.initial, LineBuffer.empty_eq_idle]
  have hline := LineState.runAll?_typeable (History.empty c.historySize) Session.empty lines hlines
  obtain ⟨ed, htype, hhandle, hsess, hbuf, hquit⟩ :=
    (Editor.atRest_ofConfig c hc).typeLines? lines hlines
  rw [hread, hinit, hline]
  refine ⟨_, ed, rfl, ?_, ?_, ?_, rfl, rfl, hsess, ?_, by rw [hbuf], rfl, hquit, ?_⟩
  · rw [runLineMode, runLines_eq, hread, hinit, hline, Option.map_some]
  · simpa using hhandle
  · simpa using htype
  · simp
  · simp

theorem lineMode_agrees_with_editor_quit_midway :
    Config.defaults.bindings = Config.defaults.bindings ∧
    (∀ line ∈ ["1 2 +", "3\t4 *", "quit", "5"], Typeable line) ∧
    ∃ (r : LineRun) (ed : Editor),
      (LineState.initial Config.defaults.historySize).runAll?
          (readLines (linesText ["1 2 +", "3\t4 *", "quit", "5"])) = some r ∧
      runLineMode Config.defaults (linesText ["1 2 +", "3\t4 *", "quit", "5"]) =
        some (r.streams Config.defaults.prompt) ∧
      (Editor.ofConfig Config.defaults).handleAll?
          (["1 2 +", "3\t4 *", "quit", "5"].flatMap keysOf) =
        some (ed, (["1 2 +", "3\t4 *", "quit", "5"].drop r.written.length).flatMap keysOf) ∧
      (Editor.ofConfig Config.defaults).typeLines? ["1 2 +", "3\t4 *", "quit", "5"] =
        some (ed, (Session.empty.executeAll ["1 2 +", "3\t4 *", "quit", "5"]).2.map Outcome.shown,
          ["1 2 +", "3\t4 *", "quit", "5"].drop r.written.length) ∧
      r.written =
        (Session.empty.executeAll ["1 2 +", "3\t4 *", "quit", "5"]).2.map Outcome.written ∧
      r.state.session = (Session.empty.executeAll ["1 2 +", "3\t4 *", "quit", "5"]).1 ∧
      ed.session = r.state.session ∧
      r.state.buffer.history = (History.empty Config.defaults.historySize).pushAll
        (["1 2 +", "3\t4 *", "quit", "5"].take r.written.length) ∧
      ed.buffer.history = r.state.buffer.history ∧
      r.quit = (Session.empty.executeAll ["1 2 +", "3\t4 *", "quit", "5"]).2.any Outcome.isQuit ∧
      ed.quitting = r.quit ∧
      r.unread = (["1 2 +", "3\t4 *", "quit", "5"].drop r.written.length).map (· ++ "\n") :=
  ⟨rfl, by decide, lineMode_agrees_with_editor Config.defaults rfl _ (by decide)⟩

end Front

end StackCalc
