import StackCalc.Config.Basic

/-!
# Command-line options

The program takes one optional expression and the options `--line`, `--tui`, `--prompt`,
`--history-size`, `--width`, `--config`, `-v`/`--verbose` and `-h`/`--help`. An option's
value follows it as the next argument or after `=`; after `--` every argument is an
expression.

Arguments are read from the left and the first fault decides. An option's value is checked
when the next option or expression comes, or at the end: a missing value, a repeated
option, then a value that does not read, in that order. An unknown option or an expression
too many is refused at once, before the option that waits is checked. `--line` and `--tui`
together are refused once every argument has been read.
-/

namespace StackCalc.Cli

/-- The options of a command line. -/
structure Options where
  expression : Option String := none
  line : Bool := false
  tui : Bool := false
  prompt : Option String := none
  historySize : Option Nat := none
  width : Option Nat := none
  config : Option String := none
  verbose : Bool := false
  deriving Repr, DecidableEq, Inhabited

/-- Why a command line is refused, or help is asked for. -/
inductive UsageError where
  /-- An option given twice, or two options that exclude each other. -/
  | argumentConflict
  /-- An unknown option, or an expression too many. -/
  | unknownArgument
  /-- A value that does not read as what the option takes. -/
  | valueValidation
  /-- A missing or empty value. -/
  | invalidValue
  /-- A value given to an option that takes none. -/
  | tooManyValues
  /-- Help was asked for. -/
  | displayHelp
  deriving Repr, DecidableEq, Inhabited

/-- The flags: options that take no value. -/
inductive Flag where
  | line
  | tui
  | verbose
  | help
  deriving Repr, DecidableEq, Inhabited

/-- The options that take a value. -/
inductive ValueOption where
  | prompt
  | historySize
  | width
  | config
  deriving Repr, DecidableEq, Inhabited

/-- What a long option name stands for. -/
def longOption? : String → Option (Flag ⊕ ValueOption)
  | "line" => some (.inl .line)
  | "tui" => some (.inl .tui)
  | "verbose" => some (.inl .verbose)
  | "help" => some (.inl .help)
  | "prompt" => some (.inr .prompt)
  | "history-size" => some (.inr .historySize)
  | "width" => some (.inr .width)
  | "config" => some (.inr .config)
  | _ => none

/-- What a short option letter stands for. -/
def shortFlag? : Char → Option Flag
  | 'v' => some .verbose
  | 'h' => some .help
  | _ => none

/-- Reads a count: decimal digits, after an optional plus sign, below `2 ^ 64`. -/
def readCount? (s : String) : Option Nat :=
  let cs := match s.toList with
    | '+' :: r => r
    | r => r
  if cs.isEmpty || !cs.all Char.isDigit then none
  else
    let n := cs.foldl (fun a c => 10 * a + (c.toNat - '0'.toNat)) 0
    if n < Nat.pow 2 64 then some n else none

namespace Options

/-- Whether a flag is set. -/
def hasFlag (o : Options) : Flag → Bool
  | .line => o.line
  | .tui => o.tui
  | .verbose => o.verbose
  | .help => false

/-- Sets a flag; a flag set twice conflicts, and help is asked for at once. -/
def setFlag (o : Options) (f : Flag) : Except UsageError Options :=
  if f = .help then .error .displayHelp
  else if o.hasFlag f then .error .argumentConflict
  else
    match f with
    | .line => .ok { o with line := true }
    | .tui => .ok { o with tui := true }
    | .verbose => .ok { o with verbose := true }
    | .help => .ok o

/-- Whether an option has its value. -/
def hasValue (o : Options) : ValueOption → Bool
  | .prompt => o.prompt.isSome
  | .historySize => o.historySize.isSome
  | .width => o.width.isSome
  | .config => o.config.isSome

/-- Gives an option its value: an option given twice conflicts, then the value must read. -/
def setValue (o : Options) (v : ValueOption) (s : String) : Except UsageError Options :=
  if o.hasValue v then .error .argumentConflict
  else
    match v with
    | .prompt => .ok { o with prompt := some s }
    | .historySize =>
      match readCount? s with
      | some n => .ok { o with historySize := some n }
      | none => .error .valueValidation
    | .width =>
      match readCount? s with
      | some n => .ok { o with width := some n }
      | none => .error .valueValidation
    | .config => if s.isEmpty then .error .invalidValue else .ok { o with config := some s }

end Options

/-- An option that waits for its value, or has it and waits to be checked. -/
structure Pending where
  option : ValueOption
  value : Option String
  deriving Repr, DecidableEq, Inhabited

/-- Where reading a command line stands. -/
structure Reading where
  options : Options := {}
  pending : Option Pending := none
  /-- Whether `--` has been read. -/
  trailing : Bool := false
  deriving Repr, Inhabited

namespace Reading

/-- Checks the pending option, if any: it must have its value. -/
def settle (r : Reading) : Except UsageError Reading :=
  match r.pending with
  | none => .ok r
  | some ⟨_, none⟩ => .error .invalidValue
  | some ⟨v, some s⟩ => do
    let o ← r.options.setValue v s
    return { r with options := o, pending := none }

/-- A flag. -/
def flag (r : Reading) (f : Flag) : Except UsageError Reading := do
  let r ← r.settle
  return { r with options := ← r.options.setFlag f }

/-- An option that takes a value, with the value given after `=`, if it was. -/
def valueOption (r : Reading) (v : ValueOption) (attached : Option String) :
    Except UsageError Reading := do
  let r ← r.settle
  match attached with
  | some s => return { r with options := ← r.options.setValue v s }
  | none => return { r with pending := some ⟨v, none⟩ }

/-- An argument that is no option: the value of a waiting option, else the expression. After
`--` it is always the expression. An expression too many is refused before the waiting option
is checked. -/
def plain (r : Reading) (s : String) : Except UsageError Reading :=
  match r.pending, r.trailing with
  | some ⟨v, none⟩, false => .ok { r with pending := some ⟨v, some s⟩ }
  | _, _ =>
    if r.options.expression.isSome then .error .unknownArgument
    else do
      let r ← r.settle
      return { r with options := { r.options with expression := some s } }

/-- The letters of a group of short flags. -/
def shortFlags (r : Reading) : List Char → Except UsageError Reading
  | [] => .ok r
  | c :: cs =>
    match shortFlag? c with
    | some f => do (← r.flag f).shortFlags cs
    | none => .error .unknownArgument

/-- Reads one argument. -/
def step (r : Reading) (arg : String) : Except UsageError Reading :=
  let cs := arg.toList
  if r.trailing then r.plain arg
  else
    match cs with
    | ['-', '-'] => .ok { r with trailing := true }
    | '-' :: '-' :: rest =>
      let name := String.ofList (rest.takeWhile (· != '='))
      let attached := match rest.dropWhile (· != '=') with
        | '=' :: v => some (String.ofList v)
        | _ => none
      match longOption? name with
      | none => .error .unknownArgument
      | some (.inl f) => if attached.isSome then .error .tooManyValues else r.flag f
      | some (.inr v) => r.valueOption v attached
    | '-' :: c :: rest => r.shortFlags (c :: rest)
    | _ => r.plain arg

end Reading

/-- Reads a command line, without the program name. -/
def parse (args : List String) : Except UsageError Options := do
  let r ← args.foldlM Reading.step {}
  let r ← r.settle
  if r.options.line && r.options.tui then .error .argumentConflict
  else .ok r.options

/-- Sets the options' overrides over a configuration: prompt, history size and width. -/
def Options.applyTo (o : Options) (c : Config) : Config :=
  let c := match o.prompt with
    | some p => c.set Config.promptKey (.string p)
    | none => c
  let c := match o.historySize with
    | some n => c.set Config.historySizeKey (.ofCount n)
    | none => c
  match o.width with
  | some n => c.set Config.widthKey (.ofCount n)
  | none => c

end StackCalc.Cli
